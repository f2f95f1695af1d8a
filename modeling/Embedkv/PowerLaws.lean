import Embedkv.Power

/-!
# One replica is atomic under power loss

On one replica every history of requests, power losses and reopenings has a
reading as a history of a finite map: the completed requests take effect, and
each interrupted one does or does not, once and for all. The choice for a
request is made when the power goes, and no later power loss can turn it over.
-/

namespace Embedkv.PowerLaws

open Embedkv.Lib Embedkv.Format Embedkv.Device Embedkv.State Embedkv.Session Embedkv.Exact
open Embedkv.Run Embedkv.Cache Embedkv.Cut Embedkv.Fanout Embedkv.Power

set_option autoImplicit false

/-! ## Replay -/

def effect : Request → Map → Map
  | .put key value _, m => m.insert key value
  | .delete key, m => m.erase key
  | .recover, m => m

/-- The map after an event; the choice says whether an interrupted request is
taken to have been applied. -/
def replay (m : Map) : Event → Bool → Map
  | .completed request (.ok ()), _ => effect request m
  | .interrupted request _, true => effect request m
  | _, _ => m

/-- An interrupted request one of whose flushes had completed. -/
def Settling : Event → Prop
  | .interrupted _ flushed => flushed = true
  | _ => False

/-- The machine reads as the map. When it is down, a reopening completes and
the store then reads as the map. -/
def Shows (build : Rust.Build) (opts : Options) (m : Map) : Machine → Prop
  | .up s => ∀ key, KeyAllowed key → (Rust.get build key s).1 = answer (m.lookup key)
  | .down imgs => ∃ s, mountRecovered build (imgs.map CachedDevice.attach) opts = .ok s ∧
      ∀ key, KeyAllowed key → (Rust.get build key s).1 = answer (m.lookup key)

/-- One choice for each event explains what every machine of the history shows. -/
def Explains (build : Rust.Build) (opts : Options) : List (Event × Machine) → List Bool → Map → Prop
  | [], [], _ => True
  | (event, machine) :: rest, choice :: choices, m =>
    (Settling event → choice = true) ∧ Shows build opts (replay m event choice) machine ∧
      Explains build opts rest choices (replay m event choice)
  | _, _, _ => False

/-! ## One table -/

/-- The one table of a machine holds the values of the map. -/
def Holds (m : Map) (tables : List Table) : Prop :=
  ∃ t : Table, tables = [t] ∧ ∀ name, (t name).map Prod.snd = m.lookup name

theorem holds_target {m : Map} {t : Table} (holds : ∀ name, (t name).map Prod.snd = m.lookup name)
    (request : Request) (generation : Nat) (name : Bytes) :
    (request.target generation t name).map Prod.snd = (effect request m).lookup name := by
  cases request with
  | put key value userFlags =>
      change (Function.update t key (some (generation, value)) name).map Prod.snd =
        (m.insert key value).lookup name
      by_cases mine : name = key
      · rw [mine, Function.update_self, Finmap.lookup_insert]
        rfl
      · rw [Function.update_of_ne mine, Finmap.lookup_insert_of_ne _ mine]
        exact holds name
  | delete key =>
      change (Function.update t key none name).map Prod.snd = (m.erase key).lookup name
      by_cases mine : name = key
      · rw [mine, Function.update_self, Finmap.lookup_erase]
        rfl
      · rw [Function.update_of_ne mine, Finmap.lookup_erase_ne mine]
        exact holds name
  | recover => exact holds name

/-- Every change of one table is a replay. -/
theorem change_replays {m : Map} {event : Event} {tables tables' : List Table}
    (holds : Holds m tables) (change : Change event tables tables') :
    ∃ choice, (Settling event → choice = true) ∧ Holds (replay m event choice) tables' := by
  rcases holds with ⟨t, single, values⟩
  cases change with
  | done request generation _ newer =>
      subst single
      exact ⟨false, nofun, _, rfl, holds_target values request generation⟩
  | failed request generation failure before t' after =>
      rcases List.append_eq_cons_iff.mp single with ⟨rfl, rest⟩ | ⟨tail, rfl, nothing⟩
      · rcases List.cons.inj rest with ⟨rfl, rfl⟩
        exact ⟨false, nofun, _, rfl, values⟩
      · simp at nothing
  | cut request generation flushed before old new after newer either =>
      rcases List.append_eq_cons_iff.mp single with ⟨rfl, rest⟩ | ⟨tail, rfl, nothing⟩
      · rcases List.cons.inj rest with ⟨rfl, rfl⟩
        rcases either with rfl | ⟨rfl, unflushed⟩
        · exact ⟨true, fun _ => rfl, _, rfl, holds_target values request generation⟩
        · refine ⟨false, ?_, _, rfl, values⟩
          intro settling
          rw [unflushed rfl] at settling
          cases settling
      · simp at nothing
  | outage => exact ⟨false, nofun, t, single, values⟩
  | unrecovered => exact ⟨false, nofun, t, single, values⟩
  | reopened => exact ⟨false, nofun, t, single, values⟩

section
variable {build : Rust.Build} {opts : Options} {blockSize blockCount puts : Nat} {m : Map}

theorem shows_up {s : Store CachedDevice} (sane : Sane opts blockSize blockCount puts (.up s))
    (holds : Holds m (Machine.up s).tables) : Shows build opts m (.up s) := by
  rcases holds with ⟨t, single, values⟩
  intro key allowed
  rw [get_tables sane.2, single, allowed.lossy, List.map_singleton, lead_singleton, values key]

/-- A sane machine shows what its table holds. -/
theorem shows_holds (large : 36 ≤ blockSize) {machine : Machine}
    (sane : Sane opts blockSize blockCount puts machine) (holds : Holds m machine.tables) :
    Shows build opts m machine := by
  cases machine with
  | up s => exact shows_up sane holds
  | down imgs =>
      rcases reopened_change large sane with ⟨s, opened, after, same⟩
      rw [← same] at holds
      exact ⟨s, opened, shows_up after holds⟩

/-- The choices are made event by event. -/
theorem history_explained (large : 36 ≤ blockSize) {machine : Machine}
    {trace : List (Event × Machine)} (sane : Sane opts blockSize blockCount puts machine)
    (holds : Holds m machine.tables) (history : History build opts machine trace)
    (room : puts + trace.countP (fun step => step.1.isPut) < 2 ^ 32)
    (allowed : ∀ step ∈ trace, step.1.Allowed blockSize) :
    ∃ choices, Explains build opts trace choices m := by
  induction trace generalizing machine puts m with
  | nil => exact ⟨[], trivial⟩
  | cons step rest ih =>
      rcases step with ⟨event, next⟩
      rcases history with ⟨moves, later⟩
      rw [List.countP_cons] at room
      rcases moves_change large sane (by omega) (allowed _ List.mem_cons_self) moves with
        ⟨after, change⟩
      rcases change_replays holds change with ⟨choice, settled, replayed⟩
      rcases ih after replayed later (by omega) (fun step member =>
        allowed step (List.mem_cons_of_mem _ member)) with ⟨choices, explained⟩
      exact ⟨choice :: choices, settled, shows_holds large after replayed, explained⟩

end

/-- From one formatted device, every history of requests, power losses and
reopenings is explained by one choice for each interrupted request, which is
that it was applied whenever one of its flushes had completed. -/
theorem history_replays {build : Rust.Build} {opts : Options} {blockSize blockCount : Nat}
    {size_lt : blockSize < 2 ^ 32} {count_lt : blockCount < 2 ^ 32} {s : Store CachedDevice}
    (large : 36 ≤ blockSize)
    (fresh : freshStore build opts CachedDevice.attach
      [MemDevice.new blockSize blockCount size_lt count_lt] = .ok s)
    {trace : List (Event × Machine)} (history : History build opts (.up s) trace)
    (few : trace.countP (fun step => step.1.isPut) < 2 ^ 32 - 1)
    (allowed : ∀ step ∈ trace, step.1.Allowed blockSize) :
    ∃ choices, Explains build opts trace choices ∅ := by
  have one : freshStore build opts CachedDevice.attach (List.replicate 1
      (MemDevice.new blockSize blockCount size_lt count_lt)) = .ok s := fresh
  rcases fresh_sane large one with ⟨sane, length, empty⟩
  have holds : Holds ∅ (Machine.up s).tables := by
    rcases List.length_eq_one_iff.mp length with ⟨r, single⟩
    rw [Machine.tables, single, List.map_singleton] at empty ⊢
    refine ⟨_, rfl, ?_⟩
    intro name
    rw [empty _ List.mem_cons_self name]
    rfl
  exact history_explained large sane holds history (by omega) allowed

/-- A put that is cut after its first flush, with the old record still there,
and the reopening after it. -/
theorem history_replays_cut_put :
    ∃ s s1 imgs s2, freshStore .dev .default CachedDevice.attach [smallDevice] = .ok s ∧
      History .dev .default (.up s)
        [(.completed (.put [0x41] [1] 0) (.ok ()), .up s1),
          (.interrupted (.put [0x41] [2] 0) true, .down imgs), (.reopened, .up s2)] ∧
      ∃ choices, Explains .dev .default
        [(.completed (.put [0x41] [1] 0) (.ok ()), .up s1),
          (.interrupted (.put [0x41] [2] 0) true, .down imgs), (.reopened, .up s2)] choices ∅ := by
  -- Two device calls are served: the write of the record and its flush.
  let first (s : Store CachedDevice) := (Request.put [0x41] [1] 0).run .dev s
  let second (s : Store CachedDevice) := (Request.put [0x41] [2] 0).run .dev (drain [2] (first s).2)
  let third (s : Store CachedDevice) :=
    mountRecovered .dev ((lost (second s).2).map CachedDevice.attach) .default
  have checked : (freshStore .dev .default CachedDevice.attach [smallDevice]).toOption.any
      (fun s => decide ((first s).1 = .ok ()) && decide ((first s).2.replicas.length = 1) &&
        decide ((second s).1 = .error (.err .io)) &&
        decide (flushCount (drain [2] (first s).2) < flushCount (second s).2) &&
        (third s).toOption.isSome) = true := by decide +kernel
  obtain ⟨s, fresh, facts⟩ := ok_of_any checked
  simp only [Bool.and_eq_true, decide_eq_true_eq] at facts
  rcases facts with ⟨⟨⟨⟨stored, one⟩, cut⟩, flushed⟩, opens⟩
  rcases Option.isSome_iff_exists.mp opens with ⟨s2, opened⟩
  have interrupted : Moves .dev .default (.up (first s).2)
      (.interrupted (.put [0x41] [2] 0)
        (flushCount (drain [2] (first s).2) < flushCount (second s).2))
      (.down (lost (second s).2)) :=
    .interrupted [2] one.symm (Prod.ext cut rfl) (crashed_lost _)
  rw [decide_eq_true flushed] at interrupted
  have history : History .dev .default (.up s)
      [(.completed (.put [0x41] [1] 0) (.ok ()), .up (first s).2),
        (.interrupted (.put [0x41] [2] 0) true, .down (lost (second s).2)),
        (.reopened, .up s2)] :=
    ⟨.completed (Prod.ext stored rfl), interrupted, .reopened (toOption_eq_some opened), trivial⟩
  refine ⟨s, _, _, s2, fresh, history, history_replays (by decide) fresh history ?_ ?_⟩
  · change 2 < 2 ^ 32 - 1
    decide
  · intro step member request asked
    rcases List.mem_cons.mp member with rfl | later
    · cases asked
      decide +kernel
    · rcases List.mem_cons.mp later with rfl | last
      · cases asked
        decide +kernel
      · rw [List.mem_singleton.mp last] at asked
        cases asked

end Embedkv.PowerLaws
