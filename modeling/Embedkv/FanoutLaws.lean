import Embedkv.Power

/-!
# Power loss in the middle of a fan-out

A request takes its turns replica by replica, so a power loss leaves the first
ones moved and the others not. A get takes the copy of the highest generation.
A put that reached one replica is therefore read back whole. A delete leaves no
copy with a generation of its own, so the replicas it had not reached decide,
and they may hold an older copy than the one it erased.
-/

namespace Embedkv.FanoutLaws

open Embedkv.Lib Embedkv.Format Embedkv.Device Embedkv.State Embedkv.Session Embedkv.Exact
open Embedkv.Run Embedkv.Steady Embedkv.Cache Embedkv.Cut Embedkv.Fanout Embedkv.Power

set_option autoImplicit false

/-! ## The leading copy -/

/-- No later copy takes over from one of at least its generation. -/
theorem foldl_better_top {top : Nat × Bytes} {copies : List (Option (Nat × Bytes))}
    (below : ∀ copy, some copy ∈ copies → copy.1 ≤ top.1) :
    copies.foldl better (some top) = some top := by
  induction copies with
  | nil => rfl
  | cons first rest ih =>
      have later := ih fun copy member => below copy (List.mem_cons_of_mem _ member)
      cases first with
      | none => exact later
      | some copy =>
          have le := below copy List.mem_cons_self
          rw [List.foldl_cons, better, if_neg (Nat.not_lt.mpr le)]
          exact later

/-- Replicas without a copy have no say. -/
theorem lead_gone {gone rest : List (Option (Nat × Bytes))} (none : ∀ copy ∈ gone, copy = none) :
    lead (gone ++ rest) = lead rest := by
  induction gone with
  | nil => rfl
  | cons first others ih =>
      rw [none first List.mem_cons_self]
      exact ih fun copy member => none copy (List.mem_cons_of_mem _ member)

theorem lead_none {copies : List (Option (Nat × Bytes))} (gone : ∀ copy ∈ copies, copy = none) :
    lead copies = none := by
  have led : lead (copies ++ []) = lead [] := lead_gone gone
  rw [List.append_nil] at led
  exact led

/-! ## A request that is cut -/

/-- What a key may read as after the reopening that follows a cut request: as
before, or, if it is the key of the request, as the put leaves it, or, if the
delete has cleared the media of the first replicas, as the others read it. -/
def CutReads (build : Rust.Build) (s s' : Store CachedDevice) (key : Bytes) : Request → Prop
  | .put own value _ => (Rust.get build key s').1 = (Rust.get build key s).1 ∨
      key = own ∧ (Rust.get build key s').1 = .ok value
  | .delete own => (Rust.get build key s').1 = (Rust.get build key s).1 ∨
      key = own ∧ ∃ cleared ≤ s.replicas.length,
        (Rust.get build key { s' with replicas := s'.replicas.take cleared }).1 =
          .error (.err .keyNotFound) ∧
        (Rust.get build key s').1 =
          (Rust.get build key { s with replicas := s.replicas.drop cleared }).1
  | .recover => (Rust.get build key s').1 = (Rust.get build key s).1

/-- The key a request is about. -/
def keyOf : Request → Option Bytes
  | .put key _ _ => some key
  | .delete key => some key
  | .recover => none

/-- A request leaves the copies of other keys alone. -/
theorem target_other {request : Request} {key : Bytes} (other : keyOf request ≠ some key)
    (generation : Nat) (t : Table) : request.target generation t key = t key := by
  cases request with
  | put own value userFlags =>
      apply Function.update_of_ne
      intro same
      exact other (congrArg some same.symm)
  | delete own =>
      apply Function.update_of_ne
      intro same
      exact other (congrArg some same.symm)
  | recover => rfl

section
variable {request : Request} {flushed : Bool} {tables tables' : List Table} {key value : Bytes}
  {userFlags : UInt32}

theorem cut_other (other : keyOf request ≠ some key)
    (change : Change (.interrupted request flushed) tables tables') :
    (tables'.map fun t => t key) = tables.map fun t => t key := by
  cases change with
  | cut _ generation _ before t t' after newer either =>
      have same : t' key = t key := by
        rcases either with rfl | ⟨rfl, _⟩
        · exact target_other other generation t
        · rfl
      rw [List.map_append, List.map_cons, List.map_append, List.map_cons, List.map_map, same]
      congr 1
      apply List.map_congr_left
      intro one _
      exact target_other other generation one

/-- Once one replica has the copy of the put, it leads. -/
theorem cut_put_leads (change : Change (.interrupted (.put key value userFlags) flushed) tables
      tables') : tables' = tables ∨
    ∃ generation, lead (tables'.map fun t => t key) = some (generation, value) := by
  cases change with
  | cut _ generation _ before t t' after newer either =>
      have target (one : Table) : (Request.put key value userFlags).target generation one key =
          some (generation, value) := Function.update_self _ _ _
      have older : ∀ copy, some copy ∈ (t :: after).map (fun t => t key) → copy.1 ≤ generation := by
        intro copy member
        rcases List.mem_map.mp member with ⟨one, inside, copied⟩
        exact Nat.le_of_lt (newer one (List.mem_append_right _ inside) copy copied)
      have led (copies : List (Option (Nat × Bytes)))
          (below : ∀ copy, some copy ∈ copies → copy.1 ≤ generation) :
          lead (some (generation, value) :: copies) = some (generation, value) :=
        foldl_better_top below
      rw [List.map_cons] at older
      cases before with
      | nil =>
          rcases either with rfl | ⟨rfl, _⟩
          · right
            refine ⟨generation, ?_⟩
            rw [List.map_nil, List.nil_append, List.map_cons, target]
            exact led _ fun copy member => older copy (List.mem_cons_of_mem _ member)
          · exact .inl rfl
      | cons first rest =>
          right
          refine ⟨generation, ?_⟩
          rw [List.map_cons, List.cons_append, List.map_cons, target, List.map_append,
            List.map_cons, List.map_map]
          apply led
          intro copy member
          rcases List.mem_append.mp member with front | back
          · rcases List.mem_map.mp front with ⟨one, _, copied⟩
            rw [Function.comp_apply, target] at copied
            cases copied
            exact Nat.le_refl _
          rcases List.mem_cons.mp back with here | later
          · rcases either with rfl | ⟨rfl, _⟩
            · rw [target] at here
              cases here
              exact Nat.le_refl _
            · exact older copy (here ▸ List.mem_cons_self)
          · exact older copy (List.mem_cons_of_mem _ later)

/-- The replicas whose media a cut delete has cleared hold no copy; the others decide. -/
theorem cut_delete_leads (change : Change (.interrupted (.delete key) flushed) tables tables') :
    ∃ cleared ≤ tables.length, (∀ t ∈ tables'.take cleared, t key = none) ∧
      lead (tables'.map fun t => t key) = lead ((tables.drop cleared).map fun t => t key) := by
  cases change with
  | cut _ generation _ before t t' after newer either =>
      have target (one : Table) : (Request.delete key).target generation one key = none :=
        Function.update_self _ _ _
      have gone : ∀ t ∈ before.map ((Request.delete key).target generation), t key = none := by
        intro t member
        rcases List.mem_map.mp member with ⟨one, _, rfl⟩
        exact target one
      have length : (before.map ((Request.delete key).target generation)).length =
          before.length := List.length_map _
      rw [List.map_append, lead_gone (List.forall_mem_map.mpr gone)]
      rcases either with rfl | ⟨rfl, _⟩
      · refine ⟨before.length + 1, by simp, ?_, ?_⟩
        · intro t member
          rw [← length, List.take_length_add_append, List.take_one] at member
          rcases List.mem_append.mp member with front | here
          · exact gone t front
          · cases List.mem_singleton.mp here
            exact target _
        · rw [List.drop_append, List.drop_of_length_le (Nat.le_succ _), Nat.add_sub_cancel_left,
            List.map_cons, target]
          rfl
      · refine ⟨before.length, by simp, ?_, by rw [List.drop_left]⟩
        rw [← length, List.take_left]
        exact gone

variable {build : Rust.Build} {blockSize blockCount puts more : Nat} {s s' : Store CachedDevice}

/-- The tables a cut request leaves, as a reopened store reads them. -/
theorem cut_reads (before : Resting blockSize blockCount puts s)
    (after : Resting blockSize blockCount more s')
    (change : Change (.interrupted request flushed) (Machine.up s).tables (Machine.up s').tables)
    (allowed : KeyAllowed key) : CutReads build s s' key request := by
  have told : (Rust.get build key s).1 = _ := get_tables before key
  have told' : (Rust.get build key s').1 = _ := get_tables after key
  rw [allowed.lossy] at told told'
  by_cases other : keyOf request = some key
  · cases request with
    | put own value userFlags =>
        cases other
        rcases cut_put_leads change with same | ⟨generation, led⟩
        · left
          rw [told, told', same]
        · right
          rw [led] at told'
          exact ⟨rfl, told'⟩
    | delete own =>
        cases other
        right
        rcases cut_delete_leads change with ⟨cleared, le, gone, led⟩
        rw [Machine.tables, List.length_map] at le
        rw [Machine.tables, ← List.map_take] at gone
        refine ⟨rfl, cleared, le, ?_, ?_⟩
        · have settled : ∀ r ∈ s'.replicas.take cleared, Settled r := fun r member =>
            (after.flushed r (List.mem_of_mem_take member)).settled
          have nothing : ∀ copy ∈ (s'.replicas.take cleared).map fun r =>
              table (image r.dev) key, copy = none := by
            intro copy member
            rcases List.mem_map.mp member with ⟨r, inside, rfl⟩
            exact gone _ (List.mem_map_of_mem inside)
          rw [get_lead settled, allowed.lossy, lead_none nothing]
          rfl
        · have settled : ∀ r ∈ s.replicas.drop cleared, Settled r := fun r member =>
            (before.flushed r (List.mem_of_mem_drop member)).settled
          rw [told', led, get_lead settled, allowed.lossy, Machine.tables, ← List.map_drop,
            List.map_map]
          rfl
    | recover => cases other
  · have same : (Rust.get build key s').1 = (Rust.get build key s).1 := by
      rw [told, told', cut_other other change]
    cases request with
    | put own value userFlags => exact .inl same
    | delete own => exact .inl same
    | recover => exact same

end

/-- From any number of formatted devices, along every history of requests, power
losses and reopenings: after a request that is cut the media can be reopened,
and each key then reads as `CutReads` says. -/
theorem cut_request_reads {build : Rust.Build} {opts : Options} {blockSize blockCount n : Nat}
    {size_lt : blockSize < 2 ^ 32} {count_lt : blockCount < 2 ^ 32} {s s1 : Store CachedDevice}
    (large : 36 ≤ blockSize)
    (fresh : freshStore build opts CachedDevice.attach (List.replicate n
      (MemDevice.new blockSize blockCount size_lt count_lt)) = .ok s)
    {trace : List (Event × Machine)} (history : History build opts (.up s) trace)
    (reached : final (.up s) trace = .up s1) {request : Request} {flushed : Bool}
    {imgs : List MemDevice}
    (moves : Moves build opts (.up s1) (.interrupted request flushed) (.down imgs))
    (few : trace.countP (fun step => step.1.isPut) + (if request.isPut then 1 else 0) < 2 ^ 32 - 1)
    (allowed : ∀ step ∈ trace, step.1.Allowed blockSize) (asked : request.Allowed blockSize) :
    ∃ s2, mountRecovered build (imgs.map CachedDevice.attach) opts = .ok s2 ∧
      ∀ key, KeyAllowed key → CutReads build s1 s2 key request := by
  have start := (fresh_sane large fresh).1
  have sane := history_sane large start history (by omega) allowed
  rw [reached] at sane
  have counted : (Event.interrupted request flushed).isPut = request.isPut := rfl
  have meets : (Event.interrupted request flushed).Allowed blockSize := by
    intro one same
    cases same
    exact asked
  rcases moves_change large sane (by rw [counted]; omega) meets moves with ⟨down, change⟩
  rcases reopened_change large down with ⟨s2, opened, up, same⟩
  refine ⟨s2, opened, ?_⟩
  intro key keyAllowed
  rw [← same] at change
  exact cut_reads sane.2 up.2 change keyAllowed

/-- A delete that is cut between its two replicas. -/
theorem cut_request_reads_delete :
    ∃ s s1 imgs flushed,
      freshStore .dev .default CachedDevice.attach [smallDevice, smallDevice] = .ok s ∧
      Moves .dev .default (.up s) (.completed (.put [0x41] [1] 0) (.ok ())) (.up s1) ∧
      Moves .dev .default (.up s1) (.interrupted (.delete [0x41]) flushed) (.down imgs) ∧
      ∃ s2, mountRecovered .dev (imgs.map CachedDevice.attach) .default = .ok s2 ∧
        ∀ key, KeyAllowed key → CutReads .dev s1 s2 key (.delete [0x41]) := by
  let first (s : Store CachedDevice) := (Request.put [0x41] [1] 0).run .dev s
  let second (s : Store CachedDevice) := (Request.delete [0x41]).run .dev (drain [9, 0] (first s).2)
  have checked : (freshStore .dev .default CachedDevice.attach
      [smallDevice, smallDevice]).toOption.any (fun s =>
        decide ((first s).1 = .ok ()) && decide ((first s).2.replicas.length = 2) &&
        decide ((second s).1 = .error (.err .io))) = true := by decide +kernel
  obtain ⟨s, found, facts⟩ := ok_of_any checked
  simp only [Bool.and_eq_true, decide_eq_true_eq] at facts
  rcases facts with ⟨⟨stored, two⟩, cut⟩
  have fresh : freshStore .dev .default CachedDevice.attach (List.replicate 2 smallDevice) =
      .ok s := found
  have completed : Moves .dev .default (.up s) (.completed (.put [0x41] [1] 0) (.ok ()))
      (.up (first s).2) := .completed (Prod.ext stored rfl)
  have interrupted : Moves .dev .default (.up (first s).2) (.interrupted (.delete [0x41])
      (flushCount (drain [9, 0] (first s).2) < flushCount (second s).2))
      (.down (lost (second s).2)) :=
    .interrupted [9, 0] two.symm (Prod.ext cut rfl) (crashed_lost _)
  have history : History .dev .default (.up s)
      [(.completed (.put [0x41] [1] 0) (.ok ()), .up (first s).2)] := ⟨completed, trivial⟩
  refine ⟨s, _, _, _, fresh, completed, interrupted, cut_request_reads (by decide) fresh history
    rfl interrupted ?_ ?_ (by decide +kernel)⟩
  · change 1 < 2 ^ 32 - 1
    decide
  · intro step member request asked
    rw [List.mem_singleton.mp member] at asked
    cases asked
    decide +kernel

/-- A put and a delete of one key are both cut between their two replicas. The
delete has erased the only copy of the second value, and the first value, which
no get returned since the put was cut, is read again. -/
theorem cut_delete_revives :
    ∃ s s1 imgs1 s2 imgs2 s3 flushed1 flushed2,
      freshStore .dev .default CachedDevice.attach [smallDevice, smallDevice] = .ok s ∧
      History .dev .default (.up s)
        [(.completed (.put [0x41] [1] 0) (.ok ()), .up s1),
          (.interrupted (.put [0x41] [2] 0) flushed1, .down imgs1), (.reopened, .up s2),
          (.interrupted (.delete [0x41]) flushed2, .down imgs2), (.reopened, .up s3)] ∧
      (Rust.get .dev [0x41] s2).1 = .ok [2] ∧ (Rust.get .dev [0x41] s3).1 = .ok [1] := by
  -- The second device serves no call of either request.
  let first (s : Store CachedDevice) := (Request.put [0x41] [1] 0).run .dev s
  let second (s : Store CachedDevice) :=
    (Request.put [0x41] [2] 0).run .dev (drain [9, 0] (first s).2)
  let reopen (s : Store DrainingDevice) :=
    mountRecovered .dev ((lost s).map CachedDevice.attach) .default
  let third (s : Store CachedDevice) := (Request.delete [0x41]).run .dev (drain [9, 0] s)
  have checked : (freshStore .dev .default CachedDevice.attach
      [smallDevice, smallDevice]).toOption.any (fun s =>
        decide ((first s).1 = .ok ()) && decide ((first s).2.replicas.length = 2) &&
        decide ((second s).1 = .error (.err .io)) &&
        (reopen (second s).2).toOption.any (fun s2 =>
          decide (s2.replicas.length = 2) && decide ((Rust.get .dev [0x41] s2).1 = .ok [2]) &&
          decide ((third s2).1 = .error (.err .io)) &&
          (reopen (third s2).2).toOption.any (fun s3 =>
            decide ((Rust.get .dev [0x41] s3).1 = .ok [1])))) = true := by decide +kernel
  obtain ⟨s, found, facts⟩ := ok_of_any checked
  rcases Bool.and_eq_true_iff.mp facts with ⟨before, onward⟩
  obtain ⟨s2, found2, facts2⟩ := ok_of_any onward
  rcases Bool.and_eq_true_iff.mp facts2 with ⟨between, last⟩
  obtain ⟨s3, found3, revived⟩ := ok_of_any last
  simp only [Bool.and_eq_true, decide_eq_true_eq] at before between revived
  rcases before with ⟨⟨stored, two⟩, cut⟩
  rcases between with ⟨⟨two2, newest⟩, cut2⟩
  exact ⟨s, (first s).2, lost (second s).2, s2, lost (third s2).2, s3, _, _,
    found,
    ⟨.completed (Prod.ext stored rfl),
      .interrupted [9, 0] two.symm (Prod.ext cut rfl) (crashed_lost _),
      .reopened (found2),
      .interrupted [9, 0] two2.symm (Prod.ext cut2 rfl) (crashed_lost _),
      .reopened (found3), trivial⟩, newest, revived⟩

end Embedkv.FanoutLaws
