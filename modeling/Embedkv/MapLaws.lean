import Embedkv.Steady

/-!
# The store is a finite map

Without device errors a store of any number of replicas behaves as a finite map
from key bytes to value bytes: every answer is the map's, the keys are its
domain, and neither recovery nor reopening changes it.
-/

namespace Embedkv.MapLaws

open Embedkv.Lib Embedkv.Format Embedkv.Device Embedkv.State Embedkv.Record Embedkv.Plan
open Embedkv.Outcome Embedkv.Session Embedkv.Exact Embedkv.Lockstep Embedkv.Run Embedkv.Steady

set_option autoImplicit false

/-! ## The map -/

/-- The answers the map allows a step. Whether a put finds room is not the
map's concern; the others are determined. -/
def Expected (m : Map) (result : Except Failure (Option Bytes)) : Step → Prop
  | .call (.put _ _ _) =>
    result = .ok none ∨ result = .error (.err .keyTooLong) ∨ result = .error (.err .storageFull)
  | .call (.delete key) => result = if key ∈ m then .ok none else .error (.err .keyNotFound)
  | .call (.get key) => result = (answer (m.lookup key)).map some
  | .recover => result = .ok none
  | .reopen => result = .ok none

/-- The map after a step with the given answer. -/
def next (m : Map) : Step → Except Failure (Option Bytes) → Map
  | .call (.put key value _), .ok _ => m.insert key value
  | .call (.delete key), .ok _ => m.erase key
  | _, _ => m

/-- The store reads as the map, and its keys are the map's domain. -/
structure Mirrors {D : Type} [BlockDevice D] (build : Rust.Build) (s : Store D) (m : Map) : Prop where
  reads : ∀ key, KeyAllowed key → Rust.get build key s = (answer (m.lookup key), s)
  keys : Rust.keys s = m.keys

/-- Along the steps the store mirrors the map and answers as the map does. -/
def Refines {D : Type} [BlockDevice D] (build : Rust.Build) : List Step → Store D → Map → Prop
  | [], s, m => Mirrors build s m
  | step :: rest, s, m => Mirrors build s m ∧ Expected m (step.run build s).1 step ∧
      Refines build rest (step.run build s).2 (next m step (step.run build s).1)

def isPut : Step → Bool
  | .call (.put _ _ _) => true
  | _ => false

/-- What the callers promise about a step. -/
def StepAllowed (blockSize : Nat) : Step → Prop
  | .call op => op.Allowed blockSize
  | _ => True

instance (blockSize : Nat) : (step : Step) → Decidable (StepAllowed blockSize step)
  | .call op => inferInstanceAs (Decidable (op.Allowed blockSize))
  | .recover => isTrue trivial
  | .reopen => isTrue trivial

/-! ## The invariant -/

/-- Twins that hold the map, their generations bounded by the puts so far. -/
structure Tracks {D : Type} [BlockDevice D] [LawfulBlockDevice D] (opts : Options) (blockSize : Nat)
    (s : Store D) (m : Map) (puts : Nat) (r : Replica D) : Prop where
  lock : InStep r opts s
  settled : Settled r
  size : (image r.dev).blockSize = blockSize
  holds : ∀ name, held r name = m.lookup name
  bounded : ∀ name e, r.index.lookup name = some e → e.generation ≤ puts

section
variable {D : Type} [BlockDevice D] [ReliableBlockDevice D] {opts : Options} {blockSize puts : Nat}
  {s : Store D} {m : Map} {r : Replica D}

theorem Tracks.mirrors (tracks : Tracks opts blockSize s m puts r) (build : Rust.Build) :
    Mirrors build s m := by
  refine ⟨?_, ?_⟩
  · intro key allowed
    rw [store_get tracks.lock tracks.settled, tracks.holds, allowed.lossy]
  · rw [store_keys tracks.lock]
    ext name
    rw [mem_entryKeys, Finmap.mem_keys, ← Finmap.lookup_isSome, ← tracks.holds]
    constructor
    · intro found
      rcases found with ⟨other, e, entry, rfl⟩
      rcases tracks.settled.whole.entry entry with ⟨rec, present, named, entered⟩
      have mine : e.key = other := by
        rw [entered]
        exact named
      rw [mine, held, contents_present entry present]
      rfl
    · intro holds
      cases found : r.index.lookup name with
      | none =>
          rw [held, contents_absent found] at holds
          cases holds
      | some e =>
          rcases tracks.settled.whole.entry found with ⟨rec, _, named, entered⟩
          refine ⟨name, e, found, ?_⟩
          rw [entered]
          exact named

/-- Steps that leave index and contents alone. -/
theorem Tracks.same {s' : Store D} {r' : Replica D} (tracks : Tracks opts blockSize s m puts r)
    (lock : InStep r' opts s') (settled : Settled r') (holds : held r' = held r)
    (index : r'.index = r.index) (size : (image r'.dev).blockSize = blockSize) :
    Tracks opts blockSize s' m puts r' where
  lock := lock
  settled := settled
  size := size
  holds name := by
    rw [holds]
    exact tracks.holds name
  bounded name e found := by
    rw [index] at found
    exact tracks.bounded name e found

theorem Tracks.later (tracks : Tracks opts blockSize s m puts r) {more : Nat} (le : puts ≤ more) :
    Tracks opts blockSize s m more r where
  lock := tracks.lock
  settled := tracks.settled
  size := tracks.size
  holds := tracks.holds
  bounded name e found := Nat.le_trans (tracks.bounded name e found) le

theorem generationOf_le (tracks : Tracks opts blockSize s m puts r) (name : Bytes) :
    generationOf r.index name ≤ puts := by
  unfold generationOf
  cases found : r.index.get name with
  | none => exact Nat.zero_le _
  | some e => exact tracks.bounded name e found

/-- One put against the map. -/
theorem tracks_put (tracks : Tracks opts blockSize s m puts r) (build : Rust.Build)
    {key value : Bytes} {userFlags : UInt32} (room : puts + 1 < 2 ^ 32)
    (allowed : (Op.put key value userFlags).Allowed blockSize) :
    Expected m ((Step.call (.put key value userFlags)).run build s).1
        (.call (.put key value userFlags)) ∧
      ∃ r', Tracks opts blockSize ((Step.call (.put key value userFlags)).run build s).2
        (next m (.call (.put key value userFlags))
          ((Step.call (.put key value userFlags)).run build s).1) (puts + 1) r' := by
  rcases store_put tracks.lock tracks.settled build allowed.1.2 value userFlags with
    ⟨result, r', ran, lock, answered⟩
  have le := generationOf_le tracks (fromUtf8Lossy key)
  have bounded : value.length + (image r.dev).blockSize < 2 ^ 32 := by
    rw [tracks.size]
    exact allowed.2
  rw [Step.run, perform_put, ran]
  cases answered with
  | tooLong => exact ⟨.inr (.inl rfl), r, (tracks.same lock tracks.settled rfl rfl tracks.size).later
      (Nat.le_succ _)⟩
  | overflow wrapped =>
      rw [Image.rust_u32Add_ok (by omega)] at wrapped
      cases wrapped
  | full => exact ⟨.inr (.inr rfl), r, (tracks.same lock tracks.settled rfl rfl tracks.size).later
      (Nat.le_succ _)⟩
  | @stored generation new _ advanced added settled index holds kept =>
      rcases added_contents allowed.1 bounded added with ⟨_, valued⟩
      rw [Image.rust_u32Add_ok (by omega)] at advanced
      have numbered := Except.ok.inj advanced
      refine ⟨.inl rfl, r', lock, settled, kept.size.trans tracks.size, ?_, ?_⟩
      · intro name
        change _ = (m.insert key value).lookup name
        rw [holds, valued, allowed.1.lossy]
        by_cases mine : name = key
        · subst mine
          rw [Function.update_self, Finmap.lookup_insert]
        · rw [Function.update_of_ne mine, Finmap.lookup_insert_of_ne _ mine]
          exact tracks.holds name
      · intro name e found
        rw [index] at found
        by_cases mine : name = (newEntry key generation new.descriptorBlock value).key
        · subst mine
          rw [lookup_put_self] at found
          cases found
          change generation ≤ puts + 1
          omega
        · rw [lookup_put_other mine] at found
          exact Nat.le_succ_of_le (tracks.bounded name e found)

/-- One delete against the map. -/
theorem tracks_delete (tracks : Tracks opts blockSize s m puts r) (build : Rust.Build)
    {key : Bytes} (allowed : KeyAllowed key) :
    Expected m ((Step.call (.delete key)).run build s).1 (.call (.delete key)) ∧
      ∃ r', Tracks opts blockSize ((Step.call (.delete key)).run build s).2
        (next m (.call (.delete key)) ((Step.call (.delete key)).run build s).1) puts r' := by
  rcases store_delete tracks.lock tracks.settled key with ⟨result, r', ran, lock, answered⟩
  have holdsKey := tracks.holds key
  rw [Step.run, perform_delete, ran]
  rw [allowed.lossy] at answered
  cases answered with
  | absent absent =>
      have missing : key ∉ m := by
        rw [← Finmap.lookup_eq_none, ← holdsKey, held, contents_absent absent]
      refine ⟨?_, r, tracks.same lock tracks.settled rfl rfl tracks.size⟩
      simp only [Expected, if_neg missing]
      rfl
  | removed found settled index holds kept =>
      have member : key ∈ m := by
        rcases tracks.settled.whole.entry found with ⟨rec, present, _, _⟩
        rw [← Finmap.lookup_isSome, ← holdsKey, held, contents_present found present]
        rfl
      refine ⟨?_, r', lock, settled, kept.size.trans tracks.size, ?_, ?_⟩
      · simp only [Expected, if_pos member]
        rfl
      · intro name
        change _ = (m.erase key).lookup name
        rw [holds]
        by_cases mine : name = key
        · subst mine
          rw [Function.update_self, Finmap.lookup_erase]
        · rw [Function.update_of_ne mine, Finmap.lookup_erase_ne mine]
          exact tracks.holds name
      · intro name e there
        rw [index] at there
        by_cases mine : name = key
        · rw [mine, lookup_delete_self] at there
          cases there
        · rw [lookup_delete_other mine] at there
          exact tracks.bounded name e there

/-- One step against the map. -/
theorem tracks_step (tracks : Tracks opts blockSize s m puts r) (build : Rust.Build) {step : Step}
    (room : puts + (if isPut step then 1 else 0) < 2 ^ 32)
    (allowed : StepAllowed blockSize step) :
    Expected m (step.run build s).1 step ∧
      ∃ r', Tracks opts blockSize (step.run build s).2 (next m step (step.run build s).1)
        (puts + if isPut step then 1 else 0) r' := by
  cases step with
  | call op =>
      cases op with
      | put key value userFlags => exact tracks_put tracks build room allowed
      | delete key => exact tracks_delete tracks build allowed
      | get key =>
          have read := (tracks.mirrors build).reads key allowed
          rw [Step.run, perform_get, read]
          exact ⟨rfl, r, tracks⟩
  | recover =>
      rcases store_recover tracks.lock tracks.settled build with
        ⟨finished, r', lock, settled, holds, index, size⟩
      have ran : Step.recover.run build s = (.ok none, (Rust.recover build s).2) := by
        have unfolded := Proc.bind_pure_apply (Rust.recover build) (fun _ => (none : Option Bytes)) s
        rw [finished] at unfolded
        exact unfolded
      rw [ran]
      exact ⟨rfl, r', tracks.same lock settled holds index (size.trans tracks.size)⟩
  | reopen =>
      rcases store_reopen tracks.lock tracks.settled build with
        ⟨finished, r', lock, settled, holds, index, size⟩
      rw [finished]
      exact ⟨rfl, r', tracks.same lock settled holds index (size.trans tracks.size)⟩

/-- Along any list of steps the store stays with the map. -/
theorem tracks_refines (build : Rust.Build) {steps : List Step}
    (tracks : Tracks opts blockSize s m puts r)
    (room : puts + steps.countP isPut < 2 ^ 32)
    (allowed : ∀ step ∈ steps, StepAllowed blockSize step) : Refines build steps s m := by
  induction steps generalizing s m puts r with
  | nil => exact tracks.mirrors build
  | cons step rest ih =>
      rw [List.countP_cons] at room
      rcases tracks_step tracks build (by omega) (allowed step List.mem_cons_self) with
        ⟨expected, r', after⟩
      exact ⟨tracks.mirrors build, expected, ih after (by omega) fun other member =>
        allowed other (List.mem_cons_of_mem _ member)⟩

end

/-- From a formatted store of any number of replicas, every run of puts,
deletes, gets, recoveries and reopenings without device errors answers as the
finite map does, which is empty at first. -/
theorem store_refines_map {build : Rust.Build} {opts : Options} {blockSize blockCount n : Nat}
    {size_lt : blockSize < 2 ^ 32} {count_lt : blockCount < 2 ^ 32} {s : Store MemDevice}
    (large : 36 ≤ blockSize)
    (fresh : freshStore build opts id (List.replicate n
      (MemDevice.new blockSize blockCount size_lt count_lt)) = .ok s)
    {steps : List Step} (few : steps.countP isPut < 2 ^ 32 - 1)
    (allowed : ∀ step ∈ steps, StepAllowed blockSize step) : Refines build steps s ∅ := by
  rcases fresh_settled large fresh with ⟨r, lock, settled, size, none⟩
  have tracks : Tracks opts blockSize s ∅ 0 r := by
    refine ⟨lock, settled, size, ?_, ?_⟩
    · intro name
      rw [held, contents_absent (none name)]
      rfl
    · intro name e found
      rw [none name] at found
      cases found
  exact tracks_refines build tracks (by omega) allowed

/-- Two replicas through every kind of step. -/
theorem store_refines_map_two :
    ∃ s, freshStore .dev .default id (List.replicate 2 smallDevice) = .ok s ∧
      Refines .dev [.call (.put [0x41] [1] 0), .call (.put [0x41] [2] 7), .reopen,
        .call (.get [0x41]), .recover, .call (.delete [0x41]), .call (.get [0x41])] s ∅ := by
  have checked : (freshStore .dev .default id (List.replicate 2 smallDevice)).toOption.isSome := by
    decide +kernel
  rcases Option.isSome_iff_exists.mp checked with ⟨s, found⟩
  have fresh := toOption_eq_some found
  exact ⟨s, fresh, store_refines_map (by decide) fresh (by decide) (by decide +kernel)⟩

end Embedkv.MapLaws
