import Embedkv.Steady

/-!
# Keys that are not UTF-8

The index knows a key by its lossy decoding, so two keys that decode to the
same string are one key to the store. Keys that decode to different strings do
not touch each other.
-/

namespace Embedkv.IsolationLaws

open Embedkv.Lib Embedkv.Format Embedkv.Device Embedkv.State Embedkv.Record Embedkv.Layout
open Embedkv.Effects Embedkv.Outcome Embedkv.Session Embedkv.Exact Embedkv.Lockstep Embedkv.Run
open Embedkv.Steady

set_option autoImplicit false

/-- A key whose length fits the key size field; it need not be UTF-8. -/
def Short : Step → Prop
  | .call op => op.key.length ≤ 65535
  | _ => True

instance : (step : Step) → Decidable (Short step)
  | .call op => inferInstanceAs (Decidable (op.key.length ≤ 65535))
  | .recover => isTrue trivial
  | .reopen => isTrue trivial

section
variable {D : Type} [BlockDevice D] [ReliableBlockDevice D] {opts : Options} {s : Store D}
  {r : Replica D}

/-- Every step keeps the replicas twins whose index names every record. -/
theorem settled_step (build : Rust.Build) (lock : InStep r opts s) (settled : Settled r)
    {step : Step} (short : Short step) :
    ∃ r', InStep r' opts (step.run build s).2 ∧ Settled r' ∧
      (image r'.dev).blockSize = (image r.dev).blockSize := by
  cases step with
  | call op =>
      cases op with
      | put key value userFlags =>
          rcases store_put lock settled build short value userFlags with
            ⟨result, r', _, lock', answered⟩
          rw [Step.run, perform_put]
          cases answered with
          | tooLong => exact ⟨r, lock', settled, rfl⟩
          | overflow => exact ⟨r, lock', settled, rfl⟩
          | full => exact ⟨r, lock', settled, rfl⟩
          | stored _ _ settled' _ _ kept => exact ⟨r', lock', settled', kept.size⟩
      | delete key =>
          rcases store_delete lock settled key with ⟨result, r', _, lock', answered⟩
          rw [Step.run, perform_delete]
          cases answered with
          | absent => exact ⟨r, lock', settled, rfl⟩
          | removed _ settled' _ _ kept => exact ⟨r', lock', settled', kept.size⟩
      | get key =>
          rw [Step.run, perform_get, store_get lock settled]
          exact ⟨r, lock, settled, rfl⟩
  | recover =>
      rcases store_recover lock settled build with ⟨_, r', lock', settled', _, _, size⟩
      have ran : (Step.recover.run build s).2 = (Rust.recover build s).2 := after_recover build s
      rw [ran]
      exact ⟨r', lock', settled', size⟩
  | reopen =>
      rcases store_reopen lock settled build with ⟨_, r', lock', settled', _, _, size⟩
      exact ⟨r', lock', settled', size⟩

theorem settled_run (build : Rust.Build) {steps : List Step} (lock : InStep r opts s)
    (settled : Settled r) (short : ∀ step ∈ steps, Short step) :
    ∃ r', InStep r' opts (runSteps build steps s) ∧ Settled r' ∧
      (image r'.dev).blockSize = (image r.dev).blockSize := by
  let inv (s : Store D) := ∃ r', InStep r' opts s ∧ Settled r' ∧
    (image r'.dev).blockSize = (image r.dev).blockSize
  have start : inv s := ⟨r, lock, settled, rfl⟩
  refine runTo_of_invariant ?_ start (each_of_forall fun step member _ => short step member)
  rintro step s short ⟨r1, lock1, settled1, size1⟩
  rcases settled_step build lock1 settled1 short with ⟨r2, lock2, settled2, size2⟩
  exact ⟨r2, lock2, settled2, size2.trans size1⟩

/-- What a get of one key says after a put and after a delete of another. -/
def Isolated (build : Rust.Build) (s : Store D) (k1 k2 : Bytes) : Prop :=
  (∀ value userFlags, (Rust.get build k1 (Rust.putFlagged build k2 value userFlags s).2).1 =
      (Rust.get build k1 s).1) ∧
    (Rust.get build k1 (Rust.delete k2 s).2).1 = (Rust.get build k1 s).1

theorem answer_inj {left right : Option Bytes} (same : answer left = answer right) : left = right := by
  cases left <;> cases right <;> cases same <;> rfl

/-- Keys with different decodings are isolated. -/
theorem isolated_of_decodings (build : Rust.Build) (lock : InStep r opts s) (settled : Settled r)
    {k1 k2 : Bytes} (short : k2.length ≤ 65535) (apart : fromUtf8Lossy k1 ≠ fromUtf8Lossy k2) :
    Isolated build s k1 k2 := by
  constructor
  · intro value userFlags
    rcases store_put lock settled build short value userFlags with ⟨result, r', _, lock', answered⟩
    cases answered with
    | tooLong => rw [store_get lock' settled, store_get lock settled]
    | overflow => rw [store_get lock' settled, store_get lock settled]
    | full => rw [store_get lock' settled, store_get lock settled]
    | stored _ _ settled' _ holds _ =>
        rw [store_get lock' settled', store_get lock settled, holds, Function.update_of_ne apart]
  · rcases store_delete lock settled k2 with ⟨result, r', _, lock', answered⟩
    cases answered with
    | absent => rw [store_get lock' settled, store_get lock settled]
    | removed _ settled' _ holds _ =>
        rw [store_get lock' settled', store_get lock settled, holds, Function.update_of_ne apart]

/-- Keys with the same decoding are isolated only where nothing can happen. -/
theorem isolated_same_decoding (build : Rust.Build) (lock : InStep r opts s) (settled : Settled r)
    {k1 k2 : Bytes} (short : k2.length ≤ 65535)
    (accepted : k2.length + 36 ≤ (image r.dev).blockSize)
    (same : fromUtf8Lossy k1 = fromUtf8Lossy k2) :
    Isolated build s k1 k2 ↔
      r.index.lookup (fromUtf8Lossy k2) = none ∧ freeBlocks (image r.dev) = [] := by
  constructor
  · intro isolated
    rcases isolated with ⟨puts, deletes⟩
    have absent : r.index.lookup (fromUtf8Lossy k2) = none := by
      rcases store_delete lock settled k2 with ⟨result, r', _, lock', answered⟩
      cases answered with
      | absent absent => exact absent
      | removed found settled' _ holds _ =>
          rw [store_get lock' settled', store_get lock settled, holds, same,
            Function.update_self] at deletes
          rcases settled.whole.entry found with ⟨rec, present, _, _⟩
          have missing : none = held r (fromUtf8Lossy k2) := answer_inj deletes
          rw [held, contents_present found present] at missing
          cases missing
    refine ⟨absent, ?_⟩
    -- An empty value needs one block, and a new key starts at generation 1.
    have unchanged := puts [] 0
    rcases store_put lock settled build short [] 0 with ⟨result, r', _, lock', answered⟩
    cases answered with
    | tooLong overlong => omega
    | overflow wrapped =>
        have got : r.index.get (fromUtf8Lossy k2) = none := absent
        rw [generationOf, got, Image.rust_u32Add_ok (by decide)] at wrapped
        cases wrapped
    | full crowded =>
        have one : blocksFor (image r.dev).blockSize k2.length (asU32 ([] : Bytes).length) =
            1 := if_pos (Nat.zero_le _)
        rw [one] at crowded
        exact List.eq_nil_of_length_eq_zero (by omega)
    | @stored generation new _ _ _ settled' _ holds _ =>
        rw [store_get lock' settled', store_get lock settled, holds, same,
          Function.update_self] at unchanged
        have stored : some new.value = held r (fromUtf8Lossy k2) := answer_inj unchanged
        rw [held, contents_absent absent] at stored
        cases stored
  · intro idle
    rcases idle with ⟨absent, crowded⟩
    constructor
    · intro value userFlags
      rcases store_put lock settled build short value userFlags with
        ⟨result, r', _, lock', answered⟩
      cases answered with
      | tooLong => rw [store_get lock' settled, store_get lock settled]
      | overflow => rw [store_get lock' settled, store_get lock settled]
      | full => rw [store_get lock' settled, store_get lock settled]
      | stored _ added _ _ _ _ =>
          have free := added.free
          rw [crowded] at free
          cases free
    · rcases store_delete lock settled k2 with ⟨result, r', _, lock', answered⟩
      cases answered with
      | absent => rw [store_get lock' settled, store_get lock settled]
      | removed found _ _ _ _ =>
          rw [absent] at found
          cases found

end

/-- In every state a run reaches, a put and a delete of one key leave what a get
of another says exactly when the two decode to different strings, or when the
string is not indexed and no block is free for it. -/
theorem isolated_iff {build : Rust.Build} {opts : Options} {blockSize blockCount n : Nat}
    {size_lt : blockSize < 2 ^ 32} {count_lt : blockCount < 2 ^ 32} {s : Store MemDevice}
    (large : 36 ≤ blockSize)
    (fresh : freshStore build opts id (List.replicate n
      (MemDevice.new blockSize blockCount size_lt count_lt)) = .ok s)
    {steps : List Step} (shortSteps : ∀ step ∈ steps, Short step) {k1 k2 : Bytes}
    (short : k2.length ≤ 65535) (accepted : k2.length + 36 ≤ blockSize) :
    Isolated build (runSteps build steps s) k1 k2 ↔
      fromUtf8Lossy k1 ≠ fromUtf8Lossy k2 ∨
        ∀ q ∈ (runSteps build steps s).replicas,
          q.index.get (fromUtf8Lossy k2) = none ∧ freeBlocks q.dev = [] := by
  rcases fresh_settled large fresh with ⟨r0, lock0, settled0, size0, _⟩
  rcases settled_run build lock0 settled0 shortSteps with ⟨r, lock, settled, size⟩
  have fits : k2.length + 36 ≤ (image r.dev).blockSize := by
    rw [size]
    change k2.length + 36 ≤ r0.dev.blockSize
    rw [size0]
    exact accepted
  -- What one twin says about index and free blocks, all of them say.
  have idle : (∀ q ∈ (runSteps build steps s).replicas,
      q.index.get (fromUtf8Lossy k2) = none ∧ freeBlocks q.dev = []) ↔
        r.index.lookup (fromUtf8Lossy k2) = none ∧ freeBlocks (image r.dev) = [] := by
    constructor
    · intro all
      rcases List.exists_mem_of_ne_nil _ lock.nonempty with ⟨q, member⟩
      have twin := lock.twins q member
      rcases all q member with ⟨absent, crowded⟩
      rw [twin.index] at absent
      exact ⟨absent, twin.data.freeBlocks.symm.trans crowded⟩
    · intro one q member
      have twin := lock.twins q member
      refine ⟨?_, twin.data.freeBlocks.trans one.2⟩
      rw [twin.index]
      exact one.1
  rw [idle]
  by_cases same : fromUtf8Lossy k1 = fromUtf8Lossy k2
  · rw [isolated_same_decoding build lock settled short fits same]
    simp [same]
  · constructor
    · intro _
      exact .inl same
    · intro _
      exact isolated_of_decodings build lock settled short same

/-- Two keys, one of them not UTF-8, on two replicas. -/
theorem isolated_iff_apart :
    ∃ s, freshStore .dev .default id (List.replicate 2 smallDevice) = .ok s ∧
      Isolated .dev (runSteps .dev [.call (.put [0xFF] [1] 0), .reopen] s) [0xFF] [0x41] := by
  have checked : (freshStore .dev .default id (List.replicate 2 smallDevice)).toOption.isSome := by
    decide +kernel
  rcases Option.isSome_iff_exists.mp checked with ⟨s, found⟩
  have fresh := toOption_eq_some found
  exact ⟨s, fresh, (isolated_iff (by decide) fresh (by decide) (by decide) (by decide)).mpr
    (.inl (by decide +kernel))⟩

/-- FF and FE decode to the same string: a put of FE replaces the value of FF. -/
theorem put_replaces_other_key :
    ∃ s, freshStore .dev .default id [smallDevice] = .ok s ∧ ([0xFF] : Bytes) ≠ [0xFE] ∧
      (Rust.get .dev [0xFF] (runSteps .dev [.call (.put [0xFF] [1] 0)] s)).1 = .ok [1] ∧
      (Rust.get .dev [0xFF] (Rust.putFlagged .dev [0xFE] [2] 0
        (runSteps .dev [.call (.put [0xFF] [1] 0)] s)).2).1 = .ok [2] := by
  have checked : (freshStore .dev .default id [smallDevice]).toOption.any (fun s =>
      (Rust.get .dev [0xFF] (runSteps .dev [.call (.put [0xFF] [1] 0)] s)).1 = .ok [1] ∧
      (Rust.get .dev [0xFF] (Rust.putFlagged .dev [0xFE] [2] 0
        (runSteps .dev [.call (.put [0xFF] [1] 0)] s)).2).1 = .ok [2]) = true := by
    decide +kernel
  obtain ⟨s, found, holds⟩ := ok_of_any checked
  rcases decide_eq_true_eq.mp holds with ⟨before, after⟩
  exact ⟨s, found, by decide, before, after⟩

end Embedkv.IsolationLaws
