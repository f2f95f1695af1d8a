import Embedkv.Lib.Runs
import Embedkv.MapLaws
import Embedkv.IsolationLaws

/-!
# Replicas stay in lockstep

The replicas of a formatted store hold the same data blocks and the same index
after every step: each step does to one of them what it does to all. A put that
fails, fails at the first replica, before anything is written. Any choice of
the replicas can therefore stand for the whole store.
-/

namespace Embedkv.LockstepLaws

open Embedkv.Lib Embedkv.Format Embedkv.Device Embedkv.State Embedkv.Session Embedkv.Exact
open Embedkv.Lockstep Embedkv.Run Embedkv.Steady Embedkv.MapLaws Embedkv.IsolationLaws

set_option autoImplicit false

/-- Any two replicas agree on their data blocks and on their index, and any of
the devices, opened on their own, read as the whole store does. -/
structure Aligned (build : Rust.Build) (s : Store MemDevice) : Prop where
  data : ∀ q ∈ s.replicas, ∀ r ∈ s.replicas, q.dev.blockCount = r.dev.blockCount ∧
    ∀ b, 1 ≤ b → b < q.dev.blockCount → q.dev.block b = r.dev.block b
  index : ∀ q ∈ s.replicas, ∀ r ∈ s.replicas, q.index = r.index
  subset : ∀ devs : List MemDevice, devs ≠ [] → (∀ dev ∈ devs, dev ∈ Rust.intoDevices s) →
    ∃ t, mount build devs s.opts = .ok t ∧
      ∀ key, (Rust.get build key t).1 = (Rust.get build key s).1

/-- A put succeeds on all replicas or changes none. -/
def WholePut (build : Rust.Build) : Step → Store MemDevice → Prop
  | .call (.put key value userFlags), s =>
    match Rust.putFlagged build key value userFlags s with
    | (.ok (), s') => ∀ q ∈ s'.replicas, (Rust.get build key (single q s.opts)).1 = .ok value
    | (.error _, s') => s' = s
  | _, _ => True

section
variable {build : Rust.Build} {opts : Options} {s : Store MemDevice} {r : Replica MemDevice}

theorem aligned_of_inStep (lock : InStep r opts s) (settled : Settled r) : Aligned build s where
  data q inQ p inP := by
    have here := (lock.twins q inQ).data
    have there := (lock.twins p inP).data
    refine ⟨here.count.trans there.count.symm, ?_⟩
    intro b data _
    exact (here.data b data).trans (there.data b data).symm
  index q inQ p inP := (lock.twins q inQ).index.trans (lock.twins p inP).index.symm
  subset devs nonempty among := by
    -- The chosen devices make a store of twins of the same replica.
    have chosen : InStep r opts { replicas := devs.map fun dev =>
        { dev := dev, header := r.header, index := r.index }, opts := opts } := by
      refine ⟨rfl, by simpa using nonempty, ?_⟩
      intro q member
      rcases List.mem_map.mp member with ⟨dev, inside, rfl⟩
      rcases List.mem_map.mp (among dev inside) with ⟨p, inS, rfl⟩
      have twin := lock.twins p inS
      exact ⟨twin.data, rfl, twin.mountable⟩
    rcases inStep_mount chosen settled.sound build with ⟨t, opened, lock'⟩
    have devices : Rust.intoDevices (Store.mk (devs.map fun dev =>
        ({ dev := dev, header := r.header, index := r.index } : Replica MemDevice)) opts) = devs := by
      rw [Rust.intoDevices, List.map_map]
      exact List.map_id devs
    rw [devices, ← lock.opts_eq] at opened
    rcases mount_settled settled with ⟨settled', holds, _⟩
    refine ⟨t, opened, ?_⟩
    intro key
    rw [store_get lock' settled', store_get lock settled, holds]

theorem wholePut_of_inStep (lock : InStep r opts s) (settled : Settled r) {step : Step}
    (allowed : StepAllowed r.dev.blockSize step) : WholePut build step s := by
  cases step with
  | call op =>
      cases op with
      | put key value userFlags =>
          rcases allowed with ⟨allowed, bounded⟩
          rcases ran : Rust.putFlagged build key value userFlags s with ⟨result, s'⟩
          rw [WholePut, ran]
          cases result with
          | error failure => exact inStep_put_error lock settled.sound allowed.2 ran
          | ok =>
              rcases store_put lock settled build allowed.2 value userFlags with
                ⟨result, r', answer, lock', answered⟩
              rw [ran] at answer lock'
              subst answer
              cases answered with
              | stored _ added settled' _ holds _ =>
                  intro q member
                  have alone : InStep r' opts (single q opts) := by
                    refine ⟨rfl, by simp [single], ?_⟩
                    intro p only
                    rw [List.mem_singleton.mp only]
                    exact lock'.twins q member
                  rw [lock.opts_eq, store_get alone settled', holds, Function.update_self,
                    (added_contents allowed bounded added).2]
                  rfl
      | delete key => trivial
      | get key => trivial
  | recover => trivial
  | reopen => trivial

theorem short_of_allowed {blockSize : Nat} {step : Step} (allowed : StepAllowed blockSize step) :
    Short step := by
  cases step with
  | call op => exact (Op.Allowed.key allowed).2
  | recover => trivial
  | reopen => trivial

end

/-- From any number of formatted devices, along every run of puts, deletes,
gets, recoveries and reopenings: the replicas agree after every step, any of
them can stand for the store, and every put is done on all of them or on none. -/
theorem replicas_stay_aligned {build : Rust.Build} {opts : Options} {blockSize blockCount n : Nat}
    {size_lt : blockSize < 2 ^ 32} {count_lt : blockCount < 2 ^ 32} {s : Store MemDevice}
    (large : 36 ≤ blockSize)
    (fresh : freshStore build opts id (List.replicate n
      (MemDevice.new blockSize blockCount size_lt count_lt)) = .ok s)
    {steps : List Step} (allowed : ∀ step ∈ steps, StepAllowed blockSize step) :
    Always (after build) (Aligned build) steps s ∧ Each (after build) (WholePut build) steps s := by
  -- One replica stands for all: the others are its twins.
  let inv (s : Store MemDevice) := ∃ r : Replica MemDevice, InStep r opts s ∧ Settled r ∧
    r.dev.blockSize = blockSize
  rcases fresh_settled large fresh with ⟨r, lock, settled, size, _⟩
  have start : inv s := ⟨r, lock, settled, size⟩
  have each : Each (after build) (fun step _ => StepAllowed blockSize step) steps s :=
    each_of_forall fun step member _ => allowed step member
  have keeps : ∀ step s, StepAllowed blockSize step → inv s → inv (after build step s) := by
    intro step s allowed here
    rcases here with ⟨r, lock, settled, size⟩
    rcases settled_step build lock settled (short_of_allowed allowed) with
      ⟨r', lock', settled', kept⟩
    exact ⟨r', lock', settled', kept.trans size⟩
  constructor
  · apply always_of_invariant ?_ keeps start each
    intro s here
    rcases here with ⟨r, lock, settled, _⟩
    exact aligned_of_inStep lock settled
  · apply each_of_invariant ?_ keeps start each
    intro step s allowed here
    rcases here with ⟨r, lock, settled, size⟩
    rw [← size] at allowed
    exact wholePut_of_inStep lock settled allowed

/-- Two replicas through a put that is refused for want of room. -/
theorem replicas_stay_aligned_two :
    ∃ s, freshStore .dev .default id (List.replicate 2 smallDevice) = .ok s ∧
      Always (after .dev) (Aligned .dev) [.call (.put [0x41] [1] 0), .call (.put [0x42] [2] 0),
        .call (.put [0x43] [3] 0), .recover, .call (.delete [0x41])] s ∧
      Each (after .dev) (WholePut .dev) [.call (.put [0x41] [1] 0), .call (.put [0x42] [2] 0),
        .call (.put [0x43] [3] 0), .recover, .call (.delete [0x41])] s := by
  have checked : (freshStore .dev .default id (List.replicate 2 smallDevice)).toOption.isSome := by
    decide +kernel
  rcases Option.isSome_iff_exists.mp checked with ⟨s, found⟩
  have fresh := toOption_eq_some found
  exact ⟨s, fresh, replicas_stay_aligned (by decide) fresh (by decide +kernel)⟩

end Embedkv.LockstepLaws
