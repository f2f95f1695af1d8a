import Embedkv.Lib.Runs
import Embedkv.Alone
import Embedkv.MapLaws
import Embedkv.DeleteLaws

/-!
# Which blocks an operation may write

A put writes free blocks and the blocks of the record it replaces, a delete the
blocks of the record it removes, a recovery nothing that is selected, and none of
them block 0. All of this rests on the index naming complete records. A recovery
made while an entry names a record that is not the selected one of its key erases
that record, and the entry then points at whatever is written there next; a delete
follows it as if it were a descriptor.
-/

namespace Embedkv.FrameLaws

open Embedkv.Lib Embedkv.Format Embedkv.Device Embedkv.State Embedkv.Image Embedkv.Record
open Embedkv.Effects Embedkv.Plan Embedkv.Outcome Embedkv.Session Embedkv.Run Embedkv.Steady
open Embedkv.MapLaws Embedkv.Frame Embedkv.Alone Embedkv.DeleteLaws

set_option autoImplicit false

section
variable {D : Type} [BlockDevice D] [ReliableBlockDevice D]

/-- The blocks of the record the index holds for a string. -/
def heldBlocks (r : Replica D) (s : Bytes) : List Nat :=
  (indexedBlocks (image r.dev) r.index s).getD []

/-- The blocks a step may write. -/
def MayWrite (r : Replica D) (b : Nat) : Step → Prop
  | .call (.put key _ _) => b ∈ freeBlocks (image r.dev) ∨ b ∈ heldBlocks r (fromUtf8Lossy key)
  | .call (.delete key) => b ∈ heldBlocks r (fromUtf8Lossy key)
  | .call (.get _) => False
  | .recover => ∀ s rec, Scan.Selected fromUtf8Lossy (image r.dev) s rec → b ∉ rec.blocks
  | .reopen => False

/-- Every block that a step changes is one it may write, and not block 0. -/
def Framed (build : Rust.Build) (step : Step) (s : Store D) : Prop :=
  List.Forall₂ (fun r r' => ∀ b, (image r'.dev).block b ≠ (image r.dev).block b →
    b ≠ 0 ∧ MayWrite r b step) s.replicas (after build step s).replicas

/-- A recovery is made while every entry names the selected record of its string. -/
def RecoversCurrent (step : Step) (s : Store D) : Prop :=
  step = .recover → ∀ r ∈ s.replicas, Current r

variable {build : Rust.Build} {opts : Options} {step : Step} {r r' : Replica D}
  {result : Except Failure (Option Bytes)}
  {matching : Bytes → IndexEntry → CompleteRecord → Prop}

theorem mayWrite_effect (sound : Sound matching r) (effect : Effect build opts r step result r')
    {b : Nat} (changed : (image r'.dev).block b ≠ (image r.dev).block b) : MayWrite r b step := by
  cases effect with
  | refused | missing | get => exact absurd rfl changed
  | @put key _ _ _ new _ _ done =>
      by_contra outside
      have notFree : b ∉ freeBlocks (image r.dev) := fun free => outside (.inl free)
      have notHeld : b ∉ heldBlocks r (fromUtf8Lossy key) := fun old => outside (.inr old)
      apply changed
      apply done.blocks.other b _ notHeld
      intro mine
      exact notFree (done.blocks.fresh b mine)
  | delete done =>
      by_contra outside
      apply changed
      apply done.blocks.other
      intro member
      apply outside
      change b ∈ heldBlocks r _
      rw [heldBlocks, indexedBlocks_of_record done.found done.record]
      exact member
  | recover =>
      intro s rec selected member
      apply changed
      rw [image_recoveredReplica sound]
      exact Recovery.block_recovered_other _ (Recovery.garbage_not_selected selected member)
  | reopen => exact absurd rfl changed

theorem framed_effect (sound : Sound matching r) (effect : Effect build opts r step result r')
    (ran : step.run build (single r opts) = (result, single r' opts)) :
    Framed build step (single r opts) := by
  rw [Framed, after, ran]
  refine .cons ?_ .nil
  intro b changed
  refine ⟨?_, mayWrite_effect sound effect changed⟩
  intro zero
  subst zero
  exact changed (effect.keeps sound).header

/-- The index goes on naming complete records, whatever the keys are. -/
theorem sound_effect (sound : Sound Anything r) (effect : Effect build opts r step result r')
    (current : step = .recover → Current r) : Sound Anything r' := by
  cases effect with
  | refused | missing | get => exact sound
  | put _ done => exact done.sound sound trivial
  | delete done => exact done.sound sound
  | recover => exact recovered_sound sound (current rfl) build opts.freePattern
  | reopen => exact ⟨sound.large, sound.mountable, indexedBy_scan.mono fun _ _ _ _ => trivial⟩

/-- From every image that opens, along every run in which each recovery is made
while the entries name the selected records, every step writes only what it may. -/
theorem steps_framed {dev : D} {s : Store D} (large : 36 ≤ (image dev).blockSize)
    (opened : mount build [dev] opts = .ok s) {steps : List Step}
    (current : Each (after build) RecoversCurrent steps s) :
    Each (after build) (Framed build) steps s := by
  rcases mount_single_inv large opened with ⟨mountable, rfl⟩
  let inv (s : Store D) := ∃ r, s = single r opts ∧ Sound Anything r
  have start : inv (single (scannedReplica dev) opts) :=
    ⟨_, rfl, large, mountable, indexedBy_scan.mono fun _ _ _ _ => trivial⟩
  refine each_of_invariant ?_ ?_ start current
  · rintro step s _ ⟨r, rfl, sound⟩
    rcases step_effect sound build opts step with ⟨result, r', ran, effect⟩
    exact framed_effect sound effect ran
  · rintro step s recovers ⟨r, rfl, sound⟩
    rcases step_effect sound build opts step with ⟨result, r', ran, effect⟩
    refine ⟨r', congrArg Prod.snd ran, sound_effect sound effect ?_⟩
    intro isRecover
    exact recovers isRecover r List.mem_cons_self

end

/-- A formatted device of three data blocks that holds one record of 4A and, as
an interrupted update leaves them, two generations of 4B. -/
def staleDevice : MemDevice :=
  let blank := MemDevice.zeroed 40 4
  let formatted := (Rust.format .dev .default [blank]).2.headD blank
  let once := (Rust.writeRecord .dev 1 [] [0x4A] 1 [7] 0 formatted).2
  let twice := (Rust.writeRecord .dev 2 [] [0x4B] 1 [8] 0 once).2
  (Rust.writeRecord .dev 3 [] [0x4B] 2 [9] 0 twice).2

/-- A recovery right after opening, an update and a delete over stale records. -/
theorem steps_framed_stale :
    ∃ s, mount .dev [staleDevice] .default = .ok s ∧
      Each (after .dev) (Framed .dev) [.recover, .call (.put [0x4B] [1] 0),
        .call (.delete [0x4B])] s := by
  have large : 36 ≤ (image staleDevice).blockSize := by decide +kernel
  have checked : (mount .dev [staleDevice] .default).toOption.isSome := by decide +kernel
  rcases Option.isSome_iff_exists.mp checked with ⟨s, found⟩
  have opened := toOption_eq_some found
  refine ⟨s, opened, steps_framed large opened ⟨?_, nofun, nofun, trivial⟩⟩
  rcases mount_single_inv large opened with ⟨_, rfl⟩
  intro _ r only
  rw [List.mem_singleton.mp only]
  exact current_scanned staleDevice

/-- The calls that lead a delete of 4B to block 0. The put after the first
delete starts at generation 1 again and behind the stale record, the recovery
erases what it wrote, and the chunk of 4C takes its place. -/
def misleading : List Step :=
  [.call (.delete [0x4B]), .call (.put [0x4B] [1] 0), .recover, .call (.delete [0x4A]),
    .call (.put [0x4C] [1, 2, 3, 0, 0, 0, 0] 0)]

theorem delete_erases_header :
    ∃ s, 36 ≤ staleDevice.blockSize ∧
      (∀ rec ∈ Scan.records staleDevice, isUtf8 rec.key = true ∧ rec.generation ≤ 2) ∧
      (∀ step ∈ misleading, StepAllowed staleDevice.blockSize step) ∧
      mount .dev [staleDevice] .default = .ok s ∧
      ((runSteps .dev misleading s).replicas.map fun r => (r.dev.block 0).take 4) =
        [[0x01, 0x45, 0x4B, 0x56]] ∧
      ((after .dev (.call (.delete [0x4B])) (runSteps .dev misleading s)).replicas.map
        fun r => r.dev.block 0) = [List.replicate 40 0] := by
  have checked : (mount .dev [staleDevice] .default).toOption.any (fun s =>
      ((runSteps .dev misleading s).replicas.map fun r => (r.dev.block 0).take 4) =
        [[0x01, 0x45, 0x4B, 0x56]] ∧
      ((after .dev (.call (.delete [0x4B])) (runSteps .dev misleading s)).replicas.map
        fun r => r.dev.block 0) = [List.replicate 40 0]) = true := by
    decide +kernel
  obtain ⟨s, found, holds⟩ := ok_of_any checked
  exact ⟨s, by decide +kernel, by decide +kernel, by decide +kernel, found,
    decide_eq_true_eq.mp holds⟩

end Embedkv.FrameLaws
