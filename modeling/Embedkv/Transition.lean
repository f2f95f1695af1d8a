import Mathlib.Logic.Function.Basic
import Embedkv.Plan

/-!
# How the records of an image change

A put adds one record to the image and an erasure takes one away. A put that
was cut short has added its record or none, and an erasure that was cut short
has left its record whole or destroyed it: there is no third case, whichever
blocks were reached and whatever was left in the others.
-/

namespace Embedkv.Transition

open Embedkv.Lib Embedkv.Format Embedkv.Device Embedkv.State Embedkv.Image
open Embedkv.Record Embedkv.Erase Embedkv.Layout Embedkv.Effects Embedkv.Plan

set_option autoImplicit false

/-! ## Erasing -/

theorem recordAt_congr {img img' : MemDevice} {d : Nat}
    (same : ∀ rec, RecordAt img' d rec ↔ RecordAt img d rec) : recordAt img' d = recordAt img d := by
  apply Option.ext
  intro rec
  rw [recordAt_eq_some, recordAt_eq_some]
  exact same rec

/-- Damage within one record leaves it whole or destroys it; the others stay. -/
theorem recordAt_damage {img img' : MemDevice} {d : Nat} {rec : CompleteRecord}
    (record : RecordAt img d rec) (damage : Damage (· ∈ rec.blocks) img img') :
    recordAt img' = recordAt img ∨ recordAt img' = Function.update (recordAt img) d none := by
  have others : ∀ d', d' ≠ d → recordAt img' d' = recordAt img d' := by
    intro d' different
    apply recordAt_congr
    intro other
    constructor
    · intro still
      exact (damage.survivor still).1
    · intro before
      apply damage.spared before
      intro c member inside
      exact records_disjoint before record different member inside
  by_cases whole : ∀ c ∈ rec.blocks, img'.block c = img.block c
  · left
    funext d'
    by_cases same : d' = d
    · subst same
      rw [recordAt_eq_some.mpr record, recordAt_eq_some.mpr (record.congr damage.count whole)]
    · exact others d' same
  · right
    push Not at whole
    obtain ⟨c, member, changed⟩ := whole
    funext d'
    by_cases same : d' = d
    · subst same
      rw [Function.update_self, recordAt_eq_none]
      exact damage.destroyed record member changed
    · rw [Function.update_of_ne same, others d' same]

theorem erasures_damage {img : MemDevice} {blocks : List Nat} {free : Bytes} (inert : Inert free)
    {part : List (Nat × Bytes)} (among : ∀ write ∈ part, write ∈ erasures blocks free) :
    Damage (· ∈ blocks) img (img.apply part) := by
  apply (Damage.refl _ img).apply
  intro write member
  obtain ⟨c, block, rfl⟩ := List.mem_map.mp (among write member)
  exact ⟨block, inert⟩

theorem block_erased {img : MemDevice} {d : Nat} {rec : CompleteRecord} {free : Bytes}
    (record : RecordAt img d rec) (sized : free.length = img.blockSize) {c : Nat}
    (member : c ∈ rec.blocks) : (img.apply (erasures rec.blocks free)).block c = free := by
  have written : (c, free) ∈ erasures rec.blocks free := List.mem_map.mpr ⟨c, member, rfl⟩
  apply MemDevice.block_apply_mem _ _ _ _ _ written (record.blocks_inside member) sized
  rw [erasures_blocks]
  exact record.blocks_nodup

/-- Erasing all blocks of a record takes it away. -/
theorem recordAt_erased {img : MemDevice} {d : Nat} {rec : CompleteRecord} {free : Bytes}
    (record : RecordAt img d rec) (inert : Inert free) (sized : free.length = img.blockSize) :
    recordAt (img.apply (erasures rec.blocks free)) = Function.update (recordAt img) d none := by
  rcases recordAt_damage record (erasures_damage inert fun _ member => member) with same | gone
  · have descriptor : d ∈ rec.blocks := by
      rw [record.blocks_eq]
      exact List.mem_cons_self
    have still := recordAt_eq_some.mpr record
    rw [← same, recordAt_eq_some] at still
    obtain ⟨_, head, _, view, _⟩ := still
    rw [block_erased record sized descriptor, inert.1 d] at view
    cases view
  · exact gone

/-! ## Writing -/

theorem written_holds {img : MemDevice} {d : Nat} {chunks : List Nat} {key value : Bytes}
    {generation : Nat} {userFlags : UInt32} (placed : Placed img d chunks key) {write : Nat × Bytes}
    (member : write ∈ recordWrites img.blockSize d chunks key generation value userFlags) :
    (img.apply (recordWrites img.blockSize d chunks key generation value userFlags)).block write.1 =
      write.2 := by
  obtain ⟨inside, sized⟩ := recordWrites_valid placed member
  apply MemDevice.block_apply_mem _ _ _ _ _ member inside sized
  rw [recordWrites_blocks]
  exact placed.distinct

section
variable {img : MemDevice} {d : Nat} {chunks : List Nat} {key value : Bytes} {generation : Nat}
  {userFlags : UInt32} (fits : Fits img d chunks key value)
  (inert : ∀ c ∈ d :: chunks, Inert (img.block c))

include fits

/-- The record a put leaves on the image. -/
theorem record_written (generation : Nat) (userFlags : UInt32) :
    ∃ rec, RecordAt (img.apply (recordWrites img.blockSize d chunks key generation value
        userFlags)) d rec ∧ rec.chunkBlocks = chunks ∧ rec.generation = generation % 2 ^ 32 ∧
      (key.length ≤ 65535 → rec.key = key ∧ rec.value = value.take (asU32 value.length)) := by
  have fits' : Fits (img.apply (recordWrites img.blockSize d chunks key generation value
      userFlags)) d chunks key value := by
    constructor
    · rw [MemDevice.blockSize_apply]
      exact fits.key_fits
    · rw [MemDevice.blockCount_apply]
      exact fits.inside
    · exact fits.distinct
    · rw [MemDevice.blockSize_apply]
      exact fits.counted
  apply record_of_written fits' generation userFlags
  rw [MemDevice.blockSize_apply]
  intro write member
  exact written_holds fits.placed member

include inert

/-- A partial write leaves the records with other descriptors as they were. -/
theorem recordAt_blend_other {img' : MemDevice}
    (blend : Blend (recordWrites img.blockSize d chunks key generation value userFlags) img img')
    {d' : Nat} (different : d' ≠ d) : recordAt img' d' = recordAt img d' := by
  apply recordAt_congr
  intro rec
  constructor
  · intro after
    exact (blend.other fits different after).1
  · intro before
    apply blend.kept before
    intro c member allocated
    exact record_not_inert before member (inert c allocated)

/-- A complete write adds its record to the image. -/
theorem recordAt_written {rec : CompleteRecord}
    (record : RecordAt (img.apply (recordWrites img.blockSize d chunks key generation value
      userFlags)) d rec) :
    recordAt (img.apply (recordWrites img.blockSize d chunks key generation value userFlags)) =
      Function.update (recordAt img) d (some rec) := by
  have blend : Blend (recordWrites img.blockSize d chunks key generation value userFlags) img
      (img.apply (recordWrites img.blockSize d chunks key generation value userFlags)) :=
    (Blend.refl _ img).apply fun _ member => member
  funext d'
  by_cases same : d' = d
  · subst same
    rw [Function.update_self, recordAt_eq_some]
    exact record
  · rw [Function.update_of_ne same]
    exact recordAt_blend_other fits inert blend same

/-- A partial write is complete or adds nothing. -/
theorem recordAt_blend {img' : MemDevice}
    (blend : Blend (recordWrites img.blockSize d chunks key generation value userFlags) img img') :
    img' = img.apply (recordWrites img.blockSize d chunks key generation value userFlags) ∨
      recordAt img' = recordAt img := by
  by_cases arrived : ∃ rec, RecordAt img' d rec
  · left
    obtain ⟨rec, record⟩ := arrived
    have holds := blend.arrived fits inert record
    apply MemDevice.ext_block
    · rw [blend.size, MemDevice.blockSize_apply]
    · rw [blend.count, MemDevice.blockCount_apply]
    · intro c _
      by_cases touched : c ∈ (recordWrites img.blockSize d chunks key generation value
          userFlags).map Prod.fst
      · obtain ⟨write, member, rfl⟩ := List.mem_map.mp touched
        rw [holds write member, written_holds fits.placed member]
      · rw [MemDevice.block_apply_other _ _ _ touched]
        rcases blend.change c with kept | written | ⟨inside, _⟩
        · exact kept
        · exact absurd (List.mem_map_of_mem written) touched
        · exact absurd inside touched
  · right
    funext d'
    by_cases same : d' = d
    · subst same
      have before : recordAt img d' = none := by
        rw [recordAt_eq_none]
        intro rec record
        apply record_not_inert record _ (inert d' List.mem_cons_self)
        rw [record.blocks_eq]
        exact List.mem_cons_self
      rw [before, recordAt_eq_none]
      intro rec record
      exact arrived ⟨rec, record⟩
    · exact recordAt_blend_other fits inert blend same

end

end Embedkv.Transition
