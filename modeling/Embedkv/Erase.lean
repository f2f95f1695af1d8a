import Embedkv.Record
import Embedkv.Rust.Store
import Embedkv.Go.Store

/-!
# Erased and damaged blocks

A block that is neither a descriptor nor a chunk of anything is inert. Blocks
filled with one byte are inert whatever the byte, and so is every block whose
CRC fails. When the blocks that change all become inert, no record appears: the
complete records afterwards are those that kept all their blocks. Erasing a
complete record is, on every lawful device, the list of writes to its blocks.
-/

namespace Embedkv.Erase

open Embedkv.Lib Embedkv.Format Embedkv.Device Embedkv.State Embedkv.Codec Embedkv.Image
open Embedkv.Record

set_option autoImplicit false

def Inert (buf : Bytes) : Prop :=
  (∀ d, descriptorView d buf = none) ∧ ∀ d idx, chunkView d idx buf = none

theorem chunkView_crc {d idx : Nat} {buf : Bytes} {found : Bytes × Nat}
    (here : chunkView d idx buf = some found) :
    Rust.verifyBlockCrc buf = true ∧ found.2 = (chunkHeaderOf buf).nextChunk.toNat := by
  simp only [chunkView] at here
  split at here
  next checks =>
    cases here
    exact ⟨checks.2.1, rfl⟩
  next => cases here

theorem descriptorView_crc {d : Nat} {buf : Bytes} {head : CompleteRecord}
    (here : descriptorView d buf = some head) :
    Rust.verifyBlockCrc buf = true ∧ head.header = descriptorHeaderOf buf := by
  simp only [descriptorView] at here
  split at here
  next checks =>
    cases here
    exact ⟨checks.2.1, rfl⟩
  next => cases here

/-- A block is inert unless it is a CRC-valid block of one of the two record types. -/
theorem inert_of_invalid {buf : Bytes}
    (invalid : ¬(Rust.verifyBlockCrc buf = true ∧
      (u8At buf 0 = blockTypeRecordDescriptor ∨ u8At buf 0 = blockTypeValueChunk))) :
    Inert buf := by
  constructor
  · intro d
    rw [Option.eq_none_iff_forall_ne_some]
    intro head view
    exact invalid ⟨(descriptorView_crc view).1, .inl (descriptorView_type view)⟩
  · intro d idx
    rw [Option.eq_none_iff_forall_ne_some]
    intro found view
    exact invalid ⟨(chunkView_crc view).1, .inr (chunkView_type view)⟩

theorem inert_of_free {buf : Bytes} (free : u8At buf 0 = 0x00 ∨ u8At buf 0 = 0xFF) :
    Inert buf := by
  apply inert_of_invalid
  rintro ⟨_, descriptor | chunk⟩
  · rw [descriptor] at free
    exact absurd free (by decide)
  · rw [chunk] at free
    exact absurd free (by decide)

/-- A block filled with one byte has that byte as its header size, and no record
type is its own header size. -/
theorem inert_makeFreeBuf {blockSize : Nat} (large : 2 ≤ blockSize) (pattern : UInt8) :
    Inert (makeFreeBuf blockSize pattern) := by
  obtain ⟨rest, rfl⟩ : ∃ rest, blockSize = rest + 2 := ⟨blockSize - 2, by omega⟩
  have first : u8At (makeFreeBuf (rest + 2) pattern) 0 = pattern := rfl
  have second : u8At (makeFreeBuf (rest + 2) pattern) 1 = pattern := rfl
  constructor
  · intro d
    have fails : ¬(pattern = blockTypeRecordDescriptor ∧
        pattern.toNat = recordDescriptorHeaderSize) := by
      rintro ⟨rfl, size⟩
      exact absurd size (by decide)
    simp only [descriptorView, descriptorHeaderOf, first, second]
    rw [if_neg]
    intro checks
    exact fails ⟨checks.1, checks.2.2.1⟩
  · intro d idx
    have fails : ¬(pattern = blockTypeValueChunk ∧ pattern.toNat = valueChunkHeaderSize) := by
      rintro ⟨rfl, size⟩
      exact absurd size (by decide)
    simp only [chunkView, chunkHeaderOf, first, second]
    rw [if_neg]
    intro checks
    exact fails ⟨checks.1, checks.2.2.1⟩

/-- No block of a record is inert. -/
theorem record_not_inert {img : MemDevice} {d c : Nat} {rec : CompleteRecord}
    (record : RecordAt img d rec) (member : c ∈ rec.blocks) : ¬Inert (img.block c) := by
  intro inert
  rw [record.blocks_eq] at member
  rcases List.mem_cons.mp member with rfl | chunk
  · obtain ⟨_, head, _, view, _⟩ := record
    rw [inert.1] at view
    cases view
  · obtain ⟨_, idx, found, view⟩ := record.chunk_view chunk
    rw [inert.2] at view
    cases view

/-! ## Damage -/

/-- `after` is `before` with some blocks of `area` made inert. -/
structure Damage (area : Nat → Prop) (before after : MemDevice) : Prop where
  size : after.blockSize = before.blockSize
  count : after.blockCount = before.blockCount
  change : ∀ c, after.block c = before.block c ∨ area c ∧ Inert (after.block c)

/-- Damage completes no record, and leaves the survivors as they were. -/
theorem Damage.survivor {area : Nat → Prop} {before after : MemDevice}
    (damage : Damage area before after) {d : Nat} {rec : CompleteRecord}
    (record : RecordAt after d rec) :
    RecordAt before d rec ∧ ∀ c ∈ rec.blocks, after.block c = before.block c := by
  apply record.of_changed damage.count
  · rcases damage.change d with kept | ⟨_, inert⟩
    · exact kept
    · obtain ⟨_, head, _, view, _⟩ := record
      rw [inert.1 d] at view
      cases view
  · intro c
    rcases damage.change c with kept | ⟨_, inert⟩
    · exact .inl kept
    · exact .inr (inert.2 d)

/-- A record outside the damaged area survives. -/
theorem Damage.spared {area : Nat → Prop} {before after : MemDevice}
    (damage : Damage area before after) {d : Nat} {rec : CompleteRecord}
    (record : RecordAt before d rec) (outside : ∀ c ∈ rec.blocks, ¬area c) :
    RecordAt after d rec := by
  apply record.congr damage.count
  intro c member
  rcases damage.change c with kept | ⟨inside, _⟩
  · exact kept
  · exact absurd inside (outside c member)

/-- A record with a changed block is gone. -/
theorem Damage.destroyed {area : Nat → Prop} {before after : MemDevice}
    (damage : Damage area before after) {d c : Nat} {rec : CompleteRecord}
    (record : RecordAt before d rec) (member : c ∈ rec.blocks)
    (changed : after.block c ≠ before.block c) (rec' : CompleteRecord) : ¬RecordAt after d rec' := by
  intro still
  obtain ⟨old, same⟩ := damage.survivor still
  rw [recordAt_unique old record] at same
  exact changed (same c member)

theorem Damage.refl (area : Nat → Prop) (img : MemDevice) : Damage area img img :=
  ⟨rfl, rfl, fun _ => .inl rfl⟩

/-- Writing an inert buffer over a block of the area is damage on top of damage. -/
theorem Damage.set {area : Nat → Prop} {before after : MemDevice}
    (damage : Damage area before after) {c : Nat} {buf : Bytes} (inside : area c)
    (inert : Inert buf) : Damage area before (after.set c buf) where
  size := by rw [MemDevice.blockSize_set, damage.size]
  count := by rw [MemDevice.blockCount_set, damage.count]
  change := by
    intro other
    by_cases same : other = c
    · subst same
      by_cases fits : other < after.blockCount ∧ buf.length = after.blockSize
      · rw [MemDevice.block_set_self after fits.1 fits.2]
        exact .inr ⟨inside, inert⟩
      · rw [MemDevice.set_misfit fits]
        exact damage.change other
    · rw [MemDevice.block_set_other after buf same]
      exact damage.change other

theorem Damage.apply {area : Nat → Prop} {before after : MemDevice}
    (damage : Damage area before after) (writes : List (Nat × Bytes))
    (inside : ∀ write ∈ writes, area write.1 ∧ Inert write.2) :
    Damage area before (after.apply writes) := by
  induction writes generalizing after with
  | nil => exact damage
  | cons write rest ih =>
      have here := inside write List.mem_cons_self
      exact ih (damage.set here.1 here.2) fun other member =>
        inside other (List.mem_cons_of_mem _ member)

/-! ## Erasing a record -/

/-- The writes that erase a list of blocks. -/
def erasures (blocks : List Nat) (free : Bytes) : List (Nat × Bytes) := blocks.map (·, free)

theorem erasures_blocks (blocks : List Nat) (free : Bytes) :
    (erasures blocks free).map Prod.fst = blocks := by
  rw [erasures, List.map_map]
  exact List.map_id _

section
variable {D : Type} [BlockDevice D] [LawfulBlockDevice D]

/-- The erasing loop follows the chain: each block is read before it is erased,
and erasing it leaves the rest of the chain alone. -/
theorem rust_freeChain (free : Bytes) {chunks : List Nat} {d idx next : Nat} {payload : Bytes}
    {visited : Finset Nat} (dev : D) (large : 20 ≤ (image dev).blockSize)
    (sized : free.length = (image dev).blockSize)
    (chain : Chain (image dev) d idx next chunks payload)
    (fresh : ∀ c ∈ chunks, c ∉ visited) :
    Rust.freeChain (image dev).blockCount free next visited dev =
      writeAll (erasures chunks free) dev := by
  induction chunks generalizing dev idx next payload visited with
  | nil =>
      rw [Rust.freeChain, if_pos chain.1]
      rfl
  | cons c rest ih =>
      have distinct := chain_nodup chain
      obtain ⟨rfl, inside, head, link, tail, view, _, after⟩ := chain
      have size : ((image dev).block next).length = (image dev).blockSize :=
        (image dev).block_length inside
      have unseen : ¬(next ≥ (image dev).blockCount ∨ next ∈ visited) := by
        rintro (outside | seen)
        · omega
        · exact fresh next List.mem_cons_self seen
      have unmarshalled := rust_unmarshalChunkHeader ((image dev).block next) (by omega)
      obtain ⟨crc, linked⟩ := chunkView_crc view
      rw [Rust.freeChain, if_neg (block_index_ne_null inside), dif_neg unseen,
        Proc.bind_ok (LawfulBlockDevice.readBlock_eq dev next inside), unmarshalled,
        Proc.ofExcept_ok_bind_apply]
      simp only [crc, Bool.not_true, Bool.false_eq_true, if_false]
      show _ = (do BlockDevice.writeBlock next free; writeAll (erasures rest free)) dev
      rcases ran : BlockDevice.writeBlock next free dev with ⟨result, dev'⟩
      cases result with
      | error failure => rw [Proc.bind_error ran, Proc.bind_error ran]
      | ok value =>
          have written := LawfulBlockDevice.writeBlock_ok dev dev' next free inside sized ran
          rw [Proc.bind_ok ran, Proc.bind_ok ran, ← linked]
          have count : (image dev').blockCount = (image dev).blockCount := by
            rw [written, MemDevice.blockCount_set]
          have width : (image dev').blockSize = (image dev).blockSize := by
            rw [written, MemDevice.blockSize_set]
          rw [← count]
          apply ih dev' (by omega) (by omega) (chain_congr count ?_ after)
          · intro other member
            rw [Finset.mem_insert, not_or]
            refine ⟨?_, fresh other (List.mem_cons_of_mem _ member)⟩
            rintro rfl
            exact (List.nodup_cons.mp distinct).1 member
          · intro other member
            rw [written]
            apply MemDevice.block_set_other
            rintro rfl
            exact (List.nodup_cons.mp distinct).1 member

end

end Embedkv.Erase
