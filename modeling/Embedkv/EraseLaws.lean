import Embedkv.Lib.Walk
import Embedkv.LayoutLaws

/-!
# What freeing a record erases

Freeing reads the descriptor, erases it and then follows the links from block to
block as long as they lead to blocks of the device with a valid CRC. It asks
neither for the type of those blocks nor for their owner. On a complete record
this walk is the chain the validator read; on a chain that was damaged or partly
given to another record it goes wherever the links lead.
-/

namespace Embedkv.EraseLaws

open Embedkv.Lib Embedkv.Lib.Walk Embedkv.Format Embedkv.Device Embedkv.State Embedkv.Codec
open Embedkv.Image Embedkv.Record Embedkv.Erase Embedkv.RecordLaws Embedkv.Stores

set_option autoImplicit false

/-! ## The walk of the erasing loop -/

/-- The erasing loop goes on into this block. -/
def Enters (img : MemDevice) (c : Nat) : Prop :=
  c < img.blockCount ∧ Rust.verifyBlockCrc (img.block c) = true

/-- The link of a block, read as that of a chunk. -/
def link (img : MemDevice) (c : Nat) : Nat := (chunkAt img c).nextChunk.toNat

/-- After some blocks were filled with `free`. -/
structure Wiped (area : Nat → Prop) (free : Bytes) (before after : MemDevice) : Prop where
  size : after.blockSize = before.blockSize
  count : after.blockCount = before.blockCount
  inside : ∀ c, area c → after.block c = free
  outside : ∀ c, ¬area c → after.block c = before.block c

theorem Wiped.set {visited : Finset Nat} {free : Bytes} {before after : MemDevice} {next : Nat}
    (wiped : Wiped (· ∈ visited) free before after) (inside : next < before.blockCount)
    (sized : free.length = before.blockSize) :
    Wiped (· ∈ insert next visited) free before (after.set next free) where
  size := by rw [MemDevice.blockSize_set, wiped.size]
  count := by rw [MemDevice.blockCount_set, wiped.count]
  inside := by
    intro c member
    by_cases here : c = next
    · rw [here]
      apply MemDevice.block_set_self
      · rw [wiped.count]
        exact inside
      · rw [wiped.size, sized]
    · rw [MemDevice.block_set_other _ _ here]
      exact wiped.inside c (Finset.mem_of_mem_insert_of_ne member here)
  outside := by
    intro c unvisited
    rw [Finset.mem_insert, not_or] at unvisited
    rw [MemDevice.block_set_other _ _ unvisited.1]
    exact wiped.outside c unvisited.2

section
variable {D : Type} [BlockDevice D] [ReliableBlockDevice D]

/-- The erasing loop fills exactly the blocks its walk reaches. -/
theorem freeChain_wipes {img : MemDevice} {start next : Nat} {visited : Finset Nat} {free : Bytes}
    {dev : D} (large : 20 ≤ img.blockSize) (sized : free.length = img.blockSize)
    (wiped : Wiped (· ∈ visited) free img (image dev))
    (walked : Walked (Enters img) (link img) start next visited) :
    ∃ dev', Rust.freeChain img.blockCount free next visited dev = (.ok (), dev') ∧
      Wiped (Reached (Enters img) (link img) start) free img (image dev') := by
  induction left : (Finset.range img.blockCount \ visited).card using Nat.strong_induction_on
    generalizing next visited dev with
  | h remaining ih =>
      subst left
      -- Wherever the loop stops, the blocks visited are those reached.
      have done (stops : Enters img next → next ∈ visited) :
          Wiped (Reached (Enters img) (link img) start) free img (image dev) := by
        have same : Reached (Enters img) (link img) start = (· ∈ visited) := by
          funext c
          exact propext (walked.stopped stops c)
        rw [same]
        exact wiped
      by_cases ended : next = nullBlockIndex
      · refine ⟨dev, by rw [Rust.freeChain, if_pos ended]; rfl, done ?_⟩
        intro enter
        exact absurd ended (block_index_ne_null enter.1)
      by_cases stale : next ≥ img.blockCount ∨ next ∈ visited
      · refine ⟨dev, by rw [Rust.freeChain, if_neg ended, dif_pos stale]; rfl, done ?_⟩
        intro enter
        rcases stale with outside | seen
        · have within : next < img.blockCount := enter.1
          omega
        · exact seen
      have inside : next < img.blockCount := by
        rw [not_or] at stale
        omega
      have unread : (image dev).block next = img.block next :=
        wiped.outside next fun seen => stale (.inr seen)
      have here : next < (image dev).blockCount := by
        rw [wiped.count]
        exact inside
      have long : 20 ≤ (img.block next).length := by
        rw [img.block_length inside]
        exact large
      have read : BlockDevice.readBlock next dev = (.ok (img.block next), dev) := by
        rw [LawfulBlockDevice.readBlock_eq dev next here, unread]
      rw [Rust.freeChain, if_neg ended, dif_neg stale, Proc.bind_ok read,
        rust_unmarshalChunkHeader _ long, Proc.ofExcept_ok_bind_apply]
      by_cases crc : Rust.verifyBlockCrc (img.block next) = true
      · simp only [crc, Bool.not_true, Bool.false_eq_true, if_false]
        have width : free.length = (image dev).blockSize := by rw [wiped.size, sized]
        rcases ran : BlockDevice.writeBlock next free dev with ⟨result, dev'⟩
        have total := ReliableBlockDevice.writeBlock_total dev next free here width
        rw [ran] at total
        cases total
        have written := LawfulBlockDevice.writeBlock_ok dev dev' next free here width ran
        rw [Proc.bind_ok ran]
        apply ih _ (unvisited_decreases stale) ?_ (walked.step ⟨inside, crc⟩) rfl
        rw [written]
        exact wiped.set inside sized
      · have failed : Rust.verifyBlockCrc (img.block next) = false :=
          Bool.eq_false_of_not_eq_true crc
        simp only [failed, Bool.not_false, if_true]
        exact ⟨dev, rfl, done fun enter => absurd enter.2 crc⟩

/-! ## Freeing a record -/

/-- The blocks that freeing `d` walks into, once `d` itself is erased. -/
def Walks (img : MemDevice) (pattern : UInt8) (d : Nat) : Nat → Prop :=
  let erased := img.set d (makeFreeBuf img.blockSize pattern)
  Reached (Enters erased) (link erased) (descriptorAt img d).nextChunk.toNat

theorem freeRecord_wipes (dev : D) (large : 36 ≤ (image dev).blockSize) {d : Nat}
    (inside : d < (image dev).blockCount)
    (crc : Rust.verifyBlockCrc ((image dev).block d) = true) (pattern : UInt8) :
    ∃ dev', Rust.freeRecord d pattern dev = (.ok (), dev') ∧
      Wiped (Walks (image dev) pattern d) (makeFreeBuf (image dev).blockSize pattern)
        ((image dev).set d (makeFreeBuf (image dev).blockSize pattern)) (image dev') := by
  have freeSize : (makeFreeBuf (image dev).blockSize pattern).length = (image dev).blockSize :=
    List.length_replicate
  have long : 32 ≤ ((image dev).block d).length := by
    rw [(image dev).block_length inside]
    omega
  rw [Rust.freeRecord, Proc.bind_ok (blockSizeOf_eq dev), Proc.bind_ok (blockCountOf_eq dev),
    Proc.bind_ok (LawfulBlockDevice.readBlock_eq dev d inside),
    rust_unmarshalDescriptorHeader _ long, Proc.ofExcept_ok_bind_apply]
  simp only [crc, Bool.not_true, Bool.false_eq_true, if_false]
  rcases ran : BlockDevice.writeBlock d (makeFreeBuf (image dev).blockSize pattern) dev with
    ⟨result, dev'⟩
  have total := ReliableBlockDevice.writeBlock_total dev d _ inside freeSize
  rw [ran] at total
  cases total
  have written := LawfulBlockDevice.writeBlock_ok dev dev' d _ inside freeSize ran
  have untouched : Wiped (· ∈ (∅ : Finset Nat)) (makeFreeBuf (image dev).blockSize pattern)
      ((image dev).set d (makeFreeBuf (image dev).blockSize pattern)) (image dev') := by
    rw [written]
    exact ⟨rfl, rfl, fun c member => absurd member (Finset.notMem_empty c), fun c _ => rfl⟩
  have walk := freeChain_wipes (by rw [MemDevice.blockSize_set]; omega)
    (by rw [MemDevice.blockSize_set]; exact freeSize) untouched
    (Walked.begin (descriptorAt (image dev) d).nextChunk.toNat)
  rw [MemDevice.blockCount_set] at walk
  rw [Proc.bind_ok ran]
  exact walk

/-- Freeing stays with the record's own blocks exactly when its walk does; a
complete record is erased as a whole and alone. -/
theorem freeing_stays_iff (impl : Impl) (dev : D) (large : 36 ≤ (image dev).blockSize) {d : Nat}
    (inside : d < (image dev).blockCount)
    (crc : Rust.verifyBlockCrc ((image dev).block d) = true) (pattern : UInt8) :
    ∃ dev', impl.freeRecord d pattern dev = (.ok (), dev') ∧
      ((∀ c, (image dev').block c ≠ (image dev).block c → c = d ∨
          (chunkAt (image dev) c).blockType = 0x03 ∧
            (chunkAt (image dev) c).ownerDescriptor.toNat = d) ↔
        ∀ c, Walks (image dev) pattern d c → c = d ∨
          (image dev).block c = makeFreeBuf (image dev).blockSize pattern ∨
          (chunkAt (image dev) c).blockType = 0x03 ∧
            (chunkAt (image dev) c).ownerDescriptor.toNat = d) ∧
      ∀ rec, (impl.verifyAndReadRecord d dev).1 = .ok (some rec) →
        (∀ c ∈ d :: rec.chunkBlocks,
          (image dev').block c = makeFreeBuf (image dev).blockSize pattern) ∧
        ∀ c ∉ d :: rec.chunkBlocks, (image dev').block c = (image dev).block c := by
  obtain ⟨dev', freed, wiped⟩ := freeRecord_wipes dev large inside crc pattern
  have elsewhere {c : Nat} (other : c ≠ d) (spared : ¬Walks (image dev) pattern d c) :
      (image dev').block c = (image dev).block c := by
    rw [wiped.outside c spared, MemDevice.block_set_other _ _ other]
  refine ⟨dev', by rw [impl.freeRecord_eq, freed], ⟨?_, ?_⟩, ?_⟩
  · intro stays c reached
    by_cases clean : (image dev).block c = makeFreeBuf (image dev).blockSize pattern
    · exact .inr (.inl clean)
    · have changed : (image dev').block c ≠ (image dev).block c := by
        rw [wiped.inside c reached]
        exact Ne.symm clean
      rcases stays c changed with here | owned
      · exact .inl here
      · exact .inr (.inr owned)
  · intro owned c changed
    by_cases here : c = d
    · exact .inl here
    · by_cases reached : Walks (image dev) pattern d c
      · rcases owned c reached with same | clean | own
        · exact .inl same
        · exact absurd ((wiped.inside c reached).trans clean.symm) changed
        · exact .inr own
      · exact absurd (elsewhere here reached) changed
  · intro rec verified
    have record : RecordAt (image dev) d rec :=
      recordAt_eq_some.mp ((impl.verify_iff large).mp verified).2
    obtain ⟨last, erased, final⟩ := writeAll_reliable
      (erasures rec.blocks (makeFreeBuf (image dev).blockSize pattern)) dev fun write member =>
        Plan.erasures_valid (fun c block => record.blocks_inside block) member
    have same : dev' = last := by
      rw [Effects.rust_freeRecord dev pattern large record, erased] at freed
      cases freed
      rfl
    rw [same, final, ← record.blocks_eq]
    constructor
    · intro c member
      exact Transition.block_erased record List.length_replicate member
    · intro c outside
      apply MemDevice.block_apply_other
      rw [erasures_blocks]
      exact outside

end

/-- The chunk of the first record was given to a record of another key. -/
def regiven : MemDevice := twoBlocks.apply (Layout.recordWrites 40 2 [] [0x42] 1 [9] 0)

/-- From the descriptor of the two blocks the walk enters the chunk and ends. -/
theorem walks_two (c : Nat) : Walks twoBlocks 0x00 1 c ↔ c = 2 := by
  let erased := twoBlocks.set 1 (makeFreeBuf 40 0x00)
  have facts : (2 < erased.blockCount ∧ Rust.verifyBlockCrc (erased.block 2) = true) ∧
      link erased 2 = nullBlockIndex ∧ (descriptorAt twoBlocks 1).nextChunk.toNat = 2 := by
    decide +kernel
  obtain ⟨enters, ends, start⟩ := facts
  have begun : Walked (Enters erased) (link erased) 2 2 ∅ := .begin 2
  have walked := begun.step enters
  rw [ends] at walked
  have stops : Enters erased nullBlockIndex → nullBlockIndex ∈ insert 2 (∅ : Finset Nat) := by
    intro enter
    exact absurd rfl (block_index_ne_null enter.1)
  have reached : Reached (Enters erased) (link erased) 2 c ↔ c ∈ insert 2 (∅ : Finset Nat) :=
    walked.stopped stops c
  rw [Finset.mem_insert, or_iff_left (Finset.notMem_empty c)] at reached
  rw [Walks, start]
  exact reached

/-- The walk stays with the record, and so does freeing it. -/
theorem freeing_stays_two : ∃ dev', Impl.freeRecord .go 1 0x00 twoBlocks = (.ok (), dev') ∧
    (∀ c, Walks twoBlocks 0x00 1 c → c = 1 ∨ twoBlocks.block c = makeFreeBuf 40 0x00 ∨
      (chunkAt twoBlocks c).blockType = 0x03 ∧
        (chunkAt twoBlocks c).ownerDescriptor.toNat = 1) ∧
    ∀ c, dev'.block c ≠ twoBlocks.block c → c = 1 ∨ (chunkAt twoBlocks c).blockType = 0x03 ∧
      (chunkAt twoBlocks c).ownerDescriptor.toNat = 1 := by
  obtain ⟨dev', freed, stays, _⟩ :=
    freeing_stays_iff .go twoBlocks (by decide) (d := 1) (by decide) (by decide +kernel) 0x00
  have own : ∀ c, Walks twoBlocks 0x00 1 c → c = 1 ∨ twoBlocks.block c = makeFreeBuf 40 0x00 ∨
      (chunkAt twoBlocks c).blockType = 0x03 ∧
        (chunkAt twoBlocks c).ownerDescriptor.toNat = 1 := by
    intro c reached
    rw [(walks_two c).mp reached]
    exact .inr (.inr (by decide +kernel))
  exact ⟨dev', freed, own, stays.mpr own⟩

/-- Freeing the first record erases the record that took over its chunk. -/
theorem freeing_erases_neighbour :
    36 ≤ regiven.blockSize ∧ u8At (regiven.block 1) 0 = 0x02 ∧
      Rust.verifyBlockCrc (regiven.block 1) = true ∧
      (recordAt regiven 2).map CompleteRecord.key = some [0x42] ∧
      (chunkAt regiven 2).blockType = 0x02 ∧
      (Impl.freeRecord (.rust .dev) 1 0x00 regiven).1 = .ok () ∧
      (Impl.freeRecord (.rust .dev) 1 0x00 regiven).2.block 2 = makeFreeBuf 40 0x00 ∧
      (Impl.freeRecord .go 1 0x00 regiven).1 = .ok () ∧
      (Impl.freeRecord .go 1 0x00 regiven).2.block 2 = makeFreeBuf 40 0x00 := by
  decide +kernel

end Embedkv.EraseLaws
