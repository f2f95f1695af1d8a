import Mathlib.Algebra.Order.BigOperators.Group.List
import Embedkv.Run
import Embedkv.Stores

/-!
# What the validator accepts

The completeness criteria of the format, written over the stored fields of a
whole image: a valid descriptor, and a list of distinct blocks, linked from the
descriptor and ended by the null link, that are its chunks in order and hold
together with it as many bytes as it announces. On an image of at most `2 ^ 32`
bytes the validators accept exactly these records and return what they store.
Records that are accepted share no block, depend on their own blocks only, and
are not completed by blocks that do not belong to them.
-/

namespace Embedkv.RecordLaws

open Embedkv.Lib Embedkv.Format Embedkv.Device Embedkv.State Embedkv.Codec Embedkv.Image
open Embedkv.Record Embedkv.Stores

set_option autoImplicit false

section
variable (img : MemDevice)

def descriptorAt (d : Nat) : RecordDescriptorHeader := descriptorHeaderOf (img.block d)

def chunkAt (c : Nat) : ValueChunkHeader := chunkHeaderOf (img.block c)

/-- A valid descriptor block, as far as its own block shows it. -/
structure DescriptorValid (d : Nat) : Prop where
  inside : d < img.blockCount
  type : (descriptorAt img d).blockType = 0x02
  crc : Rust.verifyBlockCrc (img.block d) = true
  header_size : (descriptorAt img d).headerSize = 32
  key_size : (descriptorAt img d).keySize.toNat ≤ img.blockSize - 36
  first_size : (descriptorAt img d).firstPayloadSize.toNat ≤
    img.blockSize - 36 - (descriptorAt img d).keySize.toNat
  counted : 1 ≤ (descriptorAt img d).chunkCount.toNat

/-- A valid chunk block: chunk `i` of descriptor `d`. -/
structure ChunkValid (d i c : Nat) : Prop where
  inside : c < img.blockCount
  type : (chunkAt img c).blockType = 0x03
  crc : Rust.verifyBlockCrc (img.block c) = true
  header_size : (chunkAt img c).headerSize = 20
  owner : (chunkAt img c).ownerDescriptor.toNat = d
  index : (chunkAt img c).chunkIndex.toNat = i
  payload_size : (chunkAt img c).payloadSize.toNat ≤ img.blockSize - 24

/-- Block `d` and the chunks are a complete record. -/
structure CompleteChain (d : Nat) (chunks : List Nat) : Prop where
  descriptor : DescriptorValid img d
  count : chunks.length = (descriptorAt img d).chunkCount.toNat - 1
  distinct : (d :: chunks).Nodup
  chunk : ∀ i c, chunks[i]? = some c → ChunkValid img d (i + 1) c
  linked : (descriptorAt img d).nextChunk.toNat ::
    chunks.map (fun c => (chunkAt img c).nextChunk.toNat) = chunks ++ [0xFFFFFFFF]
  total : (descriptorAt img d).firstPayloadSize.toNat +
    (chunks.map fun c => (chunkAt img c).payloadSize.toNat).sum =
      (descriptorAt img d).totalSize.toNat

def storedKey (d : Nat) : Bytes :=
  ((img.block d).drop 32).take (descriptorAt img d).keySize.toNat

/-- The part of the value that follows the key in the descriptor block. -/
def storedFirst (d : Nat) : Bytes :=
  ((img.block d).drop (32 + (descriptorAt img d).keySize.toNat)).take
    (descriptorAt img d).firstPayloadSize.toNat

def storedPayload (c : Nat) : Bytes :=
  ((img.block c).drop 20).take (chunkAt img c).payloadSize.toNat

/-- The record that a descriptor and its chunks store. -/
def storedRecord (d : Nat) (chunks : List Nat) : CompleteRecord where
  key := storedKey img d
  generation := (descriptorAt img d).generation.toNat
  descriptorBlock := d
  header := descriptorAt img d
  chunkBlocks := chunks
  value := storedFirst img d ++ chunks.flatMap (storedPayload img)

end

/-! ## The views as criteria -/

section
variable {img : MemDevice} {d : Nat}

theorem chunkView_iff {i c : Nat} (inside : c < img.blockCount) {found : Bytes × Nat} :
    chunkView d i (img.block c) = some found ↔
      ChunkValid img d i c ∧ found = (storedPayload img c, (chunkAt img c).nextChunk.toNat) := by
  have size := img.block_length inside
  have payload (n : Nat) : ((img.block c).take (20 + n)).drop 20 = ((img.block c).drop 20).take n := by
    rw [List.drop_take, Nat.add_sub_cancel_left]
  simp only [chunkView, payload, size]
  constructor
  · intro view
    split at view
    next checks =>
      obtain ⟨type, crc, headerSize, owner, index, fits⟩ := checks
      cases view
      exact ⟨⟨inside, type, crc, UInt8.toNat_inj.mp headerSize, owner, index, fits⟩, rfl⟩
    next => cases view
  · rintro ⟨valid, rfl⟩
    rw [if_pos ⟨valid.type, valid.crc, congrArg UInt8.toNat valid.header_size, valid.owner,
      valid.index, valid.payload_size⟩]
    rfl

/-- The head a valid descriptor gives: the record it would be without chunks. -/
theorem descriptorView_iff (inside : d < img.blockCount) {head : CompleteRecord} :
    descriptorView d (img.block d) = some head ↔
      DescriptorValid img d ∧ head = storedRecord img d [] := by
  have size := img.block_length inside
  have between (a n : Nat) : ((img.block d).take (a + n)).drop a = ((img.block d).drop a).take n := by
    rw [List.drop_take, Nat.add_sub_cancel_left]
  have counted : (descriptorAt img d).chunkCount ≠ 0 ↔ 1 ≤ (descriptorAt img d).chunkCount.toNat := by
    rw [ne_eq, ← UInt32.toNat_inj]
    exact Nat.one_le_iff_ne_zero.symm
  simp only [descriptorView, between, size]
  constructor
  · intro view
    split at view
    next checks =>
      obtain ⟨type, crc, headerSize, keyFits, firstFits, chunked⟩ := checks
      cases view
      refine ⟨⟨inside, type, crc, UInt8.toNat_inj.mp headerSize, keyFits, firstFits,
        counted.mp chunked⟩, ?_⟩
      simp [storedRecord, storedKey, storedFirst, descriptorAt]
    next => cases view
  · rintro ⟨valid, rfl⟩
    rw [if_pos ⟨valid.type, valid.crc, congrArg UInt8.toNat valid.header_size, valid.key_size,
      valid.first_size, counted.mpr valid.counted⟩]
    simp [storedRecord, storedKey, storedFirst, descriptorAt]

/-- A chain, written as its list of blocks. -/
theorem chain_iff {idx next : Nat} {chunks : List Nat} {payload : Bytes} :
    Chain img d idx next chunks payload ↔
      (∀ i c, chunks[i]? = some c → ChunkValid img d (idx + i) c) ∧
      next :: chunks.map (fun c => (chunkAt img c).nextChunk.toNat) = chunks ++ [0xFFFFFFFF] ∧
      payload = chunks.flatMap (storedPayload img) := by
  induction chunks generalizing idx next payload with
  | nil => simp [Chain, nullBlockIndex]
  | cons c rest ih =>
      constructor
      · rintro ⟨rfl, inside, head, link, tail, view, rfl, after⟩
        obtain ⟨valid, found⟩ := (chunkView_iff inside).mp view
        obtain ⟨rfl, rfl⟩ := Prod.ext_iff.mp found
        obtain ⟨later, links, rfl⟩ := ih.mp after
        refine ⟨?_, by rw [List.map_cons, List.cons_append, links], rfl⟩
        intro i c' at'
        cases i with
        | zero =>
            cases at'
            exact valid
        | succ i =>
            rw [Nat.add_succ, ← Nat.succ_add]
            exact later i c' at'
      · rintro ⟨valid, links, rfl⟩
        rw [List.map_cons, List.cons_append, List.cons.injEq] at links
        obtain ⟨here, links⟩ := links
        have first : ChunkValid img d idx c := valid 0 c rfl
        refine ⟨here, first.inside, storedPayload img c, (chunkAt img c).nextChunk.toNat,
          rest.flatMap (storedPayload img), (chunkView_iff first.inside).mpr ⟨first, rfl⟩, rfl, ?_⟩
        refine ih.mpr ⟨?_, links, rfl⟩
        intro i c' at'
        rw [Nat.succ_add, ← Nat.add_succ]
        exact valid (i + 1) c' at'

/-! ## Sizes -/

theorem DescriptorValid.first_length (valid : DescriptorValid img d) :
    (storedFirst img d).length = (descriptorAt img d).firstPayloadSize.toNat := by
  have keyFits := valid.key_size
  have firstFits := valid.first_size
  rw [storedFirst, List.length_take, List.length_drop, img.block_length valid.inside]
  omega

theorem ChunkValid.payload_length {i c : Nat} (valid : ChunkValid img d i c) :
    (storedPayload img c).length = (chunkAt img c).payloadSize.toNat := by
  have fits := valid.payload_size
  rw [storedPayload, List.length_take, List.length_drop, img.block_length valid.inside]
  omega

section
variable {idx : Nat} {chunks : List Nat} (large : 36 ≤ img.blockSize)
  (valid : DescriptorValid img d)
  (chunk : ∀ i c, chunks[i]? = some c → ChunkValid img d (idx + i) c)
include valid chunk

omit valid in
theorem chunk_of_mem {c : Nat} (member : c ∈ chunks) : ∃ i, ChunkValid img d i c := by
  obtain ⟨i, at'⟩ := List.mem_iff_getElem?.mp member
  exact ⟨idx + i, chunk i c at'⟩

theorem value_length :
    (storedFirst img d ++ chunks.flatMap (storedPayload img)).length =
      (descriptorAt img d).firstPayloadSize.toNat +
        (chunks.map fun c => (chunkAt img c).payloadSize.toNat).sum := by
  have payloads : chunks.map (fun c => (storedPayload img c).length) =
      chunks.map fun c => (chunkAt img c).payloadSize.toNat := by
    apply List.map_congr_left
    intro c member
    obtain ⟨i, here⟩ := chunk_of_mem chunk member
    exact here.payload_length
  rw [List.length_append, List.length_flatMap, valid.first_length, payloads]

include large in
/-- The blocks of a record hold less than the image has bytes. -/
theorem value_lt (distinct : (d :: chunks).Nodup) (bounded : img.blockCount * img.blockSize ≤ 2 ^ 32) :
    (descriptorAt img d).firstPayloadSize.toNat +
      (chunks.map fun c => (chunkAt img c).payloadSize.toNat).sum < 2 ^ 32 := by
  have inside : d :: chunks ⊆ List.range img.blockCount := by
    intro c member
    rw [List.mem_range]
    rcases List.mem_cons.mp member with rfl | later
    · exact valid.inside
    · obtain ⟨i, here⟩ := chunk_of_mem chunk later
      exact here.inside
  have count : chunks.length + 1 ≤ img.blockCount := by
    have bound := (List.subperm_of_subset distinct inside).length_le
    rwa [List.length_range] at bound
  have payloads : (chunks.map fun c => (chunkAt img c).payloadSize.toNat).sum ≤
      chunks.length * img.blockSize := by
    have each : ∀ size ∈ chunks.map fun c => (chunkAt img c).payloadSize.toNat,
        size ≤ img.blockSize := by
      intro size member
      obtain ⟨c, stands, rfl⟩ := List.mem_map.mp member
      obtain ⟨i, here⟩ := chunk_of_mem chunk stands
      exact le_trans here.payload_size (Nat.sub_le _ _)
    have sum := List.sum_le_card_nsmul _ _ each
    rwa [List.length_map, Nat.nsmul_eq_mul] at sum
  have first := valid.first_size
  calc (descriptorAt img d).firstPayloadSize.toNat +
        (chunks.map fun c => (chunkAt img c).payloadSize.toNat).sum
      < img.blockSize + chunks.length * img.blockSize := by omega
    _ = (chunks.length + 1) * img.blockSize := by ring
    _ ≤ img.blockCount * img.blockSize := Nat.mul_le_mul_right _ count
    _ ≤ 2 ^ 32 := bounded

end

/-- Complete records, by the criteria of the format. -/
theorem recordAt_iff (large : 36 ≤ img.blockSize)
    (bounded : img.blockCount * img.blockSize ≤ 2 ^ 32) {rec : CompleteRecord} :
    RecordAt img d rec ↔ ∃ chunks, CompleteChain img d chunks ∧ rec = storedRecord img d chunks := by
  constructor
  · intro record
    have distinct := record.blocks_nodup
    rw [record.blocks_eq] at distinct
    obtain ⟨inside, head, payload, view, chain, counted, total, shape⟩ := record
    obtain ⟨valid, rfl⟩ := (descriptorView_iff inside).mp view
    obtain ⟨chunk, linked, rfl⟩ := chain_iff.mp chain
    change (descriptorAt img d).chunkCount.toNat = _ at counted
    have value : storedFirst img d ++ [].flatMap (storedPayload img) = storedFirst img d :=
      List.append_nil _
    simp only [storedRecord, value] at total shape
    rw [value_length valid chunk, asU32_of_lt (value_lt large valid chunk distinct bounded)]
      at total
    refine ⟨rec.chunkBlocks, ⟨valid, by omega, distinct, ?_, linked, total⟩, shape⟩
    intro i c at'
    rw [Nat.add_comm]
    exact chunk i c at'
  · rintro ⟨chunks, complete, rfl⟩
    have valid := complete.descriptor
    have positive := valid.counted
    have count := complete.count
    have chunk : ∀ i c, chunks[i]? = some c → ChunkValid img d (1 + i) c := by
      intro i c at'
      rw [Nat.add_comm]
      exact complete.chunk i c at'
    have value : storedFirst img d ++ [].flatMap (storedPayload img) = storedFirst img d :=
      List.append_nil _
    refine ⟨valid.inside, storedRecord img d [], chunks.flatMap (storedPayload img),
      (descriptorView_iff valid.inside).mpr ⟨valid, rfl⟩, chain_iff.mpr ⟨chunk, complete.linked, rfl⟩,
      ?_, ?_, ?_⟩
    · change (descriptorAt img d).chunkCount.toNat = chunks.length + 1
      omega
    · simp only [storedRecord, value]
      rw [value_length valid chunk,
        asU32_of_lt (value_lt large valid chunk complete.distinct bounded), complete.total]
    · simp only [storedRecord, value]

end

section
variable {D : Type} [BlockDevice D] [LawfulBlockDevice D]

/-- The validators accept exactly the complete records and return what they store. -/
theorem verify_accepts_complete (impl : Impl) (dev : D) (large : 36 ≤ (image dev).blockSize)
    (bounded : (image dev).blockCount * (image dev).blockSize ≤ 2 ^ 32) {d : Nat}
    (inside : d < (image dev).blockCount) :
    ∃ outcome, impl.verifyAndReadRecord d dev = (.ok outcome, dev) ∧
      ∀ rec, outcome = some rec ↔
        ∃ chunks, CompleteChain (image dev) d chunks ∧ rec = storedRecord (image dev) d chunks := by
  refine ⟨recordAt (image dev) d, impl.verify_eq dev large inside, ?_⟩
  intro rec
  rw [recordAt_eq_some, recordAt_iff large bounded]

end

/-- A record of two blocks on a small device. -/
def twoBlocks : MemDevice :=
  Run.smallDevice.apply (Layout.recordWrites 40 1 [2] [0x41] 7 [1, 2, 3, 4, 5] 6)

theorem verify_accepts_two : ∃ rec chunks,
    Rust.verifyAndReadRecord .dev 1 twoBlocks = (.ok (some rec), twoBlocks) ∧
      CompleteChain twoBlocks 1 chunks ∧ rec = storedRecord twoBlocks 1 chunks := by
  have found : (recordAt twoBlocks 1).isSome = true := by decide +kernel
  obtain ⟨rec, stored⟩ := Option.isSome_iff_exists.mp found
  have ran := rust_verifyAndReadRecord .dev twoBlocks 1 (by decide) (by decide)
  rw [image_memDevice, stored] at ran
  obtain ⟨outcome, answer, accepts⟩ :=
    verify_accepts_complete (.rust .dev) twoBlocks (by decide) (by decide) (d := 1) (by decide)
  have same : outcome = some rec := by
    have both : (Except.ok outcome, twoBlocks) = (Except.ok (some rec), twoBlocks) :=
      answer.symm.trans ran
    cases both
    rfl
  obtain ⟨chunks, complete, shape⟩ := (accepts rec).mp same
  exact ⟨rec, chunks, ran, complete, shape⟩

/-! ## Records side by side -/

/-- A CRC-valid chunk block that names `d` as its owner. -/
def OwnedChunk (d : Nat) (buf : Bytes) : Prop :=
  (chunkHeaderOf buf).blockType = 0x03 ∧ Rust.verifyBlockCrc buf = true ∧
    (chunkHeaderOf buf).ownerDescriptor.toNat = d

theorem chunkView_unowned {d : Nat} {buf : Bytes} (unowned : ¬OwnedChunk d buf) (idx : Nat) :
    chunkView d idx buf = none :=
  if_neg fun checks => unowned ⟨checks.1, checks.2.1, checks.2.2.2.1⟩

section
variable {D : Type} [BlockDevice D] [LawfulBlockDevice D]

/-- Complete records are disjoint, local, and not completed by foreign blocks. -/
theorem complete_records_stand (impl : Impl) (dev : D) (large : 36 ≤ (image dev).blockSize) :
    (∀ d d' rec rec', d ≠ d' → (impl.verifyAndReadRecord d dev).1 = .ok (some rec) →
      (impl.verifyAndReadRecord d' dev).1 = .ok (some rec') →
      List.Disjoint (d :: rec.chunkBlocks) (d' :: rec'.chunkBlocks)) ∧
    (∀ d rec, (impl.verifyAndReadRecord d dev).1 = .ok (some rec) →
      ∀ c ∈ d :: rec.chunkBlocks, u8At ((image dev).block c) 0 ≠ 0x01) ∧
    ∀ dev' : D, (image dev').blockSize = (image dev).blockSize →
      (image dev').blockCount = (image dev).blockCount →
      (∀ d rec, (impl.verifyAndReadRecord d dev).1 = .ok (some rec) →
        (∀ c ∈ d :: rec.chunkBlocks, (image dev').block c = (image dev).block c) →
        (impl.verifyAndReadRecord d dev').1 = .ok (some rec)) ∧
      ∀ d, (impl.verifyAndReadRecord d dev).1 = .ok none →
        (∀ c, (image dev').block c = (image dev).block c ∨
          c ≠ d ∧ ¬OwnedChunk d ((image dev').block c)) →
        (impl.verifyAndReadRecord d dev').1 = .ok none := by
  have record {d : Nat} {rec : CompleteRecord}
      (verified : (impl.verifyAndReadRecord d dev).1 = .ok (some rec)) :
      RecordAt (image dev) d rec := recordAt_eq_some.mp ((impl.verify_iff large).mp verified).2
  refine ⟨?_, ?_, ?_⟩
  · intro d d' rec rec' different here there
    rw [← (record here).blocks_eq, ← (record there).blocks_eq]
    exact records_disjoint (record here) (record there) different
  · intro d rec verified c member header
    rw [← (record verified).blocks_eq] at member
    rcases (record verified).block_type member with isDescriptor | isChunk
    · rw [header] at isDescriptor
      exact absurd isDescriptor (by decide)
    · rw [header] at isChunk
      exact absurd isChunk (by decide)
  · intro dev' size count
    have large' : 36 ≤ (image dev').blockSize := by rwa [size]
    refine ⟨?_, ?_⟩
    · intro d rec verified same
      rw [← (record verified).blocks_eq] at same
      have kept := (record verified).congr count same
      exact (impl.verify_iff large').mpr ⟨kept.inside, recordAt_eq_some.mpr kept⟩
    · intro d refused change
      obtain ⟨inside, absent⟩ := (impl.verify_iff large).mp refused
      have kept : (image dev').block d = (image dev).block d := by
        rcases change d with same | ⟨other, _⟩
        · exact same
        · exact absurd rfl other
      refine (impl.verify_iff large').mpr ⟨by rwa [count], recordAt_eq_none.mpr ?_⟩
      intro rec completed
      -- A record found after the change was there before it.
      have before := completed.of_changed count kept fun c =>
        (change c).imp_right fun foreign => chunkView_unowned foreign.2
      exact recordAt_eq_none.mp absent rec before.1

end

instance (d : Nat) (buf : Bytes) : Decidable (OwnedChunk d buf) :=
  inferInstanceAs (Decidable (_ ∧ _ ∧ _))

/-- A record in blocks 1 and 2, one in block 3, and in block 4 the descriptor of a
third whose chunk, block 5, is not there. -/
def sideBySide : MemDevice :=
  let blank := MemDevice.zeroed 40 6
  let first := blank.apply (Layout.recordWrites 40 1 [2] [0x41] 7 [1, 2, 3, 4, 5] 6)
  let second := first.apply (Layout.recordWrites 40 3 [] [0x42] 1 [9] 0)
  second.apply ((Layout.recordWrites 40 4 [5] [0x43] 1 [5, 4, 3, 2, 1] 0).take 1)

/-- The second record is overwritten, and the chunk of the first is copied to where
the third has none. -/
def overwritten : MemDevice :=
  (sideBySide.set 3 (List.replicate 40 5)).set 5 (sideBySide.block 2)

theorem overwritten_block (c : Nat) : overwritten.block c = sideBySide.block c ∨
    c ≠ 4 ∧ ¬OwnedChunk 4 (overwritten.block c) := by
  have foreign : ¬OwnedChunk 4 (overwritten.block 3) ∧ ¬OwnedChunk 4 (overwritten.block 5) := by
    decide +kernel
  by_cases copied : c = 5
  · rw [copied]
    exact .inr ⟨by decide, foreign.2⟩
  by_cases lost : c = 3
  · rw [lost]
    exact .inr ⟨by decide, foreign.1⟩
  · left
    rw [overwritten, MemDevice.block_set_other _ _ copied, MemDevice.block_set_other _ _ lost]

/-- The two records share no block, the first survives what happens beside it, and
the third is not completed by a chunk that is not its own. -/
theorem complete_records_stand_two :
    ∃ rec rec', (Rust.verifyAndReadRecord .dev 1 sideBySide).1 = .ok (some rec) ∧
      (Rust.verifyAndReadRecord .dev 3 sideBySide).1 = .ok (some rec') ∧
      rec.chunkBlocks = [2] ∧ List.Disjoint [1, 2] (3 :: rec'.chunkBlocks) ∧
      (∀ c ∈ [1, 2], u8At (sideBySide.block c) 0 ≠ 0x01) ∧
      (Rust.verifyAndReadRecord .dev 1 overwritten).1 = .ok (some rec) ∧
      (Rust.verifyAndReadRecord .dev 4 sideBySide).1 = .ok none ∧
      (Rust.verifyAndReadRecord .dev 4 overwritten).1 = .ok none := by
  obtain ⟨disjoint, types, stands⟩ := complete_records_stand (.rust .dev) sideBySide (by decide)
  have size : overwritten.blockSize = sideBySide.blockSize := by
    rw [overwritten, MemDevice.blockSize_set, MemDevice.blockSize_set]
  have count : overwritten.blockCount = sideBySide.blockCount := by
    rw [overwritten, MemDevice.blockCount_set, MemDevice.blockCount_set]
  obtain ⟨survives, foreign⟩ := stands overwritten size count
  have checked : (recordAt sideBySide 1).any (fun rec => rec.chunkBlocks = [2]) = true ∧
      (recordAt sideBySide 3).isSome = true ∧ recordAt sideBySide 4 = none := by
    decide +kernel
  obtain ⟨first, second, third⟩ := checked
  obtain ⟨rec, stored, chunks⟩ := (Option.any_eq_true _ _).mp first
  obtain ⟨rec', stored'⟩ := Option.isSome_iff_exists.mp second
  have verified (d : Nat) (inside : d < 6) :
      (Rust.verifyAndReadRecord .dev d sideBySide).1 = .ok (recordAt sideBySide d) :=
    congrArg Prod.fst (rust_verifyAndReadRecord .dev sideBySide d (by decide) inside)
  have here := verified 1 (by decide)
  have there := verified 3 (by decide)
  have refused := verified 4 (by decide)
  rw [stored] at here
  rw [stored'] at there
  rw [third] at refused
  have apart := disjoint 1 3 rec rec' (by decide) here there
  have typed := types 1 rec here
  have kept := survives 1 rec here
  rw [decide_eq_true_eq.mp chunks] at apart typed kept
  refine ⟨rec, rec', here, there, decide_eq_true_eq.mp chunks, apart, typed, kept ?_, refused,
    foreign 4 refused overwritten_block⟩
  decide +kernel

end Embedkv.RecordLaws
