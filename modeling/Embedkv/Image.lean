import Embedkv.Codec
import Embedkv.Rust.Record

/-!
# What one block says

The descriptor and chunk checks of both implementations are one pure view of a
block's bytes: on a block of at least 36 bytes no subtraction underflows and no
slice is out of range, so the checks return, in either build profile and in
either language, exactly what the view gives.
-/

namespace Embedkv.Image

open Embedkv.Lib Embedkv.Format Embedkv.State Embedkv.Codec

set_option autoImplicit false

/-- The record head a descriptor block holds, when the block is a descriptor. -/
def descriptorView (descriptorBlock : Nat) (buf : Bytes) : Option CompleteRecord :=
  let hdr := descriptorHeaderOf buf
  if hdr.blockType = blockTypeRecordDescriptor ∧ Rust.verifyBlockCrc buf = true ∧
      hdr.headerSize.toNat = recordDescriptorHeaderSize ∧
      hdr.keySize.toNat ≤ buf.length - 36 ∧
      hdr.firstPayloadSize.toNat ≤ buf.length - 36 - hdr.keySize.toNat ∧ hdr.chunkCount ≠ 0 then
    some
      { key := (buf.take (32 + hdr.keySize.toNat)).drop 32
        generation := hdr.generation.toNat
        descriptorBlock := descriptorBlock
        header := hdr
        chunkBlocks := []
        value := (buf.take (32 + hdr.keySize.toNat + hdr.firstPayloadSize.toNat)).drop
          (32 + hdr.keySize.toNat) }
  else none

/-- The payload and the link of a chunk block, when the block is the chunk with
this index of this descriptor. -/
def chunkView (descriptorBlock expectedIdx : Nat) (buf : Bytes) : Option (Bytes × Nat) :=
  let ch := chunkHeaderOf buf
  if ch.blockType = blockTypeValueChunk ∧ Rust.verifyBlockCrc buf = true ∧
      ch.headerSize.toNat = valueChunkHeaderSize ∧
      ch.ownerDescriptor.toNat = descriptorBlock ∧ ch.chunkIndex.toNat = expectedIdx ∧
      ch.payloadSize.toNat ≤ buf.length - 24 then
    some ((buf.take (20 + ch.payloadSize.toNat)).drop 20, ch.nextChunk.toNat)
  else none

theorem rust_u32Sub_ok {build : Rust.Build} {a b : Nat} (enough : b ≤ a) :
    Rust.u32Sub build a b = .ok (a - b) := if_pos enough

theorem rust_u32Add_ok {build : Rust.Build} {a b : Nat} (small : a + b < 2 ^ 32) :
    Rust.u32Add build a b = .ok (a + b) := if_pos small

theorem rust_u32Add_error {build : Rust.Build} {a b : Nat} {failure : Failure}
    (failed : Rust.u32Add build a b = .error failure) : failure = .panic := by
  unfold Rust.u32Add at failed
  split at failed
  · cases failed
  · cases build with
    | dev => exact (Except.error.inj failed).symm
    | release => cases failed

theorem rust_u32Add_lt {build : Rust.Build} {a b c : Nat} (added : Rust.u32Add build a b = .ok c) :
    c < 2 ^ 32 := by
  unfold Rust.u32Add at added
  split at added
  next => cases added; assumption
  next =>
    cases build with
    | dev => cases added
    | release =>
        cases added
        exact Nat.mod_lt _ (by decide)

theorem go_u32Sub_eq {a b : Nat} (enough : b ≤ a) (small : a < 2 ^ 32) :
    Go.u32Sub a b = a - b := by
  rw [Go.u32Sub, Nat.add_sub_assoc enough, Nat.add_mod_left]
  exact Nat.mod_eq_of_lt (by omega)

theorem go_u32Add_eq {a b : Nat} (small : a + b < 2 ^ 32) : Go.u32Add a b = a + b :=
  Nat.mod_eq_of_lt small

theorem rust_firstPayloadCapacity (build : Rust.Build) (blockSize keySize : Nat)
    (fits : keySize + 36 ≤ blockSize) :
    Rust.firstPayloadCapacity build blockSize keySize = .ok (blockSize - 36 - keySize) := by
  have a : Rust.u32Sub build blockSize recordDescriptorHeaderSize = .ok (blockSize - 32) :=
    rust_u32Sub_ok (show 32 ≤ blockSize by omega)
  have b : Rust.u32Sub build (blockSize - 32) keySize = .ok (blockSize - 32 - keySize) :=
    rust_u32Sub_ok (by omega)
  have c : Rust.u32Sub build (blockSize - 32 - keySize) blockCrcSize =
      .ok (blockSize - 32 - keySize - 4) := rust_u32Sub_ok (show 4 ≤ _ by omega)
  simp only [Rust.firstPayloadCapacity, a, b, c, bind, Except.bind, Except.ok.injEq]
  omega

theorem rust_chunkPayloadCapacity (build : Rust.Build) (blockSize : Nat) (large : 24 ≤ blockSize) :
    Rust.chunkPayloadCapacity build blockSize = .ok (blockSize - 24) := by
  have a : Rust.u32Sub build blockSize valueChunkHeaderSize = .ok (blockSize - 20) :=
    rust_u32Sub_ok (show 20 ≤ blockSize by omega)
  have b : Rust.u32Sub build (blockSize - 20) blockCrcSize = .ok (blockSize - 20 - 4) :=
    rust_u32Sub_ok (show 4 ≤ _ by omega)
  simp only [Rust.chunkPayloadCapacity, a, b, bind, Except.bind, Except.ok.injEq]
  omega

theorem go_firstPayloadCapacity (blockSize keySize : Nat) (fits : keySize + 36 ≤ blockSize)
    (small : blockSize < 2 ^ 32) :
    Go.firstPayloadCapacity blockSize keySize = blockSize - 36 - keySize := by
  have a : Go.u32Sub blockSize recordDescriptorHeaderSize = blockSize - 32 :=
    go_u32Sub_eq (show 32 ≤ blockSize by omega) small
  have b : Go.u32Sub (blockSize - 32) keySize = blockSize - 32 - keySize :=
    go_u32Sub_eq (by omega) (by omega)
  have c : Go.u32Sub (blockSize - 32 - keySize) blockCrcSize = blockSize - 32 - keySize - 4 :=
    go_u32Sub_eq (show 4 ≤ _ by omega) (by omega)
  rw [Go.firstPayloadCapacity, a, b, c]
  omega

theorem go_chunkPayloadCapacity (blockSize : Nat) (large : 24 ≤ blockSize)
    (small : blockSize < 2 ^ 32) : Go.chunkPayloadCapacity blockSize = blockSize - 24 := by
  have a : Go.u32Sub blockSize valueChunkHeaderSize = blockSize - 20 :=
    go_u32Sub_eq (show 20 ≤ blockSize by omega) small
  have b : Go.u32Sub (blockSize - 20) blockCrcSize = blockSize - 20 - 4 :=
    go_u32Sub_eq (show 4 ≤ _ by omega) (by omega)
  rw [Go.chunkPayloadCapacity, a, b]
  omega

theorem rust_keyRoom (build : Rust.Build) {blockSize : Nat} (large : 36 ≤ blockSize) :
    Rust.keyRoom build blockSize = .ok (blockSize - 36) := by
  have a : Rust.u32Sub build blockSize recordDescriptorHeaderSize = .ok (blockSize - 32) :=
    rust_u32Sub_ok (show 32 ≤ blockSize by omega)
  have b : Rust.u32Sub build (blockSize - 32) blockCrcSize = .ok (blockSize - 32 - 4) :=
    rust_u32Sub_ok (show 4 ≤ _ by omega)
  simp only [Rust.keyRoom, a, b, bind, Except.bind, Except.ok.injEq]
  omega

theorem go_keyRoom {blockSize : Nat} (large : 36 ≤ blockSize) (small : blockSize < 2 ^ 32) :
    Go.keyRoom blockSize = blockSize - 36 := by
  have a : Go.u32Sub blockSize recordDescriptorHeaderSize = blockSize - 32 :=
    go_u32Sub_eq (show 32 ≤ blockSize by omega) small
  have b : Go.u32Sub (blockSize - 32) blockCrcSize = blockSize - 32 - 4 :=
    go_u32Sub_eq (show 4 ≤ _ by omega) (by omega)
  rw [Go.keyRoom, a, b]
  omega

theorem rust_unmarshalStorageHeader (buf : Bytes) (large : 28 ≤ buf.length) :
    Rust.unmarshalStorageHeader buf = .ok (storageHeaderOf buf, Rust.verifyBlockCrc buf) := by
  have long : requireLength buf storageHeaderSize = .ok () := requireLength_ok large
  simp only [Rust.unmarshalStorageHeader, long, bind, Except.bind, pure, Except.pure]

theorem rust_unmarshalDescriptorHeader (buf : Bytes) (large : 32 ≤ buf.length) :
    Rust.unmarshalDescriptorHeader buf = .ok (descriptorHeaderOf buf, Rust.verifyBlockCrc buf) := by
  have long : requireLength buf recordDescriptorHeaderSize = .ok () := requireLength_ok large
  simp only [Rust.unmarshalDescriptorHeader, long, bind, Except.bind, pure, Except.pure]

theorem rust_unmarshalChunkHeader (buf : Bytes) (large : 20 ≤ buf.length) :
    Rust.unmarshalChunkHeader buf = .ok (chunkHeaderOf buf, Rust.verifyBlockCrc buf) := by
  have long : requireLength buf valueChunkHeaderSize = .ok () := requireLength_ok large
  simp only [Rust.unmarshalChunkHeader, long, bind, Except.bind, pure, Except.pure]

theorem go_unmarshalDescriptorHeader (buf : Bytes) (large : 32 ≤ buf.length) :
    Go.unmarshalDescriptorHeader buf = .ok (descriptorHeaderOf buf, Rust.verifyBlockCrc buf) := by
  have long : requireLength buf recordDescriptorHeaderSize = .ok () := requireLength_ok large
  simp only [Go.unmarshalDescriptorHeader, long, verifyBlockCRC_eq, bind, Except.bind, pure,
    Except.pure]

theorem go_unmarshalChunkHeader (buf : Bytes) (large : 20 ≤ buf.length) :
    Go.unmarshalChunkHeader buf = .ok (chunkHeaderOf buf, Rust.verifyBlockCrc buf) := by
  have long : requireLength buf valueChunkHeaderSize = .ok () := requireLength_ok large
  simp only [Go.unmarshalChunkHeader, long, verifyBlockCRC_eq, bind, Except.bind, pure, Except.pure]

/-- The slices a descriptor that passed the size checks is cut into. -/
theorem descriptor_slices {buf : Bytes} {keySize payloadSize : Nat} (large : 36 ≤ buf.length)
    (keyFits : keySize ≤ buf.length - 36) (payloadFits : payloadSize ≤ buf.length - 36 - keySize) :
    slice buf recordDescriptorHeaderSize (recordDescriptorHeaderSize + keySize) =
        .ok ((buf.take (32 + keySize)).drop 32) ∧
      slice buf (recordDescriptorHeaderSize + keySize)
          (recordDescriptorHeaderSize + keySize + payloadSize) =
        .ok ((buf.take (32 + keySize + payloadSize)).drop (32 + keySize)) := by
  constructor
  · exact slice_ok (Nat.le_add_right _ _) (show 32 + keySize ≤ buf.length by omega)
  · exact slice_ok (Nat.le_add_right _ _) (show 32 + keySize + payloadSize ≤ buf.length by omega)

theorem rust_readDescriptor (build : Rust.Build) (descriptorBlock : Nat) (buf : Bytes)
    (large : 36 ≤ buf.length) :
    Rust.readDescriptor build buf.length descriptorBlock buf =
      .ok (descriptorView descriptorBlock buf) := by
  have unmarshalled := rust_unmarshalDescriptorHeader buf (by omega)
  have type : (descriptorHeaderOf buf).blockType = u8At buf 0 := rfl
  have room := rust_keyRoom build large
  simp only [Rust.readDescriptor, descriptorView, unmarshalled, type, bind, Except.bind, pure,
    Except.pure]
  -- The checks in source order; the first one that fails decides both sides.
  by_cases isDescriptor : u8At buf 0 = blockTypeRecordDescriptor
  · by_cases crc : Rust.verifyBlockCrc buf = true
    · by_cases size : (descriptorHeaderOf buf).headerSize.toNat = recordDescriptorHeaderSize
      · by_cases keyFits : (descriptorHeaderOf buf).keySize.toNat ≤ buf.length - 36
        · have capacity := rust_firstPayloadCapacity build buf.length
            (descriptorHeaderOf buf).keySize.toNat (by omega)
          by_cases payloadFits : (descriptorHeaderOf buf).firstPayloadSize.toNat ≤
              buf.length - 36 - (descriptorHeaderOf buf).keySize.toNat
          · obtain ⟨keySlice, payloadSlice⟩ := descriptor_slices large keyFits payloadFits
            by_cases counted : (descriptorHeaderOf buf).chunkCount = 0
            · simp [isDescriptor, crc, size, capacity, payloadFits, keyFits, counted, room]
            · simp [isDescriptor, crc, size, capacity, Nat.not_lt.mpr payloadFits, payloadFits,
                Nat.not_lt.mpr keyFits, keyFits, counted, room, keySlice, payloadSlice]
          · simp [isDescriptor, crc, size, capacity, payloadFits, keyFits, room]
        · simp [isDescriptor, crc, size, keyFits, room]
      · simp [isDescriptor, crc, size]
    · simp [isDescriptor, crc]
  · simp [isDescriptor]

theorem go_readDescriptor (descriptorBlock : Nat) (buf : Bytes) (large : 36 ≤ buf.length)
    (small : buf.length < 2 ^ 32) :
    Go.readDescriptor buf.length descriptorBlock buf = .ok (descriptorView descriptorBlock buf) := by
  have unmarshalled := go_unmarshalDescriptorHeader buf (by omega)
  have type : (descriptorHeaderOf buf).blockType = u8At buf 0 := rfl
  have room := go_keyRoom large small
  simp only [Go.readDescriptor, descriptorView, unmarshalled, type, room, bind, Except.bind, pure,
    Except.pure]
  by_cases isDescriptor : u8At buf 0 = blockTypeRecordDescriptor
  · by_cases crc : Rust.verifyBlockCrc buf = true
    · by_cases size : (descriptorHeaderOf buf).headerSize.toNat = recordDescriptorHeaderSize
      · by_cases keyFits : (descriptorHeaderOf buf).keySize.toNat ≤ buf.length - 36
        · have capacity := go_firstPayloadCapacity buf.length
            (descriptorHeaderOf buf).keySize.toNat (by omega) small
          by_cases payloadFits : (descriptorHeaderOf buf).firstPayloadSize.toNat ≤
              buf.length - 36 - (descriptorHeaderOf buf).keySize.toNat
          · obtain ⟨keySlice, payloadSlice⟩ := descriptor_slices large keyFits payloadFits
            have keyEnd : Go.u32Add recordDescriptorHeaderSize (descriptorHeaderOf buf).keySize.toNat =
                recordDescriptorHeaderSize + (descriptorHeaderOf buf).keySize.toNat :=
              go_u32Add_eq (by simp only [recordDescriptorHeaderSize]; omega)
            have payloadEnd : Go.u32Add
                (recordDescriptorHeaderSize + (descriptorHeaderOf buf).keySize.toNat)
                (descriptorHeaderOf buf).firstPayloadSize.toNat =
                recordDescriptorHeaderSize + (descriptorHeaderOf buf).keySize.toNat +
                  (descriptorHeaderOf buf).firstPayloadSize.toNat :=
              go_u32Add_eq (by simp only [recordDescriptorHeaderSize]; omega)
            by_cases counted : (descriptorHeaderOf buf).chunkCount = 0
            · simp [isDescriptor, crc, size, capacity, payloadFits, keyFits, counted]
            · simp [isDescriptor, crc, size, capacity, Nat.not_lt.mpr payloadFits, payloadFits,
                Nat.not_lt.mpr keyFits, keyFits, counted, keyEnd, payloadEnd, keySlice,
                payloadSlice]
          · simp [isDescriptor, crc, size, capacity, payloadFits, keyFits]
        · simp [isDescriptor, crc, size, keyFits]
      · simp [isDescriptor, crc, size]
    · simp [isDescriptor, crc]
  · simp [isDescriptor]

theorem rust_readChunk (build : Rust.Build) (descriptorBlock expectedIdx : Nat) (buf : Bytes)
    (large : 36 ≤ buf.length) :
    Rust.readChunk build buf.length descriptorBlock expectedIdx buf =
      .ok (chunkView descriptorBlock expectedIdx buf) := by
  have unmarshalled := rust_unmarshalChunkHeader buf (by omega)
  have type : (chunkHeaderOf buf).blockType = u8At buf 0 := rfl
  have capacity := rust_chunkPayloadCapacity build buf.length (by omega)
  simp only [Rust.readChunk, chunkView, unmarshalled, type, capacity, bind, Except.bind, pure,
    Except.pure]
  by_cases isChunk : u8At buf 0 = blockTypeValueChunk
  · by_cases crc : Rust.verifyBlockCrc buf = true
    · by_cases size : (chunkHeaderOf buf).headerSize.toNat = valueChunkHeaderSize
      · by_cases owner : (chunkHeaderOf buf).ownerDescriptor.toNat = descriptorBlock
        · by_cases index : (chunkHeaderOf buf).chunkIndex.toNat = expectedIdx
          · by_cases fits : (chunkHeaderOf buf).payloadSize.toNat ≤ buf.length - 24
            · have payload : slice buf valueChunkHeaderSize
                  (valueChunkHeaderSize + (chunkHeaderOf buf).payloadSize.toNat) =
                  .ok ((buf.take (20 + (chunkHeaderOf buf).payloadSize.toNat)).drop 20) :=
                slice_ok (Nat.le_add_right _ _)
                  (show 20 + (chunkHeaderOf buf).payloadSize.toNat ≤ buf.length by omega)
              simp [isChunk, crc, size, owner, index, Nat.not_lt.mpr fits, fits, payload]
            · simp [isChunk, crc, size, owner, index, fits]
          · simp [isChunk, crc, size, owner, index]
        · simp [isChunk, crc, size, owner]
      · simp [isChunk, crc, size]
    · simp [isChunk, crc]
  · simp [isChunk]

theorem go_readChunk (descriptorBlock expectedIdx : Nat) (buf : Bytes) (large : 36 ≤ buf.length)
    (small : buf.length < 2 ^ 32) :
    Go.readChunk buf.length descriptorBlock expectedIdx buf =
      .ok (chunkView descriptorBlock expectedIdx buf) := by
  have unmarshalled := go_unmarshalChunkHeader buf (by omega)
  have type : (chunkHeaderOf buf).blockType = u8At buf 0 := rfl
  have capacity := go_chunkPayloadCapacity buf.length (by omega) small
  simp only [Go.readChunk, chunkView, unmarshalled, type, capacity, bind, Except.bind, pure,
    Except.pure]
  by_cases isChunk : u8At buf 0 = blockTypeValueChunk
  · by_cases crc : Rust.verifyBlockCrc buf = true
    · by_cases size : (chunkHeaderOf buf).headerSize.toNat = valueChunkHeaderSize
      · by_cases owner : (chunkHeaderOf buf).ownerDescriptor.toNat = descriptorBlock
        · by_cases index : (chunkHeaderOf buf).chunkIndex.toNat = expectedIdx
          · by_cases fits : (chunkHeaderOf buf).payloadSize.toNat ≤ buf.length - 24
            · have stop : Go.u32Add valueChunkHeaderSize (chunkHeaderOf buf).payloadSize.toNat =
                  20 + (chunkHeaderOf buf).payloadSize.toNat :=
                go_u32Add_eq (by simp only [valueChunkHeaderSize]; omega)
              have payload : slice buf valueChunkHeaderSize
                  (20 + (chunkHeaderOf buf).payloadSize.toNat) =
                  .ok ((buf.take (20 + (chunkHeaderOf buf).payloadSize.toNat)).drop 20) :=
                slice_ok (Nat.le_add_right _ _) (by omega)
              simp [isChunk, crc, size, owner, index, Nat.not_lt.mpr fits, fits, stop, payload]
            · simp [isChunk, crc, size, owner, index, fits]
          · simp [isChunk, crc, size, owner, index]
        · simp [isChunk, crc, size, owner]
      · simp [isChunk, crc, size]
    · simp [isChunk, crc]
  · simp [isChunk]

end Embedkv.Image
