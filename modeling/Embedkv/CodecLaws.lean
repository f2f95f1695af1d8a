import Embedkv.Agree

/-!
# Header codecs are inverse to each other

The fields of a header tile its bytes: each one starts where the one before it
ends, and none is left out. So a header is a fixed-size encoding at the front of
a block in both directions. A header that was marshalled and sealed with the
checksum is the header that is unmarshalled, and a header that was unmarshalled
and is marshalled again changes no byte. The checksum field lies behind the
header as soon as the block has four bytes more than the header.
-/

namespace Embedkv.CodecLaws

open Embedkv.Lib Embedkv.Format Embedkv.Codec

set_option autoImplicit false

/-! ## Fields read back into bytes -/

theorem u8At_range (buf : Bytes) (count : Nat) (inside : count ≤ buf.length) :
    (List.range count).map (u8At buf) = buf.take count := by
  apply List.ext_getElem
  · rw [List.length_map, List.length_range, List.length_take]
    omega
  · intro index left right
    rw [List.length_map, List.length_range] at left
    rw [List.getElem_map, List.getElem_range, List.getElem_take, u8At, List.getD_eq_getElem]

theorem slice_size {buf : Bytes} {offset width : Nat} (inside : offset + width ≤ buf.length) :
    ((buf.drop offset).take width).length = width := by
  rw [List.length_take, List.length_drop]
  omega

theorem u16Bytes_u16At (buf : Bytes) (offset : Nat) (inside : offset + 2 ≤ buf.length) :
    u16Bytes (u16At buf offset) = (buf.drop offset).take 2 := by
  have size := slice_size inside
  have small := leValue_lt ((buf.drop offset).take 2)
  have written := leBytes_leValue ((buf.drop offset).take 2)
  rw [size] at small written
  have value : (u16At buf offset).toNat = leValue ((buf.drop offset).take 2) := by
    rw [u16At, UInt16.toNat_ofNat']
    exact Nat.mod_eq_of_lt small
  rw [u16Bytes, value, written]

theorem u32Bytes_u32At (buf : Bytes) (offset : Nat) (inside : offset + 4 ≤ buf.length) :
    u32Bytes (u32At buf offset) = (buf.drop offset).take 4 := by
  have size := slice_size inside
  have small := leValue_lt ((buf.drop offset).take 4)
  have written := leBytes_leValue ((buf.drop offset).take 4)
  rw [size] at small written
  have value : (u32At buf offset).toNat = leValue ((buf.drop offset).take 4) := by
    rw [u32At, UInt32.toNat_ofNat']
    exact Nat.mod_eq_of_lt small
  rw [u32Bytes, value, written]

/-- The next field joins what stands before it. -/
theorem take_next (buf : Bytes) (offset width after : Nat) (there : offset + width = after) :
    buf.take offset ++ (buf.drop offset).take width = buf.take after := by
  rw [← there, List.take_add]

theorem storageHeaderBytes_of (buf : Bytes) (long : 28 ≤ buf.length) :
    storageHeaderBytes (storageHeaderOf buf) = buf.take 28 := by
  have single : [u8At buf 0, u8At buf 1, u8At buf 2, u8At buf 3] = buf.take 4 :=
    u8At_range buf 4 (by omega)
  simp only [storageHeaderBytes, storageHeaderOf, single]
  rw [u16Bytes_u16At buf 4 (by omega), u16Bytes_u16At buf 6 (by omega),
    u32Bytes_u32At buf 8 (by omega), u32Bytes_u32At buf 12 (by omega),
    u32Bytes_u32At buf 16 (by omega), u32Bytes_u32At buf 20 (by omega),
    u32Bytes_u32At buf 24 (by omega)]
  rw [take_next buf 4 2 6 rfl, take_next buf 6 2 8 rfl, take_next buf 8 4 12 rfl,
    take_next buf 12 4 16 rfl, take_next buf 16 4 20 rfl, take_next buf 20 4 24 rfl,
    take_next buf 24 4 28 rfl]

theorem descriptorHeaderBytes_of (buf : Bytes) (long : 32 ≤ buf.length) :
    descriptorHeaderBytes (descriptorHeaderOf buf) = buf.take 32 := by
  have single : [u8At buf 0, u8At buf 1] = buf.take 2 := u8At_range buf 2 (by omega)
  simp only [descriptorHeaderBytes, descriptorHeaderOf, single]
  rw [u16Bytes_u16At buf 2 (by omega), u32Bytes_u32At buf 4 (by omega),
    u32Bytes_u32At buf 8 (by omega), u32Bytes_u32At buf 12 (by omega),
    u32Bytes_u32At buf 16 (by omega), u32Bytes_u32At buf 20 (by omega),
    u32Bytes_u32At buf 24 (by omega), u32Bytes_u32At buf 28 (by omega)]
  rw [take_next buf 2 2 4 rfl, take_next buf 4 4 8 rfl, take_next buf 8 4 12 rfl,
    take_next buf 12 4 16 rfl, take_next buf 16 4 20 rfl, take_next buf 20 4 24 rfl,
    take_next buf 24 4 28 rfl, take_next buf 28 4 32 rfl]

theorem chunkHeaderBytes_of (buf : Bytes) (long : 20 ≤ buf.length) :
    chunkHeaderBytes (chunkHeaderOf buf) = buf.take 20 := by
  have single : [u8At buf 0, u8At buf 1] = buf.take 2 := u8At_range buf 2 (by omega)
  simp only [chunkHeaderBytes, chunkHeaderOf, single]
  rw [u16Bytes_u16At buf 2 (by omega), u32Bytes_u32At buf 4 (by omega),
    u32Bytes_u32At buf 8 (by omega), u32Bytes_u32At buf 12 (by omega),
    u32Bytes_u32At buf 16 (by omega)]
  rw [take_next buf 2 2 4 rfl, take_next buf 4 4 8 rfl, take_next buf 8 4 12 rfl,
    take_next buf 12 4 16 rfl, take_next buf 16 4 20 rfl]

def storageLayout : FrontLayout StorageHeader where
  size := storageHeaderSize
  bytes := storageHeaderBytes
  read := storageHeaderOf
  bytes_length := storageHeaderBytes_length
  read_append := storageHeaderOf_append
  bytes_read := storageHeaderBytes_of

def descriptorLayout : FrontLayout RecordDescriptorHeader where
  size := recordDescriptorHeaderSize
  bytes := descriptorHeaderBytes
  read := descriptorHeaderOf
  bytes_length := descriptorHeaderBytes_length
  read_append := descriptorHeaderOf_append
  bytes_read := descriptorHeaderBytes_of

def chunkLayout : FrontLayout ValueChunkHeader where
  size := valueChunkHeaderSize
  bytes := chunkHeaderBytes
  read := chunkHeaderOf
  bytes_length := chunkHeaderBytes_length
  read_append := chunkHeaderOf_append
  bytes_read := chunkHeaderBytes_of

/-! ## Codecs of the two implementations -/

/-- The functions of one implementation that concern one type of header. -/
structure HeaderCodec (H : Type) where
  size : Nat
  marshal : H → Bytes → Except Failure Bytes
  unmarshal : Bytes → Except Failure (H × Bool)
  writeBlockCrc : Bytes → Bytes
  verifyBlockCrc : Bytes → Bool

section
variable {H : Type}

def rustCodec (size : Nat) (marshal : H → Bytes → Except Failure Bytes)
    (unmarshal : Bytes → Except Failure (H × Bool)) : HeaderCodec H where
  size := size
  marshal := marshal
  unmarshal := unmarshal
  writeBlockCrc := Rust.writeBlockCrc
  verifyBlockCrc := Rust.verifyBlockCrc

def goCodec (size : Nat) (marshal : H → Bytes → Except Failure Bytes)
    (unmarshal : Bytes → Except Failure (H × Bool)) : HeaderCodec H where
  size := size
  marshal := marshal
  unmarshal := unmarshal
  writeBlockCrc := Go.writeBlockCRC
  verifyBlockCrc := Go.verifyBlockCRC

end

namespace HeaderCodec

variable {H : Type}

/-- A header that is marshalled and sealed is the one that is unmarshalled, with
the bytes between it and the checksum as the buffer held them. The header
unmarshalled from a block with a valid checksum marshals to the block itself. -/
structure Inverse (codec : HeaderCodec H) : Prop where
  seals : ∀ (h : H) (buf : Bytes), codec.size + blockCrcSize ≤ buf.length →
    ∃ marshalled, codec.marshal h buf = .ok marshalled ∧
      codec.unmarshal (codec.writeBlockCrc marshalled) = .ok (h, true) ∧
      (codec.writeBlockCrc marshalled).length = buf.length ∧
      ((codec.writeBlockCrc marshalled).take (buf.length - blockCrcSize)).drop codec.size =
        (buf.take (buf.length - blockCrcSize)).drop codec.size
  restores : ∀ buf : Bytes, codec.size ≤ buf.length → codec.verifyBlockCrc buf = true →
    ∃ h, codec.unmarshal buf = .ok (h, true) ∧ codec.marshal h buf = .ok buf

/-- A codec writes and reads the layout and uses the one block checksum. -/
structure Follows (codec : HeaderCodec H) (layout : FrontLayout H) : Prop where
  size : codec.size = layout.size
  marshal : ∀ h buf, layout.size ≤ buf.length → codec.marshal h buf = .ok (layout.overwrite h buf)
  unmarshal : ∀ buf, layout.size ≤ buf.length →
    codec.unmarshal buf = .ok (layout.read buf, Rust.verifyBlockCrc buf)
  writes : ∀ buf, codec.writeBlockCrc buf = Rust.writeBlockCrc buf
  verifies : ∀ buf, codec.verifyBlockCrc buf = Rust.verifyBlockCrc buf

variable {codec : HeaderCodec H} {layout : FrontLayout H}

/-- The sealed block: the header, the bytes behind it, the checksum. -/
theorem sealed_eq (layout : FrontLayout H) (h : H) {buf : Bytes}
    (long : layout.size + 4 ≤ buf.length) :
    ∃ crc, Rust.writeBlockCrc (layout.overwrite h buf) =
      layout.bytes h ++ (buf.take (buf.length - 4)).drop layout.size ++ u32Bytes crc := by
  have size := layout.overwrite_length h (show layout.size ≤ buf.length by omega)
  have body := layout.take_overwrite h buf (show layout.size ≤ buf.length - 4 by omega)
  refine ⟨bodyCrc ((layout.overwrite h buf).take (buf.length - 4)), ?_⟩
  rw [writeBlockCrc_eq _ (by omega), size, body]

theorem Follows.inverse (follows : codec.Follows layout) : codec.Inverse := by
  have field : blockCrcSize = 4 := rfl
  constructor
  · intro h buf long
    rw [follows.size, field] at long
    have size := layout.overwrite_length h (show layout.size ≤ buf.length by omega)
    have sealedSize := writeBlockCrc_length (layout.overwrite h buf) (by omega)
    have verified := verifyBlockCrc_writeBlockCrc (layout.overwrite h buf) (by omega)
    obtain ⟨crc, parts⟩ := sealed_eq layout h long
    refine ⟨layout.overwrite h buf, follows.marshal h buf (by omega), ?_, ?_, ?_⟩
    · rw [follows.writes, follows.unmarshal _ (by omega), verified, parts, List.append_assoc,
        layout.read_append]
    · rw [follows.writes, sealedSize, size]
    · rw [follows.writes, follows.size, field, parts]
      apply slice_between _ _ _ (layout.bytes_length h)
      rw [List.length_drop, List.length_take]
      omega
  · intro buf long valid
    rw [follows.size] at long
    rw [follows.verifies] at valid
    refine ⟨layout.read buf, ?_, ?_⟩
    · rw [follows.unmarshal buf long, valid]
    · rw [follows.marshal _ buf long, layout.overwrite_read long]

end HeaderCodec

section
variable {H : Type} (layout : FrontLayout H) {marshal : H → Bytes → Except Failure Bytes}
  {unmarshal : Bytes → Except Failure (H × Bool)}

theorem rustCodec_follows
    (marshals : ∀ h buf, layout.size ≤ buf.length → marshal h buf = .ok (layout.overwrite h buf))
    (unmarshals : ∀ buf, layout.size ≤ buf.length →
      unmarshal buf = .ok (layout.read buf, Rust.verifyBlockCrc buf)) :
    (rustCodec layout.size marshal unmarshal).Follows layout where
  size := rfl
  marshal := marshals
  unmarshal := unmarshals
  writes _ := rfl
  verifies _ := rfl

theorem goCodec_follows
    (marshals : ∀ h buf, layout.size ≤ buf.length → marshal h buf = .ok (layout.overwrite h buf))
    (unmarshals : ∀ buf, layout.size ≤ buf.length →
      unmarshal buf = .ok (layout.read buf, Rust.verifyBlockCrc buf)) :
    (goCodec layout.size marshal unmarshal).Follows layout where
  size := rfl
  marshal := marshals
  unmarshal := unmarshals
  writes := writeBlockCRC_eq
  verifies := verifyBlockCRC_eq

end

theorem go_unmarshalStorageHeader (buf : Bytes) (large : 28 ≤ buf.length) :
    Go.unmarshalStorageHeader buf = .ok (storageHeaderOf buf, Rust.verifyBlockCrc buf) := by
  rw [Agree.go_unmarshalStorageHeader_eq, Image.rust_unmarshalStorageHeader buf large]

/-- In both implementations and for the three types of header, marshalling with
sealing and unmarshalling are inverse to each other in both directions. -/
theorem header_codecs_inverse :
    (rustCodec storageHeaderSize marshalStorageHeader Rust.unmarshalStorageHeader).Inverse ∧
    (rustCodec recordDescriptorHeaderSize marshalDescriptorHeader
      Rust.unmarshalDescriptorHeader).Inverse ∧
    (rustCodec valueChunkHeaderSize marshalChunkHeader Rust.unmarshalChunkHeader).Inverse ∧
    (goCodec storageHeaderSize marshalStorageHeader Go.unmarshalStorageHeader).Inverse ∧
    (goCodec recordDescriptorHeaderSize marshalDescriptorHeader
      Go.unmarshalDescriptorHeader).Inverse ∧
    (goCodec valueChunkHeaderSize marshalChunkHeader Go.unmarshalChunkHeader).Inverse := by
  refine ⟨?_, ?_, ?_, ?_, ?_, ?_⟩
  · exact (rustCodec_follows storageLayout marshalStorageHeader_eq
      Image.rust_unmarshalStorageHeader).inverse
  · exact (rustCodec_follows descriptorLayout marshalDescriptorHeader_eq
      Image.rust_unmarshalDescriptorHeader).inverse
  · exact (rustCodec_follows chunkLayout marshalChunkHeader_eq
      Image.rust_unmarshalChunkHeader).inverse
  · exact (goCodec_follows storageLayout marshalStorageHeader_eq
      go_unmarshalStorageHeader).inverse
  · exact (goCodec_follows descriptorLayout marshalDescriptorHeader_eq
      Image.go_unmarshalDescriptorHeader).inverse
  · exact (goCodec_follows chunkLayout marshalChunkHeader_eq
      Image.go_unmarshalChunkHeader).inverse

end Embedkv.CodecLaws
