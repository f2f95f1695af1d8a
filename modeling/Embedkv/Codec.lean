import Embedkv.Go.Record
import Embedkv.Rust.Block

/-!
# Header codecs and the block checksum

A marshalled header is one contiguous byte string followed by whatever the
buffer held behind it, and unmarshalling reads the header back. The checksum
written into the last four bytes is a function of the bytes before them, so it
verifies whatever those four bytes held. The two implementations compute the
same checksum: Go complements the register around every write, Rust once at
each end.
-/

namespace Embedkv.Codec

open Embedkv.Lib Embedkv.Format

set_option autoImplicit false

/-! ## Words -/

@[simp] theorem u16Bytes_length (word : UInt16) : (u16Bytes word).length = 2 := leBytes_length _ _

@[simp] theorem u32Bytes_length (word : UInt32) : (u32Bytes word).length = 4 := leBytes_length _ _

theorem u16_of_u16Bytes (word : UInt16) : UInt16.ofNat (leValue (u16Bytes word)) = word := by
  rw [u16Bytes, leValue_leBytes, Nat.mod_eq_of_lt (by simpa using word.toNat_lt)]
  exact UInt16.ofNat_toNat

theorem u32_of_u32Bytes (word : UInt32) : UInt32.ofNat (leValue (u32Bytes word)) = word := by
  rw [u32Bytes, leValue_leBytes, Nat.mod_eq_of_lt (by simpa using word.toNat_lt)]
  exact UInt32.ofNat_toNat

theorem asU32_of_lt {n : Nat} (small : n < 2 ^ 32) : asU32 n = n := Nat.mod_eq_of_lt small

theorem asU32_lt (n : Nat) : asU32 n < 2 ^ 32 := Nat.mod_lt _ (by decide)

theorem asU32_le (n : Nat) : asU32 n ≤ n := Nat.mod_le _ _

theorem u32_toNat_ofNat {n : Nat} (small : n < 2 ^ 32) : (UInt32.ofNat n).toNat = n := by
  rw [UInt32.toNat_ofNat', Nat.mod_eq_of_lt small]

theorem requireLength_ok {buf : Bytes} {size : Nat} (long : size ≤ buf.length) :
    requireLength buf size = .ok () := if_pos long

theorem slice_ok {buf : Bytes} {start stop : Nat} (ordered : start ≤ stop)
    (inside : stop ≤ buf.length) : slice buf start stop = .ok ((buf.take stop).drop start) :=
  if_pos ⟨ordered, inside⟩

theorem copyFromSlice_ok {offset : Nat} {source buf : Bytes}
    (fits : offset + source.length ≤ buf.length) :
    copyFromSlice offset source buf = .ok (splice offset source buf) := by
  simp [copyFromSlice, requireLength_ok fits, bind, Except.bind, pure, Except.pure]

/-! ## Headers as byte strings -/

def storageHeaderBytes (h : StorageHeader) : Bytes :=
  [h.blockType, h.magic.1, h.magic.2.1, h.magic.2.2] ++ u16Bytes h.versionMajor ++
    u16Bytes h.versionMinor ++ u32Bytes h.blockSize ++ u32Bytes h.blockCount ++
    u32Bytes h.replicaId ++ u32Bytes h.formatSeq ++ u32Bytes h.flags

def descriptorHeaderBytes (h : RecordDescriptorHeader) : Bytes :=
  [h.blockType, h.headerSize] ++ u16Bytes h.keySize ++ u32Bytes h.generation ++
    u32Bytes h.totalSize ++ u32Bytes h.firstPayloadSize ++ u32Bytes h.chunkCount ++
    u32Bytes h.nextChunk ++ u32Bytes h.flags ++ u32Bytes h.userFlags

def chunkHeaderBytes (h : ValueChunkHeader) : Bytes :=
  [h.blockType, h.headerSize] ++ u16Bytes h.flags ++ u32Bytes h.ownerDescriptor ++
    u32Bytes h.chunkIndex ++ u32Bytes h.payloadSize ++ u32Bytes h.nextChunk

@[simp] theorem storageHeaderBytes_length (h : StorageHeader) :
    (storageHeaderBytes h).length = 28 := by simp [storageHeaderBytes]

@[simp] theorem descriptorHeaderBytes_length (h : RecordDescriptorHeader) :
    (descriptorHeaderBytes h).length = 32 := by simp [descriptorHeaderBytes]

@[simp] theorem chunkHeaderBytes_length (h : ValueChunkHeader) :
    (chunkHeaderBytes h).length = 20 := by simp [chunkHeaderBytes]

/-- The next field copied behind what has been written so far. -/
theorem splice_next (front source buf : Bytes) (offset after : Nat)
    (here : front.length = offset) (there : offset + source.length = after) :
    splice offset source (front ++ buf.drop offset) = (front ++ source) ++ buf.drop after := by
  subst here there
  rw [splice_append, List.drop_drop]

theorem marshalStorageHeader_eq (h : StorageHeader) (buf : Bytes) (long : 28 ≤ buf.length) :
    marshalStorageHeader h buf = .ok (storageHeaderBytes h ++ buf.drop 28) := by
  have checked : requireLength buf storageHeaderSize = .ok () := requireLength_ok long
  simp only [marshalStorageHeader, checked, bind,
    Except.bind, pure, Except.pure, splice_zero, List.length_singleton]
  rw [splice_next _ _ _ 1 2 (by simp) rfl, splice_next _ _ _ 2 3 (by simp) rfl,
    splice_next _ _ _ 3 4 (by simp) rfl, splice_next _ _ _ 4 6 (by simp) (by simp),
    splice_next _ _ _ 6 8 (by simp) (by simp), splice_next _ _ _ 8 12 (by simp) (by simp),
    splice_next _ _ _ 12 16 (by simp) (by simp), splice_next _ _ _ 16 20 (by simp) (by simp),
    splice_next _ _ _ 20 24 (by simp) (by simp), splice_next _ _ _ 24 28 (by simp) (by simp)]
  simp [storageHeaderBytes]

theorem marshalDescriptorHeader_eq (h : RecordDescriptorHeader) (buf : Bytes)
    (long : 32 ≤ buf.length) :
    marshalDescriptorHeader h buf = .ok (descriptorHeaderBytes h ++ buf.drop 32) := by
  have checked : requireLength buf recordDescriptorHeaderSize = .ok () := requireLength_ok long
  simp only [marshalDescriptorHeader, checked,
    bind, Except.bind, pure, Except.pure, splice_zero, List.length_singleton]
  rw [splice_next _ _ _ 1 2 (by simp) rfl, splice_next _ _ _ 2 4 (by simp) (by simp),
    splice_next _ _ _ 4 8 (by simp) (by simp), splice_next _ _ _ 8 12 (by simp) (by simp),
    splice_next _ _ _ 12 16 (by simp) (by simp), splice_next _ _ _ 16 20 (by simp) (by simp),
    splice_next _ _ _ 20 24 (by simp) (by simp), splice_next _ _ _ 24 28 (by simp) (by simp),
    splice_next _ _ _ 28 32 (by simp) (by simp)]
  simp [descriptorHeaderBytes]

theorem marshalChunkHeader_eq (h : ValueChunkHeader) (buf : Bytes) (long : 20 ≤ buf.length) :
    marshalChunkHeader h buf = .ok (chunkHeaderBytes h ++ buf.drop 20) := by
  have checked : requireLength buf valueChunkHeaderSize = .ok () := requireLength_ok long
  simp only [marshalChunkHeader, checked,
    bind, Except.bind, pure, Except.pure, splice_zero, List.length_singleton]
  rw [splice_next _ _ _ 1 2 (by simp) rfl, splice_next _ _ _ 2 4 (by simp) (by simp),
    splice_next _ _ _ 4 8 (by simp) (by simp), splice_next _ _ _ 8 12 (by simp) (by simp),
    splice_next _ _ _ 12 16 (by simp) (by simp), splice_next _ _ _ 16 20 (by simp) (by simp)]
  simp [chunkHeaderBytes]

/-! ## Reading headers back -/

theorem storageHeaderOf_append (h : StorageHeader) (rest : Bytes) :
    storageHeaderOf (storageHeaderBytes h ++ rest) = h := by
  cases h
  simp only [storageHeaderOf, StorageHeader.mk.injEq]
  exact ⟨rfl, rfl, u16_of_u16Bytes _, u16_of_u16Bytes _, u32_of_u32Bytes _, u32_of_u32Bytes _,
    u32_of_u32Bytes _, u32_of_u32Bytes _, u32_of_u32Bytes _⟩

theorem descriptorHeaderOf_append (h : RecordDescriptorHeader) (rest : Bytes) :
    descriptorHeaderOf (descriptorHeaderBytes h ++ rest) = h := by
  cases h
  simp only [descriptorHeaderOf, RecordDescriptorHeader.mk.injEq]
  exact ⟨rfl, rfl, u16_of_u16Bytes _, u32_of_u32Bytes _, u32_of_u32Bytes _, u32_of_u32Bytes _,
    u32_of_u32Bytes _, u32_of_u32Bytes _, u32_of_u32Bytes _, u32_of_u32Bytes _⟩

theorem chunkHeaderOf_append (h : ValueChunkHeader) (rest : Bytes) :
    chunkHeaderOf (chunkHeaderBytes h ++ rest) = h := by
  cases h
  simp only [chunkHeaderOf, ValueChunkHeader.mk.injEq]
  exact ⟨rfl, rfl, u16_of_u16Bytes _, u32_of_u32Bytes _, u32_of_u32Bytes _, u32_of_u32Bytes _,
    u32_of_u32Bytes _⟩

/-! ## The checksum -/

/-- The checksum of a block whose bytes before the CRC field are `body`. -/
def bodyCrc (body : Bytes) : UInt32 :=
  Rust.crc32Update (Rust.crc32Update 0xFFFFFFFF body) [0, 0, 0, 0] ^^^ 0xFFFFFFFF

theorem computeBlockCrc32_eq (buf : Bytes) (long : 4 ≤ buf.length) :
    Rust.computeBlockCrc32 buf (buf.length - 4) = bodyCrc (buf.take (buf.length - 4)) := by
  have tail : buf.drop (buf.length - 4 + 4) = [] := List.drop_eq_nil_of_le (by omega)
  have last (crc : UInt32) : Rust.crc32Update crc [] = crc := List.foldl_nil
  simp only [Rust.computeBlockCrc32, tail, bodyCrc, last]

theorem writeBlockCrc_eq (buf : Bytes) (long : 4 ≤ buf.length) :
    Rust.writeBlockCrc buf =
      buf.take (buf.length - 4) ++ u32Bytes (bodyCrc (buf.take (buf.length - 4))) := by
  have tail : buf.drop (buf.length - 4 + 4) = [] := List.drop_eq_nil_of_le (by omega)
  simp only [Rust.writeBlockCrc, Rust.blockCrcOffset, computeBlockCrc32_eq buf long, splice,
    u32Bytes_length, tail, List.append_nil]

theorem writeBlockCrc_length (buf : Bytes) (long : 4 ≤ buf.length) :
    (Rust.writeBlockCrc buf).length = buf.length := by
  rw [writeBlockCrc_eq buf long, List.length_append, List.length_take, u32Bytes_length]
  omega

theorem verifyBlockCrc_writeBlockCrc (buf : Bytes) (long : 4 ≤ buf.length) :
    Rust.verifyBlockCrc (Rust.writeBlockCrc buf) = true := by
  have size := writeBlockCrc_length buf long
  have bodySize : (buf.take (buf.length - 4)).length = buf.length - 4 := by simp
  have body : (Rust.writeBlockCrc buf).take (buf.length - 4) = buf.take (buf.length - 4) := by
    rw [writeBlockCrc_eq buf long, List.take_left' bodySize]
  have stored : u32At (Rust.writeBlockCrc buf) (buf.length - 4) =
      bodyCrc (buf.take (buf.length - 4)) := by
    rw [u32At, writeBlockCrc_eq buf long, List.drop_left' bodySize,
      List.take_of_length_le (by simp), u32_of_u32Bytes]
  have computed := computeBlockCrc32_eq (Rust.writeBlockCrc buf) (by omega)
  rw [size, body] at computed
  simp only [Rust.verifyBlockCrc, Rust.blockCrcOffset, size, computed, stored, beq_self_eq_true]

/-! ## Both implementations compute one checksum -/

theorem tableBit_eq_crcBit (crc : UInt32) : Go.tableBit crc = Rust.crcBit crc := by
  have low : (crc &&& 1).toNat = crc.toNat % 2 := by
    rw [UInt32.toNat_and]
    exact Nat.and_one_is_mod _
  have bit : crc &&& 1 = 1 ↔ crc &&& 1 ≠ 0 := by
    rw [ne_eq, ← UInt32.toNat_inj, ← UInt32.toNat_inj, low]
    simp
  simp only [Go.tableBit, Rust.crcBit, bit]

theorem ieeeTable_eq_crcTable : Go.ieeeTable = Rust.crcTable := by
  have same : Go.tableBit = Rust.crcBit := funext tableBit_eq_crcBit
  simp only [Go.ieeeTable, Rust.crcTable, same]

theorem table_index (crc : UInt32) (byte : UInt8) :
    (crc.toUInt8 ^^^ byte).toNat = ((crc ^^^ byte.toUInt32) &&& 0xFF).toNat := by
  have mask : (0xFF : UInt32).toNat = 2 ^ 8 - 1 := rfl
  rw [UInt8.toNat_xor, UInt32.toNat_and, UInt32.toNat_xor, mask, Nat.and_two_pow_sub_one_eq_mod,
    Nat.xor_mod_two_pow, UInt32.toNat_toUInt8, UInt8.toNat_toUInt32]
  rw [Nat.mod_eq_of_lt (a := byte.toNat) byte.toNat_lt]

theorem digestWrite_eq (crc : UInt32) (data : Bytes) :
    Go.digestWrite crc data = ~~~Rust.crc32Update (~~~crc) data := by
  simp only [Go.digestWrite, Rust.crc32Update, ieeeTable_eq_crcTable, table_index,
    UInt32.xor_comm]

theorem computeBlockCRC32_eq (buf : Bytes) (offset : Nat) :
    Go.computeBlockCRC32 buf offset = Rust.computeBlockCrc32 buf offset := by
  have start : ~~~(0 : UInt32) = 0xFFFFFFFF := by decide
  simp only [Go.computeBlockCRC32, Rust.computeBlockCrc32, digestWrite_eq, UInt32.not_not, start]
  rw [← UInt32.toBitVec_inj, UInt32.toBitVec_not, UInt32.toBitVec_xor, ← BitVec.xor_allOnes]
  rfl

theorem verifyBlockCRC_eq (buf : Bytes) : Go.verifyBlockCRC buf = Rust.verifyBlockCrc buf := by
  simp only [Go.verifyBlockCRC, Rust.verifyBlockCrc, Go.blockCRCOffset, Rust.blockCrcOffset,
    computeBlockCRC32_eq]

theorem writeBlockCRC_eq (buf : Bytes) : Go.writeBlockCRC buf = Rust.writeBlockCrc buf := by
  simp only [Go.writeBlockCRC, Rust.writeBlockCrc, Go.blockCRCOffset, Rust.blockCrcOffset,
    computeBlockCRC32_eq]

end Embedkv.Codec
