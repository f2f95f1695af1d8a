import Embedkv.Format

/-!
# Blocks in the Rust implementation

`crc.rs` and the block-level functions of `block.rs`. Arithmetic on `u32`
follows the cargo profile: a `dev` build unwinds on overflow, a `release` build
wraps. Everything that subtracts a size or counts takes the profile as a
parameter, so results below hold for both builds.
-/

namespace Embedkv.Rust

open Embedkv.Lib Embedkv.Format

set_option autoImplicit false

inductive Build where
  | dev
  | release
  deriving DecidableEq, Repr

def u32Add (build : Build) (a b : Nat) : Except Failure Nat :=
  if a + b < 2 ^ 32 then .ok (a + b)
  else match build with
    | .dev => .error .panic
    | .release => .ok ((a + b) % 2 ^ 32)

def u32Sub (build : Build) (a b : Nat) : Except Failure Nat :=
  if b ≤ a then .ok (a - b)
  else match build with
    | .dev => .error .panic
    | .release => .ok ((2 ^ 32 + a - b) % 2 ^ 32)

/-! ## crc.rs -/

/-- One bit of the table generator for the reflected IEEE polynomial. -/
def crcBit (crc : UInt32) : UInt32 :=
  if crc &&& 1 ≠ 0 then (crc >>> 1) ^^^ 0xEDB88320 else crc >>> 1

def crcTable : List UInt32 :=
  (List.range 256).map fun i => crcBit^[8] (UInt32.ofNat i)

def crc32Update (crc : UInt32) (data : Bytes) : UInt32 :=
  data.foldl (fun crc b =>
    (crc >>> 8) ^^^ crcTable.getD ((crc ^^^ b.toUInt32) &&& 0xFF).toNat 0) crc

def computeBlockCrc32 (buf : Bytes) (crcOffset : Nat) : UInt32 :=
  let crc := crc32Update 0xFFFFFFFF (buf.take crcOffset)
  let crc := crc32Update crc [0, 0, 0, 0]
  let crc := crc32Update crc (buf.drop (crcOffset + 4))
  crc ^^^ 0xFFFFFFFF

def blockCrcOffset (buf : Bytes) : Nat := buf.length - 4

def writeBlockCrc (buf : Bytes) : Bytes :=
  let off := blockCrcOffset buf
  splice off (u32Bytes (computeBlockCrc32 buf off)) buf

def verifyBlockCrc (buf : Bytes) : Bool :=
  let off := blockCrcOffset buf
  computeBlockCrc32 buf off == u32At buf off

/-! ## block.rs -/

def unmarshalStorageHeader (buf : Bytes) : Except Failure (StorageHeader × Bool) := do
  requireLength buf storageHeaderSize
  return (storageHeaderOf buf, verifyBlockCrc buf)

def unmarshalDescriptorHeader (buf : Bytes) : Except Failure (RecordDescriptorHeader × Bool) := do
  requireLength buf recordDescriptorHeaderSize
  return (descriptorHeaderOf buf, verifyBlockCrc buf)

def unmarshalChunkHeader (buf : Bytes) : Except Failure (ValueChunkHeader × Bool) := do
  requireLength buf valueChunkHeaderSize
  return (chunkHeaderOf buf, verifyBlockCrc buf)

inductive BlockClass where
  | free
  | valid
  | garbage
  deriving DecidableEq, Repr

/-- The tail of `classify_block`, reached when no header was recognised. -/
def classifyFirstByte (buf : Bytes) : BlockClass :=
  if u8At buf 0 = 0x00 ∨ u8At buf 0 = 0xFF then .free else .garbage

def classifyBlock (buf : Bytes) : Except Failure BlockClass := do
  if buf.isEmpty then return .free
  else
    let len := asU32 buf.length
    if u8At buf 0 = blockTypeStorageHeader ∧ storageHeaderSize + blockCrcSize ≤ len then
      let (_, ok) ← unmarshalStorageHeader buf
      return if ok then .valid else classifyFirstByte buf
    else if u8At buf 0 = blockTypeRecordDescriptor ∧
        recordDescriptorHeaderSize + blockCrcSize ≤ len then
      let (_, ok) ← unmarshalDescriptorHeader buf
      return if ok then .valid else classifyFirstByte buf
    else if u8At buf 0 = blockTypeValueChunk ∧ valueChunkHeaderSize + blockCrcSize ≤ len then
      let (_, ok) ← unmarshalChunkHeader buf
      return if ok then .valid else classifyFirstByte buf
    else return classifyFirstByte buf

def isFreeCandidate (buf : Bytes) : Except Failure Bool := do
  return (← classifyBlock buf) = .free

/-- `block_size - RECORD_DESCRIPTOR_HEADER_SIZE - BLOCK_CRC_SIZE`. -/
def keyRoom (build : Build) (blockSize : Nat) : Except Failure Nat := do
  let a ← u32Sub build blockSize recordDescriptorHeaderSize
  u32Sub build a blockCrcSize

def firstPayloadCapacity (build : Build) (blockSize keySize : Nat) : Except Failure Nat := do
  let a ← u32Sub build blockSize recordDescriptorHeaderSize
  let b ← u32Sub build a keySize
  u32Sub build b blockCrcSize

def chunkPayloadCapacity (build : Build) (blockSize : Nat) : Except Failure Nat := do
  let a ← u32Sub build blockSize valueChunkHeaderSize
  u32Sub build a blockCrcSize

end Embedkv.Rust
