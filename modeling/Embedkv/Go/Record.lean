import Embedkv.State

/-!
# Blocks and records in the Go implementation

`crc.go`, the block-level functions of `block.go`, and `record.go`. Unsigned
arithmetic wraps in Go. The checksum goes through the standard library's
`hash/crc32`, whose digest complements the register around every write.
-/

namespace Embedkv.Go

open Embedkv.Lib Embedkv.Format Embedkv.Device Embedkv.State

set_option autoImplicit false

def u32Add (a b : Nat) : Nat := (a + b) % 2 ^ 32

def u32Sub (a b : Nat) : Nat := (2 ^ 32 + a - b) % 2 ^ 32

/-! ## hash/crc32 -/

/-- One bit of `simpleMakeTable(IEEE)`. -/
def tableBit (crc : UInt32) : UInt32 :=
  if crc &&& 1 = 1 then (crc >>> 1) ^^^ 0xEDB88320 else crc >>> 1

def ieeeTable : List UInt32 :=
  (List.range 256).map fun i => tableBit^[8] (UInt32.ofNat i)

/-- `crc32.Update`, which a digest's `Write` applies to its register. -/
def digestWrite (crc : UInt32) (p : Bytes) : UInt32 :=
  ~~~(p.foldl (fun crc v => ieeeTable.getD (crc.toUInt8 ^^^ v).toNat 0 ^^^ (crc >>> 8)) (~~~crc))

/-! ## crc.go -/

def computeBlockCRC32 (buf : Bytes) (crcOffset : Nat) : UInt32 :=
  let h := digestWrite 0 (buf.take crcOffset)
  let h := digestWrite h [0, 0, 0, 0]
  digestWrite h (buf.drop (crcOffset + 4))

def blockCRCOffset (buf : Bytes) : Nat := buf.length - 4

def writeBlockCRC (buf : Bytes) : Bytes :=
  let off := blockCRCOffset buf
  splice off (u32Bytes (computeBlockCRC32 buf off)) buf

def verifyBlockCRC (buf : Bytes) : Bool :=
  let off := blockCRCOffset buf
  computeBlockCRC32 buf off == u32At buf off

/-! ## block.go -/

def unmarshalStorageHeader (buf : Bytes) : Except Failure (StorageHeader × Bool) := do
  requireLength buf storageHeaderSize
  return (storageHeaderOf buf, verifyBlockCRC buf)

def unmarshalDescriptorHeader (buf : Bytes) : Except Failure (RecordDescriptorHeader × Bool) := do
  requireLength buf recordDescriptorHeaderSize
  return (descriptorHeaderOf buf, verifyBlockCRC buf)

def unmarshalChunkHeader (buf : Bytes) : Except Failure (ValueChunkHeader × Bool) := do
  requireLength buf valueChunkHeaderSize
  return (chunkHeaderOf buf, verifyBlockCRC buf)

inductive BlockClass where
  | free
  | valid
  | garbage
  deriving DecidableEq, Repr

def classifyFirstByte (first : UInt8) : BlockClass :=
  if first = 0x00 ∨ first = 0xFF then .free else .garbage

def classifyBlock (buf : Bytes) : Except Failure BlockClass := do
  if buf.length = 0 then return .free
  else
    let first := u8At buf 0
    if first = blockTypeStorageHeader then
      let (_, ok) ← unmarshalStorageHeader buf
      return if ok then .valid else classifyFirstByte first
    else if first = blockTypeRecordDescriptor ∧
        recordDescriptorHeaderSize + blockCrcSize ≤ asU32 buf.length then
      let (_, ok) ← unmarshalDescriptorHeader buf
      return if ok then .valid else classifyFirstByte first
    else if first = blockTypeValueChunk then
      let (_, ok) ← unmarshalChunkHeader buf
      return if ok then .valid else classifyFirstByte first
    else return classifyFirstByte first

def isFreeCandidate (buf : Bytes) : Except Failure Bool := do
  return (← classifyBlock buf) = .free

/-- `blockSize - RecordDescriptorHeaderSize - BlockCRCSize`. -/
def keyRoom (blockSize : Nat) : Nat :=
  u32Sub (u32Sub blockSize recordDescriptorHeaderSize) blockCrcSize

def firstPayloadCapacity (blockSize keySize : Nat) : Nat :=
  u32Sub (u32Sub (u32Sub blockSize recordDescriptorHeaderSize) keySize) blockCrcSize

def chunkPayloadCapacity (blockSize : Nat) : Nat :=
  u32Sub (u32Sub blockSize valueChunkHeaderSize) blockCrcSize

/-! ## record.go -/

/-- Integer division, which panics on a zero divisor. -/
def u32Div (a b : Nat) : Except Failure Nat := if b = 0 then .error .panic else .ok (a / b)

def neededBlocks (key value : Bytes) (blockSize : Nat) : Except Failure Nat := do
  let firstCap := firstPayloadCapacity blockSize (asU32 key.length)
  let chunkCap := chunkPayloadCapacity blockSize
  let vlen := asU32 value.length
  if vlen ≤ firstCap then return 1
  else
    let remaining := u32Sub vlen firstCap
    let extra ← u32Div (u32Sub (u32Add remaining chunkCap) 1) chunkCap
    return u32Add 1 extra

/-- The checks on the descriptor block, up to the record holding its first payload. -/
def readDescriptor (blockSize descriptorBlock : Nat) (buf : Bytes) :
    Except Failure (Option CompleteRecord) := do
  if u8At buf 0 ≠ blockTypeRecordDescriptor then return none
  else
    let (hdr, ok) ← unmarshalDescriptorHeader buf
    if !ok then return none
    else if hdr.headerSize.toNat ≠ recordDescriptorHeaderSize then return none
    else if hdr.keySize.toNat > keyRoom blockSize then return none
    else if hdr.firstPayloadSize.toNat > firstPayloadCapacity blockSize hdr.keySize.toNat then
      return none
    else if hdr.chunkCount = 0 then return none
    else
      let keyStart := recordDescriptorHeaderSize
      let keyEnd := u32Add keyStart hdr.keySize.toNat
      let key ← slice buf keyStart keyEnd
      let payloadStart := keyEnd
      let payloadEnd := u32Add payloadStart hdr.firstPayloadSize.toNat
      let value ← slice buf payloadStart payloadEnd
      return some
        { key := key
          generation := hdr.generation.toNat
          descriptorBlock := descriptorBlock
          header := hdr
          chunkBlocks := []
          value := value }

/-- The checks on one chunk block: its payload and its link. -/
def readChunk (blockSize descriptorBlock expectedIdx : Nat) (chunkBuf : Bytes) :
    Except Failure (Option (Bytes × Nat)) := do
  if u8At chunkBuf 0 ≠ blockTypeValueChunk then return none
  else
    let (ch, ok) ← unmarshalChunkHeader chunkBuf
    if !ok then return none
    else if ch.headerSize.toNat ≠ valueChunkHeaderSize then return none
    else if ch.ownerDescriptor.toNat ≠ descriptorBlock then return none
    else if ch.chunkIndex.toNat ≠ expectedIdx then return none
    else if ch.payloadSize.toNat > chunkPayloadCapacity blockSize then return none
    else
      let payload ← slice chunkBuf valueChunkHeaderSize
        (u32Add valueChunkHeaderSize ch.payloadSize.toNat)
      return some (payload, ch.nextChunk.toNat)

section
variable {D : Type} [BlockDevice D]

/-- The chain loop; `none` when a chunk is rejected, otherwise the grown record
and the index expected next. -/
def chainLoop (blockSize blockCount descriptorBlock : Nat) (next expectedIdx : Nat)
    (visited : Finset Nat) (rec : CompleteRecord) :
    Proc Failure D (Option (CompleteRecord × Nat)) :=
  if next = nullBlockIndex then pure (some (rec, expectedIdx))
  else if _fresh : next ≥ blockCount ∨ next ∈ visited then pure none
  else do
    let chunkBuf ← BlockDevice.readBlock next
    match ← Proc.ofExcept (readChunk blockSize descriptorBlock expectedIdx chunkBuf) with
    | none => pure none
    | some (payload, nextChunk) =>
      chainLoop blockSize blockCount descriptorBlock nextChunk (u32Add expectedIdx 1)
        (insert next visited)
        { rec with value := rec.value ++ payload, chunkBlocks := rec.chunkBlocks ++ [next] }
termination_by (Finset.range blockCount \ visited).card
decreasing_by exact unvisited_decreases _fresh

def verifyAndReadRecord (descriptorBlock : Nat) : Proc Failure D (Option CompleteRecord) := do
  let blockSize ← blockSizeOf
  let buf ← BlockDevice.readBlock descriptorBlock
  match ← Proc.ofExcept (readDescriptor blockSize descriptorBlock buf) with
  | none => pure none
  | some rec =>
    let hdr := rec.header
    if hdr.chunkCount = 1 then
      if hdr.totalSize ≠ hdr.firstPayloadSize ∨ hdr.nextChunk.toNat ≠ nullBlockIndex then pure none
      else pure (some rec)
    else if hdr.nextChunk.toNat = nullBlockIndex then pure none
    else do
      let blockCount ← blockCountOf
      match ← chainLoop blockSize blockCount descriptorBlock hdr.nextChunk.toNat 1
          {descriptorBlock} rec with
      | none => pure none
      | some (rec, expectedIdx) =>
        if expectedIdx ≠ hdr.chunkCount.toNat then pure none
        else if asU32 rec.value.length ≠ hdr.totalSize.toNat then pure none
        else pure (some rec)

end

end Embedkv.Go
