import Embedkv.State
import Embedkv.Rust.Block

/-!
# Records in the Rust implementation

`record.rs`: reading and validating a record from its descriptor block, and the
number of blocks a record takes. The chunk chain is walked with the set of
visited blocks; each turn of the loop visits a block of the device that was not
visited before, which is the measure that ends it. The capacity hints given to
`Vec::with_capacity` have no effect on the result and are left out.
-/

namespace Embedkv.Rust

open Embedkv.Lib Embedkv.Format Embedkv.Device Embedkv.State

set_option autoImplicit false

/-- The checks on the descriptor block, up to the record holding its first payload. -/
def readDescriptor (build : Build) (blockSize descriptorBlock : Nat) (buf : Bytes) :
    Except Failure (Option CompleteRecord) := do
  if u8At buf 0 ≠ blockTypeRecordDescriptor then return none
  else
    let (hdr, ok) ← unmarshalDescriptorHeader buf
    if !ok then return none
    else if hdr.headerSize.toNat ≠ recordDescriptorHeaderSize then return none
    else
      let room ← keyRoom build blockSize
      if hdr.keySize.toNat > room then return none
      else
        let firstPayloadCap ← firstPayloadCapacity build blockSize hdr.keySize.toNat
        if hdr.firstPayloadSize.toNat > firstPayloadCap then return none
        else if hdr.chunkCount = 0 then return none
        else
          let keyStart := recordDescriptorHeaderSize
          let keyEnd := keyStart + hdr.keySize.toNat
          let key ← slice buf keyStart keyEnd
          let payloadStart := keyEnd
          let payloadEnd := payloadStart + hdr.firstPayloadSize.toNat
          let value ← slice buf payloadStart payloadEnd
          return some
            { key := key
              generation := hdr.generation.toNat
              descriptorBlock := descriptorBlock
              header := hdr
              chunkBlocks := []
              value := value }

/-- The checks on one chunk block: its payload and its link. -/
def readChunk (build : Build) (blockSize descriptorBlock expectedIdx : Nat) (chunkBuf : Bytes) :
    Except Failure (Option (Bytes × Nat)) := do
  if u8At chunkBuf 0 ≠ blockTypeValueChunk then return none
  else
    let (ch, ok) ← unmarshalChunkHeader chunkBuf
    if !ok then return none
    else if ch.headerSize.toNat ≠ valueChunkHeaderSize then return none
    else if ch.ownerDescriptor.toNat ≠ descriptorBlock then return none
    else if ch.chunkIndex.toNat ≠ expectedIdx then return none
    else
      let cap ← chunkPayloadCapacity build blockSize
      if ch.payloadSize.toNat > cap then return none
      else
        let pstart := valueChunkHeaderSize
        let pend := pstart + ch.payloadSize.toNat
        let payload ← slice chunkBuf pstart pend
        return some (payload, ch.nextChunk.toNat)

section
variable {D : Type} [BlockDevice D]

/-- The chain loop; `none` when a chunk is rejected, otherwise the grown record
and the index expected next. -/
def chainLoop (build : Build) (blockSize blockCount descriptorBlock : Nat)
    (next expectedIdx : Nat) (visited : Finset Nat) (rec : CompleteRecord) :
    Proc Failure D (Option (CompleteRecord × Nat)) :=
  if next = nullBlockIndex then pure (some (rec, expectedIdx))
  else if _fresh : next ≥ blockCount ∨ next ∈ visited then pure none
  else do
    let chunkBuf ← BlockDevice.readBlock next
    match ← Proc.ofExcept (readChunk build blockSize descriptorBlock expectedIdx chunkBuf) with
    | none => pure none
    | some (payload, nextChunk) =>
      let following ← Proc.ofExcept (u32Add build expectedIdx 1)
      chainLoop build blockSize blockCount descriptorBlock nextChunk following
        (insert next visited)
        { rec with value := rec.value ++ payload, chunkBlocks := rec.chunkBlocks ++ [next] }
termination_by (Finset.range blockCount \ visited).card
decreasing_by exact unvisited_decreases _fresh

def verifyAndReadRecord (build : Build) (descriptorBlock : Nat) :
    Proc Failure D (Option CompleteRecord) := do
  let blockSize ← blockSizeOf
  let buf ← BlockDevice.readBlock descriptorBlock
  match ← Proc.ofExcept (readDescriptor build blockSize descriptorBlock buf) with
  | none => pure none
  | some rec =>
    let hdr := rec.header
    if hdr.chunkCount = 1 then
      if hdr.totalSize ≠ hdr.firstPayloadSize ∨ hdr.nextChunk.toNat ≠ nullBlockIndex then pure none
      else pure (some rec)
    else if hdr.nextChunk.toNat = nullBlockIndex then pure none
    else do
      let blockCount ← blockCountOf
      match ← chainLoop build blockSize blockCount descriptorBlock hdr.nextChunk.toNat 1
          {descriptorBlock} rec with
      | none => pure none
      | some (rec, expectedIdx) =>
        if expectedIdx ≠ hdr.chunkCount.toNat then pure none
        else if asU32 rec.value.length ≠ hdr.totalSize.toNat then pure none
        else pure (some rec)

end

/-- `div_ceil`, which unwinds on a zero divisor. -/
def divCeil (a b : Nat) : Except Failure Nat :=
  if b = 0 then .error .panic else .ok ((a + b - 1) / b)

def neededBlocks (build : Build) (key value : Bytes) (blockSize : Nat) : Except Failure Nat := do
  let firstCap ← firstPayloadCapacity build blockSize (asU32 key.length)
  let chunkCap ← chunkPayloadCapacity build blockSize
  let vlen := asU32 value.length
  if vlen ≤ firstCap then return 1
  else
    let remaining ← u32Sub build vlen firstCap
    let extra ← divCeil remaining chunkCap
    u32Add build 1 extra

end Embedkv.Rust
