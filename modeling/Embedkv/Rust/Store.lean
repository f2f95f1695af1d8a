import Mathlib.Data.Finmap
import Embedkv.Lib.Utf8
import Embedkv.Rust.Record

/-!
# The Rust store

`index.rs` and `store.rs`. The index is a finite map whose keys are the bytes
of the strings `String::from_utf8_lossy` returns; hash maps and hash sets are
Mathlib's `Finmap` and `Finset`, since the code never depends on their order. A
replica is a device with its header and index, and every method is a procedure
on that state: what it did before an error stays done.
-/

namespace Embedkv.Rust

open Embedkv.Lib Embedkv.Format Embedkv.Device Embedkv.State

set_option autoImplicit false

section
variable {D : Type} [BlockDevice D]

def formatDevice (build : Build) (opts : Options) (i : Nat) : Proc Failure D Unit := do
  let blockSize ← blockSizeOf
  if blockSize < storageHeaderSize + blockCrcSize then Proc.fail (.err .invalidBlockSize)
  else do
    let blockCount ← blockCountOf
    let replicaId ← Proc.ofExcept (u32Add build opts.replicaId.toNat (asU32 i))
    let hdr : StorageHeader :=
      { blockType := blockTypeStorageHeader
        magic := magic
        versionMajor := versionMajor
        versionMinor := versionMinor
        blockSize := UInt32.ofNat blockSize
        blockCount := UInt32.ofNat blockCount
        replicaId := UInt32.ofNat replicaId
        formatSeq := opts.formatSeq
        flags := 0 }
    let buf ← Proc.ofExcept (marshalStorageHeader hdr (List.replicate blockSize 0))
    BlockDevice.writeBlock 0 (writeBlockCrc buf)
    BlockDevice.flush

/-- `format`: one header per device, device `i` numbered `replica_id + i`. -/
def format (build : Build) (opts : Options) : Proc Failure (List D) Unit := fun devs =>
  if devs.isEmpty then (.error (.err .noReplicas), devs)
  else
    let (result, devs') := Proc.each (fun i => do
      formatDevice build opts i
      return i + 1) 0 devs
    (result.map fun _ => (), devs')

def openReplicaHeader : Proc Failure D StorageHeader := do
  let blockSize ← blockSizeOf
  if blockSize < storageHeaderSize + blockCrcSize then Proc.fail (.err .invalidBlockSize)
  else do
    let buf ← BlockDevice.readBlock 0
    if u8At buf 0 ≠ blockTypeStorageHeader then Proc.fail (.err .invalidHeader)
    else do
      let (hdr, ok) ← Proc.ofExcept (unmarshalStorageHeader buf)
      let blockCount ← blockCountOf
      if !ok then Proc.fail (.err .crcMismatch)
      else if hdr.magic ≠ magic then Proc.fail (.err .invalidHeader)
      else if hdr.blockSize.toNat ≠ blockSize then Proc.fail (.err .invalidHeader)
      else if hdr.blockCount.toNat ≠ blockCount then Proc.fail (.err .invalidHeader)
      else if hdr.blockCount.toNat < 1 then Proc.fail (.err .invalidHeader)
      else return hdr

/-- The loop of `open`; `geometry` is that of the first device. -/
def openReplicas (geometry : Nat × Nat) : List D → Except Failure (List (Replica D))
  | [] => .ok []
  | dev :: rest =>
    match openReplicaHeader dev with
    | (.error failure, _) => .error failure
    | (.ok header, dev') =>
      if (BlockDevice.blockSize dev', BlockDevice.blockCount dev') ≠ geometry then
        .error (.err .replicaMismatch)
      else do
        return { dev := dev', header := header, index := ∅ } :: (← openReplicas geometry rest)

/-- `open`. -/
def openStore (devs : List D) (opts : Options) : Except Failure (Store D) :=
  match devs with
  | [] => .error (.err .noReplicas)
  | dev :: _ => do
    let replicas ← openReplicas (BlockDevice.blockSize dev, BlockDevice.blockCount dev) devs
    return { replicas := replicas, opts := opts }

/-- One turn of the scan in `build_index`. -/
def indexBlock (build : Build) (i : Nat) : Proc Failure (Replica D) Unit := do
  let buf ← Replica.onDevice (BlockDevice.readBlock i)
  if u8At buf 0 ≠ blockTypeRecordDescriptor then pure ()
  else
    match ← Replica.onDevice (verifyAndReadRecord build i) with
    | none => pure ()
    | some rec => do
      let keyStr := fromUtf8Lossy rec.key
      let r ← Proc.get
      let shouldUpdate := match r.index.get keyStr with
        | none => true
        | some ex => rec.generation > ex.generation
      if shouldUpdate then
        Replica.putIndex
          { key := keyStr
            generation := rec.generation
            descriptorBlock := i
            totalSize := rec.header.totalSize.toNat }
      else pure ()

def replicaBuildIndex (build : Build) : Proc Failure (Replica D) Unit := do
  Replica.setIndex ∅
  let blockCount ← Replica.onDevice blockCountOf
  (dataBlocks blockCount).foldlM (fun _ i => indexBlock build i) ()

/-- One turn of the first scan in `recover`: the best complete record per key. -/
def bestBlock (build : Build) (best : BestMap) (i : Nat) : Proc Failure D BestMap := do
  let buf ← BlockDevice.readBlock i
  if u8At buf 0 ≠ blockTypeRecordDescriptor then return best
  else
    match ← verifyAndReadRecord build i with
    | none => return best
    | some rec =>
      let keyStr := fromUtf8Lossy rec.key
      let shouldUpdate := match best.lookup keyStr with
        | none => true
        | some ex => rec.generation > ex.generation
      return if shouldUpdate then best.insert keyStr rec else best

/-- `Replica::recover`, which touches the device only. -/
def replicaRecover (build : Build) (freePattern : UInt8) : Proc Failure D Unit := do
  let blockSize ← blockSizeOf
  let blockCount ← blockCountOf
  let best ← (dataBlocks blockCount).foldlM (bestBlock build) ∅
  let garbageFound ← (dataBlocks blockCount).foldlM
    (eraseBlock (validBlocks best) (makeFreeBuf blockSize freePattern)) false
  if garbageFound then BlockDevice.flush else pure ()

/-- `None` when the key is not indexed; otherwise the outcome of reading the
indexed record. Unwinding is not an outcome the caller sees. -/
def getWithGeneration (build : Build) (key : Bytes) :
    Proc Failure (Replica D) (Option (Except Error (Nat × Bytes))) := fun r =>
  match r.index.get (fromUtf8Lossy key) with
  | none => (.ok none, r)
  | some entry =>
    match verifyAndReadRecord build entry.descriptorBlock r.dev with
    | (.ok (some rec), dev) => (.ok (some (.ok (entry.generation, rec.value))), { r with dev := dev })
    | (.ok none, dev) => (.ok (some (.error .corruptRecord)), { r with dev := dev })
    | (.error (.err error), dev) => (.ok (some (.error error)), { r with dev := dev })
    | (.error .panic, dev) => (.error .panic, { r with dev := dev })

/-- The scan of `find_free_blocks`, stopping once `n` blocks are found. -/
def collectFree (n : Nat) : List Nat → List Nat → Proc Failure D (List Nat)
  | [], result => pure result
  | i :: rest, result =>
    if n ≤ result.length then pure result
    else do
      let buf ← BlockDevice.readBlock i
      if ← Proc.ofExcept (isFreeCandidate buf) then collectFree n rest (result ++ [i])
      else collectFree n rest result

def findFreeBlocks (n : Nat) : Proc Failure D (List Nat) := do
  let blockCount ← blockCountOf
  let result ← collectFree n (dataBlocks blockCount) []
  if result.length < n then Proc.fail (.err .storageFull) else return result

/-- The value chunk loop of `write_record`, from chunk `ci` on. -/
def writeChunks (blockSize chunkCap descriptorBlock : Nat) :
    Nat → List Nat → Bytes → Proc Failure D Unit
  | _, [], _ => pure ()
  | ci, blockIdx :: rest, remaining => do
    let payloadSize := min (asU32 remaining.length) chunkCap
    let ch : ValueChunkHeader :=
      { blockType := blockTypeValueChunk
        headerSize := UInt8.ofNat valueChunkHeaderSize
        flags := 0
        ownerDescriptor := UInt32.ofNat descriptorBlock
        chunkIndex := UInt32.ofNat (ci + 1)
        payloadSize := UInt32.ofNat payloadSize
        nextChunk := UInt32.ofNat (linkTo rest) }
    let cbuf ← Proc.ofExcept (marshalChunkHeader ch (List.replicate blockSize 0))
    let payload ← Proc.ofExcept (slice remaining 0 payloadSize)
    let cbuf ← Proc.ofExcept (copyFromSlice valueChunkHeaderSize payload cbuf)
    BlockDevice.writeBlock blockIdx (writeBlockCrc cbuf)
    writeChunks blockSize chunkCap descriptorBlock (ci + 1) rest (remaining.drop payloadSize)

def writeRecord (build : Build) (descriptorBlock : Nat) (chunkBlocks : List Nat) (key : Bytes)
    (generation : Nat) (value : Bytes) (userFlags : UInt32) : Proc Failure D Unit := do
  let blockSize ← blockSizeOf
  let keyLen := asU32 key.length
  let firstCap ← Proc.ofExcept (firstPayloadCapacity build blockSize keyLen)
  let chunkCap ← Proc.ofExcept (chunkPayloadCapacity build blockSize)
  let vlen := asU32 value.length
  let firstSize := min vlen firstCap
  let chunkCount ← Proc.ofExcept (u32Add build 1 (asU32 chunkBlocks.length))
  let hdr : RecordDescriptorHeader :=
    { blockType := blockTypeRecordDescriptor
      headerSize := UInt8.ofNat recordDescriptorHeaderSize
      keySize := UInt16.ofNat keyLen
      generation := UInt32.ofNat generation
      totalSize := UInt32.ofNat vlen
      firstPayloadSize := UInt32.ofNat firstSize
      chunkCount := UInt32.ofNat chunkCount
      nextChunk := UInt32.ofNat (linkTo chunkBlocks)
      flags := 0
      userFlags := userFlags }
  let buf ← Proc.ofExcept (marshalDescriptorHeader hdr (List.replicate blockSize 0))
  let buf ← Proc.ofExcept (copyFromSlice recordDescriptorHeaderSize key buf)
  let first ← Proc.ofExcept (slice value 0 firstSize)
  let buf ← Proc.ofExcept (copyFromSlice (recordDescriptorHeaderSize + key.length) first buf)
  BlockDevice.writeBlock descriptorBlock (writeBlockCrc buf)
  writeChunks blockSize chunkCap descriptorBlock 0 chunkBlocks (value.drop firstSize)

/-- The erasing loop of `free_record`. It checks range, revisits and the CRC of
each block, but neither its type nor its owner. -/
def freeChain (blockCount : Nat) (free : Bytes) (next : Nat) (visited : Finset Nat) :
    Proc Failure D Unit :=
  if next = nullBlockIndex then pure ()
  else if _fresh : next ≥ blockCount ∨ next ∈ visited then pure ()
  else do
    let cbuf ← BlockDevice.readBlock next
    let (ch, ok) ← Proc.ofExcept (unmarshalChunkHeader cbuf)
    if !ok then pure ()
    else do
      BlockDevice.writeBlock next free
      freeChain blockCount free ch.nextChunk.toNat (insert next visited)
termination_by (Finset.range blockCount \ visited).card
decreasing_by exact unvisited_decreases _fresh

def freeRecord (descriptorBlock : Nat) (freePattern : UInt8) : Proc Failure D Unit := do
  let blockSize ← blockSizeOf
  let blockCount ← blockCountOf
  let buf ← BlockDevice.readBlock descriptorBlock
  let (hdr, ok) ← Proc.ofExcept (unmarshalDescriptorHeader buf)
  if !ok then Proc.fail (.err .crcMismatch)
  else do
    let free := makeFreeBuf blockSize freePattern
    BlockDevice.writeBlock descriptorBlock free
    freeChain blockCount free hdr.nextChunk.toNat ∅

def replicaPut (build : Build) (key value : Bytes) (generation : Nat) (userFlags : UInt32)
    (freePattern : UInt8) : Proc Failure (Replica D) Unit := do
  let keyStr := fromUtf8Lossy key
  let r ← Proc.get
  let existingBlock := (r.index.get keyStr).map IndexEntry.descriptorBlock
  let needed ← Proc.ofExcept (neededBlocks build key value (BlockDevice.blockSize r.dev))
  let freeBlocks ← Replica.onDevice (findFreeBlocks needed)
  match freeBlocks with
  | [] => Proc.fail .panic
  | descriptorBlock :: chunkBlocks => do
    Replica.onDevice (writeRecord build descriptorBlock chunkBlocks key generation value userFlags)
    Replica.onDevice BlockDevice.flush
    Replica.putIndex
      { key := keyStr
        generation := generation
        descriptorBlock := descriptorBlock
        totalSize := asU32 value.length }
    match existingBlock with
    | none => pure ()
    | some oldBlock => do
      Replica.onDevice (freeRecord oldBlock freePattern)
      Replica.onDevice BlockDevice.flush

def buildIndex (build : Build) : Proc Failure (Store D) Unit :=
  Store.onReplicas (Proc.each (fun _ => replicaBuildIndex build) ())

def recover (build : Build) : Proc Failure (Store D) Unit := do
  let s ← Proc.get
  Store.onReplicas (Proc.each (fun _ => Replica.onDevice (replicaRecover build s.opts.freePattern)) ())

/-- One replica's turn in `get`: keep the value of the highest generation seen. -/
def getReplica (build : Build) (key : Bytes) (best : Option (Nat × Bytes)) :
    Proc Failure (Replica D) (Option (Nat × Bytes)) := do
  match ← getWithGeneration build key with
  | some (.ok (generation, value)) =>
    match best with
    | none => return some (generation, value)
    | some (bestGen, _) => return if generation > bestGen then some (generation, value) else best
  | _ => return best

def get (build : Build) (key : Bytes) : Proc Failure (Store D) Bytes := do
  match ← Store.onReplicas (Proc.each (getReplica build key) none) with
  | some (_, value) => return value
  | none => Proc.fail (.err .keyNotFound)

/-- The highest generation indexed for a key, zero when no replica has it. -/
def indexedGeneration (keyStr : Bytes) (replicas : List (Replica D)) : Nat :=
  replicas.foldl (fun generation r =>
    match r.index.get keyStr with
    | some e => if e.generation > generation then e.generation else generation
    | none => generation) 0

def putFlagged (build : Build) (key value : Bytes) (userFlags : UInt32) :
    Proc Failure (Store D) Unit := do
  let s ← Proc.get
  match s.replicas with
  | [] => Proc.fail .panic
  | first :: _ => do
    let room ← Proc.ofExcept (keyRoom build (BlockDevice.blockSize first.dev))
    if asU32 key.length > room then Proc.fail (.err .keyTooLong)
    else do
      let keyStr := fromUtf8Lossy key
      let generation ← Proc.ofExcept (u32Add build (indexedGeneration keyStr s.replicas) 1)
      Store.onReplicas (Proc.each
        (fun _ => replicaPut build key value generation userFlags s.opts.freePattern) ())

def put (build : Build) (key value : Bytes) : Proc Failure (Store D) Unit :=
  putFlagged build key value 0

/-- One replica's turn in `delete`; the accumulator is `found`. -/
def deleteReplica (keyStr : Bytes) (freePattern : UInt8) (found : Bool) :
    Proc Failure (Replica D) Bool := do
  let r ← Proc.get
  match r.index.get keyStr with
  | none => return found
  | some e => do
    Replica.onDevice (freeRecord e.descriptorBlock freePattern)
    Replica.onDevice BlockDevice.flush
    Replica.dropIndex keyStr
    return true

def delete (key : Bytes) : Proc Failure (Store D) Unit := do
  let keyStr := fromUtf8Lossy key
  let s ← Proc.get
  let found ← Store.onReplicas (Proc.each (deleteReplica keyStr s.opts.freePattern) false)
  if found then pure () else Proc.fail (.err .keyNotFound)

def intoDevices (s : Store D) : List D := s.replicas.map Replica.dev

/-- The union of the keys of all indexes. -/
def keys (s : Store D) : Finset Bytes :=
  s.replicas.foldl (fun set r => set ∪ r.index.entryKeys) ∅

end

end Embedkv.Rust
