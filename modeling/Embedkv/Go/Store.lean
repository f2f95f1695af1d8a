import Embedkv.Go.Record

/-!
# The Go store

`store.go` and `recovery.go`. Indexes and best-record maps are keyed by the raw
key bytes (`string(key)`). The mutex of `Store` orders whole calls and has no
effect on what one call does; a call is one procedure here.
-/

namespace Embedkv.Go

open Embedkv.Lib Embedkv.Format Embedkv.Device Embedkv.State

set_option autoImplicit false

section
variable {D : Type} [BlockDevice D]

def formatDevice (opts : Options) (i : Nat) : Proc Failure D Unit := do
  let blockSize ← blockSizeOf
  if blockSize < storageHeaderSize + blockCrcSize then Proc.fail (.err .invalidBlockSize)
  else do
    let blockCount ← blockCountOf
    let hdr : StorageHeader :=
      { blockType := blockTypeStorageHeader
        magic := magic
        versionMajor := versionMajor
        versionMinor := versionMinor
        blockSize := UInt32.ofNat blockSize
        blockCount := UInt32.ofNat blockCount
        replicaId := UInt32.ofNat (u32Add opts.replicaId.toNat (asU32 i))
        formatSeq := opts.formatSeq
        flags := 0 }
    let buf ← Proc.ofExcept (marshalStorageHeader hdr (List.replicate blockSize 0))
    BlockDevice.writeBlock 0 (writeBlockCRC buf)
    BlockDevice.flush

/-- `Format`: one header per device, device `i` numbered `ReplicaID + i`. -/
def format (opts : Options) : Proc Failure (List D) Unit := fun devs =>
  if devs.isEmpty then (.error (.err .noReplicas), devs)
  else
    let (result, devs') := Proc.each (fun i => do
      formatDevice opts i
      return i + 1) 0 devs
    (result.map fun _ => (), devs')

def openReplicaHeader : Proc Failure D StorageHeader := do
  let blockSize ← blockSizeOf
  if blockSize < storageHeaderSize + blockCrcSize then Proc.fail (.err .invalidBlockSize)
  else do
    let buf ← BlockDevice.readBlock 0
    if u8At buf 0 ≠ blockTypeStorageHeader then Proc.fail (.err .invalidHeader)
    else do
      let (hdr, ok) ← Proc.ofExcept (unmarshalStorageHeader buf)
      let blockCount ← blockCountOf
      if !ok then Proc.fail (.err .crcMismatch)
      else if hdr.magic ≠ magic then Proc.fail (.err .invalidHeader)
      else if hdr.blockSize.toNat ≠ blockSize then Proc.fail (.err .invalidHeader)
      else if hdr.blockCount.toNat ≠ blockCount then Proc.fail (.err .invalidHeader)
      else if hdr.blockCount.toNat < 1 then Proc.fail (.err .invalidHeader)
      else return hdr

/-- The loop of `Open`; `geometry` is that of the first device. -/
def openReplicas (geometry : Nat × Nat) : List D → Except Failure (List (Replica D))
  | [] => .ok []
  | dev :: rest =>
    match openReplicaHeader dev with
    | (.error failure, _) => .error failure
    | (.ok header, dev') =>
      if (BlockDevice.blockSize dev', BlockDevice.blockCount dev') ≠ geometry then
        .error (.err .replicaMismatch)
      else do
        return { dev := dev', header := header, index := ∅ } :: (← openReplicas geometry rest)

/-- `Open`. -/
def openStore (devs : List D) (opts : Options) : Except Failure (Store D) :=
  match devs with
  | [] => .error (.err .noReplicas)
  | dev :: _ => do
    let replicas ← openReplicas (BlockDevice.blockSize dev, BlockDevice.blockCount dev) devs
    return { replicas := replicas, opts := opts }

/-- One turn of the scan in `buildIndex`. -/
def indexBlock (i : Nat) : Proc Failure (Replica D) Unit := do
  let buf ← Replica.onDevice (BlockDevice.readBlock i)
  if u8At buf 0 ≠ blockTypeRecordDescriptor then pure ()
  else
    match ← Replica.onDevice (verifyAndReadRecord i) with
    | none => pure ()
    | some rec => do
      let r ← Proc.get
      let entry : IndexEntry :=
        { key := rec.key
          generation := rec.generation
          descriptorBlock := i
          totalSize := rec.header.totalSize.toNat }
      match r.index.get rec.key with
      | none => Replica.putIndex entry
      | some ex => if rec.generation > ex.generation then Replica.putIndex entry else pure ()

def replicaBuildIndex : Proc Failure (Replica D) Unit := do
  Replica.setIndex ∅
  let blockCount ← Replica.onDevice blockCountOf
  (dataBlocks blockCount).foldlM (fun _ i => indexBlock i) ()

/-- One turn of the first scan in `recover`: the best complete record per key. -/
def bestBlock (best : BestMap) (i : Nat) : Proc Failure D BestMap := do
  let buf ← BlockDevice.readBlock i
  if u8At buf 0 ≠ blockTypeRecordDescriptor then return best
  else
    match ← verifyAndReadRecord i with
    | none => return best
    | some rec =>
      match best.lookup rec.key with
      | none => return best.insert rec.key rec
      | some ex => return if rec.generation > ex.generation then best.insert rec.key rec else best

/-- `replica.recover`, which touches the device only. -/
def replicaRecover (freePattern : UInt8) : Proc Failure D Unit := do
  let blockSize ← blockSizeOf
  let blockCount ← blockCountOf
  let best ← (dataBlocks blockCount).foldlM bestBlock ∅
  let garbageFound ← (dataBlocks blockCount).foldlM
    (eraseBlock (validBlocks best) (makeFreeBuf blockSize freePattern)) false
  if garbageFound then BlockDevice.flush else pure ()

/-- The scan of `findFreeBlocks`, stopping once `n` blocks are found. -/
def collectFree (n : Nat) : List Nat → List Nat → Proc Failure D (List Nat)
  | [], result => pure result
  | i :: rest, result =>
    if asU32 result.length < n then do
      let buf ← BlockDevice.readBlock i
      if ← Proc.ofExcept (isFreeCandidate buf) then collectFree n rest (result ++ [i])
      else collectFree n rest result
    else pure result

def findFreeBlocks (n : Nat) : Proc Failure D (List Nat) := do
  let blockCount ← blockCountOf
  let result ← collectFree n (dataBlocks blockCount) []
  if asU32 result.length < n then Proc.fail (.err .storageFull) else return result

/-- `copy(buf[offset:], source)`: at most as many bytes as are left in the buffer. -/
def copyInto (offset : Nat) (source buf : Bytes) : Except Failure Bytes := do
  requireLength buf offset
  return splice offset (source.take (buf.length - offset)) buf

/-- The value chunk loop of `writeRecord`, from chunk `ci` on. -/
def writeChunks (blockSize chunkCap descriptorBlock : Nat) :
    Nat → List Nat → Bytes → Proc Failure D Unit
  | _, [], _ => pure ()
  | ci, blockIdx :: rest, remaining => do
    let payloadSize := if asU32 remaining.length > chunkCap then chunkCap else asU32 remaining.length
    let ch : ValueChunkHeader :=
      { blockType := blockTypeValueChunk
        headerSize := UInt8.ofNat valueChunkHeaderSize
        flags := 0
        ownerDescriptor := UInt32.ofNat descriptorBlock
        chunkIndex := UInt32.ofNat (ci + 1)
        payloadSize := UInt32.ofNat payloadSize
        nextChunk := UInt32.ofNat (linkTo rest) }
    let cbuf ← Proc.ofExcept (marshalChunkHeader ch (List.replicate blockSize 0))
    let payload ← Proc.ofExcept (slice remaining 0 payloadSize)
    let cbuf ← Proc.ofExcept (copyInto valueChunkHeaderSize payload cbuf)
    BlockDevice.writeBlock blockIdx (writeBlockCRC cbuf)
    writeChunks blockSize chunkCap descriptorBlock (ci + 1) rest (remaining.drop payloadSize)

def writeRecord (descriptorBlock : Nat) (chunkBlocks : List Nat) (key : Bytes)
    (generation : Nat) (value : Bytes) (userFlags : UInt32) : Proc Failure D Unit := do
  let blockSize ← blockSizeOf
  let keyLen := asU32 key.length
  let firstCap := firstPayloadCapacity blockSize keyLen
  let chunkCap := chunkPayloadCapacity blockSize
  let vlen := asU32 value.length
  let firstSize := if vlen > firstCap then firstCap else vlen
  let chunkCount := u32Add 1 (asU32 chunkBlocks.length)
  let hdr : RecordDescriptorHeader :=
    { blockType := blockTypeRecordDescriptor
      headerSize := UInt8.ofNat recordDescriptorHeaderSize
      keySize := UInt16.ofNat keyLen
      generation := UInt32.ofNat generation
      totalSize := UInt32.ofNat vlen
      firstPayloadSize := UInt32.ofNat firstSize
      chunkCount := UInt32.ofNat chunkCount
      nextChunk := UInt32.ofNat (linkTo chunkBlocks)
      flags := 0
      userFlags := userFlags }
  let buf ← Proc.ofExcept (marshalDescriptorHeader hdr (List.replicate blockSize 0))
  let buf ← Proc.ofExcept (copyInto recordDescriptorHeaderSize key buf)
  let first ← Proc.ofExcept (slice value 0 firstSize)
  let buf ← Proc.ofExcept (copyInto (u32Add recordDescriptorHeaderSize keyLen) first buf)
  BlockDevice.writeBlock descriptorBlock (writeBlockCRC buf)
  writeChunks blockSize chunkCap descriptorBlock 0 chunkBlocks (value.drop firstSize)

/-- The erasing loop of `freeRecord`. It checks range, revisits and the CRC of
each block, but neither its type nor its owner. -/
def freeChain (blockCount : Nat) (free : Bytes) (next : Nat) (visited : Finset Nat) :
    Proc Failure D Unit :=
  if next = nullBlockIndex then pure ()
  else if _fresh : next ≥ blockCount ∨ next ∈ visited then pure ()
  else do
    let cbuf ← BlockDevice.readBlock next
    let (ch, ok) ← Proc.ofExcept (unmarshalChunkHeader cbuf)
    if !ok then pure ()
    else do
      BlockDevice.writeBlock next free
      freeChain blockCount free ch.nextChunk.toNat (insert next visited)
termination_by (Finset.range blockCount \ visited).card
decreasing_by exact unvisited_decreases _fresh

def freeRecord (descriptorBlock : Nat) (freePattern : UInt8) : Proc Failure D Unit := do
  let blockSize ← blockSizeOf
  let blockCount ← blockCountOf
  let buf ← BlockDevice.readBlock descriptorBlock
  let (hdr, ok) ← Proc.ofExcept (unmarshalDescriptorHeader buf)
  if !ok then Proc.fail (.err .crcMismatch)
  else do
    let free := makeFreeBuf blockSize freePattern
    BlockDevice.writeBlock descriptorBlock free
    freeChain blockCount free hdr.nextChunk.toNat ∅

def replicaPut (key value : Bytes) (generation : Nat) (userFlags : UInt32) (freePattern : UInt8) :
    Proc Failure (Replica D) Unit := do
  let r ← Proc.get
  let existing := r.index.get key
  let needed ← Proc.ofExcept (neededBlocks key value (BlockDevice.blockSize r.dev))
  let freeBlocks ← Replica.onDevice (findFreeBlocks needed)
  match freeBlocks with
  | [] => Proc.fail .panic
  | descriptorBlock :: chunkBlocks => do
    Replica.onDevice (writeRecord descriptorBlock chunkBlocks key generation value userFlags)
    Replica.onDevice BlockDevice.flush
    Replica.putIndex
      { key := key
        generation := generation
        descriptorBlock := descriptorBlock
        totalSize := asU32 value.length }
    match existing with
    | none => pure ()
    | some entry => do
      Replica.onDevice (freeRecord entry.descriptorBlock freePattern)
      Replica.onDevice BlockDevice.flush

def buildIndex : Proc Failure (Store D) Unit :=
  Store.onReplicas (Proc.each (fun _ => replicaBuildIndex) ())

def recover : Proc Failure (Store D) Unit := do
  let s ← Proc.get
  Store.onReplicas (Proc.each (fun _ => Replica.onDevice (replicaRecover s.opts.freePattern)) ())

/-- One replica's turn in `Get`. A read error ends the whole call. -/
def getReplica (key : Bytes) (best : Option (Nat × Bytes)) :
    Proc Failure (Replica D) (Option (Nat × Bytes)) := do
  let r ← Proc.get
  match r.index.get key with
  | none => return best
  | some entry =>
    let settled := match best with
      | none => false
      | some (bestGen, _) => entry.generation ≤ bestGen
    if settled then return best
    else
      match ← Replica.onDevice (verifyAndReadRecord entry.descriptorBlock) with
      | none => return best
      | some rec => return some (entry.generation, rec.value)

def get (key : Bytes) : Proc Failure (Store D) Bytes := do
  match ← Store.onReplicas (Proc.each (getReplica key) none) with
  | some (_, value) => return value
  | none => Proc.fail (.err .keyNotFound)

/-- The highest generation indexed for a key, zero when no replica has it. -/
def indexedGeneration (key : Bytes) (replicas : List (Replica D)) : Nat :=
  replicas.foldl (fun generation r =>
    match r.index.get key with
    | some e => if e.generation > generation then e.generation else generation
    | none => generation) 0

def put (key value : Bytes) (userFlags : UInt32) : Proc Failure (Store D) Unit := do
  let s ← Proc.get
  match s.replicas with
  | [] => Proc.fail .panic
  | first :: _ =>
    if asU32 key.length > keyRoom (BlockDevice.blockSize first.dev) then
      Proc.fail (.err .keyTooLong)
    else
      let generation := u32Add (indexedGeneration key s.replicas) 1
      Store.onReplicas (Proc.each
        (fun _ => replicaPut key value generation userFlags s.opts.freePattern) ())

/-- One replica's turn in `Delete`; the accumulator is `found`. -/
def deleteReplica (key : Bytes) (freePattern : UInt8) (found : Bool) :
    Proc Failure (Replica D) Bool := do
  let r ← Proc.get
  match r.index.get key with
  | none => return found
  | some entry => do
    Replica.onDevice (freeRecord entry.descriptorBlock freePattern)
    Replica.onDevice BlockDevice.flush
    Replica.dropIndex key
    return true

def delete (key : Bytes) : Proc Failure (Store D) Unit := do
  let s ← Proc.get
  let found ← Store.onReplicas (Proc.each (deleteReplica key s.opts.freePattern) false)
  if found then pure () else Proc.fail (.err .keyNotFound)

/-- The union of the keys of all indexes. -/
def keys (s : Store D) : Finset Bytes :=
  s.replicas.foldl (fun set r => set ∪ r.index.keys) ∅

end

end Embedkv.Go
