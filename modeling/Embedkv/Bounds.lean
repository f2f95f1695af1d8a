import Embedkv.Spelling
import Embedkv.AgreeLaws

/-!
# What the calls may ask of a device

The contract of a block device, as both stores rely on it: the geometry does not
change, and a block that is read has the block size. In return a call reads and
writes blocks of the device only, and every buffer it writes has the block size.
The scripts of all calls meet the contract. Nothing else is assumed of a device:
its blocks may hold anything and change by themselves, and any call may fail.
-/

namespace Embedkv.Bounds

open Embedkv.Lib Embedkv.Lib.Script Embedkv.Format Embedkv.Device Embedkv.State Embedkv.Codec
open Embedkv.Effects Embedkv.Agree Embedkv.Stores Embedkv.AgreeLaws Embedkv.Spelling

set_option autoImplicit false

/-! ## The contract -/

def within (blockSize blockCount : Nat) : Contract devicePort where
  asks
    | .read index => index < blockCount
    | .write index buf => index < blockCount ∧ buf.length = blockSize
    | _ => True
  answers
    | .size, size => size = blockSize
    | .count, count => count = blockCount
    | .read _, answer => OnSuccess (fun buf => buf.length = blockSize) answer
    | _, _ => True

/-- Every entry names a block of the device. -/
def Ranged (blockCount : Nat) (index : MemIndex) : Prop :=
  ∀ name e, index.lookup name = some e → e.descriptorBlock < blockCount

def replicaWithin (blockSize blockCount : Nat) : Contract replicaPort where
  asks
    | .device query => (within blockSize blockCount).asks query
    | .index change => ∀ index, Ranged blockCount index → Ranged blockCount (change index)
  answers
    | .device query, answer => (within blockSize blockCount).answers query answer
    | .index _, index => Ranged blockCount index

def storeWithin (blockSize blockCount : Nat) : Contract storePort where
  asks
    | .opts => True
    | .replicas query => (replicaWithin blockSize blockCount).many.asks query
  answers
    | .opts, _ => True
    | .replicas query, answer => (replicaWithin blockSize blockCount).many.answers query answer

theorem ranged_empty (blockCount : Nat) : Ranged blockCount ∅ := nofun

theorem Ranged.put {blockCount : Nat} {index : MemIndex} (ranged : Ranged blockCount index)
    {entry : IndexEntry} (inside : entry.descriptorBlock < blockCount) :
    Ranged blockCount (index.put entry) := by
  intro name e found
  by_cases same : name = entry.key
  · rw [same, MemIndex.put, Finmap.lookup_insert] at found
    rwa [← Option.some.inj found]
  · rw [MemIndex.put, Finmap.lookup_insert_of_ne _ same] at found
    exact ranged name e found

theorem Ranged.delete {blockCount : Nat} {index : MemIndex} (ranged : Ranged blockCount index)
    (key : Bytes) : Ranged blockCount (index.delete key) := by
  intro name e found
  by_cases same : name = key
  · rw [same, MemIndex.delete, Finmap.lookup_erase] at found
    cases found
  · rw [MemIndex.delete, Finmap.lookup_erase_ne same] at found
    exact ranged name e found

section
variable {blockSize blockCount : Nat} {α : Type}

/-- A script on a device, with what it ends in. -/
abbrev DeviceBound (blockSize blockCount : Nat) (post : α → Prop)
    (script : Script devicePort (Except Failure α)) : Prop :=
  script.Meets (within blockSize blockCount) (OnSuccess post)

abbrev ReplicaBound (blockSize blockCount : Nat) (post : α → Prop)
    (script : Script replicaPort (Except Failure α)) : Prop :=
  script.Meets (replicaWithin blockSize blockCount) (OnSuccess post)

abbrev StoreBound (blockSize blockCount : Nat) (post : α → Prop)
    (script : Script storePort (Except Failure α)) : Prop :=
  script.Meets (storeWithin blockSize blockCount) (OnSuccess post)

theorem askSize_bound :
    DeviceBound blockSize blockCount (fun size => size = blockSize) askSize.script :=
  ⟨trivial, fun _ sized => .value sized⟩

theorem askCount_bound :
    DeviceBound blockSize blockCount (fun count => count = blockCount) askCount.script :=
  ⟨trivial, fun _ counted => .value counted⟩

theorem askRead_bound {index : Nat} (inside : index < blockCount) :
    DeviceBound blockSize blockCount (fun buf => buf.length = blockSize) (askRead index).script :=
  ⟨inside, fun _ fine => fine⟩

theorem askWrite_bound {index : Nat} {buf : Bytes} (inside : index < blockCount)
    (sized : buf.length = blockSize) :
    DeviceBound blockSize blockCount (fun _ => True) (askWrite index buf).script :=
  ⟨⟨inside, sized⟩, fun _ _ _ _ => trivial⟩

theorem askFlush_bound : DeviceBound blockSize blockCount (fun _ => True) askFlush.script :=
  ⟨trivial, fun _ _ _ _ => trivial⟩

theorem onDevice_bound {p : ∀ w : AnyDevice, Proc Failure w.Dev α} {spelled : OnDevice p}
    {post : α → Prop} (bound : DeviceBound blockSize blockCount post spelled.script) :
    ReplicaBound blockSize blockCount post (onDevice spelled).script := by
  apply Meets.relay _ _ bound
  · exact fun _ asked => asked
  · exact fun _ _ fine => fine

theorem askIndex_bound
    {body : ∀ w : AnyDevice, Replica w.Dev → Proc Failure (Replica w.Dev) α}
    {rest : ∀ index, OnReplica fun w => fun r => body w { r with index := index } r}
    {post : α → Prop} (later : ∀ index, Ranged blockCount index →
      ReplicaBound blockSize blockCount post (rest index).script) :
    ReplicaBound blockSize blockCount post (askIndex rest).script :=
  ⟨fun _ ranged => ranged, later⟩

theorem askSetIndex_bound {index : MemIndex} (ranged : Ranged blockCount index) :
    ReplicaBound blockSize blockCount (fun _ => True) (askSetIndex index).script :=
  ⟨fun _ _ => ranged, fun _ _ => .value trivial⟩

theorem askPutIndex_bound {entry : IndexEntry} (inside : entry.descriptorBlock < blockCount) :
    ReplicaBound blockSize blockCount (fun _ => True) (askPutIndex entry).script :=
  ⟨fun _ ranged => ranged.put inside, fun _ _ => .value trivial⟩

theorem askDropIndex_bound (key : Bytes) :
    ReplicaBound blockSize blockCount (fun _ => True) (askDropIndex key).script :=
  ⟨fun _ ranged => ranged.delete key, fun _ _ => .value trivial⟩

theorem onReplicas_bound {p : ∀ w : AnyDevice, Proc Failure (List (Replica w.Dev)) α}
    {spelled : Spelled (P := manyPort replicaPort)
      (fun w : AnyDevice => serveMany (serveReplica (D := w.Dev))) p} {post : α → Prop}
    (bound : spelled.script.Meets (replicaWithin blockSize blockCount).many (OnSuccess post)) :
    StoreBound blockSize blockCount post (onReplicas spelled).script := by
  apply Meets.relay _ _ bound
  · exact fun _ asked => asked
  · exact fun _ _ fine => fine

theorem askOpts_bound {body : ∀ w : AnyDevice, Store w.Dev → Proc Failure (Store w.Dev) α}
    {rest : ∀ opts, OnStore fun w => fun s => body w { s with opts := opts } s} {post : α → Prop}
    (later : ∀ opts, StoreBound blockSize blockCount post (rest opts).script) :
    StoreBound blockSize blockCount post (askOpts rest).script :=
  ⟨trivial, fun opts _ => later opts⟩

theorem askFirstSize_bound :
    StoreBound blockSize blockCount (fun _ => True) askFirstSize.script :=
  ⟨trivial, fun _ _ => .value trivial⟩

end

/-! ## Buffers keep the block size -/

theorem requireLength_inv {buf : Bytes} {size : Nat} {rest : Unit → Except Failure Bytes}
    {out : Bytes} (passed : (requireLength buf size >>= rest) = .ok out) : size ≤ buf.length := by
  by_contra short
  rw [requireLength, if_neg short] at passed
  cases passed

theorem marshalDescriptorHeader_sized {h : RecordDescriptorHeader} {blockSize : Nat} {out : Bytes}
    (marshalled : marshalDescriptorHeader h (List.replicate blockSize 0) = .ok out) :
    out.length = blockSize ∧ 32 ≤ blockSize := by
  have long := requireLength_inv marshalled
  have kept := marshalDescriptorHeader_length long marshalled
  rw [List.length_replicate] at long kept
  exact ⟨kept, long⟩

theorem marshalChunkHeader_sized {h : ValueChunkHeader} {blockSize : Nat} {out : Bytes}
    (marshalled : marshalChunkHeader h (List.replicate blockSize 0) = .ok out) :
    out.length = blockSize ∧ 20 ≤ blockSize := by
  have long := requireLength_inv marshalled
  have kept := marshalChunkHeader_length long marshalled
  rw [List.length_replicate] at long kept
  exact ⟨kept, long⟩

theorem marshalStorageHeader_sized {h : StorageHeader} {blockSize : Nat} {out : Bytes}
    (marshalled : marshalStorageHeader h (List.replicate blockSize 0) = .ok out) :
    out.length = blockSize ∧ 28 ≤ blockSize := by
  have long : 28 ≤ (List.replicate blockSize (0 : UInt8)).length := requireLength_inv marshalled
  rw [marshalStorageHeader_eq h _ long] at marshalled
  rw [List.length_replicate] at long
  rw [← Except.ok.inj marshalled, List.length_append, storageHeaderBytes_length, List.length_drop,
    List.length_replicate]
  omega

theorem copyInto_length {offset : Nat} {source buf out : Bytes}
    (copied : Go.copyInto offset source buf = .ok out) : out.length = buf.length := by
  have long := requireLength_inv copied
  rw [Go.copyInto, requireLength_ok long] at copied
  rw [← Except.ok.inj copied]
  apply splice_length
  rw [List.length_take]
  omega

/-! ## Reading and erasing -/

section
variable {blockSize blockCount : Nat}

theorem openReplicaHeader_bound (inside : 0 < blockCount) :
    DeviceBound blockSize blockCount (fun _ => True) openReplicaHeader.script := by
  apply askSize_bound.bind
  rintro _ rfl
  refine .ite (fun _ => .failure) fun _ => ?_
  apply (askRead_bound inside).bind
  intro buf _
  refine .ite (fun _ => .failure) fun _ => .checked fun header _ => ?_
  apply askCount_bound.bind
  rintro _ rfl
  refine .ite (fun _ => .failure) fun _ => .ite (fun _ => .failure) fun _ => ?_
  refine .ite (fun _ => .failure) fun _ => .ite (fun _ => .failure) fun _ => ?_
  exact .ite (fun _ => .failure) fun _ => .value trivial

theorem formatDevice_bound (build : Rust.Build) (opts : Options) (i : Nat)
    (inside : 0 < blockCount) :
    DeviceBound blockSize blockCount (fun _ => True) (formatDevice build opts i).script := by
  apply askSize_bound.bind
  rintro size rfl
  refine .ite (fun _ => .failure) fun large => ?_
  apply askCount_bound.bind
  rintro count rfl
  refine .checked fun id _ => .checked fun buf marshalled => ?_
  obtain ⟨sized, long⟩ := marshalStorageHeader_sized marshalled
  apply (askWrite_bound inside (by rw [writeBlockCrc_length buf (by omega), sized])).bind
  intro _ _
  exact askFlush_bound

theorem freeChain_bound {free : Bytes} (sized : free.length = blockSize) (next : Nat)
    (visited : Finset Nat) :
    DeviceBound blockSize blockCount (fun _ => True)
      (freeChain blockCount free next visited).script := by
  induction left : (Finset.range blockCount \ visited).card using Nat.strong_induction_on
    generalizing next visited with
  | _ left ih =>
      rw [freeChain]
      refine .ite (fun _ => .value trivial) fun _ => .dite (fun _ => .value trivial) fun fresh => ?_
      have inside : next < blockCount := by omega
      apply (askRead_bound inside).bind
      intro buf _
      refine .checked fun header _ => .ite (fun _ => .value trivial) fun _ => ?_
      apply (askWrite_bound inside sized).bind
      intro _ _
      subst left
      exact ih _ (unvisited_decreases fresh) _ _ rfl

theorem freeRecord_bound {d : Nat} (inside : d < blockCount) (pattern : UInt8) :
    DeviceBound blockSize blockCount (fun _ => True) (freeRecord d pattern).script := by
  apply askSize_bound.bind
  rintro size rfl
  apply askCount_bound.bind
  rintro count rfl
  apply (askRead_bound inside).bind
  intro buf _
  refine .checked fun header _ => .ite (fun _ => .failure) fun _ => ?_
  have sized : (makeFreeBuf size pattern).length = size := List.length_replicate
  apply (askWrite_bound inside sized).bind
  intro _ _
  exact freeChain_bound sized _ _

theorem eraseBlock_bound {valid : Finset Nat} {free : Bytes} (sized : free.length = blockSize)
    {i : Nat} (inside : i < blockCount) (garbageFound : Bool) :
    DeviceBound blockSize blockCount (fun _ => True)
      (Spelling.eraseBlock valid free garbageFound i).script := by
  refine .ite (fun _ => .value trivial) fun _ => ?_
  apply (askRead_bound inside).bind
  intro buf _
  refine .ite (fun _ => .value trivial) fun _ => ?_
  apply (askWrite_bound inside sized).bind
  intro _ _
  exact .value trivial

theorem dataBlocks_inside : ∀ b ∈ dataBlocks blockCount, b < blockCount :=
  fun _ member => (mem_dataBlocks.mp member).2

/-- A scan over the data blocks, each turn within the device. -/
theorem scan_bound {P : Port} {C : Contract P} {State : AnyDevice → Type}
    {serve : ∀ w, Server P (State w)} {β : Type} {body : ∀ w, β → Nat → Proc Failure (State w) β}
    {turn : ∀ acc i, Spelled serve fun w => body w acc i}
    (turns : ∀ acc i, i < blockCount → (turn acc i).script.Meets C (OnSuccess fun _ => True))
    (seed : β) :
    (Spelled.foldlM turn (dataBlocks blockCount) seed).script.Meets C (OnSuccess fun _ => True) :=
  Spelled.foldlM_meets (fun acc _ i member => turns acc i (dataBlocks_inside i member)) trivial

theorem deleteReplica_bound (keyStr : Bytes) (pattern : UInt8) (found : Bool) :
    ReplicaBound blockSize blockCount (fun _ => True)
      (deleteReplica keyStr pattern found).script := by
  apply askIndex_bound
  intro index ranged
  dsimp only [id]
  cases entry : index.get keyStr with
  | none =>
    exact .value trivial
  | some e =>
      apply (onDevice_bound (freeRecord_bound (ranged keyStr e entry) pattern)).bind
      intro _ _
      apply (onDevice_bound askFlush_bound).bind
      intro _ _
      apply (askDropIndex_bound keyStr).bind
      intro _ _
      exact .value trivial

theorem askGeneration_bound (keyStr : Bytes) (generation : Nat) :
    ReplicaBound blockSize blockCount (fun _ => True) (askGeneration keyStr generation).script := by
  apply askIndex_bound
  intro index _
  dsimp only [id]
  cases index.get keyStr with
  | none => exact .value trivial
  | some e => exact .value trivial

/-! ## The Go store -/

theorem goChainLoop_bound (d next idx : Nat) (visited : Finset Nat) (rec : CompleteRecord) :
    DeviceBound blockSize blockCount (fun _ => True)
      (goChainLoop blockSize blockCount d next idx visited rec).script := by
  induction left : (Finset.range blockCount \ visited).card using Nat.strong_induction_on
    generalizing next idx visited rec with
  | _ left ih =>
      rw [goChainLoop]
      refine .ite (fun _ => .value trivial) fun _ => .dite (fun _ => .value trivial) fun fresh => ?_
      apply (askRead_bound (by omega)).bind
      intro buf _
      refine .checked fun found _ => ?_
      cases found with
      | none => exact .value trivial
      | some chunk =>
          subst left
          exact ih _ (unvisited_decreases fresh) _ _ _ _ rfl

theorem goVerifyAndReadRecord_bound {d : Nat} (inside : d < blockCount) :
    DeviceBound blockSize blockCount (fun _ => True) (goVerifyAndReadRecord d).script := by
  apply askSize_bound.bind
  rintro size rfl
  apply (askRead_bound inside).bind
  intro buf _
  refine .checked fun found _ => ?_
  cases found with
  | none => exact .value trivial
  | some head =>
      refine .ite (fun _ => .ite (fun _ => .value trivial) fun _ => .value trivial) fun _ => ?_
      refine .ite (fun _ => .value trivial) fun _ => ?_
      apply askCount_bound.bind
      rintro count rfl
      apply (goChainLoop_bound _ _ _ _ _).bind
      intro walked _
      cases walked with
      | none => exact .value trivial
      | some grown =>
          refine .ite (fun _ => .value trivial) fun _ => ?_
          exact .ite (fun _ => .value trivial) fun _ => .value trivial

theorem goCollectFree_bound (n : Nat) {blocks result : List Nat}
    (inside : ∀ b ∈ blocks, b < blockCount) (taken : ∀ b ∈ result, b < blockCount) :
    DeviceBound blockSize blockCount (fun free => ∀ b ∈ free, b < blockCount)
      (goCollectFree n blocks result).script := by
  induction blocks generalizing result with
  | nil => exact .value taken
  | cons i rest ih =>
      have here := inside i List.mem_cons_self
      have later : ∀ b ∈ rest, b < blockCount := fun b member =>
        inside b (List.mem_cons_of_mem _ member)
      refine .ite (fun _ => ?_) fun _ => .value taken
      apply (askRead_bound here).bind
      intro buf _
      refine .checked fun free _ => .ite (fun _ => ?_) fun _ => ih later taken
      exact ih later (List.forall_mem_append.mpr ⟨taken, by simpa using here⟩)

theorem goFindFreeBlocks_bound (n : Nat) :
    DeviceBound blockSize blockCount (fun free => ∀ b ∈ free, b < blockCount)
      (goFindFreeBlocks n).script := by
  apply askCount_bound.bind
  rintro count rfl
  apply (goCollectFree_bound n dataBlocks_inside (List.forall_mem_nil _)).bind
  intro free inside
  exact .ite (fun _ => .failure) fun _ => .value inside

theorem goWriteChunks_bound (chunkCap d ci : Nat) {chunks : List Nat}
    (inside : ∀ b ∈ chunks, b < blockCount) (remaining : Bytes) :
    DeviceBound blockSize blockCount (fun _ => True)
      (goWriteChunks blockSize chunkCap d ci chunks remaining).script := by
  induction chunks generalizing ci remaining with
  | nil => exact .value trivial
  | cons c rest ih =>
      refine .checked fun cbuf marshalled => .checked fun payload _ => .checked fun copied copies => ?_
      obtain ⟨sized, long⟩ := marshalChunkHeader_sized marshalled
      have kept := copyInto_length copies
      apply (askWrite_bound (inside c List.mem_cons_self)
        (by rw [writeBlockCRC_eq, writeBlockCrc_length copied (by omega), kept, sized])).bind
      intro _ _
      exact ih (ci + 1) (fun b member => inside b (List.mem_cons_of_mem _ member)) _

theorem goWriteRecord_bound {d : Nat} {chunks : List Nat} (here : d < blockCount)
    (inside : ∀ b ∈ chunks, b < blockCount) (key : Bytes) (generation : Nat) (value : Bytes)
    (userFlags : UInt32) :
    DeviceBound blockSize blockCount (fun _ => True)
      (goWriteRecord d chunks key generation value userFlags).script := by
  apply askSize_bound.bind
  rintro size rfl
  refine .checked fun buf marshalled => .checked fun named names => .checked fun first _ =>
    .checked fun filled fills => ?_
  obtain ⟨sized, long⟩ := marshalDescriptorHeader_sized marshalled
  have kept := copyInto_length names
  have kept' := copyInto_length fills
  apply (askWrite_bound here
    (by rw [writeBlockCRC_eq, writeBlockCrc_length filled (by omega), kept', kept, sized])).bind
  intro _ _
  exact goWriteChunks_bound _ _ _ inside _

theorem goBestBlock_bound (best : BestMap) {i : Nat} (inside : i < blockCount) :
    DeviceBound blockSize blockCount (fun _ => True) (goBestBlock best i).script := by
  apply (askRead_bound inside).bind
  intro buf _
  refine .ite (fun _ => .value trivial) fun _ => ?_
  apply (goVerifyAndReadRecord_bound inside).bind
  intro found _
  cases found with
  | none => exact .value trivial
  | some rec =>
      dsimp only [id]
      cases best.lookup rec.key with
      | none => exact .value trivial
      | some ex => exact .value trivial

theorem goReplicaRecover_bound (pattern : UInt8) :
    DeviceBound blockSize blockCount (fun _ => True) (goReplicaRecover pattern).script := by
  apply askSize_bound.bind
  rintro size rfl
  apply askCount_bound.bind
  rintro count rfl
  have sized : (makeFreeBuf size pattern).length = size := List.length_replicate
  apply (scan_bound (fun best i inside => goBestBlock_bound best inside) ∅).bind
  intro best _
  apply (scan_bound (fun found i inside => eraseBlock_bound sized inside found) false).bind
  intro garbageFound _
  exact .ite (fun _ => askFlush_bound) fun _ => .value trivial

theorem goIndexBlock_bound {i : Nat} (inside : i < blockCount) :
    ReplicaBound blockSize blockCount (fun _ => True) (goIndexBlock i).script := by
  apply (onDevice_bound (askRead_bound inside)).bind
  intro buf _
  refine .ite (fun _ => .value trivial) fun _ => ?_
  apply (onDevice_bound (goVerifyAndReadRecord_bound inside)).bind
  intro found _
  cases found with
  | none => exact .value trivial
  | some rec =>
      apply askIndex_bound
      intro index _
      dsimp only [id]
      cases index.get rec.key with
      | none => exact askPutIndex_bound inside
      | some ex => exact .ite (fun _ => askPutIndex_bound inside) fun _ => .value trivial

theorem goReplicaBuildIndex_bound :
    ReplicaBound blockSize blockCount (fun _ => True) goReplicaBuildIndex.script := by
  apply (askSetIndex_bound (ranged_empty blockCount)).bind
  intro _ _
  apply (onDevice_bound askCount_bound).bind
  rintro count rfl
  exact scan_bound (fun _ i inside => goIndexBlock_bound inside) ()

theorem goGetReplica_bound (key : Bytes) (best : Option (Nat × Bytes)) :
    ReplicaBound blockSize blockCount (fun _ => True) (goGetReplica key best).script := by
  apply askIndex_bound
  intro index ranged
  dsimp only [id]
  cases entry : index.get key with
  | none => exact .value trivial
  | some e =>
      refine .ite (fun _ => .value trivial) fun _ => ?_
      apply (onDevice_bound (goVerifyAndReadRecord_bound (ranged key e entry))).bind
      intro found _
      cases found with
      | none => exact .value trivial
      | some rec => exact .value trivial

theorem goFreeRecord_bound {d : Nat} (inside : d < blockCount) (pattern : UInt8) :
    DeviceBound blockSize blockCount (fun _ => True) (goFreeRecord d pattern).script :=
  freeRecord_bound inside pattern

theorem goDeleteReplica_bound (key : Bytes) (pattern : UInt8) (found : Bool) :
    ReplicaBound blockSize blockCount (fun _ => True) (goDeleteReplica key pattern found).script :=
  deleteReplica_bound key pattern found

theorem goReplicaPut_bound (key value : Bytes) (generation : Nat) (userFlags : UInt32)
    (pattern : UInt8) :
    ReplicaBound blockSize blockCount (fun _ => True)
      (goReplicaPut key value generation userFlags pattern).script := by
  apply askIndex_bound
  intro index ranged
  dsimp only [id]
  refine ⟨trivial, fun size _ => .checked fun needed _ => ?_⟩
  apply (onDevice_bound (goFindFreeBlocks_bound needed)).bind
  intro free inside
  cases free with
  | nil => exact .failure
  | cons d chunks =>
      have here := inside d List.mem_cons_self
      have chained : ∀ b ∈ chunks, b < blockCount := fun b member =>
        inside b (List.mem_cons_of_mem _ member)
      apply (onDevice_bound (goWriteRecord_bound here chained key generation value userFlags)).bind
      intro _ _
      apply (onDevice_bound askFlush_bound).bind
      intro _ _
      apply (askPutIndex_bound here).bind
      intro _ _
      cases entry : index.get key with
      | none => exact .value trivial
      | some e =>
          apply (onDevice_bound (goFreeRecord_bound (ranged key e entry) pattern)).bind
          intro _ _
          exact onDevice_bound askFlush_bound

/-! ## The Rust store -/

variable (build : Rust.Build)

theorem rustChainLoop_bound (d next idx : Nat) (visited : Finset Nat) (rec : CompleteRecord) :
    DeviceBound blockSize blockCount (fun _ => True)
      (rustChainLoop build blockSize blockCount d next idx visited rec).script := by
  induction left : (Finset.range blockCount \ visited).card using Nat.strong_induction_on
    generalizing next idx visited rec with
  | _ left ih =>
      rw [rustChainLoop]
      refine .ite (fun _ => .value trivial) fun _ => .dite (fun _ => .value trivial) fun fresh => ?_
      apply (askRead_bound (by omega)).bind
      intro buf _
      refine .checked fun found _ => ?_
      cases found with
      | none => exact .value trivial
      | some chunk =>
          refine .checked fun following _ => ?_
          subst left
          exact ih _ (unvisited_decreases fresh) _ _ _ _ rfl

theorem rustVerifyAndReadRecord_bound {d : Nat} (inside : d < blockCount) :
    DeviceBound blockSize blockCount (fun _ => True) (rustVerifyAndReadRecord build d).script := by
  apply askSize_bound.bind
  rintro size rfl
  apply (askRead_bound inside).bind
  intro buf _
  refine .checked fun found _ => ?_
  cases found with
  | none => exact .value trivial
  | some head =>
      refine .ite (fun _ => .ite (fun _ => .value trivial) fun _ => .value trivial) fun _ => ?_
      refine .ite (fun _ => .value trivial) fun _ => ?_
      apply askCount_bound.bind
      rintro count rfl
      apply (rustChainLoop_bound build _ _ _ _ _).bind
      intro walked _
      cases walked with
      | none => exact .value trivial
      | some grown =>
          refine .ite (fun _ => .value trivial) fun _ => ?_
          exact .ite (fun _ => .value trivial) fun _ => .value trivial

theorem rustCollectFree_bound (n : Nat) {blocks result : List Nat}
    (inside : ∀ b ∈ blocks, b < blockCount) (taken : ∀ b ∈ result, b < blockCount) :
    DeviceBound blockSize blockCount (fun free => ∀ b ∈ free, b < blockCount)
      (rustCollectFree n blocks result).script := by
  induction blocks generalizing result with
  | nil => exact .value taken
  | cons i rest ih =>
      have here := inside i List.mem_cons_self
      have later : ∀ b ∈ rest, b < blockCount := fun b member =>
        inside b (List.mem_cons_of_mem _ member)
      refine .ite (fun _ => .value taken) fun _ => ?_
      apply (askRead_bound here).bind
      intro buf _
      refine .checked fun free _ => .ite (fun _ => ?_) fun _ => ih later taken
      exact ih later (List.forall_mem_append.mpr ⟨taken, by simpa using here⟩)

theorem rustFindFreeBlocks_bound (n : Nat) :
    DeviceBound blockSize blockCount (fun free => ∀ b ∈ free, b < blockCount)
      (rustFindFreeBlocks n).script := by
  apply askCount_bound.bind
  rintro count rfl
  apply (rustCollectFree_bound n dataBlocks_inside (List.forall_mem_nil _)).bind
  intro free inside
  exact .ite (fun _ => .failure) fun _ => .value inside

theorem rustWriteChunks_bound (chunkCap d ci : Nat) {chunks : List Nat}
    (inside : ∀ b ∈ chunks, b < blockCount) (remaining : Bytes) :
    DeviceBound blockSize blockCount (fun _ => True)
      (rustWriteChunks blockSize chunkCap d ci chunks remaining).script := by
  induction chunks generalizing ci remaining with
  | nil => exact .value trivial
  | cons c rest ih =>
      refine .checked fun cbuf marshalled => .checked fun payload _ => .checked fun copied copies => ?_
      obtain ⟨sized, long⟩ := marshalChunkHeader_sized marshalled
      have kept := copyFromSlice_length copies
      apply (askWrite_bound (inside c List.mem_cons_self)
        (by rw [writeBlockCrc_length copied (by omega), kept, sized])).bind
      intro _ _
      exact ih (ci + 1) (fun b member => inside b (List.mem_cons_of_mem _ member)) _

theorem rustWriteRecord_bound {d : Nat} {chunks : List Nat} (here : d < blockCount)
    (inside : ∀ b ∈ chunks, b < blockCount) (key : Bytes) (generation : Nat) (value : Bytes)
    (userFlags : UInt32) :
    DeviceBound blockSize blockCount (fun _ => True)
      (rustWriteRecord build d chunks key generation value userFlags).script := by
  apply askSize_bound.bind
  rintro size rfl
  refine .checked fun firstCap _ => .checked fun chunkCap _ => .checked fun chunkCount _ => ?_
  refine .checked fun buf marshalled => .checked fun named names => .checked fun first _ =>
    .checked fun filled fills => ?_
  obtain ⟨sized, long⟩ := marshalDescriptorHeader_sized marshalled
  have kept := copyFromSlice_length names
  have kept' := copyFromSlice_length fills
  apply (askWrite_bound here
    (by rw [writeBlockCrc_length filled (by omega), kept', kept, sized])).bind
  intro _ _
  exact rustWriteChunks_bound _ _ _ inside _

theorem rustBestBlock_bound (best : BestMap) {i : Nat} (inside : i < blockCount) :
    DeviceBound blockSize blockCount (fun _ => True) (rustBestBlock build best i).script := by
  apply (askRead_bound inside).bind
  intro buf _
  refine .ite (fun _ => .value trivial) fun _ => ?_
  apply (rustVerifyAndReadRecord_bound build inside).bind
  intro found _
  cases found with
  | none => exact .value trivial
  | some rec => exact .value trivial

theorem rustReplicaRecover_bound (pattern : UInt8) :
    DeviceBound blockSize blockCount (fun _ => True) (rustReplicaRecover build pattern).script := by
  apply askSize_bound.bind
  rintro size rfl
  apply askCount_bound.bind
  rintro count rfl
  have sized : (makeFreeBuf size pattern).length = size := List.length_replicate
  apply (scan_bound (fun best i inside => rustBestBlock_bound build best inside) ∅).bind
  intro best _
  apply (scan_bound (fun found i inside => eraseBlock_bound sized inside found) false).bind
  intro garbageFound _
  exact .ite (fun _ => askFlush_bound) fun _ => .value trivial

theorem rustIndexBlock_bound {i : Nat} (inside : i < blockCount) :
    ReplicaBound blockSize blockCount (fun _ => True) (rustIndexBlock build i).script := by
  apply (onDevice_bound (askRead_bound inside)).bind
  intro buf _
  refine .ite (fun _ => .value trivial) fun _ => ?_
  apply (onDevice_bound (rustVerifyAndReadRecord_bound build inside)).bind
  intro found _
  cases found with
  | none => exact .value trivial
  | some rec =>
      apply askIndex_bound
      intro index _
      exact .ite (fun _ => askPutIndex_bound inside) fun _ => .value trivial

theorem rustReplicaBuildIndex_bound :
    ReplicaBound blockSize blockCount (fun _ => True) (rustReplicaBuildIndex build).script := by
  apply (askSetIndex_bound (ranged_empty blockCount)).bind
  intro _ _
  apply (onDevice_bound askCount_bound).bind
  rintro count rfl
  exact scan_bound (fun _ i inside => rustIndexBlock_bound build inside) ()

theorem rustGetReplica_bound (key : Bytes) (best : Option (Nat × Bytes)) :
    ReplicaBound blockSize blockCount (fun _ => True) (rustGetReplica build key best).script := by
  have read : ReplicaBound blockSize blockCount (fun _ => True)
      (rustGetWithGeneration build key).script := by
    refine ⟨fun _ ranged => ranged, fun index ranged => ?_⟩
    dsimp only [id]
    cases entry : index.get (fromUtf8Lossy key) with
    | none => exact .value trivial
    | some e =>
        apply (onDevice_bound (rustVerifyAndReadRecord_bound build (ranged _ e entry))).andThen
        intro _ _ _ _
        trivial
  apply read.bind
  intro found _
  rcases found with _ | (error | hit)
  · exact .value trivial
  · exact .value trivial
  · cases best with
    | none => exact .value trivial
    | some old => exact .value trivial

theorem rustReplicaPut_bound (key value : Bytes) (generation : Nat) (userFlags : UInt32)
    (pattern : UInt8) :
    ReplicaBound blockSize blockCount (fun _ => True)
      (rustReplicaPut build key value generation userFlags pattern).script := by
  apply askIndex_bound
  intro index ranged
  dsimp only [id]
  refine ⟨trivial, fun size _ => .checked fun needed _ => ?_⟩
  apply (onDevice_bound (rustFindFreeBlocks_bound needed)).bind
  intro free inside
  cases free with
  | nil => exact .failure
  | cons d chunks =>
      have here := inside d List.mem_cons_self
      have chained : ∀ b ∈ chunks, b < blockCount := fun b member =>
        inside b (List.mem_cons_of_mem _ member)
      apply (onDevice_bound
        (rustWriteRecord_bound build here chained key generation value userFlags)).bind
      intro _ _
      apply (onDevice_bound askFlush_bound).bind
      intro _ _
      apply (askPutIndex_bound here).bind
      intro _ _
      cases entry : index.get (fromUtf8Lossy key) with
      | none => exact .value trivial
      | some e =>
          apply (onDevice_bound (freeRecord_bound (ranged _ e entry) pattern)).bind
          intro _ _
          exact onDevice_bound askFlush_bound

/-! ## Whole calls -/

theorem each_bound {β : Type} {body : ∀ w : AnyDevice, β → Proc Failure (Replica w.Dev) β}
    {turn : ∀ acc, OnReplica fun w => body w acc}
    (turns : ∀ acc, ReplicaBound blockSize blockCount (fun _ => True) (turn acc).script) (seed : β) :
    StoreBound blockSize blockCount (fun _ => True) (onReplicas (.each turn seed)).script :=
  onReplicas_bound (Meets.each (fun acc _ => turns acc) trivial)

theorem askPut_bound {room next : Nat → Except Failure Nat} {keyStr key : Bytes}
    {turn : ∀ w : AnyDevice, Nat → UInt8 → Proc Failure (Replica w.Dev) Unit}
    {turns : ∀ generation pattern, OnReplica fun w => turn w generation pattern}
    (bound : ∀ generation pattern, ReplicaBound blockSize blockCount (fun _ => True)
      (turns generation pattern).script) :
    StoreBound blockSize blockCount (fun _ => True) (askPut room next keyStr key turns).script := by
  apply askFirstSize_bound.bind
  intro size _
  cases size with
  | none => exact .failure
  | some size =>
      refine .checked fun available _ => .ite (fun _ => .failure) fun _ => ?_
      apply (each_bound (askGeneration_bound keyStr) 0).bind
      intro highest _
      refine .checked fun generation _ => askOpts_bound fun opts => ?_
      exact each_bound (fun _ => bound generation opts.freePattern) ()

end

/-- The script of a call, for each implementation. -/
def spellCall : (impl : Impl) → (call : Call) → OnStore fun _ => call.run impl
  | .rust build, .serve (.put key value userFlags) =>
    .bind (rustPut build key value userFlags) fun _ => .pure _
  | .rust _, .serve (.delete key) => .bind (rustDelete key) fun _ => .pure _
  | .rust build, .serve (.get key) => .bind (rustGet build key) fun _ => .pure _
  | .rust build, .recover => .bind (rustRecover build) fun _ => .pure _
  | .rust build, .buildIndex => .bind (rustBuildIndex build) fun _ => .pure _
  | .go, .serve (.put key value userFlags) => .bind (goPut key value userFlags) fun _ => .pure _
  | .go, .serve (.delete key) => .bind (goDelete key) fun _ => .pure _
  | .go, .serve (.get key) => .bind (goGet key) fun _ => .pure _
  | .go, .recover => .bind goRecover fun _ => .pure _
  | .go, .buildIndex => .bind goBuildIndex fun _ => .pure _

section
variable {blockSize blockCount : Nat}

theorem thenAnswer_bound {α β : Type} {script : Script storePort (Except Failure α)}
    (bound : StoreBound blockSize blockCount (fun _ => True) script) (answer : α → β) :
    StoreBound blockSize blockCount (fun _ => True)
      (script.bind fun value => .done (.ok (answer value))) :=
  bound.bind fun _ _ => .value trivial

theorem goPut_bound (key value : Bytes) (userFlags : UInt32) :
    StoreBound blockSize blockCount (fun _ => True) (goPut key value userFlags).script :=
  askPut_bound fun generation pattern => goReplicaPut_bound key value generation userFlags pattern

theorem rustPut_bound (build : Rust.Build) (key value : Bytes) (userFlags : UInt32) :
    StoreBound blockSize blockCount (fun _ => True) (rustPut build key value userFlags).script :=
  askPut_bound fun generation pattern =>
    rustReplicaPut_bound build key value generation userFlags pattern

theorem goDelete_bound (key : Bytes) :
    StoreBound blockSize blockCount (fun _ => True) (goDelete key).script := by
  refine askOpts_bound fun opts => ?_
  apply (each_bound (goDeleteReplica_bound key opts.freePattern) false).bind
  intro found _
  exact .ite (fun _ => .value trivial) fun _ => .failure

theorem rustDelete_bound (key : Bytes) :
    StoreBound blockSize blockCount (fun _ => True) (rustDelete key).script := by
  refine askOpts_bound fun opts => ?_
  apply (each_bound (deleteReplica_bound (fromUtf8Lossy key) opts.freePattern) false).bind
  intro found _
  exact .ite (fun _ => .value trivial) fun _ => .failure

theorem goGet_bound (key : Bytes) :
    StoreBound blockSize blockCount (fun _ => True) (goGet key).script := by
  apply (each_bound (goGetReplica_bound key) none).bind
  intro best _
  cases best with
  | none => exact .failure
  | some found => exact .value trivial

theorem rustGet_bound (build : Rust.Build) (key : Bytes) :
    StoreBound blockSize blockCount (fun _ => True) (rustGet build key).script := by
  apply (each_bound (rustGetReplica_bound build key) none).bind
  intro best _
  cases best with
  | none => exact .failure
  | some found => exact .value trivial

theorem goRecover_bound : StoreBound blockSize blockCount (fun _ => True) goRecover.script :=
  askOpts_bound fun opts =>
    each_bound (fun _ => onDevice_bound (goReplicaRecover_bound opts.freePattern)) ()

theorem rustRecover_bound (build : Rust.Build) :
    StoreBound blockSize blockCount (fun _ => True) (rustRecover build).script :=
  askOpts_bound fun opts => each_bound (fun _ =>
    onDevice_bound (rustReplicaRecover_bound build opts.freePattern)) ()

theorem goBuildIndex_bound : StoreBound blockSize blockCount (fun _ => True) goBuildIndex.script :=
  each_bound (fun _ => goReplicaBuildIndex_bound) ()

theorem rustBuildIndex_bound (build : Rust.Build) :
    StoreBound blockSize blockCount (fun _ => True) (rustBuildIndex build).script :=
  each_bound (fun _ => rustReplicaBuildIndex_bound build) ()

/-- Whatever a device holds and however it fails, a call keeps to the contract. -/
theorem call_bound (impl : Impl) (call : Call) :
    StoreBound blockSize blockCount (fun _ => True) (spellCall impl call).script := by
  cases impl with
  | go =>
      cases call with
      | serve op =>
          cases op with
          | put key value userFlags => exact thenAnswer_bound (goPut_bound key value userFlags) _
          | delete key => exact thenAnswer_bound (goDelete_bound key) _
          | get key => exact thenAnswer_bound (goGet_bound key) _
      | recover => exact thenAnswer_bound goRecover_bound _
      | buildIndex => exact thenAnswer_bound goBuildIndex_bound _
  | rust build =>
      cases call with
      | serve op =>
          cases op with
          | put key value userFlags =>
              exact thenAnswer_bound (rustPut_bound build key value userFlags) _
          | delete key => exact thenAnswer_bound (rustDelete_bound key) _
          | get key => exact thenAnswer_bound (rustGet_bound build key) _
      | recover => exact thenAnswer_bound (rustRecover_bound build) _
      | buildIndex => exact thenAnswer_bound (rustBuildIndex_bound build) _

end

end Embedkv.Bounds
