import Embedkv.Run

/-!
# The Go functions against the Rust ones

Function by function, the Go store makes the device calls of the Rust store and
answers alike. The two differ in three places. Go knows a key by its bytes and
Rust by the string they decode to; Go wraps where a `dev` build of Rust unwinds;
and `Get` of Go stops at a read error that `get` of Rust steps over. Each lemma
asks only for what keeps its function away from these places. No lemma asks the
index to be sound: the functions agree on whatever it names.
-/

namespace Embedkv.Agree

open Embedkv.Lib Embedkv.Format Embedkv.Device Embedkv.State Embedkv.Record Embedkv.Image
open Embedkv.Codec Embedkv.Layout Embedkv.Effects Embedkv.Plan

set_option autoImplicit false

/-! ## Blocks -/

theorem go_unmarshalStorageHeader_eq (buf : Bytes) :
    Go.unmarshalStorageHeader buf = Rust.unmarshalStorageHeader buf := by
  rw [Go.unmarshalStorageHeader, Rust.unmarshalStorageHeader, verifyBlockCRC_eq]

theorem go_unmarshalDescriptorHeader_eq (buf : Bytes) :
    Go.unmarshalDescriptorHeader buf = Rust.unmarshalDescriptorHeader buf := by
  rw [Go.unmarshalDescriptorHeader, Rust.unmarshalDescriptorHeader, verifyBlockCRC_eq]

theorem go_unmarshalChunkHeader_eq (buf : Bytes) :
    Go.unmarshalChunkHeader buf = Rust.unmarshalChunkHeader buf := by
  rw [Go.unmarshalChunkHeader, Rust.unmarshalChunkHeader, verifyBlockCRC_eq]

theorem go_classifyFirstByte (buf : Bytes) :
    Go.classifyFirstByte (u8At buf 0) = .free ↔ IsFree buf := by
  unfold Go.classifyFirstByte IsFree
  split
  next free => exact ⟨fun _ => free, fun _ => rfl⟩
  next taken =>
    constructor
    · intro isFree
      cases isFree
    · intro isFree
      exact absurd isFree taken

theorem go_classify_typed {buf : Bytes} (typed : ¬IsFree buf) (ok : Bool) :
    (if ok = true then Go.BlockClass.valid else Go.classifyFirstByte (u8At buf 0)) = .free ↔
      IsFree buf := by
  constructor
  · intro free
    split at free
    · cases free
    · exact (go_classifyFirstByte buf).mp free
  · intro free
    exact absurd free typed

/-- Go checks fewer lengths on the way, and allocates by the first byte as well. -/
theorem go_classifyBlock {buf : Bytes} (large : 36 ≤ buf.length) :
    ∃ found, Go.classifyBlock buf = .ok found ∧ (found = .free ↔ IsFree buf) := by
  have nonempty : ¬buf.length = 0 := by omega
  unfold Go.classifyBlock
  rw [if_neg nonempty, go_unmarshalStorageHeader_eq, go_unmarshalDescriptorHeader_eq,
    go_unmarshalChunkHeader_eq, rust_unmarshalStorageHeader buf (by omega),
    rust_unmarshalDescriptorHeader buf (by omega), rust_unmarshalChunkHeader buf (by omega)]
  simp only [bind, Except.bind, pure, Except.pure]
  split
  next header => exact ⟨_, rfl, go_classify_typed (by rw [IsFree, header]; decide) _⟩
  next =>
    split
    next descriptor => exact ⟨_, rfl, go_classify_typed (by rw [IsFree, descriptor.1]; decide) _⟩
    next =>
      split
      next chunk => exact ⟨_, rfl, go_classify_typed (by rw [IsFree, chunk]; decide) _⟩
      next => exact ⟨_, rfl, go_classifyFirstByte buf⟩

theorem go_isFreeCandidate {buf : Bytes} (large : 36 ≤ buf.length) :
    Go.isFreeCandidate buf = Rust.isFreeCandidate buf := by
  obtain ⟨found, classified, free⟩ := go_classifyBlock large
  rw [rust_isFreeCandidate large]
  simp only [Go.isFreeCandidate, classified, bind, Except.bind, pure, Except.pure, free]

/-- The sum inside the ceiling is taken in 32 bits. -/
theorem go_neededBlocks_eq {blockSize : Nat} {key : Bytes} (fits : key.length + 36 ≤ blockSize)
    (small : blockSize < 2 ^ 32) (value : Bytes) :
    Go.neededBlocks key value blockSize = .ok
      (if asU32 value.length ≤ blockSize - 36 - key.length then 1
        else 1 + (asU32 value.length - (blockSize - 36 - key.length) + (blockSize - 24) - 1) %
          2 ^ 32 / (blockSize - 24)) := by
  have keyCast : asU32 key.length = key.length := asU32_of_lt (by omega)
  have first := go_firstPayloadCapacity blockSize key.length fits small
  have chunk := go_chunkPayloadCapacity blockSize (by omega) small
  have valueLt := asU32_lt value.length
  simp only [Go.neededBlocks, keyCast, first, chunk, bind, Except.bind, pure, Except.pure]
  split
  next => rfl
  next big =>
    have remaining : Go.u32Sub (asU32 value.length) (blockSize - 36 - key.length) =
        asU32 value.length - (blockSize - 36 - key.length) := go_u32Sub_eq (by omega) valueLt
    have sum : Go.u32Sub (Go.u32Add (asU32 value.length - (blockSize - 36 - key.length))
        (blockSize - 24)) 1 =
        (asU32 value.length - (blockSize - 36 - key.length) + (blockSize - 24) - 1) % 2 ^ 32 := by
      unfold Go.u32Sub Go.u32Add
      omega
    have extra : (asU32 value.length - (blockSize - 36 - key.length) + (blockSize - 24) - 1) %
        2 ^ 32 / (blockSize - 24) ≤ (2 ^ 32 - 1) / 2 :=
      Nat.div_le_div (Nat.le_sub_one_of_lt (Nat.mod_lt _ (by decide))) (by omega) (by decide)
    rw [remaining, sum]
    simp only [Go.u32Div, if_neg (show ¬blockSize - 24 = 0 by omega)]
    rw [go_u32Add_eq (by omega)]

/-- With the value and a block together below the 32-bit bound, the sum inside
the ceiling does not wrap. -/
theorem go_neededBlocks (build : Rust.Build) {blockSize : Nat} {key value : Bytes}
    (fits : key.length + 36 ≤ blockSize) (small : value.length + blockSize < 2 ^ 32) :
    Go.neededBlocks key value blockSize = Rust.neededBlocks build key value blockSize := by
  have valueCast : asU32 value.length = value.length := asU32_of_lt (by omega)
  rw [rust_neededBlocks build fits (by omega), go_neededBlocks_eq fits (by omega), valueCast,
    Nat.mod_eq_of_lt (by omega)]
  rfl

/-- A copy that fits is the same in both languages. -/
theorem go_copyInto {offset : Nat} {source buf : Bytes}
    (fits : offset + source.length ≤ buf.length) :
    Go.copyInto offset source buf = copyFromSlice offset source buf := by
  rw [copyFromSlice_ok fits, Go.copyInto, requireLength_ok (by omega),
    List.take_of_length_le (by omega)]
  rfl

theorem slice_length {buf out : Bytes} {start stop : Nat} (taken : slice buf start stop = .ok out) :
    out.length = stop - start := by
  unfold slice at taken
  split at taken
  next bounds =>
    rw [← Except.ok.inj taken, List.length_drop, List.length_take]
    omega
  next => cases taken

theorem copyFromSlice_length {offset : Nat} {source buf out : Bytes}
    (copied : copyFromSlice offset source buf = .ok out) : out.length = buf.length := by
  by_cases fits : offset + source.length ≤ buf.length
  · rw [copyFromSlice_ok fits] at copied
    rw [← Except.ok.inj copied, splice_length _ _ _ fits]
  · rw [copyFromSlice, requireLength, if_neg fits] at copied
    cases copied

theorem marshalChunkHeader_length {h : ValueChunkHeader} {buf out : Bytes}
    (long : 20 ≤ buf.length) (marshalled : marshalChunkHeader h buf = .ok out) :
    out.length = buf.length := by
  rw [marshalChunkHeader_eq h buf long] at marshalled
  rw [← Except.ok.inj marshalled, List.length_append, chunkHeaderBytes_length, List.length_drop]
  omega

theorem marshalDescriptorHeader_length {h : RecordDescriptorHeader} {buf out : Bytes}
    (long : 32 ≤ buf.length) (marshalled : marshalDescriptorHeader h buf = .ok out) :
    out.length = buf.length := by
  rw [marshalDescriptorHeader_eq h buf long] at marshalled
  rw [← Except.ok.inj marshalled, List.length_append, descriptorHeaderBytes_length,
    List.length_drop]
  omega

section
variable {D : Type} [BlockDevice D]

/-! ## Opening -/

theorem go_openReplicaHeader : (Go.openReplicaHeader : Proc Failure D StorageHeader) =
    Rust.openReplicaHeader := by
  unfold Go.openReplicaHeader Rust.openReplicaHeader
  simp only [go_unmarshalStorageHeader_eq]

theorem go_openReplicas (geometry : Nat × Nat) (devs : List D) :
    Go.openReplicas geometry devs = Rust.openReplicas geometry devs := by
  induction devs with
  | nil => rfl
  | cons dev rest ih =>
      rcases opened : Rust.openReplicaHeader dev with ⟨_ | header, dev'⟩
      · simp only [Go.openReplicas, Rust.openReplicas, go_openReplicaHeader, opened]
      · simp only [Go.openReplicas, Rust.openReplicas, go_openReplicaHeader, opened, ih]

/-- The two implementations accept the same devices. -/
theorem go_openStore (devs : List D) (opts : Options) :
    Go.openStore devs opts = Rust.openStore devs opts := by
  cases devs with
  | nil => rfl
  | cons dev rest => rw [Go.openStore, Rust.openStore, go_openReplicas]

/-- Go numbers the devices as a release build does. -/
theorem go_formatDevice (opts : Options) (i : Nat) :
    (Go.formatDevice opts i : Proc Failure D Unit) = Rust.formatDevice .release opts i := by
  unfold Go.formatDevice Rust.formatDevice
  simp only [go_u32Add_release, writeBlockCRC_eq]
  rfl

theorem go_format (opts : Options) :
    (Go.format opts : Proc Failure (List D) Unit) = Rust.format .release opts := by
  unfold Go.format Rust.format
  simp only [go_formatDevice]
  rfl

/-! ## Erasing -/

/-- The erasing loops are the same loop. -/
theorem go_freeChain (blockCount : Nat) (free : Bytes) (next : Nat) (visited : Finset Nat) :
    (Go.freeChain blockCount free next visited : Proc Failure D Unit) =
      Rust.freeChain blockCount free next visited := by
  induction left : (Finset.range blockCount \ visited).card using Nat.strong_induction_on
    generalizing next visited with
  | _ left ih =>
      rw [Go.freeChain, Rust.freeChain]
      by_cases ended : next = nullBlockIndex
      · rw [if_pos ended, if_pos ended]
      · by_cases stale : next ≥ blockCount ∨ next ∈ visited
        · rw [if_neg ended, if_neg ended, dif_pos stale, dif_pos stale]
        · subst left
          have rest (following : Nat) := ih _ (unvisited_decreases stale) following _ rfl
          rw [if_neg ended, if_neg ended, dif_neg stale, dif_neg stale]
          simp only [go_unmarshalChunkHeader_eq, rest]

theorem go_freeRecord (d : Nat) (pattern : UInt8) :
    (Go.freeRecord d pattern : Proc Failure D Unit) = Rust.freeRecord d pattern := by
  unfold Go.freeRecord Rust.freeRecord
  simp only [go_unmarshalDescriptorHeader_eq, go_freeChain]

theorem go_deleteReplica (s : Bytes) (pattern : UInt8) :
    (Go.deleteReplica s pattern : Bool → Proc Failure (Replica D) Bool) =
      Rust.deleteReplica s pattern := by
  funext found r
  have here : (Proc.get : Proc Failure (Replica D) (Replica D)) r = (.ok r, r) := rfl
  rw [Go.deleteReplica, Rust.deleteReplica, Proc.bind_ok here, Proc.bind_ok here]
  cases r.index.get s with
  | none => rfl
  | some e => simp only [go_freeRecord]

theorem go_delete {key : Bytes} (decodes : fromUtf8Lossy key = key) :
    (Go.delete key : Proc Failure (Store D) Unit) = Rust.delete key := by
  unfold Go.delete Rust.delete
  simp only [go_deleteReplica, decodes]

end

section
variable {D : Type} [BlockDevice D] [LawfulBlockDevice D]

/-! ## Allocating and writing -/

/-- Go counts the blocks it found in 32 bits, which is enough for the blocks of a device. -/
theorem go_collectFree (dev : D) (large : 36 ≤ (image dev).blockSize) (n : Nat)
    {scan : List Nat} (inside : ∀ b ∈ scan, b < (image dev).blockCount) {result : List Nat}
    (counted : result.length + scan.length < 2 ^ 32) :
    Go.collectFree n scan result dev = Rust.collectFree n scan result dev := by
  induction scan generalizing result with
  | nil => rfl
  | cons b rest ih =>
      rw [List.length_cons] at counted
      have here : b < (image dev).blockCount := inside b List.mem_cons_self
      have size : ((image dev).block b).length = (image dev).blockSize :=
        (image dev).block_length here
      have insideRest : ∀ other ∈ rest, other < (image dev).blockCount := fun other member =>
        inside other (List.mem_cons_of_mem _ member)
      have cast : asU32 result.length = result.length := asU32_of_lt (by omega)
      have read := LawfulBlockDevice.readBlock_eq dev b here
      rw [Go.collectFree, Rust.collectFree, cast]
      by_cases enough : n ≤ result.length
      · rw [if_neg (by omega), if_pos enough]
      · rw [if_pos (by omega), if_neg enough, Proc.bind_ok read, Proc.bind_ok read,
          go_isFreeCandidate (by omega), rust_isFreeCandidate (by omega),
          Proc.ofExcept_ok_bind_apply, Proc.ofExcept_ok_bind_apply]
        split
        · exact ih insideRest (by rw [List.length_append, List.length_singleton]; omega)
        · exact ih insideRest (by omega)

theorem go_findFreeBlocks (dev : D) (large : 36 ≤ (image dev).blockSize) (n : Nat) :
    Go.findFreeBlocks n dev = Rust.findFreeBlocks n dev := by
  have bound : (image dev).blockCount < 2 ^ 32 := (image dev).count_lt
  have inside : ∀ b ∈ dataBlocks (image dev).blockCount, b < (image dev).blockCount :=
    fun b member => (mem_dataBlocks.mp member).2
  have fits : (dataBlocks (image dev).blockCount).length < 2 ^ 32 := by
    rw [dataBlocks, List.length_range']
    omega
  have same : Go.collectFree n (dataBlocks (image dev).blockCount) [] dev = _ :=
    go_collectFree dev large n inside (by simpa using fits)
  rw [Go.findFreeBlocks, Rust.findFreeBlocks, Proc.bind_ok (blockCountOf_eq dev),
    Proc.bind_ok (blockCountOf_eq dev), Proc.bind_first_congr same]
  apply Proc.bind_congr_ok
  intro result dev' ran
  rw [rust_collectFree dev large n inside, List.nil_append] at ran
  have found := congrArg List.length (Except.ok.inj (Prod.mk.inj ran).1)
  have cast : asU32 result.length = result.length := by
    apply asU32_of_lt
    rw [← found, List.length_take]
    have kept := List.length_filter_le (fun b => decide (IsFree ((image dev).block b)))
      (dataBlocks (image dev).blockCount)
    omega
  rw [cast]

omit [LawfulBlockDevice D] in
/-- A buffer never overflows in the chunk loop, so `copy` copies all it is given. -/
theorem go_writeChunks {blockSize : Nat} (large : 24 ≤ blockSize) (d ci : Nat)
    (chunks : List Nat) (remaining : Bytes) (dev : D) :
    Go.writeChunks blockSize (blockSize - 24) d ci chunks remaining dev =
      Rust.writeChunks blockSize (blockSize - 24) d ci chunks remaining dev := by
  induction chunks generalizing ci remaining dev with
  | nil => rfl
  | cons c rest ih =>
      have least : (if asU32 remaining.length > blockSize - 24 then blockSize - 24
          else asU32 remaining.length) = min (asU32 remaining.length) (blockSize - 24) := by
        split <;> omega
      rw [Go.writeChunks, Rust.writeChunks]
      simp only [least, writeBlockCRC_eq]
      apply Proc.bind_congr_ok
      intro cbuf dev1 marshalled
      have length := marshalChunkHeader_length (by rw [List.length_replicate]; omega)
        (Prod.mk.inj marshalled).1
      rw [List.length_replicate] at length
      apply Proc.bind_congr_ok
      intro payload dev2 taken
      have size := slice_length (Prod.mk.inj taken).1
      have fits : valueChunkHeaderSize + payload.length ≤ cbuf.length := by
        rw [size, length, valueChunkHeaderSize]
        omega
      rw [go_copyInto fits]
      apply Proc.bind_congr_ok
      intro copied dev3 _
      apply Proc.bind_congr_ok
      intro _ dev4 _
      exact ih (ci + 1) _ dev4

theorem go_writeRecord (build : Rust.Build) (dev : D) {d : Nat} {chunks : List Nat}
    {key : Bytes} (placed : Placed (image dev) d chunks key) (generation : Nat) (value : Bytes)
    (userFlags : UInt32) :
    Go.writeRecord d chunks key generation value userFlags dev =
      Rust.writeRecord build d chunks key generation value userFlags dev := by
  have keyFits := placed.key_fits
  have sizeLt := (image dev).size_lt
  have counted := placed.chunks_lt
  have keyCast : asU32 key.length = key.length := asU32_of_lt (by omega)
  have countCast : asU32 chunks.length = chunks.length := asU32_of_lt (by omega)
  have least : (if asU32 value.length > (image dev).blockSize - 36 - key.length
      then (image dev).blockSize - 36 - key.length else asU32 value.length) =
        min (asU32 value.length) ((image dev).blockSize - 36 - key.length) := by
    split <;> omega
  have keyEnd : Go.u32Add recordDescriptorHeaderSize key.length =
      recordDescriptorHeaderSize + key.length := go_u32Add_eq (by
    rw [recordDescriptorHeaderSize]
    omega)
  rw [Go.writeRecord, Rust.writeRecord, Proc.bind_ok (blockSizeOf_eq dev),
    Proc.bind_ok (blockSizeOf_eq dev)]
  simp only [keyCast, countCast, go_firstPayloadCapacity _ _ keyFits sizeLt,
    go_chunkPayloadCapacity _ (show 24 ≤ (image dev).blockSize by omega) sizeLt,
    rust_firstPayloadCapacity build _ _ keyFits,
    rust_chunkPayloadCapacity build _ (show 24 ≤ (image dev).blockSize by omega),
    rust_u32Add_ok counted, go_u32Add_eq counted, Proc.ofExcept_ok_bind_apply, least, keyEnd,
    writeBlockCRC_eq]
  apply Proc.bind_congr_ok
  intro buf dev1 marshalled
  have length := marshalDescriptorHeader_length (by rw [List.length_replicate]; omega)
    (Prod.mk.inj marshalled).1
  rw [List.length_replicate] at length
  rw [go_copyInto (by rw [length, recordDescriptorHeaderSize]; omega)]
  apply Proc.bind_congr_ok
  intro copied dev2 copy
  have copiedLength := copyFromSlice_length (Prod.mk.inj copy).1
  apply Proc.bind_congr_ok
  intro first dev3 taken
  have firstLength := slice_length (Prod.mk.inj taken).1
  rw [go_copyInto (by rw [firstLength, copiedLength, length, recordDescriptorHeaderSize]; omega)]
  apply Proc.bind_congr_ok
  intro sealed dev4 _
  apply Proc.bind_congr_ok
  intro _ dev5 _
  exact go_writeChunks (by omega) d 0 chunks _ dev5

/-- The Go put is the put under the key itself, whatever the index says. -/
theorem go_replicaPut_storeAs {r : Replica D} {key value : Bytes}
    (keyFits : key.length + 36 ≤ (image r.dev).blockSize)
    (small : value.length + (image r.dev).blockSize < 2 ^ 32) (generation : Nat)
    (userFlags : UInt32) (pattern : UInt8) :
    Go.replicaPut key value generation userFlags pattern r =
      storeAs key key value generation userFlags pattern r := by
  have large : 36 ≤ (image r.dev).blockSize := by omega
  have needed : Go.neededBlocks key value (image r.dev).blockSize = _ :=
    go_neededBlocks .dev keyFits small
  have found (n : Nat) : Replica.onDevice (Go.findFreeBlocks n) r =
      Replica.onDevice (Rust.findFreeBlocks n) r := by
    rw [Replica.onDevice, Proc.zoom_apply, Proc.zoom_apply, go_findFreeBlocks r.dev large n]
  rw [Go.replicaPut, storeAs, Proc.get_bind_apply, Proc.get_bind_apply,
    LawfulBlockDevice.blockSize_eq, needed, rust_neededBlocks .dev keyFits (image r.dev).size_lt,
    Proc.ofExcept_ok_bind_apply, Proc.bind_first_congr (found _)]
  by_cases room : blocksFor (image r.dev).blockSize key.length (asU32 value.length) ≤
      (freeBlocks (image r.dev)).length
  · rw [Proc.bind_ok (findFree_ok large room), Proc.bind_ok (findFree_ok large room)]
    cases taken : (freeBlocks (image r.dev)).take
      (blocksFor (image r.dev).blockSize key.length (asU32 value.length)) with
    | nil => rfl
    | cons d chunks =>
        have fits := (allocated keyFits room taken).1
        have written : Replica.onDevice
            (Go.writeRecord d chunks key generation value userFlags) r =
              Replica.onDevice (writeAll (recordWrites (image r.dev).blockSize d chunks key
                generation value userFlags)) r := by
          rw [Replica.onDevice, Proc.zoom_apply, Proc.zoom_apply,
            go_writeRecord .dev r.dev fits.placed, rust_writeRecord .dev r.dev fits.placed]
        simp only [go_freeRecord]
        rw [Proc.bind_first_congr written]
        cases r.index.get key with
        | none => rfl
        | some old => rfl
  · rw [Proc.bind_error (findFree_full large (by omega)),
      Proc.bind_error (findFree_full large (by omega))]

omit [BlockDevice D] [LawfulBlockDevice D] in
theorem go_indexedGeneration (key : Bytes) (replicas : List (Replica D)) :
    Go.indexedGeneration key replicas = Rust.indexedGeneration key replicas := rfl

/-- The Go put: the key check, the generation, the replicas' turns. -/
theorem go_put_eq {s : Store D} {blockSize : Nat} (nonempty : s.replicas ≠ [])
    (size : ∀ r ∈ s.replicas, (image r.dev).blockSize = blockSize) (large : 36 ≤ blockSize)
    {key value : Bytes} (short : key.length < 2 ^ 32) (small : value.length + blockSize < 2 ^ 32)
    (userFlags : UInt32) :
    Go.put key value userFlags s =
      if blockSize - 36 < key.length then (.error (.err .keyTooLong), s)
      else Store.onReplicas (Proc.each (fun _ => storeAs key key value
        (Go.u32Add (Rust.indexedGeneration key s.replicas) 1) userFlags s.opts.freePattern) ())
          s := by
  cases replicas : s.replicas with
  | nil => exact absurd replicas nonempty
  | cons first rest =>
      have firstSize : BlockDevice.blockSize first.dev = blockSize := by
        rw [LawfulBlockDevice.blockSize_eq]
        exact size first (by rw [replicas]; exact List.mem_cons_self)
      rw [Go.put, Proc.get_bind_apply, replicas]
      simp only [firstSize, go_keyRoom large (by omega), asU32_of_lt short]
      by_cases overlong : blockSize - 36 < key.length
      · rw [if_pos overlong, if_pos overlong]
        rfl
      · rw [if_neg overlong, if_neg overlong, go_indexedGeneration, Store.onReplicas,
          Proc.zoom_apply, Proc.zoom_apply]
        have turns (generation : Nat) : Proc.each
            (fun _ => Go.replicaPut key value generation userFlags s.opts.freePattern) ()
              s.replicas =
            Proc.each (fun _ => storeAs key key value generation userFlags s.opts.freePattern) ()
              s.replicas := by
          apply Proc.each_congr
          intro _ r member
          have here := size r member
          exact go_replicaPut_storeAs (by omega) (by omega) generation userFlags _
        rw [turns]

/-! ## Reading -/

/-- Every entry names a block of the device, and stands under the key it records. -/
structure Pointed (r : Replica D) : Prop where
  keyed : ∀ name e, r.index.lookup name = some e → e.key = name
  inside : ∀ name e, r.index.lookup name = some e →
    e.descriptorBlock < (image r.dev).blockCount

/-- Rust reads each indexed record and Go only those that may win; the answer is
the same, since a record that cannot win is dropped anyway. -/
theorem go_getReplica (build : Rust.Build) {r : Replica D}
    (large : 36 ≤ (image r.dev).blockSize) (pointed : Pointed r) {key : Bytes}
    (decodes : fromUtf8Lossy key = key) (best : Option (Nat × Bytes)) :
    Go.getReplica key best r = Rust.getReplica build key best r ∧
      (Rust.getReplica build key best r).2 = r := by
  cases found : r.index.get key with
  | none =>
      have absent : Rust.getWithGeneration build key r = (.ok none, r) :=
        rust_getWithGeneration_absent build (by rw [decodes]; exact found)
      rw [Go.getReplica, Rust.getReplica, Proc.get_bind_apply, found, Proc.bind_ok absent]
      exact ⟨rfl, rfl⟩
  | some e =>
      have inside := pointed.inside key e found
      have goRead : Replica.onDevice (Go.verifyAndReadRecord e.descriptorBlock) r =
          (.ok (recordAt (image r.dev) e.descriptorBlock), r) :=
        onDevice_ok (go_verifyAndReadRecord r.dev _ large inside)
      have verified := rust_verifyAndReadRecord build r.dev _ large inside
      rw [Go.getReplica, Rust.getReplica, Proc.get_bind_apply, found]
      cases stored : recordAt (image r.dev) e.descriptorBlock with
      | none =>
          rw [stored] at goRead verified
          have rustRead : Rust.getWithGeneration build key r =
              (.ok (some (.error .corruptRecord)), r) := by
            simp only [Rust.getWithGeneration, decodes, found, verified]
          rw [Proc.bind_ok rustRead]
          constructor
          · cases best with
            | none =>
                simp only [Bool.false_eq_true, if_false]
                rw [Proc.bind_ok goRead]
            | some kept =>
                simp only [decide_eq_true_eq]
                by_cases settled : e.generation ≤ kept.1
                · rw [if_pos settled]
                · rw [if_neg settled, Proc.bind_ok goRead]
          · rfl
      | some rec =>
          rw [stored] at goRead verified
          have rustRead : Rust.getWithGeneration build key r =
              (.ok (some (.ok (e.generation, rec.value))), r) := by
            simp only [Rust.getWithGeneration, decodes, found, verified]
          rw [Proc.bind_ok rustRead]
          cases best with
          | none =>
              simp only [Bool.false_eq_true, if_false]
              rw [Proc.bind_ok goRead]
              exact ⟨rfl, rfl⟩
          | some kept =>
              simp only [decide_eq_true_eq]
              by_cases settled : e.generation ≤ kept.1
              · rw [if_pos settled, if_neg (by omega)]
                exact ⟨rfl, rfl⟩
              · rw [if_neg settled, if_pos (by omega), Proc.bind_ok goRead]
                exact ⟨rfl, rfl⟩

/-- No get changes a store. -/
theorem get_keeps (build : Rust.Build) {s : Store D}
    (large : ∀ r ∈ s.replicas, 36 ≤ (image r.dev).blockSize)
    (pointed : ∀ r ∈ s.replicas, Pointed r) {key : Bytes} (decodes : fromUtf8Lossy key = key) :
    (Rust.get build key s).2 = s := by
  have still := Proc.each_still (fun best r member =>
    (go_getReplica build (large r member) (pointed r member) decodes best).2) none
  have kept : (Store.onReplicas (Proc.each (Rust.getReplica build key) none) s).2 = s := by
    rw [Store.onReplicas, Proc.zoom_apply]
    change { s with replicas := (Proc.each (Rust.getReplica build key) none s.replicas).2 } = s
    rw [still]
  rcases ran : Store.onReplicas (Proc.each (Rust.getReplica build key) none) s with ⟨result, s'⟩
  rw [ran] at kept
  cases result with
  | error failure =>
      rw [Rust.get, Proc.bind_error ran]
      exact kept
  | ok best =>
      rw [Rust.get, Proc.bind_ok ran]
      cases best with
      | none => exact kept
      | some found => exact kept

theorem go_get (build : Rust.Build) {s : Store D}
    (large : ∀ r ∈ s.replicas, 36 ≤ (image r.dev).blockSize)
    (pointed : ∀ r ∈ s.replicas, Pointed r) {key : Bytes} (decodes : fromUtf8Lossy key = key) :
    Go.get key s = Rust.get build key s := by
  have same : Proc.each (Go.getReplica key) none s.replicas =
      Proc.each (Rust.getReplica build key) none s.replicas := by
    apply Proc.each_congr
    intro best r member
    exact (go_getReplica build (large r member) (pointed r member) decodes best).1
  rw [Go.get, Rust.get]
  apply Proc.bind_first_congr
  rw [Store.onReplicas, Proc.zoom_apply, Proc.zoom_apply, same]

/-! ## Scanning -/

theorem bestOf_utf8 {img : MemDevice} (utf8 : Run.Utf8Keys img) :
    Scan.bestOf fromUtf8Lossy img = Scan.bestOf id img :=
  select_congr fun rec stored => fromUtf8Lossy_of_isUtf8 rec.key (utf8 rec stored)

theorem indexOf_utf8 {img : MemDevice} (utf8 : Run.Utf8Keys img) :
    Scan.indexOf fromUtf8Lossy img = Scan.indexOf id img := by
  rw [Scan.indexOf, Scan.indexOf]
  congr 1
  apply List.map_congr_left
  intro rec stored
  rw [Scan.entryOf, Scan.entryOf, fromUtf8Lossy_of_isUtf8 rec.key (utf8 rec stored), id]

theorem go_buildIndex (build : Rust.Build) {s : Store D}
    (large : ∀ r ∈ s.replicas, 36 ≤ (image r.dev).blockSize)
    (utf8 : ∀ r ∈ s.replicas, Run.Utf8Keys (image r.dev)) :
    Go.buildIndex s = Rust.buildIndex build s := by
  have same : Proc.each (fun _ => Go.replicaBuildIndex) () s.replicas =
      Proc.each (fun _ => Rust.replicaBuildIndex build) () s.replicas := by
    apply Proc.each_congr
    intro _ r member
    rw [Scan.go_replicaBuildIndex r (large r member),
      Scan.rust_replicaBuildIndex build r (large r member), indexOf_utf8 (utf8 r member)]
  rw [Go.buildIndex, Rust.buildIndex, Store.onReplicas, Proc.zoom_apply, Proc.zoom_apply, same]

theorem go_recover (build : Rust.Build) {s : Store D}
    (large : ∀ r ∈ s.replicas, 36 ≤ (image r.dev).blockSize)
    (utf8 : ∀ r ∈ s.replicas, Run.Utf8Keys (image r.dev)) :
    Go.recover s = Rust.recover build s := by
  have same : Proc.each
      (fun _ => Replica.onDevice (Go.replicaRecover s.opts.freePattern)) () s.replicas =
      Proc.each (fun _ => Replica.onDevice (Rust.replicaRecover build s.opts.freePattern)) ()
        s.replicas := by
    apply Proc.each_congr
    intro _ r member
    have sweeps : Recovery.garbage fromUtf8Lossy (image r.dev) =
        Recovery.garbage id (image r.dev) := by
      rw [Recovery.garbage, Recovery.garbage, bestOf_utf8 (utf8 r member)]
    rw [Replica.onDevice, Proc.zoom_apply, Proc.zoom_apply,
      Recovery.go_replicaRecover r.dev _ (large r member),
      Recovery.rust_replicaRecover build r.dev _ (large r member), Recovery.sweep, Recovery.sweep,
      sweeps]
  rw [Go.recover, Rust.recover, Proc.get_bind_apply, Proc.get_bind_apply, Store.onReplicas,
    Proc.zoom_apply, Proc.zoom_apply, same]

omit [BlockDevice D] [LawfulBlockDevice D] in
/-- Where each entry records its own key, the two ways to list the keys agree. -/
theorem go_keys {s : Store D} (keyed : ∀ r ∈ s.replicas, ∀ name e,
    r.index.lookup name = some e → e.key = name) : Go.keys s = Rust.keys s := by
  have listed : ∀ r ∈ s.replicas, r.index.keys = r.index.entryKeys := by
    intro r member
    ext name
    rw [Session.mem_entryKeys, Finmap.mem_keys, Finmap.mem_iff]
    constructor
    · rintro ⟨e, found⟩
      exact ⟨name, e, found, keyed r member name e found⟩
    · rintro ⟨other, e, found, rfl⟩
      rw [keyed r member other e found]
      exact ⟨e, found⟩
  unfold Go.keys Rust.keys
  apply List.foldl_ext
  intro set r member
  rw [listed r member]

end

end Embedkv.Agree
