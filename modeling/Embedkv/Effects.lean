import Embedkv.Layout

/-!
# What the store's helpers do to a device

On a lawful device `find_free_blocks` returns the first free blocks of the
image, `write_record` performs its list of writes, and `free_record` of a
complete record erases its blocks in order.
-/

namespace Embedkv.Effects

open Embedkv.Lib Embedkv.Format Embedkv.Device Embedkv.State Embedkv.Codec Embedkv.Image
open Embedkv.Record Embedkv.Erase Embedkv.Layout

set_option autoImplicit false

/-! ## Free blocks -/

def IsFree (buf : Bytes) : Prop := u8At buf 0 = 0x00 ∨ u8At buf 0 = 0xFF

instance (buf : Bytes) : Decidable (IsFree buf) := inferInstanceAs (Decidable (_ ∨ _))

/-- The free data blocks in scan order. -/
def freeBlocks (img : MemDevice) : List Nat :=
  (dataBlocks img.blockCount).filter fun b => IsFree (img.block b)

theorem mem_dataBlocks {count b : Nat} : b ∈ dataBlocks count ↔ 1 ≤ b ∧ b < count := by
  rw [dataBlocks, List.mem_range'_1]
  omega

theorem dataBlocks_pairwise (count : Nat) : (dataBlocks count).Pairwise (· < ·) :=
  List.pairwise_lt_range'

theorem mem_freeBlocks {img : MemDevice} {b : Nat} :
    b ∈ freeBlocks img ↔ (1 ≤ b ∧ b < img.blockCount) ∧ IsFree (img.block b) := by
  rw [freeBlocks, List.mem_filter, mem_dataBlocks, decide_eq_true_iff]

theorem freeBlocks_nodup (img : MemDevice) : (freeBlocks img).Nodup :=
  ((dataBlocks_pairwise _).imp Nat.ne_of_lt).filter _

theorem classifyFirstByte_free (buf : Bytes) :
    Rust.classifyFirstByte buf = .free ↔ IsFree buf := by
  unfold Rust.classifyFirstByte IsFree
  split
  next free => exact ⟨fun _ => free, fun _ => rfl⟩
  next taken =>
    constructor
    · intro isFree
      cases isFree
    · intro isFree
      exact absurd isFree taken

/-- A block with a record or header type is never free, whether its CRC holds or not. -/
theorem classify_typed {buf : Bytes} (typed : ¬IsFree buf) (ok : Bool) :
    (if ok = true then Rust.BlockClass.valid else Rust.classifyFirstByte buf) = .free ↔
      IsFree buf := by
  constructor
  · intro free
    split at free
    · cases free
    · exact (classifyFirstByte_free buf).mp free
  · intro free
    exact absurd free typed

/-- Allocation looks at the first byte only. -/
theorem rust_classifyBlock {buf : Bytes} (large : 36 ≤ buf.length) :
    ∃ found, Rust.classifyBlock buf = .ok found ∧ (found = .free ↔ IsFree buf) := by
  have nonempty : buf.isEmpty = false := by
    cases buf with
    | nil => simp at large
    | cons => rfl
  unfold Rust.classifyBlock
  rw [nonempty, rust_unmarshalStorageHeader buf (by omega),
    rust_unmarshalDescriptorHeader buf (by omega), rust_unmarshalChunkHeader buf (by omega)]
  simp only [Bool.false_eq_true, if_false, bind, Except.bind, pure, Except.pure]
  split
  next header => exact ⟨_, rfl, classify_typed (by rw [IsFree, header.1]; decide) _⟩
  next =>
    split
    next descriptor => exact ⟨_, rfl, classify_typed (by rw [IsFree, descriptor.1]; decide) _⟩
    next =>
      split
      next chunk => exact ⟨_, rfl, classify_typed (by rw [IsFree, chunk.1]; decide) _⟩
      next => exact ⟨_, rfl, classifyFirstByte_free buf⟩

theorem rust_isFreeCandidate {buf : Bytes} (large : 36 ≤ buf.length) :
    Rust.isFreeCandidate buf = .ok (decide (IsFree buf)) := by
  obtain ⟨found, classified, free⟩ := rust_classifyBlock large
  simp only [Rust.isFreeCandidate, classified, bind, Except.bind, pure, Except.pure, free]

section
variable {D : Type} [BlockDevice D] [LawfulBlockDevice D]

theorem rust_collectFree (dev : D) (large : 36 ≤ (image dev).blockSize) (n : Nat)
    {scan : List Nat} (inside : ∀ b ∈ scan, b < (image dev).blockCount) (result : List Nat) :
    Rust.collectFree n scan result dev = (.ok (result ++ (scan.filter fun b =>
      IsFree ((image dev).block b)).take (n - result.length)), dev) := by
  induction scan generalizing result with
  | nil => simp [Rust.collectFree]
  | cons b rest ih =>
      have here : b < (image dev).blockCount := inside b List.mem_cons_self
      have size : ((image dev).block b).length = (image dev).blockSize :=
        (image dev).block_length here
      have insideRest : ∀ other ∈ rest, other < (image dev).blockCount := fun other member =>
        inside other (List.mem_cons_of_mem _ member)
      rw [Rust.collectFree]
      by_cases enough : n ≤ result.length
      · rw [if_pos enough, Nat.sub_eq_zero_of_le enough, List.take_zero, List.append_nil]
        rfl
      · rw [if_neg enough, Proc.bind_ok (LawfulBlockDevice.readBlock_eq dev b here),
          rust_isFreeCandidate (by omega), Proc.ofExcept_ok_bind_apply]
        by_cases free : IsFree ((image dev).block b)
        · have more : n - result.length = n - (result ++ [b]).length + 1 := by
            rw [List.length_append, List.length_singleton]
            omega
          simp only [free, decide_true, if_true]
          rw [ih insideRest, List.filter_cons_of_pos (by simpa using free), more,
            List.take_succ_cons, List.append_assoc, List.singleton_append]
        · simp only [free, decide_false, Bool.false_eq_true, if_false]
          rw [ih insideRest, List.filter_cons_of_neg (by simpa using free)]

/-- Allocation takes the first free blocks, or fails when there are too few. -/
theorem rust_findFreeBlocks (dev : D) (large : 36 ≤ (image dev).blockSize) (n : Nat) :
    Rust.findFreeBlocks n dev =
      (if n ≤ (freeBlocks (image dev)).length then .ok ((freeBlocks (image dev)).take n)
        else .error (.err .storageFull), dev) := by
  have collected : Rust.collectFree n (dataBlocks (image dev).blockCount) [] dev = _ :=
    rust_collectFree dev large n (fun b member => (mem_dataBlocks.mp member).2) []
  rw [List.nil_append, List.length_nil, Nat.sub_zero] at collected
  rw [Rust.findFreeBlocks, Proc.bind_ok (blockCountOf_eq dev), Proc.bind_ok collected]
  change (if (List.take n (freeBlocks (image dev))).length < n then _ else _ : Proc _ _ _) _ = _
  rw [List.length_take]
  by_cases enough : n ≤ (freeBlocks (image dev)).length
  · rw [if_neg (by omega), if_pos enough]
    rfl
  · rw [if_pos (by omega), if_neg enough]
    rfl

/-! ## Writing and erasing -/

omit [LawfulBlockDevice D] in
theorem rust_writeChunks {blockSize : Nat} (large : 24 ≤ blockSize) (d ci : Nat)
    (chunks : List Nat) (remaining : Bytes) (dev : D) :
    Rust.writeChunks blockSize (blockSize - 24) d ci chunks remaining dev =
      writeAll (chunkWrites blockSize d ci chunks remaining) dev := by
  induction chunks generalizing ci remaining dev with
  | nil => rfl
  | cons c rest ih =>
      have bound := chunkSize_le blockSize remaining
      let header := chunkHeader d (ci + 1) (chunkSize blockSize remaining) (linkTo rest)
      have marshalled : marshalChunkHeader header (zeros blockSize) = _ :=
        marshalChunkHeader_eq header (zeros blockSize)
          (by simp only [zeros, List.length_replicate]; omega)
      have payload : slice remaining 0 (chunkSize blockSize remaining) = _ :=
        slice_ok (Nat.zero_le _) bound.1
      rw [List.drop_zero] at payload
      have copied : copyFromSlice 20 (remaining.take (chunkSize blockSize remaining))
          (chunkHeaderBytes header ++ (zeros blockSize).drop 20) = _ :=
        copyFromSlice_next (chunkHeaderBytes_length header) (by rw [List.length_take]; omega)
      change (do
        let cbuf ← Proc.ofExcept (marshalChunkHeader header (zeros blockSize))
        let payload ← Proc.ofExcept (slice remaining 0 (chunkSize blockSize remaining))
        let cbuf ← Proc.ofExcept (copyFromSlice 20 payload cbuf)
        BlockDevice.writeBlock c (Rust.writeBlockCrc cbuf)
        Rust.writeChunks blockSize (blockSize - 24) d (ci + 1) rest
          (remaining.drop (chunkSize blockSize remaining)) : Proc Failure D Unit) dev = _
      rw [marshalled, payload, Proc.ofExcept_ok_bind_apply, Proc.ofExcept_ok_bind_apply, copied,
        Proc.ofExcept_ok_bind_apply, sealed_of_zeros]
      change _ = (do
        BlockDevice.writeBlock c (chunkBuf blockSize d (ci + 1) (linkTo rest) remaining)
        writeAll (chunkWrites blockSize d (ci + 1) rest
          (remaining.drop (chunkSize blockSize remaining))) : Proc Failure D Unit) dev
      exact Proc.bind_congr_ok fun _ dev' _ => ih (ci + 1) _ dev'

/-- `write_record` is its list of writes. -/
theorem rust_writeRecord (build : Rust.Build) (dev : D) {d : Nat} {chunks : List Nat}
    {key : Bytes} (placed : Placed (image dev) d chunks key) (generation : Nat) (value : Bytes)
    (userFlags : UInt32) :
    Rust.writeRecord build d chunks key generation value userFlags dev =
      writeAll (recordWrites (image dev).blockSize d chunks key generation value userFlags)
        dev := by
  have keyFits := placed.key_fits
  have sizeLt := (image dev).size_lt
  have counted := placed.chunks_lt
  have keyCast : asU32 key.length = key.length := asU32_of_lt (by omega)
  have countCast : asU32 chunks.length = chunks.length := asU32_of_lt (by omega)
  have first := rust_firstPayloadCapacity build (image dev).blockSize key.length (by omega)
  have chunk := rust_chunkPayloadCapacity build (image dev).blockSize (by omega)
  have bound := firstSize_le (image dev).blockSize key value
  let header := descriptorHeader (image dev).blockSize chunks key generation value userFlags
  have marshalled : marshalDescriptorHeader header (zeros (image dev).blockSize) = _ :=
    marshalDescriptorHeader_eq header (zeros (image dev).blockSize)
      (by simp only [zeros, List.length_replicate]; omega)
  have keyCopied : copyFromSlice 32 key
      (descriptorHeaderBytes header ++ (zeros (image dev).blockSize).drop 32) = _ :=
    copyFromSlice_next (descriptorHeaderBytes_length header) (by omega)
  have taken : slice value 0 (firstSize (image dev).blockSize key value) = _ :=
    slice_ok (Nat.zero_le _) bound.1
  rw [List.drop_zero] at taken
  have front : (descriptorHeaderBytes header ++ key).length = 32 + key.length := by
    rw [List.length_append, descriptorHeaderBytes_length]
  have valueCopied : copyFromSlice (32 + key.length)
      (value.take (firstSize (image dev).blockSize key value))
      (descriptorHeaderBytes header ++ key ++
        (zeros (image dev).blockSize).drop (32 + key.length)) = _ :=
    copyFromSlice_next front (by rw [List.length_take]; omega)
  rw [Rust.writeRecord, Proc.bind_ok (blockSizeOf_eq dev)]
  simp only [keyCast, countCast, first, chunk, rust_u32Add_ok counted,
    Proc.ofExcept_ok_bind_apply]
  change (do
    let buf ← Proc.ofExcept (marshalDescriptorHeader header (zeros (image dev).blockSize))
    let buf ← Proc.ofExcept (copyFromSlice 32 key buf)
    let first ← Proc.ofExcept (slice value 0 (firstSize (image dev).blockSize key value))
    let buf ← Proc.ofExcept (copyFromSlice (32 + key.length) first buf)
    BlockDevice.writeBlock d (Rust.writeBlockCrc buf)
    Rust.writeChunks (image dev).blockSize ((image dev).blockSize - 24) d 0 chunks
      (value.drop (firstSize (image dev).blockSize key value)) : Proc Failure D Unit) dev = _
  rw [marshalled, Proc.ofExcept_ok_bind_apply, keyCopied, Proc.ofExcept_ok_bind_apply, taken,
    Proc.ofExcept_ok_bind_apply, front, valueCopied, Proc.ofExcept_ok_bind_apply, sealed_of_zeros]
  exact Proc.bind_congr_ok fun _ dev' _ => rust_writeChunks (by omega) d 0 chunks _ dev'

/-- A key longer than a block, whose length passes the check when it is cut to 32
bits, does not get past the copy into the buffer. -/
theorem rust_writeRecord_cut (build : Rust.Build) (dev : D) (d : Nat) (chunks : List Nat)
    {key : Bytes} (passes : asU32 key.length + 36 ≤ (image dev).blockSize)
    (overlong : (image dev).blockSize < key.length) (generation : Nat) (value : Bytes)
    (userFlags : UInt32) :
    Rust.writeRecord build d chunks key generation value userFlags dev = (.error .panic, dev) := by
  have first := rust_firstPayloadCapacity build (image dev).blockSize (asU32 key.length) (by omega)
  have chunk := rust_chunkPayloadCapacity build (image dev).blockSize (by omega)
  have copy (h : RecordDescriptorHeader) : copyFromSlice recordDescriptorHeaderSize key
      (descriptorHeaderBytes h ++ (List.replicate (image dev).blockSize 0).drop 32) =
        .error .panic := by
    rw [copyFromSlice, requireLength, if_neg (by
      rw [List.length_append, descriptorHeaderBytes_length, List.length_drop,
        List.length_replicate]
      omega)]
    rfl
  rw [Rust.writeRecord, Proc.bind_ok (blockSizeOf_eq dev)]
  simp only [first, chunk, Proc.ofExcept_ok_bind_apply]
  rcases counted : Rust.u32Add build 1 (asU32 chunks.length) with failure | chunkCount
  · rw [rust_u32Add_error counted]
    rfl
  · rw [Proc.ofExcept_ok_bind_apply, marshalDescriptorHeader_eq _ _ (by
      rw [List.length_replicate]
      omega), Proc.ofExcept_ok_bind_apply]
    rw [copy]
    rfl

/-- `free_record` of a complete record erases its blocks, the descriptor first. -/
theorem rust_freeRecord (dev : D) {d : Nat} {rec : CompleteRecord} (pattern : UInt8)
    (large : 36 ≤ (image dev).blockSize) (record : RecordAt (image dev) d rec) :
    Rust.freeRecord d pattern dev =
      writeAll (erasures rec.blocks (makeFreeBuf (image dev).blockSize pattern)) dev := by
  have inside := record.inside
  have distinct := record.blocks_nodup
  rw [record.blocks_eq] at distinct ⊢
  have size : ((image dev).block d).length = (image dev).blockSize :=
    (image dev).block_length inside
  have freeSize : (makeFreeBuf (image dev).blockSize pattern).length = (image dev).blockSize :=
    List.length_replicate
  obtain ⟨_, head, payload, view, chain, _⟩ := record
  obtain ⟨crc, header⟩ := descriptorView_crc view
  rw [header] at chain
  rw [Rust.freeRecord, Proc.bind_ok (blockSizeOf_eq dev), Proc.bind_ok (blockCountOf_eq dev),
    Proc.bind_ok (LawfulBlockDevice.readBlock_eq dev d inside),
    rust_unmarshalDescriptorHeader _ (by omega), Proc.ofExcept_ok_bind_apply]
  simp only [crc, Bool.not_true, Bool.false_eq_true, if_false]
  apply Proc.bind_congr_ok
  intro _ dev' ran
  have written := LawfulBlockDevice.writeBlock_ok dev dev' d _ inside freeSize ran
  have count : (image dev').blockCount = (image dev).blockCount := by
    rw [written, MemDevice.blockCount_set]
  have width : (image dev').blockSize = (image dev).blockSize := by
    rw [written, MemDevice.blockSize_set]
  rw [← count]
  apply rust_freeChain _ dev' (by omega) (by omega) (chain_congr count ?_ chain)
  · intro c member
    exact Finset.notMem_empty c
  · intro c member
    rw [written]
    apply MemDevice.block_set_other
    rintro rfl
    exact (List.nodup_cons.mp distinct).1 member

end

end Embedkv.Effects
