import Embedkv.Erase

/-!
# Writing a record

`write_record` is a list of block writes, descriptor first. Read back, blocks
that hold those writes form a complete record with the given key, generation
and value. When only some of the writes reached blocks that were inert before,
no record appears there, and the records elsewhere are what they were.
-/

namespace Embedkv.Layout

open Embedkv.Lib Embedkv.Format Embedkv.Device Embedkv.State Embedkv.Codec Embedkv.Image
open Embedkv.Record Embedkv.Erase

set_option autoImplicit false

def zeros (count : Nat) : Bytes := List.replicate count 0

/-! ## Block contents -/

def descriptorHeader (blockSize : Nat) (chunks : List Nat) (key : Bytes) (generation : Nat)
    (value : Bytes) (userFlags : UInt32) : RecordDescriptorHeader where
  blockType := blockTypeRecordDescriptor
  headerSize := UInt8.ofNat recordDescriptorHeaderSize
  keySize := UInt16.ofNat key.length
  generation := UInt32.ofNat generation
  totalSize := UInt32.ofNat (asU32 value.length)
  firstPayloadSize := UInt32.ofNat (min (asU32 value.length) (blockSize - 36 - key.length))
  chunkCount := UInt32.ofNat (1 + chunks.length)
  nextChunk := UInt32.ofNat (linkTo chunks)
  flags := 0
  userFlags := userFlags

def chunkHeader (d idx payloadSize link : Nat) : ValueChunkHeader where
  blockType := blockTypeValueChunk
  headerSize := UInt8.ofNat valueChunkHeaderSize
  flags := 0
  ownerDescriptor := UInt32.ofNat d
  chunkIndex := UInt32.ofNat idx
  payloadSize := UInt32.ofNat payloadSize
  nextChunk := UInt32.ofNat link

/-- A header, its data and zeros up to the block size, sealed by the CRC. -/
def sealed (blockSize : Nat) (contents : Bytes) : Bytes :=
  Rust.writeBlockCrc (contents ++ zeros (blockSize - contents.length))

/-- How many bytes of the value the descriptor block takes. -/
def firstSize (blockSize : Nat) (key value : Bytes) : Nat :=
  min (asU32 value.length) (blockSize - 36 - key.length)

def descriptorBuf (blockSize : Nat) (chunks : List Nat) (key : Bytes) (generation : Nat)
    (value : Bytes) (userFlags : UInt32) : Bytes :=
  sealed blockSize (descriptorHeaderBytes
    (descriptorHeader blockSize chunks key generation value userFlags) ++ key ++
      value.take (firstSize blockSize key value))

/-- How many of the remaining bytes the next chunk takes. -/
def chunkSize (blockSize : Nat) (remaining : Bytes) : Nat :=
  min (asU32 remaining.length) (blockSize - 24)

def chunkBuf (blockSize d idx link : Nat) (remaining : Bytes) : Bytes :=
  sealed blockSize (chunkHeaderBytes (chunkHeader d idx (chunkSize blockSize remaining) link) ++
    remaining.take (chunkSize blockSize remaining))

/-- The writes of the chunk loop, from chunk `ci` on. -/
def chunkWrites (blockSize d : Nat) : Nat → List Nat → Bytes → List (Nat × Bytes)
  | _, [], _ => []
  | ci, c :: rest, remaining =>
    (c, chunkBuf blockSize d (ci + 1) (linkTo rest) remaining) ::
      chunkWrites blockSize d (ci + 1) rest (remaining.drop (chunkSize blockSize remaining))

def recordWrites (blockSize d : Nat) (chunks : List Nat) (key : Bytes) (generation : Nat)
    (value : Bytes) (userFlags : UInt32) : List (Nat × Bytes) :=
  (d, descriptorBuf blockSize chunks key generation value userFlags) ::
    chunkWrites blockSize d 0 chunks (value.drop (firstSize blockSize key value))

/-- A copy placed behind what has been written to a zeroed buffer. -/
theorem copyFromSlice_next {front source : Bytes} {size offset : Nat}
    (here : front.length = offset) (fits : offset + source.length ≤ size) :
    copyFromSlice offset source (front ++ (zeros size).drop offset) =
      .ok ((front ++ source) ++ (zeros size).drop (front ++ source).length) := by
  have total : (front ++ (zeros size).drop offset).length = size := by
    simp only [zeros, List.length_append, List.length_drop, List.length_replicate]
    omega
  rw [copyFromSlice_ok (by omega), splice_next _ _ _ _ _ here rfl, List.length_append, here]

theorem sealed_of_zeros (blockSize : Nat) (contents : Bytes) :
    Rust.writeBlockCrc (contents ++ (zeros blockSize).drop contents.length) =
      sealed blockSize contents := by
  rw [zeros, List.drop_replicate, sealed, zeros]

theorem sealed_length {blockSize : Nat} {contents : Bytes} (large : 4 ≤ blockSize)
    (fits : contents.length ≤ blockSize) : (sealed blockSize contents).length = blockSize := by
  have size : (contents ++ zeros (blockSize - contents.length)).length = blockSize := by
    simp only [zeros, List.length_append, List.length_replicate]
    omega
  rw [sealed, writeBlockCrc_length _ (by omega), size]

theorem sealed_crc {blockSize : Nat} {contents : Bytes} (large : 4 ≤ blockSize)
    (fits : contents.length ≤ blockSize) :
    Rust.verifyBlockCrc (sealed blockSize contents) = true := by
  apply verifyBlockCrc_writeBlockCrc
  simp only [zeros, List.length_append, List.length_replicate]
  omega

/-- Contents that leave room for the CRC are what the block starts with. -/
theorem sealed_eq {blockSize : Nat} {contents : Bytes} (fits : contents.length + 4 ≤ blockSize) :
    ∃ rest, sealed blockSize contents = contents ++ rest := by
  have size : (contents ++ zeros (blockSize - contents.length)).length = blockSize := by
    simp only [zeros, List.length_append, List.length_replicate]
    omega
  rw [sealed, writeBlockCrc_eq _ (by omega), size, List.take_append,
    List.take_of_length_le (by omega), List.append_assoc]
  exact ⟨_, rfl⟩

theorem firstSize_le (blockSize : Nat) (key value : Bytes) :
    firstSize blockSize key value ≤ value.length ∧
      firstSize blockSize key value ≤ blockSize - 36 - key.length := by
  have cast := asU32_le value.length
  unfold firstSize
  omega

theorem chunkSize_le (blockSize : Nat) (remaining : Bytes) :
    chunkSize blockSize remaining ≤ remaining.length ∧
      chunkSize blockSize remaining ≤ blockSize - 24 := by
  have cast := asU32_le remaining.length
  unfold chunkSize
  omega

section
variable {blockSize : Nat} {key : Bytes} (fits : key.length + 36 ≤ blockSize)
  (small : blockSize < 2 ^ 32)

include fits in
theorem descriptorContents_length (chunks : List Nat) (generation : Nat) (value : Bytes)
    (userFlags : UInt32) :
    (descriptorHeaderBytes (descriptorHeader blockSize chunks key generation value userFlags) ++
      key ++ value.take (firstSize blockSize key value)).length + 4 ≤ blockSize := by
  have bound := firstSize_le blockSize key value
  simp only [List.length_append, descriptorHeaderBytes_length, List.length_take]
  omega

include fits in
theorem descriptorBuf_length (chunks : List Nat) (generation : Nat) (value : Bytes)
    (userFlags : UInt32) :
    (descriptorBuf blockSize chunks key generation value userFlags).length = blockSize :=
  sealed_length (by omega)
    (by have := descriptorContents_length fits chunks generation value userFlags; omega)

include fits small in
/-- A descriptor block read back. The key size is a 16-bit field, so the key and
the first payload are found where they were put only when the key fits it. -/
theorem descriptorView_descriptorBuf (d : Nat) {chunks : List Nat} (generation : Nat)
    (value : Bytes) (userFlags : UInt32) (counted : 1 + chunks.length < 2 ^ 32) :
    ∃ head, descriptorView d (descriptorBuf blockSize chunks key generation value userFlags) =
        some head ∧
      head.header = descriptorHeader blockSize chunks key generation value userFlags ∧
      head.value.length = firstSize blockSize key value ∧
      head.generation = generation % 2 ^ 32 ∧
      (key.length ≤ 65535 →
        head.key = key ∧ head.value = value.take (firstSize blockSize key value)) := by
  have bound := firstSize_le blockSize key value
  have room := descriptorContents_length fits chunks generation value userFlags
  have size := descriptorBuf_length fits chunks generation value userFlags
  have crc : Rust.verifyBlockCrc (descriptorBuf blockSize chunks key generation value userFlags) =
      true := sealed_crc (by omega) (by omega)
  obtain ⟨rest, shape⟩ := sealed_eq room
  have header : descriptorHeaderOf (descriptorBuf blockSize chunks key generation value userFlags) =
      descriptorHeader blockSize chunks key generation value userFlags := by
    rw [descriptorBuf, shape, List.append_assoc, List.append_assoc, descriptorHeaderOf_append]
  have keySize : (UInt16.ofNat key.length).toNat = key.length % 65536 := UInt16.toNat_ofNat'
  have payloadSize : (UInt32.ofNat (firstSize blockSize key value)).toNat =
      firstSize blockSize key value := u32_toNat_ofNat (by omega)
  have count : UInt32.ofNat (1 + chunks.length) ≠ 0 := by
    intro zero
    have value := congrArg UInt32.toNat zero
    rw [u32_toNat_ofNat counted] at value
    simp at value
  have headerSize : (UInt8.ofNat recordDescriptorHeaderSize).toNat = recordDescriptorHeaderSize :=
    rfl
  have keyLe : key.length % 65536 ≤ key.length := Nat.mod_le _ _
  have typed : (descriptorHeader blockSize chunks key generation value userFlags).blockType =
      blockTypeRecordDescriptor := rfl
  simp only [descriptorView, header, size]
  have keyFits : (UInt16.ofNat key.length).toNat ≤ blockSize - 36 := by omega
  have payloadFits : (UInt32.ofNat (firstSize blockSize key value)).toNat ≤
      blockSize - 36 - (UInt16.ofNat key.length).toNat := by omega
  refine ⟨_, if_pos ⟨typed, crc, headerSize, keyFits, payloadFits, count⟩, rfl, ?_,
    UInt32.toNat_ofNat', ?_⟩
  · show List.length (((descriptorBuf blockSize chunks key generation value userFlags).take
      (32 + (UInt16.ofNat key.length).toNat +
        (UInt32.ofNat (firstSize blockSize key value)).toNat)).drop
          (32 + (UInt16.ofNat key.length).toNat)) = _
    rw [List.length_drop, List.length_take, size]
    omega
  · intro short
    have exactSize : (UInt16.ofNat key.length).toNat = key.length := by
      rw [keySize, Nat.mod_eq_of_lt (by omega)]
    have headerLength := descriptorHeaderBytes_length
      (descriptorHeader blockSize chunks key generation value userFlags)
    constructor
    · show ((descriptorBuf blockSize chunks key generation value userFlags).take
        (32 + (UInt16.ofNat key.length).toNat)).drop 32 = key
      rw [exactSize, descriptorBuf, shape, List.append_assoc]
      exact slice_between _ _ _ headerLength rfl
    · show ((descriptorBuf blockSize chunks key generation value userFlags).take
        (32 + (UInt16.ofNat key.length).toNat +
          (UInt32.ofNat (firstSize blockSize key value)).toNat)).drop
            (32 + (UInt16.ofNat key.length).toNat) = _
      rw [exactSize, payloadSize, descriptorBuf, shape]
      apply slice_between
      · rw [List.length_append, headerLength]
      · rw [List.length_take]
        omega

end

theorem chunkContents_length {blockSize : Nat} (large : 24 ≤ blockSize) (d idx link : Nat)
    (remaining : Bytes) :
    (chunkHeaderBytes (chunkHeader d idx (chunkSize blockSize remaining) link) ++
      remaining.take (chunkSize blockSize remaining)).length + 4 ≤ blockSize := by
  have bound := chunkSize_le blockSize remaining
  simp only [List.length_append, chunkHeaderBytes_length, List.length_take]
  omega

theorem chunkBuf_length {blockSize : Nat} (large : 24 ≤ blockSize) (d idx link : Nat)
    (remaining : Bytes) : (chunkBuf blockSize d idx link remaining).length = blockSize :=
  sealed_length (by omega)
    (by have := chunkContents_length large d idx link remaining; omega)

theorem chunkView_chunkBuf {blockSize d idx link : Nat} (large : 24 ≤ blockSize)
    (small : blockSize < 2 ^ 32) (owner : d < 2 ^ 32) (index : idx < 2 ^ 32) (next : link < 2 ^ 32)
    (remaining : Bytes) :
    chunkView d idx (chunkBuf blockSize d idx link remaining) =
      some (remaining.take (chunkSize blockSize remaining), link) := by
  have bound := chunkSize_le blockSize remaining
  have room := chunkContents_length large d idx link remaining
  have size := chunkBuf_length large d idx link remaining
  have crc : Rust.verifyBlockCrc (chunkBuf blockSize d idx link remaining) = true :=
    sealed_crc (by omega) (by omega)
  obtain ⟨rest, shape⟩ := sealed_eq room
  have header : chunkHeaderOf (chunkBuf blockSize d idx link remaining) =
      chunkHeader d idx (chunkSize blockSize remaining) link := by
    rw [chunkBuf, shape, List.append_assoc, chunkHeaderOf_append]
  have payloadSize : (UInt32.ofNat (chunkSize blockSize remaining)).toNat =
      chunkSize blockSize remaining := u32_toNat_ofNat (by omega)
  have typed : (chunkHeader d idx (chunkSize blockSize remaining) link).blockType =
      blockTypeValueChunk := rfl
  have headerSize : (UInt8.ofNat valueChunkHeaderSize).toNat = valueChunkHeaderSize := rfl
  have payloadFits : (UInt32.ofNat (chunkSize blockSize remaining)).toNat ≤ blockSize - 24 := by
    omega
  simp only [chunkView, header, size]
  rw [if_pos ⟨typed, crc, headerSize, u32_toNat_ofNat owner, u32_toNat_ofNat index, payloadFits⟩]
  have payload : ((chunkBuf blockSize d idx link remaining).take
      (20 + (UInt32.ofNat (chunkSize blockSize remaining)).toNat)).drop 20 =
        remaining.take (chunkSize blockSize remaining) := by
    rw [payloadSize, chunkBuf, shape]
    apply slice_between
    · exact chunkHeaderBytes_length _
    · rw [List.length_take]
      omega
  have linked : (UInt32.ofNat link).toNat = link := u32_toNat_ofNat next
  exact congrArg some (Prod.ext payload linked)

/-! ## The value across the chunks -/

/-- What `count` chunks take of the remaining bytes. -/
def chunkPayload (blockSize : Nat) : Nat → Bytes → Bytes
  | 0, _ => []
  | count + 1, remaining =>
    remaining.take (chunkSize blockSize remaining) ++
      chunkPayload blockSize count (remaining.drop (chunkSize blockSize remaining))

theorem asU32_sub {n s : Nat} (fits : s ≤ asU32 n) : asU32 (n - s) = asU32 n - s := by
  unfold asU32 at *
  omega

/-- Enough chunks take all that the 32-bit size announces. -/
theorem chunkPayload_eq {blockSize count : Nat} {remaining : Bytes}
    (enough : asU32 remaining.length ≤ count * (blockSize - 24)) :
    chunkPayload blockSize count remaining = remaining.take (asU32 remaining.length) := by
  induction count generalizing remaining with
  | zero =>
      have none : asU32 remaining.length = 0 := by omega
      rw [none, List.take_zero, chunkPayload]
  | succ count ih =>
      have announced : chunkSize blockSize remaining ≤ asU32 remaining.length := Nat.min_le_left _ _
      have left : asU32 (remaining.drop (chunkSize blockSize remaining)).length =
          asU32 remaining.length - chunkSize blockSize remaining := by
        rw [List.length_drop, asU32_sub announced]
      have rest := Nat.add_one_mul count (blockSize - 24)
      rw [chunkPayload, ih, left, ← List.take_add, Nat.add_sub_cancel' announced]
      rw [left]
      unfold chunkSize
      omega

/-- The number of blocks a record takes. -/
def blocksFor (blockSize keyLength valueLength : Nat) : Nat :=
  if valueLength ≤ blockSize - 36 - keyLength then 1
  else 1 + (valueLength - (blockSize - 36 - keyLength) + (blockSize - 24) - 1) / (blockSize - 24)

theorem blocksFor_pos (blockSize keyLength valueLength : Nat) :
    0 < blocksFor blockSize keyLength valueLength := by
  unfold blocksFor
  split
  · exact Nat.one_pos
  · exact Nat.lt_add_right _ Nat.one_pos

/-- The blocks reckoned for a value hold it. -/
theorem blocksFor_enough {blockSize : Nat} (keyLength valueLength : Nat) (large : 36 ≤ blockSize) :
    valueLength - min valueLength (blockSize - 36 - keyLength) ≤
      (blocksFor blockSize keyLength valueLength - 1) * (blockSize - 24) := by
  unfold blocksFor
  split
  next small =>
    rw [Nat.min_eq_left small]
    omega
  next big =>
    rw [Nat.min_eq_right (by omega), Nat.add_sub_cancel_left]
    have capacity : 0 < blockSize - 24 := by omega
    have ceiling := Nat.lt_div_mul_add capacity
      (a := valueLength - (blockSize - 36 - keyLength) + (blockSize - 24) - 1)
    omega

theorem blocksFor_lt {blockSize valueLength : Nat} (keyLength : Nat) (large : 36 ≤ blockSize)
    (small : blockSize < 2 ^ 32) (short : valueLength < 2 ^ 32) :
    blocksFor blockSize keyLength valueLength < 2 ^ 32 := by
  unfold blocksFor
  split
  · omega
  · have quotient : (valueLength - (blockSize - 36 - keyLength) + (blockSize - 24) - 1) /
        (blockSize - 24) < 2 ^ 32 - 1 := Nat.div_lt_of_lt_mul (by omega)
    omega

/-- The code counts the bytes of the key in 32 bits. -/
theorem rust_neededBlocks_cut (build : Rust.Build) {blockSize : Nat} {key : Bytes}
    (passes : asU32 key.length + 36 ≤ blockSize) (small : blockSize < 2 ^ 32) (value : Bytes) :
    Rust.neededBlocks build key value blockSize =
      .ok (blocksFor blockSize (asU32 key.length) (asU32 value.length)) := by
  have first := rust_firstPayloadCapacity build blockSize (asU32 key.length) (by omega)
  have chunk := rust_chunkPayloadCapacity build blockSize (by omega)
  have bound := blocksFor_lt (asU32 key.length) (by omega) small (asU32_lt value.length)
  simp only [Rust.neededBlocks, first, chunk, bind, Except.bind, pure, Except.pure]
  unfold blocksFor at bound ⊢
  split
  next => rfl
  next big =>
    rw [if_neg big] at bound
    rw [rust_u32Sub_ok (by omega)]
    simp only [Rust.divCeil, if_neg (show ¬blockSize - 24 = 0 by omega)]
    exact rust_u32Add_ok bound

theorem rust_neededBlocks (build : Rust.Build) {blockSize : Nat} {key : Bytes}
    (fits : key.length + 36 ≤ blockSize) (small : blockSize < 2 ^ 32) (value : Bytes) :
    Rust.neededBlocks build key value blockSize =
      .ok (blocksFor blockSize key.length (asU32 value.length)) := by
  have keyCast : asU32 key.length = key.length := asU32_of_lt (by omega)
  rw [rust_neededBlocks_cut build (by omega) small, keyCast]

/-! ## Reading the writes back -/

theorem linkTo_lt {chunks : List Nat} {bound : Nat} (inside : ∀ c ∈ chunks, c < bound)
    (small : bound < 2 ^ 32) : linkTo chunks < 2 ^ 32 := by
  cases chunks with
  | nil => decide
  | cons c rest => exact Nat.lt_trans (inside c List.mem_cons_self) small

/-- Blocks that hold the chunk writes form a chain. -/
theorem chain_of_written {img : MemDevice} {d : Nat} {chunks : List Nat} (ci : Nat)
    {remaining : Bytes} (large : 24 ≤ img.blockSize) (owner : d < img.blockCount)
    (inside : ∀ c ∈ chunks, c < img.blockCount) (indices : ci + chunks.length < 2 ^ 32)
    (holds : ∀ write ∈ chunkWrites img.blockSize d ci chunks remaining,
      img.block write.1 = write.2) :
    Chain img d (ci + 1) (linkTo chunks) chunks
      (chunkPayload img.blockSize chunks.length remaining) := by
  have countLt : img.blockCount < 2 ^ 32 := img.count_lt
  induction chunks generalizing ci remaining with
  | nil => exact ⟨rfl, rfl⟩
  | cons c rest ih =>
      rw [List.length_cons] at indices
      have insideRest : ∀ other ∈ rest, other < img.blockCount := fun other member =>
        inside other (List.mem_cons_of_mem _ member)
      have here : img.block c = _ := holds _ List.mem_cons_self
      refine ⟨rfl, inside c List.mem_cons_self, _, linkTo rest, _, ?_, rfl, ?_⟩
      · rw [here]
        exact chunkView_chunkBuf large img.size_lt (by omega) (by omega)
          (linkTo_lt insideRest countLt) _
      · exact ih (ci + 1) insideRest (by omega) fun write member =>
          holds write (List.mem_cons_of_mem _ member)

/-- Where a record may go: its blocks are distinct blocks of the device. -/
structure Placed (img : MemDevice) (d : Nat) (chunks : List Nat) (key : Bytes) : Prop where
  key_fits : key.length + 36 ≤ img.blockSize
  inside : ∀ c ∈ d :: chunks, c < img.blockCount
  distinct : (d :: chunks).Nodup

theorem Placed.chunks_lt {img : MemDevice} {d : Nat} {chunks : List Nat} {key : Bytes}
    (placed : Placed img d chunks key) : 1 + chunks.length < 2 ^ 32 := by
  have inside : d :: chunks ⊆ List.range img.blockCount := fun c member =>
    List.mem_range.mpr (placed.inside c member)
  have bound := (List.subperm_of_subset placed.distinct inside).length_le
  rw [List.length_range, List.length_cons] at bound
  have countLt : img.blockCount < 2 ^ 32 := img.count_lt
  omega

theorem Placed.apply {img : MemDevice} {d : Nat} {chunks : List Nat} {key : Bytes}
    (placed : Placed img d chunks key) (writes : List (Nat × Bytes)) :
    Placed (img.apply writes) d chunks key := by
  refine ⟨?_, ?_, placed.distinct⟩
  · rw [MemDevice.blockSize_apply]
    exact placed.key_fits
  · rw [MemDevice.blockCount_apply]
    exact placed.inside

/-- Where a record is to go: its blocks lie on the device and are as many as the
key and the value need. -/
structure Fits (img : MemDevice) (d : Nat) (chunks : List Nat) (key value : Bytes) : Prop where
  key_fits : key.length + 36 ≤ img.blockSize
  inside : ∀ c ∈ d :: chunks, c < img.blockCount
  distinct : (d :: chunks).Nodup
  counted : (d :: chunks).length = blocksFor img.blockSize key.length (asU32 value.length)

theorem Fits.placed {img : MemDevice} {d : Nat} {chunks : List Nat} {key value : Bytes}
    (fits : Fits img d chunks key value) : Placed img d chunks key where
  key_fits := fits.key_fits
  inside := fits.inside
  distinct := fits.distinct

/-- Blocks that hold the writes of a record are that record. -/
theorem record_of_written {img : MemDevice} {d : Nat} {chunks : List Nat} {key value : Bytes}
    (fits : Fits img d chunks key value) (generation : Nat) (userFlags : UInt32)
    (holds : ∀ write ∈ recordWrites img.blockSize d chunks key generation value userFlags,
      img.block write.1 = write.2) :
    ∃ rec, RecordAt img d rec ∧ rec.chunkBlocks = chunks ∧ rec.generation = generation % 2 ^ 32 ∧
      (key.length ≤ 65535 → rec.key = key ∧ rec.value = value.take (asU32 value.length)) := by
  obtain ⟨keyFits, inside, distinct, counted⟩ := fits
  rw [List.length_cons] at counted
  have total : blocksFor img.blockSize key.length (asU32 value.length) < 2 ^ 32 :=
    blocksFor_lt key.length (by omega) img.size_lt (asU32_lt value.length)
  have countLt : img.blockCount < 2 ^ 32 := img.count_lt
  have insideChunks : ∀ c ∈ chunks, c < img.blockCount := fun c member =>
    inside c (List.mem_cons_of_mem _ member)
  have announced : firstSize img.blockSize key value ≤ asU32 value.length := Nat.min_le_left _ _
  have left : asU32 (value.drop (firstSize img.blockSize key value)).length =
      asU32 value.length - firstSize img.blockSize key value := by
    rw [List.length_drop, asU32_sub announced]
  have payload : chunkPayload img.blockSize chunks.length
      (value.drop (firstSize img.blockSize key value)) =
        (value.drop (firstSize img.blockSize key value)).take
          (asU32 value.length - firstSize img.blockSize key value) := by
    rw [← left]
    apply chunkPayload_eq
    have enough := blocksFor_enough key.length (asU32 value.length)
      (show 36 ≤ img.blockSize by omega)
    rw [← counted, Nat.add_sub_cancel] at enough
    rw [left]
    exact enough
  obtain ⟨head, view, header, headLength, headGeneration, exactly⟩ :=
    descriptorView_descriptorBuf keyFits img.size_lt d generation value userFlags
      (show 1 + chunks.length < 2 ^ 32 by omega)
  have blockHolds : img.block d = _ := holds _ List.mem_cons_self
  have chain := chain_of_written 0 (by omega) (inside d List.mem_cons_self) insideChunks
    (by omega) fun write member => holds write (List.mem_cons_of_mem _ member)
  rw [payload] at chain
  refine ⟨{ head with
    chunkBlocks := chunks
    value := head.value ++ (value.drop (firstSize img.blockSize key value)).take
      (asU32 value.length - firstSize img.blockSize key value) },
    ⟨inside d List.mem_cons_self, head, _, ?_, ?_, ?_, ?_, rfl⟩, rfl, headGeneration, ?_⟩
  · rw [blockHolds]
    exact view
  · rw [header]
    show Chain img d 1 (UInt32.ofNat (linkTo chunks)).toNat _ _
    rw [u32_toNat_ofNat (linkTo_lt insideChunks countLt)]
    exact chain
  · rw [header]
    show (UInt32.ofNat (1 + chunks.length)).toNat = _
    rw [u32_toNat_ofNat (by omega), Nat.add_comm]
  · rw [header]
    show _ = (UInt32.ofNat (asU32 value.length)).toNat
    rw [u32_toNat_ofNat (asU32_lt _), List.length_append, headLength, List.length_take,
      List.length_drop]
    have cast := asU32_le value.length
    have sum : firstSize img.blockSize key value +
        min (asU32 value.length - firstSize img.blockSize key value)
          (value.length - firstSize img.blockSize key value) = asU32 value.length := by omega
    rw [sum, asU32_of_lt (asU32_lt _)]
  · intro short
    obtain ⟨keyEq, valueEq⟩ := exactly short
    refine ⟨keyEq, ?_⟩
    show head.value ++ _ = _
    rw [valueEq, ← List.take_add, Nat.add_sub_cancel' announced]

/-! ## Partial writes -/

/-- `after` is `before` with some of the writes applied, and some of the written
blocks made inert instead. -/
structure Blend (writes : List (Nat × Bytes)) (before after : MemDevice) : Prop where
  size : after.blockSize = before.blockSize
  count : after.blockCount = before.blockCount
  change : ∀ c, after.block c = before.block c ∨ (c, after.block c) ∈ writes ∨
    c ∈ writes.map Prod.fst ∧ Inert (after.block c)

theorem Blend.refl (writes : List (Nat × Bytes)) (img : MemDevice) : Blend writes img img :=
  ⟨rfl, rfl, fun _ => .inl rfl⟩

/-- One more block rewritten, with its own write or with something inert. -/
theorem Blend.set {writes : List (Nat × Bytes)} {before after : MemDevice}
    (blend : Blend writes before after) {c : Nat} {buf : Bytes}
    (allowed : (c, buf) ∈ writes ∨ c ∈ writes.map Prod.fst ∧ Inert buf) :
    Blend writes before (after.set c buf) where
  size := by rw [MemDevice.blockSize_set, blend.size]
  count := by rw [MemDevice.blockCount_set, blend.count]
  change := by
    intro other
    by_cases same : other = c
    · subst same
      by_cases fits : other < after.blockCount ∧ buf.length = after.blockSize
      · rw [MemDevice.block_set_self after fits.1 fits.2]
        exact .inr allowed
      · rw [MemDevice.set_misfit fits]
        exact blend.change other
    · rw [MemDevice.block_set_other after buf same]
      exact blend.change other

theorem Blend.apply {writes part : List (Nat × Bytes)} {before after : MemDevice}
    (blend : Blend writes before after) (among : ∀ write ∈ part, write ∈ writes) :
    Blend writes before (after.apply part) := by
  induction part generalizing after with
  | nil => exact blend
  | cons write rest ih =>
      exact ih (blend.set (.inl (among write List.mem_cons_self)))
        fun other member => among other (List.mem_cons_of_mem _ member)

theorem chunkWrites_blocks (blockSize d ci : Nat) (chunks : List Nat) (remaining : Bytes) :
    (chunkWrites blockSize d ci chunks remaining).map Prod.fst = chunks := by
  induction chunks generalizing ci remaining with
  | nil => rfl
  | cons c rest ih => rw [chunkWrites, List.map_cons, ih]

theorem recordWrites_blocks (blockSize d : Nat) (chunks : List Nat) (key : Bytes)
    (generation : Nat) (value : Bytes) (userFlags : UInt32) :
    (recordWrites blockSize d chunks key generation value userFlags).map Prod.fst = d :: chunks := by
  rw [recordWrites, List.map_cons, chunkWrites_blocks]

/-- What a chunk write holds: a chunk of `d`, with an index the loop reached. -/
theorem chunkWrites_view {blockSize d ci bound : Nat} {chunks : List Nat} {remaining : Bytes}
    (large : 24 ≤ blockSize) (small : blockSize < 2 ^ 32) (owner : d < 2 ^ 32)
    (inside : ∀ c ∈ chunks, c < bound) (boundLt : bound < 2 ^ 32)
    (indices : ci + chunks.length < 2 ^ 32) {write : Nat × Bytes}
    (member : write ∈ chunkWrites blockSize d ci chunks remaining) :
    write.2.length = blockSize ∧ ∃ idx found, chunkView d idx write.2 = some found := by
  induction chunks generalizing ci remaining with
  | nil => cases member
  | cons c rest ih =>
      rw [List.length_cons] at indices
      have insideRest : ∀ other ∈ rest, other < bound := fun other member =>
        inside other (List.mem_cons_of_mem _ member)
      rcases List.mem_cons.mp member with rfl | later
      · exact ⟨chunkBuf_length large .., ci + 1, _, chunkView_chunkBuf large small owner (by omega)
          (linkTo_lt insideRest boundLt) _⟩
      · exact ih insideRest (by omega) later

/-- Each write of a record is the descriptor block or a chunk of it. -/
theorem recordWrites_view {before : MemDevice} {d : Nat} {chunks : List Nat} {key value : Bytes}
    {generation : Nat} {userFlags : UInt32} (placed : Placed before d chunks key)
    {write : Nat × Bytes}
    (member : write ∈ recordWrites before.blockSize d chunks key generation value userFlags) :
    write.2.length = before.blockSize ∧
      (write = (d, descriptorBuf before.blockSize chunks key generation value userFlags) ∨
        write.1 ∈ chunks ∧ ∃ idx found, chunkView d idx write.2 = some found) := by
  have countLt : before.blockCount < 2 ^ 32 := before.count_lt
  have keyFits := placed.key_fits
  have inside := placed.inside
  have owner := inside d List.mem_cons_self
  have indices := placed.chunks_lt
  rcases List.mem_cons.mp member with rfl | later
  · exact ⟨descriptorBuf_length keyFits .., .inl rfl⟩
  · have place : write.1 ∈ chunks := by
      rw [← chunkWrites_blocks before.blockSize d 0 chunks]
      exact List.mem_map_of_mem later
    obtain ⟨sized, view⟩ := chunkWrites_view (by omega) before.size_lt (by omega)
      (fun c chunk => inside c (List.mem_cons_of_mem _ chunk)) countLt (by omega) later
    exact ⟨sized, .inr ⟨place, view⟩⟩

section
variable {before after : MemDevice} {d : Nat} {chunks : List Nat} {key value : Bytes}
  {generation : Nat} {userFlags : UInt32} (fits : Fits before d chunks key value)

include fits

variable (blend : Blend (recordWrites before.blockSize d chunks key generation value userFlags)
  before after)

include blend

/-- A partial write neither completes nor changes a record with another descriptor. -/
theorem Blend.other {d' : Nat} {rec : CompleteRecord} (different : d' ≠ d)
    (record : RecordAt after d' rec) :
    RecordAt before d' rec ∧ ∀ c ∈ rec.blocks, after.block c = before.block c := by
  apply record.of_changed blend.count
  · rcases blend.change d' with kept | written | ⟨_, inert⟩
    · exact kept
    · rcases (recordWrites_view fits.placed written).2 with descriptor | ⟨_, idx, found, view⟩
      · exact absurd (Prod.ext_iff.mp descriptor).1 different
      · have isChunk : u8At (after.block d') 0 = _ := chunkView_type view
        rw [record.descriptor_type] at isChunk
        exact absurd isChunk (by decide)
    · obtain ⟨_, head, _, view, _⟩ := record
      rw [inert.1 d'] at view
      cases view
  · intro c
    rcases blend.change c with kept | written | ⟨_, inert⟩
    · exact .inl kept
    · right
      intro idx
      rw [Option.eq_none_iff_forall_ne_some]
      intro found view
      rcases (recordWrites_view fits.placed written).2 with descriptor | ⟨_, idx', found', view'⟩
      · obtain ⟨head, isDescriptor, _⟩ := descriptorView_descriptorBuf fits.key_fits
          before.size_lt d generation value userFlags fits.placed.chunks_lt
        have buf : after.block c = _ := (Prod.ext_iff.mp descriptor).2
        rw [buf, chunkView_of_descriptor isDescriptor] at view
        cases view
      · exact different (chunkView_owner view view')
    · exact .inr (inert.2 d')

omit fits in
/-- A record away from the written blocks stays. -/
theorem Blend.kept {d' : Nat} {rec : CompleteRecord} (record : RecordAt before d' rec)
    (away : ∀ c ∈ rec.blocks, c ∉ d :: chunks) : RecordAt after d' rec := by
  apply record.congr blend.count
  intro c member
  have untouched : c ∉ (recordWrites before.blockSize d chunks key generation value
      userFlags).map Prod.fst := by
    rw [recordWrites_blocks]
    exact away c member
  rcases blend.change c with kept | written | ⟨touched, _⟩
  · exact kept
  · exact absurd (List.mem_map_of_mem written) untouched
  · exact absurd touched untouched

/-- On blocks that were inert, each write either arrived or left its block inert. -/
theorem Blend.solid (inert : ∀ c ∈ d :: chunks, Inert (before.block c)) {write : Nat × Bytes}
    (member : write ∈ recordWrites before.blockSize d chunks key generation value userFlags) :
    after.block write.1 = write.2 ∨ Inert (after.block write.1) := by
  have place : write.1 ∈ d :: chunks := by
    rw [← recordWrites_blocks before.blockSize d chunks key generation value userFlags]
    exact List.mem_map_of_mem member
  rcases blend.change write.1 with kept | written | ⟨_, dead⟩
  · rw [kept]
    exact .inr (inert _ place)
  · left
    have distinct : ((recordWrites before.blockSize d chunks key generation value
        userFlags).map Prod.fst).Nodup := by
      rw [recordWrites_blocks]
      exact fits.distinct
    have same := List.inj_on_of_nodup_map distinct written member rfl
    exact (Prod.ext_iff.mp same).2
  · exact .inr dead

end

/-- A chain that starts at the first chunk written passes every one of them. -/
theorem written_of_chain {img : MemDevice} {d bound ci : Nat} {chunks found : List Nat}
    {remaining payload : Bytes} (large : 24 ≤ img.blockSize) (owner : d < 2 ^ 32)
    (inside : ∀ c ∈ chunks, c < bound) (boundLt : bound < 2 ^ 32)
    (indices : ci + chunks.length < 2 ^ 32)
    (solid : ∀ write ∈ chunkWrites img.blockSize d ci chunks remaining,
      img.block write.1 = write.2 ∨ Inert (img.block write.1))
    (chain : Chain img d (ci + 1) (linkTo chunks) found payload) :
    ∀ write ∈ chunkWrites img.blockSize d ci chunks remaining, img.block write.1 = write.2 := by
  induction chunks generalizing ci found remaining payload with
  | nil =>
      intro write member
      cases member
  | cons c rest ih =>
      rw [List.length_cons] at indices
      have insideRest : ∀ other ∈ rest, other < bound := fun other member =>
        inside other (List.mem_cons_of_mem _ member)
      have first : c < bound := inside c List.mem_cons_self
      cases found with
      | nil =>
          have ended : c = nullBlockIndex := chain.1
          simp only [nullBlockIndex] at ended
          omega
      | cons c' found =>
          obtain ⟨same, _, head, link, tail, view, _, after⟩ := chain
          have here : c = c' := same
          subst here
          have arrived : img.block c =
              chunkBuf img.blockSize d (ci + 1) (linkTo rest) remaining := by
            rcases solid _ List.mem_cons_self with written | inert
            · exact written
            · rw [inert.2] at view
              cases view
          rw [arrived, chunkView_chunkBuf large img.size_lt owner (by omega)
            (linkTo_lt insideRest boundLt)] at view
          have linked : linkTo rest = link := (Prod.ext_iff.mp (Option.some.inj view)).2
          rw [← linked] at after
          intro write member
          rcases List.mem_cons.mp member with rfl | later
          · exact arrived
          · exact ih insideRest (by omega) (fun other inRest =>
              solid other (List.mem_cons_of_mem _ inRest)) after write later

/-- A record found at the descriptor of a partial write means that all of it arrived. -/
theorem Blend.arrived {before after : MemDevice} {d : Nat} {chunks : List Nat} {key value : Bytes}
    {generation : Nat} {userFlags : UInt32} (fits : Fits before d chunks key value)
    (blend : Blend (recordWrites before.blockSize d chunks key generation value userFlags)
      before after)
    (inert : ∀ c ∈ d :: chunks, Inert (before.block c)) {rec : CompleteRecord}
    (record : RecordAt after d rec) :
    ∀ write ∈ recordWrites before.blockSize d chunks key generation value userFlags,
      after.block write.1 = write.2 := by
  have countLt : before.blockCount < 2 ^ 32 := before.count_lt
  have keyFits := fits.key_fits
  have indices := fits.placed.chunks_lt
  have insideChunks : ∀ c ∈ chunks, c < before.blockCount := fun c member =>
    fits.inside c (List.mem_cons_of_mem _ member)
  obtain ⟨head', isDescriptor, header, _⟩ := descriptorView_descriptorBuf keyFits before.size_lt d
    generation value userFlags indices
  obtain ⟨_, head, payload, view, chain, _⟩ := record
  have descriptor : after.block d =
      descriptorBuf before.blockSize chunks key generation value userFlags := by
    rcases blend.solid fits inert List.mem_cons_self with written | dead
    · exact written
    · rw [dead.1] at view
      cases view
  rw [descriptor, isDescriptor] at view
  have sameHeader : head.header = _ := (congrArg CompleteRecord.header (Option.some.inj view)).symm
  rw [sameHeader, header] at chain
  have linked : (descriptorHeader before.blockSize chunks key generation value
      userFlags).nextChunk.toNat = linkTo chunks :=
    u32_toNat_ofNat (linkTo_lt insideChunks countLt)
  rw [linked] at chain
  intro write member
  rcases List.mem_cons.mp member with rfl | later
  · exact descriptor
  · have owner := fits.inside d List.mem_cons_self
    have size := blend.size
    rw [← size] at later
    refine written_of_chain (by omega) (by omega) insideChunks countLt (by omega) ?_ chain
      write later
    intro other inChunks
    rw [size] at inChunks
    exact blend.solid fits inert (List.mem_cons_of_mem _ inChunks)

end Embedkv.Layout
