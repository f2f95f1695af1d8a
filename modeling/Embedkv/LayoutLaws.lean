import Mathlib.Algebra.Order.Floor.Div
import Embedkv.RecordLaws
import Embedkv.Transition

/-!
# Encoding a record

How many blocks a record takes, how much of the value its blocks hold, and what
the validator reads back. Lengths are cut to the widths of the format on the
way: the length of the value and the sum inside Go's rounding to 32 bits, the
length of the key to the 16 bits of its field. Within those bounds the demand is
exact, the chunks hold the whole value and the record reads back as it was
written; beyond them none of this is so.
-/

namespace Embedkv.LayoutLaws

open Embedkv.Lib Embedkv.Format Embedkv.Device Embedkv.State Embedkv.Codec Embedkv.Image
open Embedkv.Record Embedkv.Layout Embedkv.Agree Embedkv.RecordLaws Embedkv.Stores

set_option autoImplicit false

/-! ## How much of the value the blocks hold -/

/-- The bytes of the value that the blocks of a record announce. -/
def storedSize (img : MemDevice) (d : Nat) (chunks : List Nat) : Nat :=
  (descriptorAt img d).firstPayloadSize.toNat +
    (chunks.map fun c => (chunkAt img c).payloadSize.toNat).sum

theorem chunkPayload_length (blockSize count : Nat) (remaining : Bytes) :
    (chunkPayload blockSize count remaining).length =
      min (asU32 remaining.length) (count * (blockSize - 24)) := by
  induction count generalizing remaining with
  | zero => simp [chunkPayload]
  | succ count ih =>
      have announced : chunkSize blockSize remaining ≤ asU32 remaining.length := Nat.min_le_left _ _
      have left : asU32 (remaining.drop (chunkSize blockSize remaining)).length =
          asU32 remaining.length - chunkSize blockSize remaining := by
        rw [List.length_drop, asU32_sub announced]
      have taken := (chunkSize_le blockSize remaining).1
      rw [chunkPayload, List.length_append, List.length_take, ih, left, Nat.min_eq_left taken,
        Nat.add_one_mul]
      unfold chunkSize
      omega

/-- A written descriptor block holds its header. -/
theorem descriptorAt_written {img : MemDevice} {d : Nat} {chunks : List Nat} {key value : Bytes}
    {generation : Nat} {userFlags : UInt32} (placed : Placed img d chunks key)
    (holds : img.block d = descriptorBuf img.blockSize chunks key generation value userFlags) :
    DescriptorValid img d ∧
      descriptorAt img d = descriptorHeader img.blockSize chunks key generation value userFlags ∧
      (storedFirst img d).length = firstSize img.blockSize key value := by
  obtain ⟨head, view, header, headLength, _⟩ := descriptorView_descriptorBuf placed.key_fits
    img.size_lt d generation value userFlags placed.chunks_lt
  rw [← holds] at view
  obtain ⟨valid, rfl⟩ := (descriptorView_iff (placed.inside d List.mem_cons_self)).mp view
  refine ⟨valid, header, ?_⟩
  rw [← headLength]
  simp [storedRecord]

/-- The blocks of a written record hold the value up to its 32-bit length and to
their own room. -/
theorem storedSize_written {img : MemDevice} {d : Nat} {chunks : List Nat} {key value : Bytes}
    {generation : Nat} {userFlags : UInt32} (placed : Placed img d chunks key)
    (holds : ∀ write ∈ recordWrites img.blockSize d chunks key generation value userFlags,
      img.block write.1 = write.2) :
    storedSize img d chunks = min (asU32 value.length)
      (img.blockSize - 36 - key.length + chunks.length * (img.blockSize - 24)) := by
  have keyFits := placed.key_fits
  have counted := placed.chunks_lt
  have here := placed.inside d List.mem_cons_self
  have insideChunks : ∀ c ∈ chunks, c < img.blockCount := fun c member =>
    placed.inside c (List.mem_cons_of_mem _ member)
  obtain ⟨valid, _, first⟩ := descriptorAt_written placed (holds _ List.mem_cons_self)
  have chain := chain_of_written 0 (by omega) here insideChunks (by omega) fun write member =>
    holds write (List.mem_cons_of_mem _ member)
  obtain ⟨chunk, _, payload⟩ := chain_iff.mp chain
  have announced : firstSize img.blockSize key value ≤ asU32 value.length := Nat.min_le_left _ _
  have left : asU32 (value.drop (firstSize img.blockSize key value)).length =
      asU32 value.length - firstSize img.blockSize key value := by
    rw [List.length_drop, asU32_sub announced]
  rw [storedSize, ← value_length valid chunk, ← payload, List.length_append, first,
    chunkPayload_length, left]
  unfold firstSize
  omega

/-- The image a record was written to holds its writes. -/
theorem holds_applied {img : MemDevice} {d : Nat} {chunks : List Nat} {key value : Bytes}
    {generation : Nat} {userFlags : UInt32} (placed : Placed img d chunks key) :
    ∀ write ∈ recordWrites (img.apply (recordWrites img.blockSize d chunks key generation value
      userFlags)).blockSize d chunks key generation value userFlags,
      (img.apply (recordWrites img.blockSize d chunks key generation value userFlags)).block
        write.1 = write.2 := by
  intro write member
  rw [MemDevice.blockSize_apply] at member
  exact Transition.written_holds placed member

theorem storedSize_apply {img : MemDevice} {d : Nat} {chunks : List Nat} {key value : Bytes}
    {generation : Nat} {userFlags : UInt32} (placed : Placed img d chunks key) :
    storedSize (img.apply (recordWrites img.blockSize d chunks key generation value userFlags)) d
        chunks =
      min (asU32 value.length)
        (img.blockSize - 36 - key.length + chunks.length * (img.blockSize - 24)) := by
  rw [storedSize_written (placed.apply _) (holds_applied placed), MemDevice.blockSize_apply]

/-! ## How many blocks a record takes -/

/-- The number of blocks a record takes, reckoned without bounds. -/
def demand (blockSize keyLength valueLength : Nat) : Nat :=
  if valueLength ≤ blockSize - 36 - keyLength then 1
  else 1 + (valueLength - (blockSize - 36 - keyLength)) ⌈/⌉ (blockSize - 24)

theorem demand_eq (blockSize keyLength valueLength : Nat) :
    demand blockSize keyLength valueLength = blocksFor blockSize keyLength valueLength := by
  unfold demand blocksFor
  rw [Nat.ceilDiv_eq_add_pred_div]

section
variable {blockSize keyLength : Nat} (large : 36 ≤ blockSize)
include large

/-- Blocks that hold a value are at least as many as it demands. -/
theorem blocksFor_le_iff {valueLength count : Nat} (positive : 1 ≤ count) :
    blocksFor blockSize keyLength valueLength ≤ count ↔
      valueLength ≤ blockSize - 36 - keyLength + (count - 1) * (blockSize - 24) := by
  unfold blocksFor
  split
  next small =>
    constructor
    · intro _
      omega
    · intro _
      exact positive
  next big =>
    have room : 0 < blockSize - 24 := by omega
    have reach := Nat.div_le_iff_le_mul_add_pred (a := valueLength -
      (blockSize - 36 - keyLength) + (blockSize - 24) - 1) (c := count - 1) room
    rw [Nat.mul_comm] at reach
    constructor
    · intro enough
      have within := reach.mp (by omega)
      omega
    · intro enough
      have within := reach.mpr (by omega)
      omega

/-- A value longer by the capacity of a chunk takes another block. -/
theorem blocksFor_gap {short long : Nat} (gap : short + (blockSize - 24) ≤ long) :
    blocksFor blockSize keyLength short < blocksFor blockSize keyLength long := by
  have positive := blocksFor_pos blockSize keyLength short
  by_contra reaches
  have enough := (blocksFor_le_iff large positive).mp (Nat.not_lt.mp reaches)
  by_cases single : blocksFor blockSize keyLength short = 1
  · rw [single] at enough
    omega
  · -- One block fewer would not hold even the shorter value.
    have tight : ¬short ≤ blockSize - 36 - keyLength +
        (blocksFor blockSize keyLength short - 1 - 1) * (blockSize - 24) :=
      mt (blocksFor_le_iff large (by omega)).mpr (by omega)
    have last : (blocksFor blockSize keyLength short - 1) * (blockSize - 24) =
        (blocksFor blockSize keyLength short - 1 - 1) * (blockSize - 24) + (blockSize - 24) := by
      rw [← Nat.add_one_mul]
      congr 1
      omega
    omega

/-- A length that is cut demands fewer blocks than the value. -/
theorem blocksFor_cut_lt (small : blockSize < 2 ^ 32) {valueLength : Nat}
    (long : ¬valueLength < 2 ^ 32) :
    blocksFor blockSize keyLength (asU32 valueLength) <
      blocksFor blockSize keyLength valueLength := by
  have gap : asU32 valueLength + 2 ^ 32 ≤ valueLength := by
    unfold asU32
    omega
  exact blocksFor_gap large (by omega)

/-- Of at most as many blocks as the cut length demands, those that hold the
whole value are the ones the value demands. -/
theorem holds_iff (small : blockSize < 2 ^ 32) {valueLength count : Nat} (positive : 1 ≤ count)
    (atMost : count ≤ blocksFor blockSize keyLength (asU32 valueLength)) :
    min (asU32 valueLength) (blockSize - 36 - keyLength + (count - 1) * (blockSize - 24)) =
        valueLength ↔ count = blocksFor blockSize keyLength valueLength := by
  have cut := asU32_le valueLength
  constructor
  · intro whole
    have uncut : asU32 valueLength = valueLength := by omega
    rw [uncut] at atMost
    have enough : blocksFor blockSize keyLength valueLength ≤ count :=
      (blocksFor_le_iff large positive).mpr (by omega)
    omega
  · rintro rfl
    have enough := (blocksFor_le_iff large positive).mp (le_refl _)
    by_cases short : valueLength < 2 ^ 32
    · rw [asU32_of_lt short]
      omega
    · -- A longer value would demand more blocks than were reckoned.
      have more : blocksFor blockSize keyLength (asU32 valueLength) <
          blocksFor blockSize keyLength valueLength := blocksFor_cut_lt large small short
      omega

end

/-- The lengths that an implementation reckons with exactly. -/
def Unwrapped : Impl → Nat → Nat → Nat → Prop
  | .rust _, _, _, valueLength => valueLength < 2 ^ 32
  | .go, blockSize, keyLength, valueLength => valueLength < 2 ^ 32 ∧
    (valueLength ≤ blockSize - 36 - keyLength ∨
      valueLength - (blockSize - 36 - keyLength) + (blockSize - 24) ≤ 2 ^ 32)

/-- Go's sum wraps when the rest of the value and a chunk together exceed 32 bits,
and the quotient is then too small. -/
theorem go_reckoned {blockSize : Nat} {key : Bytes} (fits : key.length + 36 ≤ blockSize)
    (small : blockSize < 2 ^ 32) (value : Bytes) :
    ∃ count, Go.neededBlocks key value blockSize = .ok count ∧ 1 ≤ count ∧
      ((asU32 value.length ≤ blockSize - 36 - key.length ∨
          asU32 value.length - (blockSize - 36 - key.length) + (blockSize - 24) ≤ 2 ^ 32) ∧
          count = blocksFor blockSize key.length (asU32 value.length) ∨
        ¬(asU32 value.length ≤ blockSize - 36 - key.length ∨
          asU32 value.length - (blockSize - 36 - key.length) + (blockSize - 24) ≤ 2 ^ 32) ∧
          count < blocksFor blockSize key.length (asU32 value.length)) := by
  have room : 0 < blockSize - 24 := by omega
  have valueLt := asU32_lt value.length
  refine ⟨_, go_neededBlocks_eq fits small value, ?_, ?_⟩
  · split
    · exact le_refl 1
    · exact Nat.le_add_right 1 _
  · unfold blocksFor
    by_cases first : asU32 value.length ≤ blockSize - 36 - key.length
    · rw [if_pos first, if_pos first]
      exact .inl ⟨.inl first, rfl⟩
    · rw [if_neg first, if_neg first]
      by_cases sum : asU32 value.length - (blockSize - 36 - key.length) + (blockSize - 24) ≤ 2 ^ 32
      · rw [Nat.mod_eq_of_lt (by omega)]
        exact .inl ⟨.inr sum, rfl⟩
      · refine .inr ⟨fun either => either.elim first sum, ?_⟩
        rw [Nat.add_lt_add_iff_left, ← Nat.add_one_le_iff, ← Nat.add_div_right _ room]
        exact Nat.div_le_div_right (by omega)

theorem Unwrapped.short {impl : Impl} {blockSize keyLength valueLength : Nat}
    (unwrapped : Unwrapped impl blockSize keyLength valueLength) : valueLength < 2 ^ 32 := by
  cases impl with
  | rust build => exact unwrapped
  | go => exact unwrapped.1

/-- What an implementation reckons: never more than the cut length demands, and
what the value demands exactly within its bounds. -/
theorem reckoned (impl : Impl) {blockSize : Nat} {key : Bytes}
    (fits : key.length + 36 ≤ blockSize) (small : blockSize < 2 ^ 32) (value : Bytes) :
    ∃ count, impl.neededBlocks key value blockSize = .ok count ∧ 1 ≤ count ∧
      count ≤ blocksFor blockSize key.length (asU32 value.length) ∧
      (count = blocksFor blockSize key.length value.length ↔
        Unwrapped impl blockSize key.length value.length) := by
  obtain ⟨count, ran, one, atMost, exactly⟩ : ∃ count,
      impl.neededBlocks key value blockSize = .ok count ∧ 1 ≤ count ∧
      count ≤ blocksFor blockSize key.length (asU32 value.length) ∧
      (value.length < 2 ^ 32 → (count = blocksFor blockSize key.length value.length ↔
        Unwrapped impl blockSize key.length value.length)) := by
    cases impl with
    | rust build =>
        refine ⟨_, rust_neededBlocks build fits small value, blocksFor_pos _ _ _, le_refl _, ?_⟩
        intro short
        rw [asU32_of_lt short]
        exact ⟨fun _ => short, fun _ => rfl⟩
    | go =>
        obtain ⟨count, ran, one, reckons⟩ := go_reckoned fits small value
        refine ⟨count, ran, one, ?_, ?_⟩
        · rcases reckons with ⟨_, same⟩ | ⟨_, less⟩
          · exact le_of_eq same
          · exact Nat.le_of_lt less
        · intro short
          rw [asU32_of_lt short] at reckons
          rcases reckons with ⟨within, same⟩ | ⟨wraps, less⟩
          · exact ⟨fun _ => ⟨short, within⟩, fun _ => same⟩
          · exact ⟨fun same => absurd same (Nat.ne_of_lt less),
              fun unwrapped => absurd unwrapped.2 wraps⟩
  refine ⟨count, ran, one, atMost, ?_⟩
  by_cases short : value.length < 2 ^ 32
  · exact exactly short
  · -- The cut length demands fewer blocks than the value, and no more are reckoned.
    have fewer : blocksFor blockSize key.length (asU32 value.length) <
        blocksFor blockSize key.length value.length := blocksFor_cut_lt (by omega) small short
    constructor
    · intro same
      omega
    · intro unwrapped
      exact absurd unwrapped.short short

section
variable {D : Type} [BlockDevice D] [ReliableBlockDevice D]

/-- What writing a record leaves on a device without errors. -/
theorem writeRecord_holds (impl : Impl) (dev : D) {d : Nat} {chunks : List Nat} {key : Bytes}
    (placed : Placed (image dev) d chunks key) (generation : Nat) (value : Bytes)
    (userFlags : UInt32) :
    ∃ dev', impl.writeRecord d chunks key generation value userFlags dev = (.ok (), dev') ∧
      image dev' = (image dev).apply
        (recordWrites (image dev).blockSize d chunks key generation value userFlags) := by
  rw [impl.writeRecord_eq dev placed]
  exact writeAll_reliable _ dev fun write member => Plan.recordWrites_valid placed member

/-- The demand is exact, and the record written with it holds the whole value,
exactly within the bounds of the implementation. -/
theorem demand_exact_iff (impl : Impl) (dev : D) {key : Bytes}
    (fits : key.length + 36 ≤ (image dev).blockSize) (value : Bytes) :
    ∃ count, impl.neededBlocks key value (image dev).blockSize = .ok count ∧
      (count = demand (image dev).blockSize key.length value.length ↔
        Unwrapped impl (image dev).blockSize key.length value.length) ∧
      ∀ (d : Nat) (chunks : List Nat) (generation : Nat) (userFlags : UInt32),
        (∀ c ∈ d :: chunks, c < (image dev).blockCount) → (d :: chunks).Nodup →
        chunks.length + 1 = count →
        ∃ dev', impl.writeRecord d chunks key generation value userFlags dev = (.ok (), dev') ∧
          (storedSize (image dev') d chunks = value.length ↔
            Unwrapped impl (image dev).blockSize key.length value.length) := by
  have small : (image dev).blockSize < 2 ^ 32 := (image dev).size_lt
  obtain ⟨count, ran, one, atMost, exactly⟩ := reckoned impl fits small value
  refine ⟨count, ran, by rw [demand_eq]; exact exactly, ?_⟩
  intro d chunks generation userFlags inside distinct counted
  have placed : Placed (image dev) d chunks key := ⟨fits, inside, distinct⟩
  obtain ⟨dev', wrote, written⟩ := writeRecord_holds impl dev placed generation value userFlags
  refine ⟨dev', wrote, ?_⟩
  rw [written, storedSize_apply placed, ← exactly, ← holds_iff (by omega) small one atMost, ← counted,
    Nat.add_sub_cancel]

end

/-- A formatted device of two free blocks. -/
def blankDevice : MemDevice :=
  (Rust.format .dev .default [Run.smallDevice]).2.headD Run.smallDevice

theorem demand_exact_five : ∃ dev',
    Rust.writeRecord .dev 1 [2] [0x41] 7 [1, 2, 3, 4, 5] 6 blankDevice = (.ok (), dev') ∧
      storedSize dev' 1 [2] = 5 := by
  have fits : ([0x41] : Bytes).length + 36 ≤ (image blankDevice).blockSize := by decide +kernel
  obtain ⟨count, ran, _, stored⟩ :=
    demand_exact_iff (.rust .dev) blankDevice fits [1, 2, 3, 4, 5]
  have two : (Impl.rust .dev).neededBlocks [0x41] [1, 2, 3, 4, 5] (image blankDevice).blockSize =
      .ok 2 := by decide +kernel
  obtain ⟨dev', wrote, size⟩ := stored 1 [2] 7 6 (by decide +kernel) (by decide)
    (Except.ok.inj (two.symm.trans ran))
  exact ⟨dev', wrote, size.mpr (show 5 < 2 ^ 32 by decide)⟩

/-- A put on a device without an index, with room for its record. -/
theorem put_fresh (build : Rust.Build) {dev : MemDevice} {key value : Bytes} {d : Nat}
    {chunks : List Nat} (header : u8At (dev.block 0) 0 = blockTypeStorageHeader)
    (keyFits : key.length + 36 ≤ dev.blockSize)
    (room : blocksFor dev.blockSize key.length (asU32 value.length) ≤
      (Effects.freeBlocks dev).length)
    (taken : (Effects.freeBlocks dev).take
      (blocksFor dev.blockSize key.length (asU32 value.length)) = d :: chunks)
    (userFlags : UInt32) (opts : Options) :
    ∃ r', Rust.putFlagged build key value userFlags (Session.single (Mount.mounted dev) opts) =
        (.ok (), Session.single r' opts) ∧
      r'.dev = dev.apply (recordWrites dev.blockSize d chunks key 1 value userFlags) := by
  have sound : Plan.Indexed dev ∅ := by
    refine ⟨by omega, header, ?_, ?_⟩
    · intro s e found
      cases found
    · intro s s' e e' found
      cases found
  obtain ⟨fits, _⟩ := Plan.allocated keyFits room taken
  have valid : Plan.ValidActs dev (Plan.putActs dev (Plan.indexedBlocks dev ∅ (fromUtf8Lossy key)) d
      chunks key 1 value userFlags opts.freePattern) := Outcome.put_writes sound fits
  obtain ⟨r', performed, written, _⟩ : ∃ r', Plan.performAll (Plan.putActs dev
      (Plan.indexedBlocks dev ∅ (fromUtf8Lossy key)) d chunks key 1 value userFlags
      opts.freePattern) (Mount.mounted dev) = (.ok (), r') ∧ _ ∧ _ := Plan.performAll_reliable valid
  have ran := Plan.rust_replicaPut build (r := Mount.mounted dev) sound keyFits room taken 1 userFlags
    opts.freePattern
  have unknown : Session.generationOf (Mount.mounted dev).index (fromUtf8Lossy key) = 0 := rfl
  have next : Rust.u32Add build 0 1 = .ok 1 := rust_u32Add_ok (by decide)
  have passes : ¬dev.blockSize - 36 < asU32 key.length := by
    have cut := asU32_le key.length
    omega
  refine ⟨r', ?_, ?_⟩
  · rw [Session.putFlagged_single build _ opts (show 36 ≤ dev.blockSize by omega), unknown, next]
    simp only []
    rw [ran.trans performed]
    exact if_neg passes
  · have nothing : Plan.indexedBlocks dev ∅ (fromUtf8Lossy key) = none := rfl
    have acts : Plan.writesOf (Plan.putActs dev none d chunks key 1 value userFlags
        opts.freePattern) = recordWrites dev.blockSize d chunks key 1 value userFlags :=
      (Outcome.writesOf_storeActs none).trans (List.append_nil _)
    rw [nothing, acts] at written
    exact written

/-- A value of `2 ^ 32` bytes is accepted and none of it is stored. -/
theorem put_empties {value : Bytes} (length : value.length = 2 ^ 32) :
    ∃ r', Rust.putFlagged .dev [0x41] value 0
        (Session.single (Mount.mounted blankDevice) .default) =
          (.ok (), Session.single r' .default) ∧
      storedSize r'.dev 1 [] = 0 := by
  have cut : asU32 value.length = 0 := by
    rw [length]
    rfl
  have fits : ([0x41] : Bytes).length + 36 ≤ blankDevice.blockSize := by decide +kernel
  have one : blocksFor blankDevice.blockSize ([0x41] : Bytes).length (asU32 value.length) = 1 := by
    rw [cut]
    decide +kernel
  have free : (Effects.freeBlocks blankDevice).length = 2 ∧
      (Effects.freeBlocks blankDevice).take 1 = [1] := by decide +kernel
  have room : blocksFor blankDevice.blockSize ([0x41] : Bytes).length (asU32 value.length) ≤
      (Effects.freeBlocks blankDevice).length := by
    rw [one, free.1]
    decide
  have taken : (Effects.freeBlocks blankDevice).take
      (blocksFor blankDevice.blockSize ([0x41] : Bytes).length (asU32 value.length)) = [1] := by
    rw [one]
    exact free.2
  obtain ⟨r', ran, written⟩ := put_fresh .dev (by decide +kernel) fits room taken 0 .default
  refine ⟨r', ran, ?_⟩
  rw [written, storedSize_apply (Plan.allocated fits room taken).1.placed, cut, Nat.zero_min]

theorem long_values_cut :
    (∃ r', Rust.putFlagged .dev [0x41] (List.replicate (2 ^ 32) 7) 0
        (Session.single (Mount.mounted blankDevice) .default) =
          (.ok (), Session.single r' .default) ∧ storedSize r'.dev 1 [] = 0) ∧
      Rust.neededBlocks .dev [0x41] (List.replicate (2 ^ 32) 7) 40 = .ok 1 ∧
      demand 40 1 (2 ^ 32) = 268435457 ∧
      Go.neededBlocks [0x41] (List.replicate (2 ^ 32 - 1) 7) 40 = .ok 1 ∧
      demand 40 1 (2 ^ 32 - 1) = 268435457 := by
  refine ⟨put_empties List.length_replicate, ?_, ?_, ?_, ?_⟩
  · rw [rust_neededBlocks .dev (by decide) (by decide), List.length_replicate]
    rfl
  · rw [demand_eq]
    rfl
  · rw [go_neededBlocks_eq (by decide) (by decide), List.length_replicate]
    rfl
  · rw [demand_eq]
    rfl

/-! ## Reading a record back -/

/-- What a record stores of its key and header. -/
theorem record_stored {img : MemDevice} {d : Nat} {rec : CompleteRecord}
    (record : RecordAt img d rec) :
    rec.header = descriptorAt img d ∧ rec.key.length = (descriptorAt img d).keySize.toNat := by
  obtain ⟨inside, head, payload, view, _, _, _, shape⟩ := record
  obtain ⟨valid, rfl⟩ := (descriptorView_iff inside).mp view
  have fits := valid.key_size
  rw [shape]
  refine ⟨rfl, ?_⟩
  change (storedKey img d).length = _
  rw [storedKey, List.length_take, List.length_drop, img.block_length inside]
  omega

section
variable {D : Type} [BlockDevice D] [ReliableBlockDevice D]

/-- A record read back after it was written. Its key has the length that the
16-bit field announces. -/
theorem read_back (impl : Impl) (dev : D) {key value : Bytes} {d : Nat} {chunks : List Nat}
    (placed : Placed (image dev) d chunks key)
    (bounded : value.length + (image dev).blockSize < 2 ^ 32)
    (counted : impl.neededBlocks key value (image dev).blockSize = .ok (chunks.length + 1))
    {generation : Nat} (small : generation < 2 ^ 32) (userFlags : UInt32) :
    ∃ dev' rec, impl.writeRecord d chunks key generation value userFlags dev = (.ok (), dev') ∧
      impl.verifyAndReadRecord d dev' = (.ok (some rec), dev') ∧ rec.generation = generation ∧
      rec.header.userFlags = userFlags ∧ rec.chunkBlocks = chunks ∧
      rec.key.length = key.length % 2 ^ 16 ∧
      (key.length ≤ 65535 → rec.key = key ∧ rec.value = value) := by
  have keyFits := placed.key_fits
  have uncut : asU32 value.length = value.length := asU32_of_lt (by omega)
  have fits : Fits (image dev) d chunks key value := by
    obtain ⟨count, ran, _, _, exactly⟩ := reckoned impl keyFits (image dev).size_lt value
    have unwrapped : Unwrapped impl (image dev).blockSize key.length value.length := by
      cases impl with
      | rust build => exact (show value.length < 2 ^ 32 by omega)
      | go => exact ⟨by omega, .inr (by omega)⟩
    have same := Except.ok.inj (counted.symm.trans ran)
    exact ⟨keyFits, placed.inside, placed.distinct, by
      rw [List.length_cons, same, uncut]
      exact exactly.mpr unwrapped⟩
  obtain ⟨dev', wrote, written⟩ := writeRecord_holds impl dev placed generation value userFlags
  obtain ⟨rec, record, chunksEq, generationEq, exactly⟩ :=
    Transition.record_written fits generation userFlags
  rw [← written] at record
  have verified : impl.verifyAndReadRecord d dev' = (.ok (some rec), dev') := by
    rw [impl.verify_eq dev' (by rw [written, MemDevice.blockSize_apply]; omega) record.inside,
      recordAt_eq_some.mpr record]
  obtain ⟨headerEq, keyLength⟩ := record_stored record
  have header : descriptorAt (image dev') d = descriptorHeader (image dev').blockSize chunks key
      generation value userFlags := by
    rw [written]
    exact (descriptorAt_written (placed.apply _) (holds_applied placed _ List.mem_cons_self)).2.1
  rw [header] at headerEq keyLength
  rw [Nat.mod_eq_of_lt small] at generationEq
  rw [uncut, List.take_length] at exactly
  refine ⟨dev', rec, wrote, verified, generationEq, ?_, chunksEq, ?_, exactly⟩
  · rw [headerEq]
    rfl
  · rw [keyLength]
    exact UInt16.toNat_ofNat'

/-- A record reads back as it was written exactly when its key fits the field
that holds its length. -/
theorem round_trip_iff (impl : Impl) (dev : D) {key value : Bytes} {d : Nat} {chunks : List Nat}
    (fits : key.length + 36 ≤ (image dev).blockSize)
    (bounded : value.length + (image dev).blockSize < 2 ^ 32)
    (inside : ∀ c ∈ d :: chunks, 1 ≤ c ∧ c < (image dev).blockCount)
    (distinct : (d :: chunks).Nodup)
    (counted : impl.neededBlocks key value (image dev).blockSize = .ok (chunks.length + 1))
    {generation : Nat} (small : generation < 2 ^ 32) (userFlags : UInt32) :
    ∃ dev', impl.writeRecord d chunks key generation value userFlags dev = (.ok (), dev') ∧
      ((∃ rec, impl.verifyAndReadRecord d dev' = (.ok (some rec), dev') ∧ rec.key = key ∧
          rec.value = value ∧ rec.generation = generation ∧ rec.header.userFlags = userFlags ∧
          rec.chunkBlocks = chunks) ↔ key.length ≤ 65535) := by
  have placed : Placed (image dev) d chunks key := ⟨fits, fun c member => (inside c member).2, distinct⟩
  obtain ⟨dev', rec, wrote, verified, generationEq, flagsEq, chunksEq, keyLength, exactly⟩ :=
    read_back impl dev placed bounded counted small userFlags
  refine ⟨dev', wrote, ?_, ?_⟩
  · rintro ⟨found, answered, same, _⟩
    rw [verified] at answered
    cases answered
    rw [same] at keyLength
    omega
  · intro short
    exact ⟨rec, verified, (exactly short).1, (exactly short).2, generationEq, flagsEq, chunksEq⟩

end

theorem round_trip_five : ∃ dev' rec,
    Rust.writeRecord .dev 1 [2] [0x41] 7 [1, 2, 3, 4, 5] 6 blankDevice = (.ok (), dev') ∧
      Rust.verifyAndReadRecord .dev 1 dev' = (.ok (some rec), dev') ∧ rec.key = [0x41] ∧
      rec.value = [1, 2, 3, 4, 5] := by
  have fits : ([0x41] : Bytes).length + 36 ≤ (image blankDevice).blockSize := by decide +kernel
  have bounded : ([1, 2, 3, 4, 5] : Bytes).length + (image blankDevice).blockSize < 2 ^ 32 := by
    decide +kernel
  have inside : ∀ c ∈ [1, 2], 1 ≤ c ∧ c < (image blankDevice).blockCount := by decide +kernel
  have counted : (Impl.rust .dev).neededBlocks [0x41] [1, 2, 3, 4, 5]
      (image blankDevice).blockSize = .ok 2 := by decide +kernel
  obtain ⟨dev', wrote, back⟩ := round_trip_iff (.rust .dev) blankDevice fits bounded inside
    (by decide) counted (show 7 < 2 ^ 32 by decide) 6
  obtain ⟨rec, verified, key, value, _⟩ := back.mpr (by decide)
  exact ⟨dev', rec, wrote, verified, key, value⟩

/-- A device with blocks that take a key of `2 ^ 16` bytes. -/
def wideDevice : MemDevice := MemDevice.new 65573 2 (by decide) (by decide)

/-- A key of `2 ^ 16` bytes is read back as the empty key. -/
theorem wide_key_lost : ∃ dev' rec,
    Rust.writeRecord .dev 1 [] (List.replicate 65536 0x61) 1 [9] 0 wideDevice = (.ok (), dev') ∧
      Rust.verifyAndReadRecord .dev 1 dev' = (.ok (some rec), dev') ∧ rec.key = [] := by
  have length : (List.replicate 65536 0x61 : Bytes).length = 65536 := List.length_replicate
  have placed : Placed (image wideDevice) 1 [] (List.replicate 65536 0x61) := by
    refine ⟨?_, by decide, by decide⟩
    rw [length]
    exact Nat.le_of_ble_eq_true rfl
  have counted : (Impl.rust .dev).neededBlocks (List.replicate 65536 0x61) [9]
      (image wideDevice).blockSize = .ok 1 := by
    change Rust.neededBlocks .dev (List.replicate 65536 0x61) [9] 65573 = .ok 1
    rw [rust_neededBlocks .dev (by rw [length]; decide) (by decide), length]
    rfl
  obtain ⟨dev', rec, wrote, verified, _, _, _, keyLength, _⟩ := read_back (.rust .dev) wideDevice
    placed (by decide) counted (show 1 < 2 ^ 32 by decide) 0
  rw [length] at keyLength
  exact ⟨dev', rec, wrote, verified, List.eq_nil_of_length_eq_zero keyLength⟩

end Embedkv.LayoutLaws
