import Embedkv.Codec
import Embedkv.Lib.Crc

/-!
# The block checksum

Both implementations compute the CRC a byte at a time from a table and around a
field that counts as zero. The result is the bitwise reflected CRC-32 of the
block with that field zeroed. It detects every change within four consecutive
bytes, since they are no more bits than the register has.
-/

namespace Embedkv.CrcLaws

open Embedkv.Lib Embedkv.Format Embedkv.Codec

set_option autoImplicit false

/-- The reflected IEEE polynomial. -/
def ieeePoly : BitVec 32 := 0xEDB88320#32

/-- The words of a byte string. -/
def wordsOf (data : Bytes) : List (BitVec 8) := data.map UInt8.toBitVec

/-- CRC-32/IEEE by its definition: the message bit by bit, each byte from its
lowest bit. -/
def crc32Ieee (data : Bytes) : UInt32 :=
  UInt32.ofBitVec (Crc.check ieeePoly 0xFFFFFFFF#32 0xFFFFFFFF#32 (Crc.bitString (wordsOf data)))

-- The check value of the nine digits, as published for CRC-32/IEEE.
example : crc32Ieee [0x31, 0x32, 0x33, 0x34, 0x35, 0x36, 0x37, 0x38, 0x39] = 0xCBF43926 := by
  decide +kernel

/-! ## From the table to the bits -/

theorem low_bit (crc : UInt32) : crc &&& 1 ≠ 0 ↔ crc.toBitVec.getLsbD 0 = true := by
  have low : (crc &&& 1).toNat = crc.toNat % 2 := by
    rw [UInt32.toNat_and]
    exact Nat.and_one_is_mod _
  rw [ne_eq, ← UInt32.toNat_inj, low, BitVec.getLsbD, Nat.testBit_zero, decide_eq_true_eq]
  change ¬crc.toNat % 2 = 0 ↔ crc.toNat % 2 = 1
  omega

theorem crcBit_toBitVec (crc : UInt32) :
    (Rust.crcBit crc).toBitVec = Crc.shift ieeePoly crc.toBitVec := by
  unfold Rust.crcBit Crc.shift Crc.feed
  rw [Bool.xor_false]
  by_cases low : crc &&& 1 ≠ 0
  · rw [if_pos low, (low_bit crc).mp low]
    rfl
  · have clear : crc.toBitVec.getLsbD 0 = false := by
      rw [← Bool.not_eq_true]
      exact fun set => low ((low_bit crc).mpr set)
    rw [if_neg low, clear]
    simp [Crc.addend]

theorem crcBit_iterate (count : Nat) (crc : UInt32) :
    (Rust.crcBit^[count] crc).toBitVec = (Crc.shift ieeePoly)^[count] crc.toBitVec := by
  induction count generalizing crc with
  | zero => rfl
  | succ count ih =>
      rw [Function.iterate_succ_apply, Function.iterate_succ_apply, ih, crcBit_toBitVec]

theorem crcTable_getD {index : UInt32} (small : index.toNat < 256) :
    Rust.crcTable.getD index.toNat 0 = Rust.crcBit^[8] index := by
  have bound : index.toNat < Rust.crcTable.length := by simpa [Rust.crcTable] using small
  rw [List.getD_eq_getElem _ _ bound]
  simp [Rust.crcTable]

theorem byte_moved_out (byte : UInt8) : byte.toBitVec.setWidth 32 >>> 8 = 0#32 := by
  apply BitVec.eq_of_getLsbD_eq
  intro i _
  rw [BitVec.getLsbD_ushiftRight, BitVec.getLsbD_setWidth,
    BitVec.getLsbD_of_ge byte.toBitVec (8 + i) (by omega)]
  simp

/-- The mask of a byte index, bit by bit. -/
theorem byte_mask (i : Nat) : (0xFF#32).getLsbD i = decide (i < 8) := by
  change (2 ^ 8 - 1).testBit i = _
  exact Nat.testBit_two_pow_sub_one 8 i

/-- One byte from the table is eight bits fed one by one. -/
theorem crc32Update_byte (crc : UInt32) (byte : UInt8) :
    ((crc >>> 8) ^^^ Rust.crcTable.getD ((crc ^^^ byte.toUInt32) &&& 0xFF).toNat 0).toBitVec =
      Crc.feedAll ieeePoly crc.toBitVec (Crc.bitsOf byte.toBitVec) := by
  have small : ((crc ^^^ byte.toUInt32) &&& 0xFF).toNat < 256 := by
    rw [UInt32.toNat_and]
    exact Nat.lt_of_le_of_lt Nat.and_le_right (by decide)
  have widened : byte.toUInt32.toBitVec = byte.toBitVec.setWidth 32 := rfl
  have split := Crc.shift_iterate_split ieeePoly 8 (crc.toBitVec ^^^ byte.toBitVec.setWidth 32)
    0xFF#32 fun i _ => byte_mask i
  rw [Crc.feedAll_bitsOf ieeePoly _ _ (by decide), split, BitVec.ushiftRight_xor_distrib,
    byte_moved_out, BitVec.xor_zero, crcTable_getD small, UInt32.toBitVec_xor, crcBit_iterate,
    UInt32.toBitVec_and, UInt32.toBitVec_xor, widened]
  rfl

theorem crc32Update_toBitVec (crc : UInt32) (data : Bytes) :
    (Rust.crc32Update crc data).toBitVec =
      Crc.feedAll ieeePoly crc.toBitVec (Crc.bitString (wordsOf data)) := by
  induction data generalizing crc with
  | nil => rfl
  | cons byte rest ih =>
      have fed := ih ((crc >>> 8) ^^^
        Rust.crcTable.getD ((crc ^^^ byte.toUInt32) &&& 0xFF).toNat 0)
      rw [crc32Update_byte, ← Crc.feedAll_append] at fed
      exact fed

theorem crc32Update_append (crc : UInt32) (front back : Bytes) :
    Rust.crc32Update (Rust.crc32Update crc front) back = Rust.crc32Update crc (front ++ back) :=
  List.foldl_append.symm

theorem crc32Ieee_eq (data : Bytes) :
    Rust.crc32Update 0xFFFFFFFF data ^^^ 0xFFFFFFFF = crc32Ieee data := by
  rw [← UInt32.toBitVec_inj, UInt32.toBitVec_xor, crc32Update_toBitVec]
  rfl

/-- The three pieces the checksum is computed over are the block with its field zeroed. -/
theorem computeBlockCrc32_ieee (buf : Bytes) (crcOffset : Nat) :
    Rust.computeBlockCrc32 buf crcOffset = crc32Ieee (splice crcOffset [0, 0, 0, 0] buf) := by
  rw [← crc32Ieee_eq, splice, ← crc32Update_append, ← crc32Update_append]
  rfl

theorem block_crc_is_ieee (buf : Bytes) (long : 4 ≤ buf.length) :
    (∀ crcOffset, crcOffset ≤ buf.length - 4 →
      Rust.computeBlockCrc32 buf crcOffset = crc32Ieee (splice crcOffset [0, 0, 0, 0] buf) ∧
        Go.computeBlockCRC32 buf crcOffset = crc32Ieee (splice crcOffset [0, 0, 0, 0] buf)) ∧
      Rust.verifyBlockCrc (Rust.writeBlockCrc buf) = true ∧
      Go.verifyBlockCRC (Go.writeBlockCRC buf) = true := by
  refine ⟨?_, verifyBlockCrc_writeBlockCrc buf long, ?_⟩
  · intro crcOffset _
    rw [computeBlockCRC32_eq]
    exact ⟨computeBlockCrc32_ieee buf crcOffset, computeBlockCrc32_ieee buf crcOffset⟩
  · rw [writeBlockCRC_eq, verifyBlockCRC_eq]
    exact verifyBlockCrc_writeBlockCrc buf long

theorem block_crc_is_ieee_digits :
    Rust.computeBlockCrc32 [0x31, 0x32, 0x33, 0x34, 0x35] 1 = crc32Ieee [0x31, 0, 0, 0, 0] :=
  ((block_crc_is_ieee [0x31, 0x32, 0x33, 0x34, 0x35] (by decide)).1 1 (by decide)).1

/-! ## Bursts -/

@[simp] theorem wordsOf_length (data : Bytes) : (wordsOf data).length = data.length :=
  List.length_map _

theorem wordsOf_append (front back : Bytes) :
    wordsOf (front ++ back) = wordsOf front ++ wordsOf back := List.map_append

theorem wordsOf_injective {xs ys : Bytes} (same : wordsOf xs = wordsOf ys) : xs = ys :=
  List.map_injective_iff.mpr (fun _ _ bits => UInt8.toBitVec_inj.mp bits) same

/-- Blocks with one checksum that agree outside a window of four bytes are equal. -/
theorem crc32Ieee_burst {front back xs ys : Bytes} (length : xs.length = ys.length)
    (short : xs.length ≤ 4)
    (same : crc32Ieee (front ++ xs ++ back) = crc32Ieee (front ++ ys ++ back)) : xs = ys := by
  have top : ieeePoly.msb = true := by decide
  have checks := congrArg UInt32.toBitVec same
  simp only [crc32Ieee] at checks
  simp only [wordsOf_append] at checks
  apply wordsOf_injective
  exact Crc.check_burst top _ _ (by simpa using length) (by rw [wordsOf_length]; omega) checks

/-- A byte string around a window of four bytes. -/
theorem window_split (data : Bytes) (start : Nat) :
    data = data.take start ++ (data.drop start).take 4 ++ data.drop (start + 4) := by
  rw [List.append_assoc, ← List.drop_drop, List.take_append_drop, List.take_append_drop]

section
variable {before after : Bytes} {start : Nat} (length : after.length = before.length)
  (window : ∀ i < before.length, after.getD i 0 ≠ before.getD i 0 →
    start ≤ i ∧ i < start + 4 ∧ i < before.length - 4)
include length window

theorem agree_outside {i : Nat} (outside : ¬(start ≤ i ∧ i < start + 4 ∧ i < before.length - 4)) :
    after[i]? = before[i]? := by
  by_cases inside : i < before.length
  · have same : after.getD i 0 = before.getD i 0 := by
      by_contra different
      exact outside (window i inside different)
    rw [List.getD_eq_getElem _ _ inside, List.getD_eq_getElem _ _ (by omega)] at same
    rw [List.getElem?_eq_getElem inside, List.getElem?_eq_getElem (by omega), same]
  · rw [List.getElem?_eq_none (by omega), List.getElem?_eq_none (by omega)]

/-- The stored CRC lies outside the window. -/
theorem tail_kept : after.drop (before.length - 4) = before.drop (before.length - 4) := by
  apply List.ext_getElem?
  intro i
  rw [List.getElem?_drop, List.getElem?_drop, agree_outside length window (by omega)]

/-- Blocks that differ within such a window have different checksums. -/
theorem body_burst
    (same : bodyCrc (after.take (before.length - 4)) = bodyCrc (before.take (before.length - 4))) :
    after = before := by
  have agree := fun i => agree_outside length window (i := i)
  have front : (after.take (before.length - 4)).take start =
      (before.take (before.length - 4)).take start := by
    apply List.ext_getElem?
    intro i
    simp only [List.getElem?_take]
    split
    next low => rw [agree i (by omega)]
    next => rfl
  have back : (after.take (before.length - 4)).drop (start + 4) =
      (before.take (before.length - 4)).drop (start + 4) := by
    apply List.ext_getElem?
    intro i
    rw [List.getElem?_drop, List.getElem?_drop, List.getElem?_take, List.getElem?_take,
      agree (start + 4 + i) (by omega)]
  have checks (body : Bytes) : bodyCrc body = crc32Ieee (body.take start ++
      (body.drop start).take 4 ++ (body.drop (start + 4) ++ [0, 0, 0, 0])) := by
    rw [bodyCrc, crc32Update_append, crc32Ieee_eq, ← List.append_assoc, ← window_split]
  rw [checks, checks, front, back] at same
  have bodies : ((after.take (before.length - 4)).drop start).take 4 =
      ((before.take (before.length - 4)).drop start).take 4 :=
    crc32Ieee_burst (by simp [length]) (List.length_take_le _ _) same
  calc after = after.take (before.length - 4) ++ after.drop (before.length - 4) :=
        (List.take_append_drop _ _).symm
    _ = before.take (before.length - 4) ++ before.drop (before.length - 4) := by
        rw [window_split (after.take _) start, front, bodies, back, tail_kept length window,
          ← window_split]
    _ = before := List.take_append_drop _ _

end

/-- A change within four consecutive bytes before the CRC field is detected. -/
theorem verify_detects_burst {before after : Bytes} (start : Nat) (long : 4 < before.length)
    (length : after.length = before.length) (different : after ≠ before)
    (window : ∀ i < before.length, after.getD i 0 ≠ before.getD i 0 →
      start ≤ i ∧ i < start + 4 ∧ i < before.length - 4) :
    (Rust.verifyBlockCrc before = true → Rust.verifyBlockCrc after = false) ∧
      (Go.verifyBlockCRC before = true → Go.verifyBlockCRC after = false) := by
  have stored : u32At after (before.length - 4) = u32At before (before.length - 4) := by
    rw [u32At, u32At, tail_kept length window]
  have rust : Rust.verifyBlockCrc before = true → Rust.verifyBlockCrc after = false := by
    intro valid
    by_contra accepted
    rw [Bool.not_eq_false] at accepted
    have computed := computeBlockCrc32_eq after (by omega)
    rw [length] at computed
    simp only [Rust.verifyBlockCrc, Rust.blockCrcOffset, length, computed,
      computeBlockCrc32_eq before (by omega), stored, beq_iff_eq] at valid accepted
    exact different (body_burst length window (accepted.trans valid.symm))
  rw [verifyBlockCRC_eq, verifyBlockCRC_eq]
  exact ⟨rust, rust⟩

/-- Two bytes changed in a sealed block of nine. -/
theorem verify_detects_swap :
    Rust.verifyBlockCrc (Rust.writeBlockCrc [1, 2, 3, 4, 5, 0, 0, 0, 0]) = true ∧
      Rust.verifyBlockCrc
        (splice 1 [3, 2] (Rust.writeBlockCrc [1, 2, 3, 4, 5, 0, 0, 0, 0])) = false := by
  have valid : Rust.verifyBlockCrc (Rust.writeBlockCrc [1, 2, 3, 4, 5, 0, 0, 0, 0]) = true := by
    decide +kernel
  refine ⟨valid, ?_⟩
  exact (verify_detects_burst 1 (by decide +kernel) (by decide +kernel) (by decide +kernel)
    (by decide +kernel)).1 valid

end Embedkv.CrcLaws
