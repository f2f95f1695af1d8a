import Mathlib.Data.List.GetD
import Mathlib.Logic.Function.Iterate

/-!
# Reflected cyclic redundancy checks

The register of a reflected check of width `w` takes a message one bit at a
time: it moves down by one place, and the bit that leaves it, combined with the
message bit, decides whether the polynomial is added. A step is linear in
exclusive or. It is also injective in the register when the polynomial has its
top bit, which is the bit a step sets. Two messages of one length that differ
within a window of at most `w` bits therefore leave different registers.
-/

namespace Embedkv.Lib.Crc

set_option autoImplicit false

variable {w : Nat} (poly : BitVec w)

/-- The polynomial, when the bit asks for it. -/
def addend (bit : Bool) : BitVec w := if bit then poly else 0

/-- One message bit. -/
def feed (reg : BitVec w) (bit : Bool) : BitVec w :=
  (reg >>> 1) ^^^ addend poly (reg.getLsbD 0 ^^ bit)

/-- A message, its first bit first. -/
def feedAll (reg : BitVec w) (bits : List Bool) : BitVec w := bits.foldl (feed poly) reg

/-- The check value of a message. -/
def check (init final : BitVec w) (bits : List Bool) : BitVec w := feedAll poly init bits ^^^ final

/-- A step that takes a zero from the message. -/
def shift (reg : BitVec w) : BitVec w := feed poly reg false

theorem feedAll_append (reg : BitVec w) (front back : List Bool) :
    feedAll poly reg (front ++ back) = feedAll poly (feedAll poly reg front) back :=
  List.foldl_append

theorem feedAll_zeros (reg : BitVec w) (count : Nat) :
    feedAll poly reg (List.replicate count false) = (shift poly)^[count] reg := by
  induction count generalizing reg with
  | zero => rfl
  | succ count ih =>
      rw [List.replicate_succ, Function.iterate_succ_apply]
      exact ih (shift poly reg)

/-! ## Linearity -/

theorem addend_xor (a b : Bool) : addend poly (a ^^ b) = addend poly a ^^^ addend poly b := by
  cases a <;> cases b <;> simp [addend]

theorem feed_xor (a b : BitVec w) (x y : Bool) :
    feed poly (a ^^^ b) (x ^^ y) = feed poly a x ^^^ feed poly b y := by
  simp only [feed, BitVec.ushiftRight_xor_distrib, BitVec.getLsbD_xor, addend_xor]
  ac_rfl

theorem shift_xor (a b : BitVec w) : shift poly (a ^^^ b) = shift poly a ^^^ shift poly b :=
  feed_xor poly a b false false

theorem shift_iterate_xor (count : Nat) (a b : BitVec w) :
    (shift poly)^[count] (a ^^^ b) = (shift poly)^[count] a ^^^ (shift poly)^[count] b := by
  induction count generalizing a b with
  | zero => rfl
  | succ count ih =>
      simp only [Function.iterate_succ_apply, shift_xor]
      exact ih _ _

/-! ## Words of a message -/

/-- The bits of a word, the lowest one first. -/
def bitsOf {n : Nat} (word : BitVec n) : List Bool := (List.range n).map word.getLsbD

@[simp] theorem bitsOf_length {n : Nat} (word : BitVec n) : (bitsOf word).length = n := by
  simp [bitsOf]

/-- A short message laid over the register. -/
def overlay (w : Nat) (bits : List Bool) : BitVec w := (BitVec.ofBoolListLE bits).setWidth w

theorem getLsbD_overlay (bits : List Bool) (i : Nat) :
    (overlay w bits).getLsbD i = (decide (i < w) && bits.getD i false) := by
  rw [overlay, BitVec.getLsbD_setWidth, BitVec.getLsbD_ofBoolListLE]

theorem overlay_bitsOf {n : Nat} (word : BitVec n) : overlay w (bitsOf word) = word.setWidth w := by
  apply BitVec.eq_of_getLsbD_eq
  intro i inside
  rw [getLsbD_overlay, BitVec.getLsbD_setWidth]
  by_cases low : i < n
  · simp [bitsOf, low]
  · simp [bitsOf, low, BitVec.getLsbD_of_ge word i (Nat.le_of_not_lt low)]

theorem bitsOf_injective {n : Nat} : Function.Injective (bitsOf : BitVec n → List Bool) := by
  intro a b same
  have laid := congrArg (overlay n) same
  rwa [overlay_bitsOf, overlay_bitsOf, BitVec.setWidth_eq, BitVec.setWidth_eq] at laid

/-- The bits of a message given in words. -/
def bitString {n : Nat} (words : List (BitVec n)) : List Bool := words.flatMap bitsOf

theorem bitString_append {n : Nat} (front back : List (BitVec n)) :
    bitString (front ++ back) = bitString front ++ bitString back := List.flatMap_append

@[simp] theorem bitString_length {n : Nat} (words : List (BitVec n)) :
    (bitString words).length = n * words.length := by
  induction words with
  | nil => simp [bitString]
  | cons word rest ih =>
      rw [bitString, List.flatMap_cons, List.length_append, bitsOf_length, List.length_cons,
        Nat.mul_succ, Nat.add_comm]
      exact congrArg (· + n) ih

theorem bitString_injective {n : Nat} {xs ys : List (BitVec n)} (length : xs.length = ys.length)
    (same : bitString xs = bitString ys) : xs = ys := by
  induction xs generalizing ys with
  | nil => exact (List.eq_nil_of_length_eq_zero length.symm).symm
  | cons x xs ih =>
      cases ys with
      | nil => cases length
      | cons y ys =>
          rw [bitString, bitString, List.flatMap_cons, List.flatMap_cons] at same
          obtain ⟨heads, tails⟩ := List.append_inj same (by simp)
          rw [bitsOf_injective heads, ih (Nat.succ.inj length) tails]

theorem overlay_injective {xs ys : List Bool} (length : xs.length = ys.length)
    (short : xs.length ≤ w) (same : overlay w xs = overlay w ys) : xs = ys := by
  apply List.ext_getElem length
  intro i inXs inYs
  have bit := congrArg (fun word => word.getLsbD i) same
  simp only [getLsbD_overlay, show i < w by omega, decide_true, Bool.true_and] at bit
  rwa [List.getD_eq_getElem _ _ inXs, List.getD_eq_getElem _ _ inYs] at bit

/-- A message that fits the register may be added to it first and the register
shifted afterwards. -/
theorem feedAll_overlay (reg : BitVec w) {bits : List Bool} (short : bits.length ≤ w) :
    feedAll poly reg bits = (shift poly)^[bits.length] (reg ^^^ overlay w bits) := by
  induction bits generalizing reg with
  | nil =>
      have empty : overlay w [] = 0 := by
        apply BitVec.eq_of_getLsbD_eq
        intro i _
        rw [getLsbD_overlay]
        simp
      simp [feedAll, empty]
  | cons bit rest ih =>
      have room : rest.length < w := short
      have low : (overlay w (bit :: rest)).getLsbD 0 = bit := by
        rw [getLsbD_overlay]
        simp [show 0 < w by omega]
      have high : overlay w (bit :: rest) >>> 1 = overlay w rest := by
        apply BitVec.eq_of_getLsbD_eq
        intro i inside
        rw [BitVec.getLsbD_ushiftRight, getLsbD_overlay, getLsbD_overlay, Nat.add_comm 1 i,
          List.getD_cons_succ]
        -- The last place of the register is empty: the message ends before it.
        by_cases last : i + 1 < w
        · simp [last, inside]
        · simp [last, List.getElem?_eq_none (show rest.length ≤ i by omega)]
      have stepped : shift poly (reg ^^^ overlay w (bit :: rest)) =
          feed poly reg bit ^^^ overlay w rest := by
        simp only [shift, feed, BitVec.ushiftRight_xor_distrib, BitVec.getLsbD_xor, low, high,
          Bool.xor_false]
        ac_rfl
      rw [List.length_cons, Function.iterate_succ_apply, stepped]
      exact ih (feed poly reg bit) (by omega)

/-- A whole word of the message, added to the register. -/
theorem feedAll_bitsOf (reg : BitVec w) {n : Nat} (word : BitVec n) (short : n ≤ w) :
    feedAll poly reg (bitsOf word) = (shift poly)^[n] (reg ^^^ word.setWidth w) := by
  rw [feedAll_overlay poly reg (by rwa [bitsOf_length]), bitsOf_length, overlay_bitsOf]

/-! ## Table look-up -/

/-- A register whose low bits are clear only moves down. -/
theorem shift_iterate_high (count : Nat) {reg : BitVec w}
    (clear : ∀ i, i < count → reg.getLsbD i = false) : (shift poly)^[count] reg = reg >>> count := by
  induction count with
  | zero => simp
  | succ count ih =>
      have before := ih fun i low => clear i (by omega)
      have out : (reg >>> count).getLsbD 0 = false := by
        rw [BitVec.getLsbD_ushiftRight]
        exact clear count (by omega)
      rw [Function.iterate_succ_apply', before, shift, feed, out]
      simp [addend, BitVec.shiftRight_add]

/-- Several shifts of a register: those of its low bits, which a table can hold,
and the rest of it moved down. -/
theorem shift_iterate_split (count : Nat) (reg mask : BitVec w)
    (masks : ∀ i, i < w → mask.getLsbD i = decide (i < count)) :
    (shift poly)^[count] reg = (reg >>> count) ^^^ (shift poly)^[count] (reg &&& mask) := by
  have parts : reg = (reg &&& ~~~mask) ^^^ (reg &&& mask) := by
    apply BitVec.eq_of_getLsbD_eq
    intro i inside
    rw [BitVec.getLsbD_xor, BitVec.getLsbD_and, BitVec.getLsbD_and, BitVec.getLsbD_not]
    cases reg.getLsbD i <;> cases mask.getLsbD i <;> simp [inside]
  have clear : ∀ i, i < count → (reg &&& ~~~mask).getLsbD i = false := by
    intro i low
    by_cases inside : i < w
    · simp [masks i inside, low]
    · exact BitVec.getLsbD_of_ge _ i (Nat.le_of_not_lt inside)
  have moved : (reg &&& ~~~mask) >>> count = reg >>> count := by
    apply BitVec.eq_of_getLsbD_eq
    intro i _
    rw [BitVec.getLsbD_ushiftRight, BitVec.getLsbD_ushiftRight]
    by_cases inside : count + i < w
    · rw [BitVec.getLsbD_and, BitVec.getLsbD_not, masks _ inside]
      simp [inside]
    · rw [BitVec.getLsbD_of_ge _ _ (Nat.le_of_not_lt inside),
        BitVec.getLsbD_of_ge _ _ (Nat.le_of_not_lt inside)]
  calc (shift poly)^[count] reg
      = (shift poly)^[count] ((reg &&& ~~~mask) ^^^ (reg &&& mask)) := by rw [← parts]
    _ = (shift poly)^[count] (reg &&& ~~~mask) ^^^ (shift poly)^[count] (reg &&& mask) :=
        shift_iterate_xor poly count _ _
    _ = (reg >>> count) ^^^ (shift poly)^[count] (reg &&& mask) := by
        rw [shift_iterate_high poly count clear, moved]

/-! ## Injectivity and bursts -/

section
variable {poly} (top : poly.msb = true)
include top

/-- The top bit of the register says whether the last step added the polynomial. -/
theorem feed_msb (reg : BitVec w) (bit : Bool) :
    (feed poly reg bit).msb = (reg.getLsbD 0 ^^ bit) := by
  rw [feed, BitVec.msb_xor, BitVec.msb_ushiftRight]
  cases out : reg.getLsbD 0 ^^ bit <;> simp [addend, top]

theorem feed_injective (bit : Bool) : Function.Injective (feed poly · bit) := by
  intro a b same
  simp only at same
  have low : a.getLsbD 0 = b.getLsbD 0 := by
    have out := congrArg BitVec.msb same
    rw [feed_msb top, feed_msb top] at out
    exact Bool.xor_right_inj.mp (by rwa [Bool.xor_comm bit, Bool.xor_comm bit])
  have high : a >>> 1 = b >>> 1 := by
    rw [feed, feed, low] at same
    exact (BitVec.xor_left_inj _).mp same
  apply BitVec.eq_of_getLsbD_eq
  intro i _
  cases i with
  | zero => exact low
  | succ i =>
      have bits := congrArg (fun word => word.getLsbD i) high
      simpa [Nat.add_comm 1 i] using bits

theorem feedAll_injective (bits : List Bool) : Function.Injective (feedAll poly · bits) := by
  induction bits with
  | nil => exact fun _ _ same => same
  | cons bit rest ih =>
      intro a b same
      exact feed_injective top bit (ih same)

/-- From one register, messages that fit it leave different registers. -/
theorem feedAll_separates (reg : BitVec w) {xs ys : List Bool} (length : xs.length = ys.length)
    (short : xs.length ≤ w) (same : feedAll poly reg xs = feedAll poly reg ys) : xs = ys := by
  rw [feedAll_overlay poly reg short, feedAll_overlay poly reg (by omega), ← length,
    ← feedAll_zeros, ← feedAll_zeros] at same
  have laid := feedAll_injective top _ same
  exact overlay_injective length short ((BitVec.xor_right_inj reg).mp laid)

/-- A check detects every change within a window no wider than the register. -/
theorem check_burst (init final : BitVec w) {n : Nat} {front back xs ys : List (BitVec n)}
    (length : xs.length = ys.length) (short : n * xs.length ≤ w)
    (same : check poly init final (bitString (front ++ xs ++ back)) =
      check poly init final (bitString (front ++ ys ++ back))) : xs = ys := by
  have regs := (BitVec.xor_left_inj _).mp same
  simp only [bitString_append, feedAll_append] at regs
  have windows := feedAll_separates top _ (by simp [length]) (by simpa using short)
    (feedAll_injective top (bitString back) regs)
  exact bitString_injective length windows

end

end Embedkv.Lib.Crc
