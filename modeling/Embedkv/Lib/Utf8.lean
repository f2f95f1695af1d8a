import Embedkv.Lib.Bytes

/-!
# Lossy UTF-8 decoding

The standard library's `String::from_utf8_lossy`, as the bytes of the string it
returns: well-formed characters are kept, and every maximal ill-formed sequence
becomes one U+FFFD. On well-formed input it is the identity; elsewhere it is
far from injective.
-/

namespace Embedkv.Lib

set_option autoImplicit false

/-- A continuation byte, `byte & 192 == 128`. -/
def isCont (byte : UInt8) : Bool := 0x80 ≤ byte && byte ≤ 0xBF

/-- The second byte a three- or four-byte lead admits. -/
def secondFits (lead second : UInt8) : Bool :=
  if lead = 0xE0 then 0xA0 ≤ second && second ≤ 0xBF
  else if lead = 0xED then 0x80 ≤ second && second ≤ 0x9F
  else if lead = 0xF0 then 0x90 ≤ second && second ≤ 0xBF
  else if lead = 0xF4 then 0x80 ≤ second && second ≤ 0x8F
  else isCont second

/-- `utf8_char_width` on a byte above the ASCII range. -/
def charWidth (lead : UInt8) : Nat :=
  if 0xC2 ≤ lead && lead ≤ 0xDF then 2
  else if 0xE0 ≤ lead && lead ≤ 0xEF then 3
  else if 0xF0 ≤ lead && lead ≤ 0xF4 then 4
  else 0

/-- How far the scan gets from a lead byte, and whether what it read is a
character. A byte past the end reads as zero and is no continuation. -/
def scanChar (lead : UInt8) (rest : Bytes) : Bool × Nat :=
  if lead < 0x80 then (true, 0)
  else match charWidth lead with
    | 2 => if isCont (rest.getD 0 0) then (true, 1) else (false, 0)
    | 3 =>
      if secondFits lead (rest.getD 0 0) then
        if isCont (rest.getD 1 0) then (true, 2) else (false, 1)
      else (false, 0)
    | 4 =>
      if secondFits lead (rest.getD 0 0) then
        if isCont (rest.getD 1 0) then
          if isCont (rest.getD 2 0) then (true, 3) else (false, 2)
        else (false, 1)
      else (false, 0)
    | _ => (false, 0)

/-- U+FFFD in UTF-8. -/
def replacement : Bytes := [0xEF, 0xBF, 0xBD]

def fromUtf8Lossy : Bytes → Bytes
  | [] => []
  | lead :: rest =>
    let scanned := scanChar lead rest
    if scanned.1 then lead :: rest.take scanned.2 ++ fromUtf8Lossy (rest.drop scanned.2)
    else replacement ++ fromUtf8Lossy (rest.drop scanned.2)
termination_by bytes => bytes.length
decreasing_by all_goals simp only [List.length_drop, List.length_cons]; omega

def isUtf8 : Bytes → Bool
  | [] => true
  | lead :: rest =>
    let scanned := scanChar lead rest
    scanned.1 && isUtf8 (rest.drop scanned.2)
termination_by bytes => bytes.length
decreasing_by simp only [List.length_drop, List.length_cons]; omega

/-- Well-formed bytes decode to themselves. -/
theorem fromUtf8Lossy_of_isUtf8 (bytes : Bytes) (wellFormed : isUtf8 bytes = true) :
    fromUtf8Lossy bytes = bytes := by
  induction bytes using isUtf8.induct with
  | case1 => rw [fromUtf8Lossy]
  | case2 lead rest scanned ih =>
      rw [isUtf8, Bool.and_eq_true] at wellFormed
      obtain ⟨valid, tail⟩ := wellFormed
      rw [fromUtf8Lossy]
      simp only [valid, if_true]
      rw [ih tail, List.cons_append, List.take_append_drop]

end Embedkv.Lib
