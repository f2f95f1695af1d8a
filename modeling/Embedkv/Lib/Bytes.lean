import Mathlib.Data.List.Basic
import Mathlib.Tactic.Ring

/-!
# Little-endian words and slice copies on byte lists

The two directions of a fixed-width little-endian codec, and the copy of a
slice into a longer buffer. Adjacent copies merge into one, so a header written
field by field is one contiguous copy: a value laid out at the front of the buffer.
-/

namespace Embedkv.Lib

set_option autoImplicit false

abbrev Bytes := List UInt8

def leBytes : Nat → Nat → Bytes
  | 0, _ => []
  | width + 1, value => UInt8.ofNat value :: leBytes width (value / 256)

def leValue : Bytes → Nat
  | [] => 0
  | byte :: rest => byte.toNat + 256 * leValue rest

@[simp] theorem leBytes_length (width value : Nat) : (leBytes width value).length = width := by
  induction width generalizing value with
  | zero => rfl
  | succ width ih => simp [leBytes, ih]

theorem leValue_leBytes (width value : Nat) :
    leValue (leBytes width value) = value % 256 ^ width := by
  induction width generalizing value with
  | zero => simp [leBytes, leValue, Nat.mod_one]
  | succ width ih =>
      have low : (UInt8.ofNat value).toNat = value % 256 := by simp
      rw [leBytes, leValue, ih, low, pow_succ', Nat.mod_mul]

/-- Bytes are the little-endian form of the value they read as. -/
theorem leBytes_leValue (bytes : Bytes) : leBytes bytes.length (leValue bytes) = bytes := by
  induction bytes with
  | nil => rfl
  | cons byte rest ih =>
      have low : UInt8.ofNat (byte.toNat + 256 * leValue rest) = byte := by
        rw [← UInt8.toNat_inj, UInt8.toNat_ofNat', Nat.add_mul_mod_self_left]
        exact Nat.mod_eq_of_lt byte.toNat_lt
      have high : (byte.toNat + 256 * leValue rest) / 256 = leValue rest := by
        rw [Nat.add_mul_div_left _ _ (by decide), Nat.div_eq_of_lt byte.toNat_lt, Nat.zero_add]
      rw [List.length_cons, leValue, leBytes, low, high, ih]

theorem leValue_lt (bytes : Bytes) : leValue bytes < 256 ^ bytes.length := by
  have wrapped := leValue_leBytes bytes.length (leValue bytes)
  rw [leBytes_leValue] at wrapped
  rw [wrapped]
  exact Nat.mod_lt _ (Nat.pow_pos (by decide))

/-- Copy `source` into `buffer` at `offset`. -/
def splice (offset : Nat) (source buffer : Bytes) : Bytes :=
  buffer.take offset ++ source ++ buffer.drop (offset + source.length)

theorem splice_length (offset : Nat) (source buffer : Bytes)
    (fits : offset + source.length ≤ buffer.length) :
    (splice offset source buffer).length = buffer.length := by
  simp only [splice, List.length_append, List.length_take, List.length_drop]
  omega

theorem splice_zero (source buffer : Bytes) :
    splice 0 source buffer = source ++ buffer.drop source.length := by
  simp [splice]

/-- A copy placed right after a prefix extends that prefix. -/
theorem splice_append (front source buffer : Bytes) :
    splice front.length source (front ++ buffer) = front ++ source ++ buffer.drop source.length := by
  simp [splice, List.drop_append]

/-- The slice between two offsets is what was placed there. -/
theorem slice_between (front middle back : Bytes) {start stop : Nat} (first : front.length = start)
    (last : start + middle.length = stop) :
    ((front ++ middle ++ back).take stop).drop start = middle := by
  subst first last
  rw [← List.length_append, List.take_left, List.drop_left]

/-- A fixed-size encoding at the front of a longer buffer. Reading what was
written gives the value, and writing what was read gives the bytes it was read from. -/
structure FrontLayout (H : Type) where
  size : Nat
  bytes : H → Bytes
  read : Bytes → H
  bytes_length : ∀ h, (bytes h).length = size
  read_append : ∀ h rest, read (bytes h ++ rest) = h
  bytes_read : ∀ buf, size ≤ buf.length → bytes (read buf) = buf.take size

namespace FrontLayout

variable {H : Type} (layout : FrontLayout H)

/-- Write a value over the front of a buffer. -/
def overwrite (h : H) (buf : Bytes) : Bytes := layout.bytes h ++ buf.drop layout.size

theorem overwrite_length (h : H) {buf : Bytes} (long : layout.size ≤ buf.length) :
    (layout.overwrite h buf).length = buf.length := by
  rw [overwrite, List.length_append, layout.bytes_length, List.length_drop]
  omega

theorem overwrite_read {buf : Bytes} (long : layout.size ≤ buf.length) :
    layout.overwrite (layout.read buf) buf = buf := by
  rw [overwrite, layout.bytes_read buf long, List.take_append_drop]

/-- Cut anywhere behind the value, the buffer is the value and what stood behind it. -/
theorem take_overwrite (h : H) (buf : Bytes) {stop : Nat} (behind : layout.size ≤ stop) :
    (layout.overwrite h buf).take stop = layout.bytes h ++ (buf.take stop).drop layout.size := by
  have front := layout.bytes_length h
  rw [overwrite, List.take_append, front, List.take_of_length_le (by omega), List.drop_take]

end FrontLayout

end Embedkv.Lib
