import Mathlib.Data.List.Basic

/-!
# Equal blocks end to end

A list of blocks of one size, laid out one behind the other, with or without
something behind the last. The block at a place is a slice of the whole, and a
block put in its place is a slice replaced.
-/

namespace Embedkv.Lib.Blocks

set_option autoImplicit false

variable {α : Type} {size : Nat} {blocks : List (List α)}

theorem length_flatten (sized : ∀ block ∈ blocks, block.length = size) :
    blocks.flatten.length = blocks.length * size := by
  rw [List.length_flatten, List.map_eq_replicate_iff.mpr sized, List.sum_replicate_nat]

theorem take_drop_flatten (sized : ∀ block ∈ blocks, block.length = size) (tail : List α)
    {place : Nat} {block : List α} (found : blocks[place]? = some block) :
    ((blocks.flatten ++ tail).drop (place * size)).take size = block := by
  induction blocks generalizing place with
  | nil => cases found
  | cons first rest ih =>
      obtain ⟨here, later⟩ := List.forall_mem_cons.mp sized
      rw [List.flatten_cons, List.append_assoc]
      cases place with
      | zero =>
          obtain rfl : first = block := Option.some.inj found
          rw [Nat.zero_mul, List.drop_zero, List.take_left' here]
      | succ place =>
          rw [Nat.succ_mul, Nat.add_comm, ← List.drop_drop, List.drop_left' here]
          exact ih later found

/-- A block put in its place replaces the slice it takes. -/
theorem flatten_set (sized : ∀ block ∈ blocks, block.length = size) (tail : List α)
    {place : Nat} (inside : place < blocks.length) (block : List α) :
    (blocks.set place block).flatten ++ tail =
      (blocks.flatten ++ tail).take (place * size) ++ block ++
        (blocks.flatten ++ tail).drop (place * size + size) := by
  induction blocks generalizing place with
  | nil => cases inside
  | cons first rest ih =>
      obtain ⟨here, later⟩ := List.forall_mem_cons.mp sized
      have joined : (first :: rest).flatten ++ tail = first ++ (rest.flatten ++ tail) := by
        rw [List.flatten_cons, List.append_assoc]
      rw [joined]
      cases place with
      | zero =>
          rw [List.set_cons_zero, List.flatten_cons, Nat.zero_mul, Nat.zero_add, List.take_zero,
            List.nil_append, List.drop_left' here, List.append_assoc]
      | succ place =>
          have behind : (place + 1) * size = first.length + place * size := by
            rw [Nat.succ_mul, Nat.add_comm, here]
          rw [List.set_cons_succ, List.flatten_cons, List.append_assoc,
            ih later (Nat.lt_of_succ_lt_succ inside), behind, List.take_length_add_append,
            Nat.add_assoc, List.drop_length_add_append, List.append_assoc, List.append_assoc,
            List.append_assoc]

end Embedkv.Lib.Blocks
