import Mathlib.Algebra.BigOperators.Group.Finset.Basic
import Mathlib.Algebra.GroupWithZero.Nat
import Mathlib.Data.Finmap

/-!
# Finite maps within a budget

A map whose entries cost something, in a place that has room for a total. An
insertion pays for the new entry while the one it replaces is still there, so
it is refused by what the whole map costs and not by what it would cost then.
Everything an insertion answers follows from the map and the budget.
-/

namespace Embedkv.Lib

set_option autoImplicit false

structure Budget (κ ν : Type) where
  fits : κ → Bool
  cost : κ → ν → Nat
  total : Nat

/-- Why an insertion is refused: the key does not fit, or there is no room. -/
inductive Refusal where
  | unfit
  | full
  deriving DecidableEq, Repr

namespace Budget

variable {κ ν : Type} [DecidableEq κ] (budget : Budget κ ν)

/-- What the entry of a key costs, nothing where there is none. -/
def priceAt (m : Finmap fun _ : κ => ν) (key : κ) : Nat :=
  ((m.lookup key).map (budget.cost key)).getD 0

def spent (m : Finmap fun _ : κ => ν) : Nat := ∑ key ∈ m.keys, budget.priceAt m key

def put (m : Finmap fun _ : κ => ν) (key : κ) (value : ν) :
    Except Refusal Unit × Finmap fun _ : κ => ν :=
  if !budget.fits key then (.error .unfit, m)
  else if budget.total < budget.spent m + budget.cost key value then (.error .full, m)
  else (.ok (), m.insert key value)

variable {m : Finmap fun _ : κ => ν} {key : κ} {value : ν}

theorem priceAt_present (found : m.lookup key = some value) :
    budget.priceAt m key = budget.cost key value := by
  rw [priceAt, found]
  rfl

/-- Where a list has each key of the map once, its entries are what the map costs. -/
theorem spent_listed {ι : Type} {entries : List ι} {keyOf : ι → κ}
    (once : (entries.map keyOf).Nodup) (keys : m.keys = (entries.map keyOf).toFinset) :
    budget.spent m = (entries.map fun entry => budget.priceAt m (keyOf entry)).sum := by
  rw [spent, keys, List.sum_toFinset _ once, List.map_map]
  rfl

theorem put_unfit (unfit : budget.fits key = false) :
    budget.put m key value = (.error .unfit, m) := by
  rw [put, unfit]
  rfl

theorem put_full (fits : budget.fits key = true)
    (full : budget.total < budget.spent m + budget.cost key value) :
    budget.put m key value = (.error .full, m) := by
  rw [put, fits, if_pos full]
  rfl

theorem put_stored (fits : budget.fits key = true)
    (room : budget.spent m + budget.cost key value ≤ budget.total) :
    budget.put m key value = (.ok (), m.insert key value) := by
  rw [put, fits, if_neg (Nat.not_lt.mpr room)]
  rfl

end Budget

end Embedkv.Lib
