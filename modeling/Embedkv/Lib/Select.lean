import Mathlib.Data.Finmap

/-!
# Keyed selection

A scan that keeps, for every key, the candidate of highest rank it has met, and
the earlier one on a tie. When positions grow along the scan, what is kept is
the candidate of highest rank and lowest position, whatever the order in which
the keys appear.
-/

namespace Embedkv.Lib

set_option autoImplicit false

section
variable {κ α : Type} [DecidableEq κ] (key : α → κ) (rank : α → Nat) (position : α → Nat)

/-- One step of the scan: a candidate replaces the kept one when it ranks higher. -/
def improve (best : Finmap fun _ : κ => α) (x : α) : Finmap fun _ : κ => α :=
  match best.lookup (key x) with
  | none => best.insert (key x) x
  | some kept => if rank x > rank kept then best.insert (key x) x else best

def select (xs : List α) : Finmap fun _ : κ => α := xs.foldl (improve key rank) ∅

/-- `x` is the candidate for `k`: no other has a higher rank, none of its rank
stands before it. -/
def Preferred (xs : List α) (k : κ) (x : α) : Prop :=
  x ∈ xs ∧ key x = k ∧ ∀ y ∈ xs, key y = k →
    rank y < rank x ∨ rank y = rank x ∧ position x ≤ position y

variable {key rank position}

theorem improve_other {best : Finmap fun _ : κ => α} {x : α} {k : κ} (other : key x ≠ k) :
    (improve key rank best x).lookup k = best.lookup k := by
  unfold improve
  split
  · exact Finmap.lookup_insert_of_ne _ other.symm
  · split
    · exact Finmap.lookup_insert_of_ne _ other.symm
    · rfl

theorem improve_unseen {best : Finmap fun _ : κ => α} {x : α}
    (unseen : best.lookup (key x) = none) :
    improve key rank best x = best.insert (key x) x := by
  simp only [improve, unseen]

theorem improve_seen {best : Finmap fun _ : κ => α} {x kept : α}
    (seen : best.lookup (key x) = some kept) :
    improve key rank best x = if rank x > rank kept then best.insert (key x) x else best := by
  simp only [improve, seen]

theorem improve_none {best : Finmap fun _ : κ => α} {x : α}
    (unseen : best.lookup (key x) = none) :
    (improve key rank best x).lookup (key x) = some x := by
  rw [improve_unseen unseen, Finmap.lookup_insert]

theorem improve_some {best : Finmap fun _ : κ => α} {x kept : α}
    (seen : best.lookup (key x) = some kept) :
    (improve key rank best x).lookup (key x) =
      some (if rank x > rank kept then x else kept) := by
  rw [improve_seen seen]
  split
  · exact Finmap.lookup_insert _
  · exact seen

omit [DecidableEq κ] in
theorem Preferred.unique {xs : List α} (sorted : (xs.map position).Pairwise (· < ·))
    {k : κ} {x y : α} (here : Preferred key rank position xs k x)
    (there : Preferred key rank position xs k y) : x = y := by
  have distinct : (xs.map position).Nodup := sorted.imp Nat.ne_of_lt
  apply List.inj_on_of_nodup_map distinct here.1 there.1
  have first := here.2.2 y there.1 there.2.1
  have second := there.2.2 x here.1 here.2.1
  omega

variable (key rank) in
/-- What a scan has kept so far: the preferred candidate of each key it met. -/
theorem select_kept (xs : List α) (sorted : (xs.map position).Pairwise (· < ·)) (k : κ) :
    match (select key rank xs).lookup k with
    | none => ∀ y ∈ xs, key y ≠ k
    | some x => Preferred key rank position xs k x := by
  -- The scan runs from the left, so the induction peels the last candidate.
  induction xs using List.reverseRecOn with
  | nil => simp [select]
  | append_singleton xs x ih =>
      rw [List.map_append, List.pairwise_append] at sorted
      obtain ⟨sortedBefore, _, later⟩ := sorted
      have after : ∀ y ∈ xs, position y < position x := fun y member =>
        later _ (List.mem_map_of_mem member) _ (by simp)
      have kept := ih sortedBefore
      have step : select key rank (xs ++ [x]) = improve key rank (select key rank xs) x :=
        List.foldl_concat ..
      rw [step]
      by_cases mine : key x = k
      · subst mine
        cases before : (select key rank xs).lookup (key x) with
        | none =>
            rw [before] at kept
            rw [improve_none before]
            refine ⟨by simp, rfl, ?_⟩
            intro y member same
            rcases List.mem_append.mp member with old | new
            · exact absurd same (kept y old)
            · rw [List.mem_singleton.mp new]
              omega
        | some best =>
            rw [before] at kept
            obtain ⟨inside, bestKey, leads⟩ := kept
            rw [improve_some before]
            by_cases higher : rank x > rank best
            · rw [if_pos higher]
              refine ⟨by simp, rfl, ?_⟩
              intro y member same
              rcases List.mem_append.mp member with old | new
              · have below := leads y old same
                omega
              · rw [List.mem_singleton.mp new]
                omega
            · rw [if_neg higher]
              refine ⟨by simp [inside], bestKey, ?_⟩
              intro y member same
              rcases List.mem_append.mp member with old | new
              · exact leads y old same
              · rw [List.mem_singleton.mp new]
                have earlier := after best inside
                omega
      · rw [improve_other mine]
        cases before : (select key rank xs).lookup k with
        | none =>
            rw [before] at kept
            intro y member
            rcases List.mem_append.mp member with old | new
            · exact kept y old
            · rw [List.mem_singleton.mp new]
              exact mine
        | some best =>
            rw [before] at kept
            obtain ⟨inside, bestKey, leads⟩ := kept
            refine ⟨by simp [inside], bestKey, ?_⟩
            intro y member same
            rcases List.mem_append.mp member with old | new
            · exact leads y old same
            · rw [List.mem_singleton.mp new] at same
              exact absurd same mine

omit [DecidableEq κ] in
/-- The candidate among images is the image of the candidate. -/
theorem preferred_map {β : Type} {f : β → α} {xs : List β} {k : κ} {x : α} :
    Preferred key rank position (xs.map f) k x ↔
      ∃ y, Preferred (key ∘ f) (rank ∘ f) (position ∘ f) xs k y ∧ x = f y := by
  constructor
  · rintro ⟨member, mine, leads⟩
    obtain ⟨y, stands, rfl⟩ := List.mem_map.mp member
    refine ⟨y, ⟨stands, mine, ?_⟩, rfl⟩
    intro other found same
    exact leads (f other) (List.mem_map_of_mem found) same
  · rintro ⟨y, ⟨stands, mine, leads⟩, rfl⟩
    refine ⟨List.mem_map_of_mem stands, mine, ?_⟩
    intro other member same
    obtain ⟨y', found, rfl⟩ := List.mem_map.mp member
    exact leads y' found same

theorem lookup_select_eq_some {xs : List α} (sorted : (xs.map position).Pairwise (· < ·))
    {k : κ} {x : α} :
    (select key rank xs).lookup k = some x ↔ Preferred key rank position xs k x := by
  have kept := select_kept key rank xs sorted k
  constructor
  · intro found
    rwa [found] at kept
  · intro preferred
    cases found : (select key rank xs).lookup k with
    | none =>
        rw [found] at kept
        exact absurd preferred.2.1 (kept x preferred.1)
    | some best =>
        rw [found] at kept
        rw [kept.unique sorted preferred]

theorem lookup_select_eq_none {xs : List α} (sorted : (xs.map position).Pairwise (· < ·)) {k : κ} :
    (select key rank xs).lookup k = none ↔ ∀ y ∈ xs, key y ≠ k := by
  have kept := select_kept key rank xs sorted k
  constructor
  · intro missing
    rwa [missing] at kept
  · intro absent
    cases found : (select key rank xs).lookup k with
    | none => rfl
    | some best =>
        rw [found] at kept
        exact absurd kept.2.1 (absent best kept.1)

/-- Keys that agree on the candidates select alike. -/
theorem select_congr {key' : α → κ} {xs : List α} (same : ∀ x ∈ xs, key x = key' x) :
    select key rank xs = select key' rank xs := by
  apply List.foldl_ext
  intro best x member
  rw [improve, improve, same x member]

end

end Embedkv.Lib
