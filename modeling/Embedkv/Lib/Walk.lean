import Mathlib.Data.Finset.Insert

/-!
# Walks along single links

A walk goes from place to place along `follow`, enters only where `enters`
allows and stops at a place it has visited. Where it stops, it has visited
exactly the places that can be reached: there is one way on from each place, so
refusing a second visit leaves nothing out.
-/

namespace Embedkv.Lib.Walk

set_option autoImplicit false

variable {α : Type} (enters : α → Prop) (follow : α → α)

/-- The places that can be entered on the way from `start`. -/
inductive Reached (start : α) : α → Prop
  | first (enter : enters start) : Reached start start
  | next {place : α} (before : Reached start place) (enter : enters (follow place)) :
      Reached start (follow place)

/-- A walk that has visited some places and stands before `next`. -/
structure Walked (start next : α) (visited : Finset α) : Prop where
  sound : ∀ place ∈ visited, Reached enters follow start place
  started : start ∈ visited ∨ start = next
  linked : ∀ place ∈ visited, follow place ∈ visited ∨ follow place = next
  arrived : next = start ∨ ∃ place ∈ visited, follow place = next

variable {enters follow}

theorem Walked.begin (start : α) : Walked enters follow start start ∅ where
  sound := fun _ member => absurd member (Finset.notMem_empty _)
  started := .inr rfl
  linked := fun _ member => absurd member (Finset.notMem_empty _)
  arrived := .inl rfl

theorem Walked.reaches {start next : α} {visited : Finset α}
    (walked : Walked enters follow start next visited) (enter : enters next) :
    Reached enters follow start next := by
  rcases walked.arrived with rfl | ⟨place, member, rfl⟩
  · exact .first enter
  · exact .next (walked.sound place member) enter

theorem Walked.step [DecidableEq α] {start next : α} {visited : Finset α}
    (walked : Walked enters follow start next visited) (enter : enters next) :
    Walked enters follow start (follow next) (insert next visited) where
  sound := by
    intro place member
    rcases Finset.mem_insert.mp member with rfl | before
    · exact walked.reaches enter
    · exact walked.sound place before
  started := by
    left
    rcases walked.started with before | rfl
    · exact Finset.mem_insert_of_mem before
    · exact Finset.mem_insert_self _ _
  linked := by
    intro place member
    rcases Finset.mem_insert.mp member with rfl | before
    · exact .inr rfl
    · left
      rcases walked.linked place before with inside | here
      · exact Finset.mem_insert_of_mem inside
      · rw [here]
        exact Finset.mem_insert_self _ _
  arrived := .inr ⟨next, Finset.mem_insert_self _ _, rfl⟩

/-- A walk that cannot go on has visited all it can reach. -/
theorem Walked.stopped {start next : α} {visited : Finset α}
    (walked : Walked enters follow start next visited) (stops : enters next → next ∈ visited)
    (place : α) : Reached enters follow start place ↔ place ∈ visited := by
  constructor
  · intro reached
    induction reached with
    | first enter =>
        rcases walked.started with inside | rfl
        · exact inside
        · exact stops enter
    | next _ enter ih =>
        rcases walked.linked _ ih with inside | here
        · exact inside
        · rw [here] at enter ⊢
          exact stops enter
  · exact walked.sound place

end Embedkv.Lib.Walk
