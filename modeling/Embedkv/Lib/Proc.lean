import Mathlib.Data.List.Basic
import Mathlib.Data.List.Forall2

/-!
# Fallible procedures over a mutable state

A procedure takes a state and returns a result or a failure together with the
state it leaves behind. The state survives a failure: what a procedure did
before it failed stays done, as with an early return from a method that holds
its receiver mutably. Nothing here depends on what the state or the failures are.
-/

namespace Embedkv.Lib

set_option autoImplicit false

/-- A member of the second list has its partner in the first. -/
theorem exists_of_forall₂ {α β : Type} {related : α → β → Prop} {xs : List α} {ys : List β}
    (pairs : List.Forall₂ related xs ys) {y : β} (member : y ∈ ys) :
    ∃ x ∈ xs, related x y := by
  induction pairs with
  | nil => cases member
  | cons here _ ih =>
      rcases List.mem_cons.mp member with rfl | later
      · exact ⟨_, List.mem_cons_self, here⟩
      · obtain ⟨x, stands, holds⟩ := ih later
        exact ⟨x, List.mem_cons_of_mem _ stands, holds⟩

def Proc (ε σ α : Type) : Type := σ → Except ε α × σ

namespace Proc

variable {ε σ τ α β : Type}

instance : Monad (Proc ε σ) where
  pure value := fun state => (.ok value, state)
  bind first next := fun state =>
    match first state with
    | (.ok value, middle) => next value middle
    | (.error failure, middle) => (.error failure, middle)

def fail (failure : ε) : Proc ε σ α := fun state => (.error failure, state)

/-- A computation that touches no state. -/
def ofExcept (result : Except ε α) : Proc ε σ α := fun state => (result, state)

def get : Proc ε σ σ := fun state => (.ok state, state)

def modify (change : σ → σ) : Proc ε σ Unit := fun state => (.ok (), change state)

/-- Run a procedure on one component of the state. -/
def zoom (view : σ → τ) (put : σ → τ → σ) (inner : Proc ε τ α) : Proc ε σ α := fun state =>
  ((inner (view state)).1, put state (inner (view state)).2)

/-- Run a procedure on every member of a list in turn, threading an accumulator.
The first failure stops the iteration; members after it are left alone. -/
def each (body : β → Proc ε σ β) : β → Proc ε (List σ) β
  | seed, [] => (.ok seed, [])
  | seed, first :: rest =>
    match body seed first with
    | (.ok next, first') => ((each body next rest).1, first' :: (each body next rest).2)
    | (.error failure, first') => (.error failure, first' :: rest)

@[simp] theorem pure_apply (value : α) (state : σ) :
    (pure value : Proc ε σ α) state = (.ok value, state) := rfl

@[simp] theorem fail_apply (failure : ε) (state : σ) :
    (fail failure : Proc ε σ α) state = (.error failure, state) := rfl

@[simp] theorem ofExcept_apply (result : Except ε α) (state : σ) :
    (ofExcept result : Proc ε σ α) state = (result, state) := rfl

@[simp] theorem get_apply (state : σ) : (get : Proc ε σ σ) state = (.ok state, state) := rfl

@[simp] theorem modify_apply (change : σ → σ) (state : σ) :
    (modify change : Proc ε σ Unit) state = (.ok (), change state) := rfl

theorem zoom_apply (view : σ → τ) (put : σ → τ → σ) (inner : Proc ε τ α) (state : σ) :
    zoom view put inner state = ((inner (view state)).1, put state (inner (view state)).2) := rfl

theorem bind_ok {first : Proc ε σ α} {state middle : σ} {value : α}
    (ran : first state = (.ok value, middle)) (next : α → Proc ε σ β) :
    (first >>= next) state = next value middle := by
  simp only [bind, ran]

theorem bind_error {first : Proc ε σ α} {state middle : σ} {failure : ε}
    (ran : first state = (.error failure, middle)) (next : α → Proc ε σ β) :
    (first >>= next) state = (.error failure, middle) := by
  simp only [bind, ran]

/-- Continuations that agree where the first procedure succeeds give the same sequence. -/
theorem bind_congr_ok {first : Proc ε σ α} {next next' : α → Proc ε σ β} {state : σ}
    (same : ∀ value middle, first state = (.ok value, middle) →
      next value middle = next' value middle) :
    (first >>= next) state = (first >>= next') state := by
  rcases ran : first state with ⟨result, middle⟩
  cases result with
  | ok value => rw [bind_ok ran, bind_ok ran, same value middle ran]
  | error failure => rw [bind_error ran, bind_error ran]

theorem bind_first_congr {first first' : Proc ε σ α} {state : σ}
    (same : first state = first' state) (next : α → Proc ε σ β) :
    (first >>= next) state = (first' >>= next) state := by
  simp only [bind, same]

/-- A sequence that succeeded did so in both parts. -/
theorem bind_eq_ok {first : Proc ε σ α} {next : α → Proc ε σ β} {state : σ} {result : β}
    (ran : ((first >>= next) state).1 = .ok result) :
    ∃ value middle, first state = (.ok value, middle) ∧ (next value middle).1 = .ok result := by
  rcases head : first state with ⟨outcome, middle⟩
  cases outcome with
  | error failure =>
      rw [bind_error head] at ran
      cases ran
  | ok value =>
      rw [bind_ok head] at ran
      exact ⟨value, middle, rfl, ran⟩

theorem bind_ran {first : Proc ε σ α} {next : α → Proc ε σ β} {state after : σ} {result : β}
    (ran : (first >>= next) state = (.ok result, after)) :
    ∃ value middle, first state = (.ok value, middle) ∧ next value middle = (.ok result, after) := by
  obtain ⟨value, middle, head, _⟩ := bind_eq_ok (congrArg Prod.fst ran)
  rw [bind_ok head] at ran
  exact ⟨value, middle, head, ran⟩

theorem bind_failed {first : Proc ε σ α} {next : α → Proc ε σ β} {state after : σ} {failure : ε}
    (ran : (first >>= next) state = (.error failure, after)) :
    first state = (.error failure, after) ∨
      ∃ value middle, first state = (.ok value, middle) ∧
        next value middle = (.error failure, after) := by
  rcases head : first state with ⟨outcome, middle⟩
  cases outcome with
  | error other =>
      rw [bind_error head] at ran
      cases ran
      exact .inl rfl
  | ok value =>
      rw [bind_ok head] at ran
      exact .inr ⟨value, middle, rfl, ran⟩

theorem ofExcept_ran {result : Except ε α} {state after : σ} {value : α}
    (ran : (ofExcept result : Proc ε σ α) state = (.ok value, after)) :
    result = .ok value ∧ state = after := Prod.mk.inj ran

/-- What the first procedure leaves true and the rest keeps, the sequence leaves true. -/
theorem bind_keeps {holds : σ → Prop} {first : Proc ε σ α} {next : α → Proc ε σ β} {state : σ}
    (left : holds (first state).2)
    (keeps : ∀ value middle, holds middle → holds (next value middle).2) :
    holds ((first >>= next) state).2 := by
  rcases ran : first state with ⟨result, middle⟩
  rw [ran] at left
  cases result with
  | ok value => rw [bind_ok ran]; exact keeps value middle left
  | error failure => rw [bind_error ran]; exact left

theorem bind_assoc_apply {γ : Type} (first : Proc ε σ α) (next : α → Proc ε σ β)
    (last : β → Proc ε σ γ) (state : σ) :
    ((first >>= next) >>= last) state = (first >>= fun value => next value >>= last) state := by
  rcases ran : first state with ⟨result, middle⟩
  cases result with
  | ok value =>
      simp only [bind, ran]
  | error failure =>
      simp only [bind, ran]

/-- A procedure whose result is only repackaged. -/
theorem bind_pure_apply (first : Proc ε σ α) (change : α → β) (state : σ) :
    (first >>= fun value => pure (change value)) state =
      ((first state).1.map change, (first state).2) := by
  rcases ran : first state with ⟨result, middle⟩
  cases result with
  | ok value => rw [bind_ok ran]; rfl
  | error failure => rw [bind_error ran]; rfl

@[simp] theorem pure_bind_apply (value : α) (next : α → Proc ε σ β) (state : σ) :
    ((pure value : Proc ε σ α) >>= next) state = next value state := rfl

@[simp] theorem get_bind_apply (next : σ → Proc ε σ β) (state : σ) :
    ((get : Proc ε σ σ) >>= next) state = next state state := rfl

@[simp] theorem modify_bind_apply (change : σ → σ) (next : Unit → Proc ε σ β) (state : σ) :
    ((modify change : Proc ε σ Unit) >>= next) state = next () (change state) := rfl

@[simp] theorem ofExcept_ok_bind_apply (value : α) (next : α → Proc ε σ β) (state : σ) :
    ((ofExcept (.ok value) : Proc ε σ α) >>= next) state = next value state := rfl

@[simp] theorem ofExcept_error_bind_apply (failure : ε) (next : α → Proc ε σ β) (state : σ) :
    ((ofExcept (.error failure) : Proc ε σ α) >>= next) state = (.error failure, state) := rfl

theorem each_cons_ok {body : β → Proc ε σ β} {seed next : β} {first first' : σ}
    (turn : body seed first = (.ok next, first')) (rest : List σ) :
    each body seed (first :: rest) =
      ((each body next rest).1, first' :: (each body next rest).2) := by
  simp only [each, turn]

theorem each_cons_error {body : β → Proc ε σ β} {seed : β} {first first' : σ} {failure : ε}
    (turn : body seed first = (.error failure, first')) (rest : List σ) :
    each body seed (first :: rest) = (.error failure, first' :: rest) := by
  simp only [each, turn]

theorem each_singleton (body : β → Proc ε σ β) (seed : β) (first : σ) :
    each body seed [first] = ((body seed first).1, [(body seed first).2]) := by
  rcases turn : body seed first with ⟨outcome, first'⟩
  cases outcome with
  | ok next => rw [each_cons_ok turn]; rfl
  | error failure => rw [each_cons_error turn]

/-- An iteration that succeeded did so at every member. -/
theorem each_forall₂ {body : β → Proc ε σ β} {related : σ → σ → Prop} {members members' : List σ}
    (step : ∀ acc, ∀ first ∈ members, ∀ acc' first', body acc first = (.ok acc', first') →
      related first first') {seed result : β}
    (ran : each body seed members = (.ok result, members')) :
    List.Forall₂ related members members' := by
  induction members generalizing seed members' with
  | nil =>
      cases ran
      exact .nil
  | cons first rest ih =>
      rcases turn : body seed first with ⟨outcome, first'⟩
      cases outcome with
      | error failure =>
          rw [each_cons_error turn] at ran
          cases ran
      | ok next =>
          rw [each_cons_ok turn] at ran
          obtain ⟨rested, rfl⟩ := Prod.mk.inj ran
          have later := ih (fun acc one member => step acc one (List.mem_cons_of_mem _ member))
            (Prod.ext rested rfl)
          exact .cons (step _ _ List.mem_cons_self _ _ turn) later

/-- Bodies that agree on the members give the same iteration. -/
theorem each_congr {body body' : β → Proc ε σ β} {members : List σ}
    (same : ∀ acc, ∀ one ∈ members, body acc one = body' acc one) (seed : β) :
    each body seed members = each body' seed members := by
  induction members generalizing seed with
  | nil => rfl
  | cons first rest ih =>
      have turns := same seed first List.mem_cons_self
      have rests := ih fun acc one member => same acc one (List.mem_cons_of_mem _ member)
      rcases turn : body seed first with ⟨outcome, first'⟩
      have turn' := turns.symm.trans turn
      cases outcome with
      | ok next => rw [each_cons_ok turn, each_cons_ok turn', rests]
      | error failure => rw [each_cons_error turn, each_cons_error turn']

/-- What every turn keeps, an iteration keeps, wherever it stops. -/
theorem each_keeps {body : β → Proc ε σ β} {holds : σ → Prop}
    (keeps : ∀ acc one, holds one → holds (body acc one).2) {seed : β} {members : List σ}
    (start : ∀ one ∈ members, holds one) : ∀ one ∈ (each body seed members).2, holds one := by
  induction members generalizing seed with
  | nil => exact start
  | cons first rest ih =>
      have head := keeps seed first (start first List.mem_cons_self)
      have tail : ∀ one ∈ rest, holds one := fun one member =>
        start one (List.mem_cons_of_mem _ member)
      rcases turn : body seed first with ⟨outcome, first'⟩
      rw [turn] at head
      cases outcome with
      | ok next =>
          rw [each_cons_ok turn]
          exact List.forall_mem_cons.mpr ⟨head, ih tail⟩
      | error failure =>
          rw [each_cons_error turn]
          exact List.forall_mem_cons.mpr ⟨head, tail⟩

/-- Each member is left as it was or is what its turn made of it. -/
theorem each_related {body : β → Proc ε σ β} {related : σ → σ → Prop} {members : List σ}
    (same : ∀ one ∈ members, related one one)
    (step : ∀ acc, ∀ one ∈ members, related one (body acc one).2) (seed : β) :
    List.Forall₂ related members (each body seed members).2 := by
  induction members generalizing seed with
  | nil => exact .nil
  | cons first rest ih =>
      have head := step seed first List.mem_cons_self
      have tail := ih (fun one member => same one (List.mem_cons_of_mem _ member))
        fun acc one member => step acc one (List.mem_cons_of_mem _ member)
      rcases turn : body seed first with ⟨outcome, first'⟩
      rw [turn] at head
      cases outcome with
      | ok next =>
          rw [each_cons_ok turn]
          exact .cons head (tail next)
      | error failure =>
          rw [each_cons_error turn]
          exact .cons head (List.forall₂_same.mpr fun one member =>
            same one (List.mem_cons_of_mem _ member))

/-- An iteration that never touches a member leaves them all alone. -/
theorem each_still {body : β → Proc ε σ β} {members : List σ}
    (still : ∀ acc, ∀ one ∈ members, (body acc one).2 = one) (seed : β) :
    (each body seed members).2 = members := by
  induction members generalizing seed with
  | nil => rfl
  | cons first rest ih =>
      have head := still seed first List.mem_cons_self
      have tail := ih fun acc one member => still acc one (List.mem_cons_of_mem _ member)
      rcases turn : body seed first with ⟨outcome, first'⟩
      rw [turn] at head
      change first' = first at head
      subst head
      cases outcome with
      | ok next => rw [each_cons_ok turn, tail]
      | error failure => rw [each_cons_error turn]

/-- An iteration whose every turn succeeds and keeps the accumulator maps the members. -/
theorem each_map {body : β → Proc ε σ β} {change : σ → σ} {seed : β} {members : List σ}
    (step : ∀ first ∈ members, body seed first = (.ok seed, change first)) :
    each body seed members = (.ok seed, members.map change) := by
  induction members with
  | nil => rfl
  | cons first rest ih =>
      rw [each_cons_ok (step first List.mem_cons_self), List.map_cons,
        ih fun other member => step other (List.mem_cons_of_mem _ member)]

/-- An iteration whose first turn settles the accumulator maps the members. -/
theorem each_settle {body : β → Proc ε σ β} {change : σ → σ} {seed out : β} {members : List σ}
    (nonempty : members ≠ []) (first : ∀ one ∈ members, body seed one = (.ok out, change one))
    (again : ∀ one ∈ members, body out one = (.ok out, change one)) :
    each body seed members = (.ok out, members.map change) := by
  cases members with
  | nil => exact absurd rfl nonempty
  | cons head rest =>
      rw [each_cons_ok (first head List.mem_cons_self), List.map_cons,
        each_map fun one member => again one (List.mem_cons_of_mem _ member)]

/-- An iteration whose first member refuses changes nothing. -/
theorem each_refused {body : β → Proc ε σ β} {seed : β} {failure : ε} {members : List σ}
    (nonempty : members ≠ []) (refused : ∀ one ∈ members, body seed one = (.error failure, one)) :
    each body seed members = (.error failure, members) := by
  cases members with
  | nil => exact absurd rfl nonempty
  | cons head rest => rw [each_cons_error (refused head List.mem_cons_self)]

/-- An iteration whose every turn succeeds and leaves its member alone is a fold. -/
theorem each_pure {body : β → Proc ε σ β} {turn : β → σ → β} {members : List σ}
    (step : ∀ acc, ∀ one ∈ members, body acc one = (.ok (turn acc one), one)) (seed : β) :
    each body seed members = (.ok (members.foldl turn seed), members) := by
  induction members generalizing seed with
  | nil => rfl
  | cons first rest ih =>
      rw [each_cons_ok (step seed first List.mem_cons_self), List.foldl_cons,
        ih fun acc one member => step acc one (List.mem_cons_of_mem _ member)]

/-- An iteration whose turns fail exactly where they are stopped gives the fold,
as long as no member stops it. -/
theorem each_fold_iff {body : β → Proc ε σ β} {turn : β → σ → β} {stops : β → σ → Prop}
    (goes : ∀ acc one, ¬stops acc one → (body acc one).1 = .ok (turn acc one))
    (fails : ∀ acc one, stops acc one → ∃ failure, (body acc one).1 = .error failure)
    {members : List σ} {seed result : β} :
    (each body seed members).1 = .ok result ↔
      (∀ before one after, members = before ++ one :: after →
        ¬stops (before.foldl turn seed) one) ∧ result = members.foldl turn seed := by
  induction members generalizing seed with
  | nil =>
      constructor
      · intro ran
        cases ran
        refine ⟨?_, rfl⟩
        intro before one after split
        exact absurd split.symm (by simp)
      · rintro ⟨_, rfl⟩
        rfl
  | cons first rest ih =>
      by_cases stopped : stops seed first
      · obtain ⟨failure, failed⟩ := fails seed first stopped
        rcases ran : body seed first with ⟨outcome, first'⟩
        rw [ran] at failed
        cases failed
        rw [each_cons_error ran]
        constructor
        · nofun
        · rintro ⟨free, _⟩
          exact absurd stopped (free [] first rest rfl)
      · have went := goes seed first stopped
        rcases ran : body seed first with ⟨outcome, first'⟩
        rw [ran] at went
        cases went
        rw [each_cons_ok ran, List.foldl_cons]
        refine ih.trans (and_congr_left fun _ => ?_)
        constructor
        · intro free before one after split
          cases before with
          | nil =>
              cases split
              exact stopped
          | cons head tail =>
              cases split
              exact free tail one after rfl
        · intro free before one after split
          exact free (first :: before) one after (by rw [split, List.cons_append])

/-- An iteration that failed did so at one member, after the ones before it. -/
theorem each_error {body : β → Proc ε σ β} {seed : β} {failure : ε} {members members' : List σ}
    (ran : each body seed members = (.error failure, members')) :
    ∃ before before' one one' after acc, members = before ++ one :: after ∧
      members' = before' ++ one' :: after ∧ each body seed before = (.ok acc, before') ∧
      body acc one = (.error failure, one') := by
  induction members generalizing seed members' with
  | nil => cases ran
  | cons first rest ih =>
      rcases turn : body seed first with ⟨outcome, first'⟩
      cases outcome with
      | error other =>
          rw [each_cons_error turn] at ran
          cases ran
          exact ⟨[], [], first, first', rest, seed, rfl, rfl, rfl, turn⟩
      | ok next =>
          rcases rested : each body next rest with ⟨result, rest'⟩
          rw [each_cons_ok turn, rested] at ran
          cases ran
          rcases ih rested with
            ⟨before, before', one, one', after, acc, rfl, rfl, earlier, stopped⟩
          refine ⟨first :: before, first' :: before', one, one', after, acc, rfl, rfl, ?_, stopped⟩
          rw [each_cons_ok turn, earlier]

/-- A loop whose every turn succeeds and leaves the state alone is a fold. -/
theorem foldlM_pure {ι : Type} {body : β → ι → Proc ε σ β} {turn : β → ι → β} {state : σ}
    {xs : List ι} (step : ∀ acc, ∀ i ∈ xs, body acc i state = (.ok (turn acc i), state)) (seed : β) :
    (xs.foldlM body seed : Proc ε σ β) state = (.ok (xs.foldl turn seed), state) := by
  induction xs generalizing seed with
  | nil => rfl
  | cons x rest ih =>
      rw [List.foldlM_cons, bind_ok (step seed x List.mem_cons_self), List.foldl_cons]
      exact ih (fun acc i member => step acc i (List.mem_cons_of_mem _ member)) _

/-- A loop whose every turn succeeds and keeps an invariant is a fold on the state. -/
theorem foldlM_state {ι : Type} {body : Unit → ι → Proc ε σ Unit} {turn : σ → ι → σ}
    {inv : σ → Prop} {xs : List ι}
    (step : ∀ state, inv state → ∀ i ∈ xs,
      body () i state = (.ok (), turn state i) ∧ inv (turn state i)) {state : σ}
    (start : inv state) :
    (xs.foldlM body () : Proc ε σ Unit) state = (.ok (), xs.foldl turn state) := by
  induction xs generalizing state with
  | nil => rfl
  | cons x rest ih =>
      obtain ⟨ran, kept⟩ := step state start x List.mem_cons_self
      rw [List.foldlM_cons, bind_ok ran, List.foldl_cons]
      exact ih (fun other holds i member => step other holds i (List.mem_cons_of_mem _ member)) kept

/-- A loop that succeeded is the fold of what its turns did. -/
theorem foldlM_inv {ι : Type} {body : ι → Proc ε σ Unit} {turn : σ → ι → σ}
    {inv : σ → Prop} {xs : List ι}
    (step : ∀ state, inv state → ∀ i ∈ xs, ∀ state', body i state = (.ok (), state') →
      state' = turn state i ∧ inv state') {state state' : σ} (start : inv state)
    (ran : (xs.foldlM (fun _ i => body i) () : Proc ε σ Unit) state = (.ok (), state')) :
    state' = xs.foldl turn state := by
  induction xs generalizing state with
  | nil =>
      cases ran
      rfl
  | cons x rest ih =>
      rw [List.foldlM_cons] at ran
      obtain ⟨_, middle, head, _⟩ := bind_eq_ok (congrArg Prod.fst ran)
      obtain ⟨rfl, kept⟩ := step state start x List.mem_cons_self middle head
      rw [bind_ok head] at ran
      exact ih (fun other holds i member => step other holds i (List.mem_cons_of_mem _ member))
        kept ran

end Proc

end Embedkv.Lib
