import Embedkv.Lib.Proc

/-!
# Loops

A loop is one turn, taken again and again over the loop variables until a turn
decides to stop or fails. `spin` cuts the loop off after a number of turns, so
it says nothing about whether the loop ends; `Solves` says that a procedure is
the loop itself. A number that every turn lowers bounds the turns, and then the
loop ends in a turn taken where its invariants hold.
-/

namespace Embedkv.Lib

set_option autoImplicit false

/-- What a turn decides: to go on with new loop variables, or to stop. -/
inductive Turn (σ α : Type) where
  | again (next : σ)
  | done (result : α)

/-- What follows the decision: another round of the loop, or its result. -/
def Turn.follow {ε σ τ α : Type} (loop : σ → Proc ε τ α) : Turn σ α → Proc ε τ α
  | .again next => loop next
  | .done result => pure result

namespace Loop

variable {ε σ τ ω α : Type}

/-- The loop cut off after `fuel` turns; `none` when it has not ended by then. -/
def spin (turn : σ → Proc ε τ (Turn σ α)) : Nat → σ → Proc ε τ (Option α)
  | 0, _ => pure none
  | fuel + 1, state => do
    match ← turn state with
    | .again next => spin turn fuel next
    | .done result => pure (some result)

/-- Here the loop is after `n` turns that all decided to go on. -/
inductive Arrives (turn : σ → Proc ε τ (Turn σ α)) (start : σ) (before : τ) : Nat → σ → τ → Prop
  | start : Arrives turn start before 0 start before
  | turn {n : Nat} {state next : σ} {store after : τ}
      (here : Arrives turn start before n state store)
      (went : turn state store = (.ok (.again next), after)) :
      Arrives turn start before (n + 1) next after

/-- The turn taken here ends the loop with this outcome. -/
inductive Final (turn : σ → Proc ε τ (Turn σ α)) (state : σ) (store : τ) : Except ε α × τ → Prop
  | done {result : α} {after : τ} (ran : turn state store = (.ok (.done result), after)) :
      Final turn state store (.ok result, after)
  | failed {failure : ε} {after : τ} (ran : turn state store = (.error failure, after)) :
      Final turn state store (.error failure, after)

/-- The procedure is the loop of the turn, however long that takes. -/
structure Solves (turn : σ → Proc ε τ (Turn σ α)) (loop : σ → Proc ε τ α) : Prop where
  again : ∀ {state next store after}, turn state store = (.ok (.again next), after) →
    loop state store = loop next after
  done : ∀ {state store result after}, turn state store = (.ok (.done result), after) →
    loop state store = (.ok result, after)
  failed : ∀ {state store failure after}, turn state store = (.error failure, after) →
    loop state store = (.error failure, after)

/-- Cut off after more than `limit` turns, the loop ends as the procedure did. -/
def EndsWithin (turn : σ → Proc ε τ (Turn σ α)) (limit : Nat) (state : σ) (store : τ)
    (ended : Except ε α × τ) : Prop :=
  ∀ fuel, limit < fuel → spin turn fuel state store = (ended.1.map some, ended.2)

/-- Every turn that goes on lowers the measure. -/
def Lowers (turn : σ → Proc ε τ (Turn σ α)) (measure : σ → Nat) : Prop :=
  ∀ {state next store after}, turn state store = (.ok (.again next), after) →
    measure next < measure state

variable {turn : σ → Proc ε τ (Turn σ α)} {loop : σ → Proc ε τ α} {measure : σ → Nat}

theorem Final.store {state : σ} {store : τ} {ended : Except ε α × τ}
    (final : Final turn state store ended) : ended.2 = (turn state store).2 := by
  cases final with
  | done ran => rw [ran]
  | failed ran => rw [ran]

theorem Final.answered {state : σ} {store : τ} {ended : Except ε α × τ} {result : α}
    (final : Final turn state store ended) (answer : ended.1 = .ok result) :
    turn state store = (.ok (.done result), ended.2) := by
  cases final with
  | done ran =>
      cases answer
      exact ran
  | failed ran => cases answer

theorem Solves.of_unfold
    (unfolds : ∀ state store, loop state store = (turn state >>= Turn.follow loop) store) :
    Solves turn loop where
  again ran := by
    rw [unfolds, Proc.bind_ok ran]
    rfl
  done ran := by
    rw [unfolds, Proc.bind_ok ran]
    rfl
  failed ran := by rw [unfolds, Proc.bind_error ran]

theorem Arrives.invariant (inv : Nat → σ → τ → Prop) {start : σ} {before : τ}
    (begins : inv 0 start before)
    (keeps : ∀ {n state next store after}, inv n state store →
      turn state store = (.ok (.again next), after) → inv (n + 1) next after)
    {n : Nat} {state : σ} {store : τ} (arrives : Arrives turn start before n state store) :
    inv n state store := by
  induction arrives with
  | start => exact begins
  | turn _ went ih => exact keeps ih went

/-- More turns than the measure are enough. -/
theorem Solves.endsWithin (solves : Solves turn loop) (lowers : Lowers turn measure) {limit : Nat}
    {state : σ} (bounded : measure state ≤ limit) (store : τ) :
    EndsWithin turn limit state store (loop state store) := by
  intro fuel enough
  replace enough : measure state < fuel := by omega
  clear bounded
  induction fuel generalizing state store with
  | zero => omega
  | succ fuel ih =>
      rcases ran : turn state store with ⟨outcome, after⟩
      rw [spin]
      cases outcome with
      | error failure => rw [Proc.bind_error ran, solves.failed ran]; rfl
      | ok decision =>
          rw [Proc.bind_ok ran]
          cases decision with
          | done result => rw [solves.done ran]; rfl
          | again next =>
              have lower := lowers ran
              rw [solves.again ran]
              exact ih after (by omega)

/-- The loop ends by the outcome of a turn taken where the loop arrives. -/
theorem Solves.final (solves : Solves turn loop) (lowers : Lowers turn measure) (start : σ)
    (before : τ) : ∃ n state store, Arrives turn start before n state store ∧
      Final turn state store (loop start before) := by
  have further {n : Nat} {state : σ} {store : τ} (arrives : Arrives turn start before n state store) :
      ∃ n' state' store', Arrives turn start before n' state' store' ∧
        Final turn state' store' (loop state store) := by
    induction left : measure state using Nat.strongRecOn generalizing n state store with
    | ind left ih =>
        rcases ran : turn state store with ⟨outcome, after⟩
        cases outcome with
        | error failure =>
            rw [solves.failed ran]
            exact ⟨n, state, store, arrives, .failed ran⟩
        | ok decision =>
            cases decision with
            | done result =>
                rw [solves.done ran]
                exact ⟨n, state, store, arrives, .done ran⟩
            | again next =>
                rw [solves.again ran]
                subst left
                exact ih _ (lowers ran) (arrives.turn ran) rfl
  exact further .start

/-- The invariant rule: what every last turn makes of the invariant holds of the loop. -/
theorem Solves.ends (solves : Solves turn loop) (lowers : Lowers turn measure)
    (inv : σ → τ → Prop) (post : Except ε α × τ → Prop)
    (keeps : ∀ {state next store after}, inv state store →
      turn state store = (.ok (.again next), after) → inv next after)
    (last : ∀ {state store ended}, inv state store → Final turn state store ended → post ended)
    (state : σ) {store : τ} (begins : inv state store) : post (loop state store) := by
  obtain ⟨n, here, middle, arrives, final⟩ := solves.final lowers state store
  have kept : inv here middle := Arrives.invariant (fun _ => inv) begins keeps arrives
  exact last kept final

/-- What each turn keeps of the store, the loop keeps. -/
theorem Solves.keeps (solves : Solves turn loop) (lowers : Lowers turn measure) (holds : τ → Prop)
    (kept : ∀ state {store}, holds store → holds (turn state store).2) (state : σ) {store : τ}
    (begins : holds store) : holds (loop state store).2 := by
  refine solves.ends lowers (fun _ => holds) (fun ended => holds ended.2) ?_ ?_ state begins
  · intro state next store after here went
    have after := kept state here
    rwa [went] at after
  · intro state store ended here final
    rw [final.store]
    exact kept state here

/-! ## Procedures seen through a view of the store -/

/-- On the part of the store that `view` shows, `outer` does what `inner` does. -/
def Mirrors (view : ω → τ) (outer : Proc ε ω α) (inner : Proc ε τ α) : Prop :=
  ∀ store, (outer store).1 = (inner (view store)).1 ∧ view (outer store).2 = (inner (view store)).2

namespace Mirrors

variable {β : Type} {view : ω → τ}

theorem ofExcept (result : Except ε α) :
    Mirrors view (Proc.ofExcept result) (Proc.ofExcept result) := fun _ => ⟨rfl, rfl⟩

theorem pure (result : α) :
    Mirrors view (Pure.pure result : Proc ε ω α) (Pure.pure result : Proc ε τ α) :=
  fun _ => ⟨rfl, rfl⟩

theorem bind {outer : Proc ε ω β} {inner : Proc ε τ β} {outer' : β → Proc ε ω α}
    {inner' : β → Proc ε τ α} (first : Mirrors view outer inner)
    (next : ∀ value, Mirrors view (outer' value) (inner' value)) :
    Mirrors view (outer >>= outer') (inner >>= inner') := by
  intro store
  obtain ⟨same, seen⟩ := first store
  rcases left : outer store with ⟨result, after⟩
  rcases right : inner (view store) with ⟨result', after'⟩
  rw [left, right] at same seen
  change result = result' at same
  change view after = after' at seen
  subst same seen
  cases result with
  | error failure =>
      rw [Proc.bind_error left, Proc.bind_error right]
      exact ⟨rfl, rfl⟩
  | ok value =>
      rw [Proc.bind_ok left, Proc.bind_ok right]
      exact next value after

variable {outer : σ → Proc ε ω (Turn σ α)} {inner : σ → Proc ε τ (Turn σ α)}

theorem spin (turns : ∀ state, Mirrors view (outer state) (inner state)) (fuel : Nat) (state : σ) :
    Mirrors view (spin outer fuel state) (spin inner fuel state) := by
  induction fuel generalizing state with
  | zero => exact pure none
  | succ fuel ih =>
      apply bind (turns state)
      intro decision
      cases decision with
      | again next => exact ih next
      | done result => exact pure (some result)

theorem map_some_inj {left right : Except ε α}
    (same : left.map some = right.map some) : left = right := by
  cases left <;> cases right <;> cases same <;> rfl

/-- Loops whose turns mirror each other do so themselves. -/
theorem of_turns {outerLoop : σ → Proc ε ω α} {innerLoop : σ → Proc ε τ α}
    (outerSolves : Solves outer outerLoop) (innerSolves : Solves inner innerLoop)
    (outerLowers : Lowers outer measure) (innerLowers : Lowers inner measure)
    (turns : ∀ state, Mirrors view (outer state) (inner state)) (state : σ) :
    Mirrors view (outerLoop state) (innerLoop state) := by
  intro store
  have outerEnds := outerSolves.endsWithin outerLowers (Nat.le_refl (measure state)) store _
    (Nat.lt_succ_self _)
  have innerEnds := innerSolves.endsWithin innerLowers (Nat.le_refl (measure state)) (view store) _
    (Nat.lt_succ_self _)
  obtain ⟨same, seen⟩ := spin turns (measure state + 1) state store
  rw [outerEnds, innerEnds] at same seen
  exact ⟨map_some_inj same, seen⟩

end Mirrors

end Loop

end Embedkv.Lib
