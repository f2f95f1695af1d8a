/-!
# Runs of a state machine

A machine takes one step for each input. `runTo` is the state a run ends in,
`Always` says that a property holds in every state of a run, `Each` that every
step of it is taken in a state that meets a condition. The rules carry an
invariant along: one lemma about a step gives the property of all runs.
-/

namespace Embedkv.Lib

set_option autoImplicit false

section
variable {ι σ : Type} (run : ι → σ → σ)

def runTo : List ι → σ → σ
  | [], state => state
  | step :: rest, state => runTo rest (run step state)

theorem runTo_append (first second : List ι) (state : σ) :
    runTo run (first ++ second) state = runTo run second (runTo run first state) := by
  induction first generalizing state with
  | nil => rfl
  | cons step rest ih => exact ih (run step state)

def Always (holds : σ → Prop) : List ι → σ → Prop
  | [], state => holds state
  | step :: rest, state => holds state ∧ Always holds rest (run step state)

def Each (meets : ι → σ → Prop) : List ι → σ → Prop
  | [], _ => True
  | step :: rest, state => meets step state ∧ Each meets rest (run step state)

instance decidableAlways {holds : σ → Prop} [DecidablePred holds] :
    (steps : List ι) → (state : σ) → Decidable (Always run holds steps state)
  | [], state => inferInstanceAs (Decidable (holds state))
  | step :: rest, state =>
    have _later : Decidable (Always run holds rest (run step state)) := decidableAlways rest _
    inferInstanceAs (Decidable (holds state ∧ Always run holds rest (run step state)))

instance decidableEach {meets : ι → σ → Prop} [∀ step state, Decidable (meets step state)] :
    (steps : List ι) → (state : σ) → Decidable (Each run meets steps state)
  | [], _ => isTrue trivial
  | step :: rest, state =>
    have _later : Decidable (Each run meets rest (run step state)) := decidableEach rest _
    inferInstanceAs (Decidable (meets step state ∧ Each run meets rest (run step state)))

variable {run} {holds inv : σ → Prop} {meets also : ι → σ → Prop} {steps : List ι} {state : σ}

/-- A condition that every input meets in every state. -/
theorem each_of_forall (all : ∀ step ∈ steps, ∀ state, meets step state) :
    Each run meets steps state := by
  induction steps generalizing state with
  | nil => trivial
  | cons step rest ih =>
      exact ⟨all step List.mem_cons_self state,
        ih fun later member => all later (List.mem_cons_of_mem _ member)⟩

/-- An invariant that a step keeps whenever it meets its condition holds at the end. -/
theorem runTo_of_invariant
    (keeps : ∀ step state, meets step state → inv state → inv (run step state))
    (start : inv state) (each : Each run meets steps state) : inv (runTo run steps state) := by
  induction steps generalizing state with
  | nil => exact start
  | cons step rest ih => exact ih (keeps step state each.1 start) each.2

/-- An invariant that a step keeps whenever it meets its condition holds always. -/
theorem always_of_invariant (shows : ∀ state, inv state → holds state)
    (keeps : ∀ step state, meets step state → inv state → inv (run step state))
    (start : inv state) (each : Each run meets steps state) : Always run holds steps state := by
  induction steps generalizing state with
  | nil => exact shows state start
  | cons step rest ih =>
      exact ⟨shows state start, ih (keeps step state each.1 start) each.2⟩

/-- What a step does from the states of an invariant, it does at each step of a run. -/
theorem each_of_invariant (shows : ∀ step state, meets step state → inv state → also step state)
    (keeps : ∀ step state, meets step state → inv state → inv (run step state))
    (start : inv state) (each : Each run meets steps state) : Each run also steps state := by
  induction steps generalizing state with
  | nil => trivial
  | cons step rest ih =>
      exact ⟨shows step state each.1 start, ih (keeps step state each.1 start) each.2⟩

/-- A condition on the inputs alone beside one on input and state. -/
theorem each_and {allowed : ι → Prop} (all : ∀ step ∈ steps, allowed step)
    (each : Each run meets steps state) :
    Each run (fun step state => allowed step ∧ meets step state) steps state := by
  induction steps generalizing state with
  | nil => trivial
  | cons step rest ih =>
      exact ⟨⟨all step List.mem_cons_self, each.1⟩,
        ih (fun later member => all later (List.mem_cons_of_mem _ member)) each.2⟩

/-- What holds in every state of a run holds where each step is taken. -/
theorem each_of_always {allowed : ι → Prop} (all : ∀ step ∈ steps, allowed step)
    (always : Always run holds steps state) :
    Each run (fun step state => allowed step ∧ holds state) steps state := by
  induction steps generalizing state with
  | nil => trivial
  | cons step rest ih =>
      exact ⟨⟨all step List.mem_cons_self, always.1⟩,
        ih (fun later member => all later (List.mem_cons_of_mem _ member)) always.2⟩

/-- Where a step keeps a property exactly if it meets its condition, a run does.
The invariant is what goes on holding as long as the property does; the other
condition is one that the steps are known to meet. -/
theorem always_iff_each
    (keeps : ∀ step state, also step state → inv state → holds state →
      inv (run step state) ∧ (holds (run step state) ↔ meets step state))
    (start : inv state) (good : holds state) (known : Each run also steps state) :
    Always run holds steps state ↔ Each run meets steps state := by
  induction steps generalizing state with
  | nil => exact ⟨fun _ => trivial, fun _ => good⟩
  | cons step rest ih =>
      rcases keeps step state known.1 start good with ⟨next, here⟩
      constructor
      · rintro ⟨_, always⟩
        have still : holds (run step state) := by
          cases rest with
          | nil => exact always
          | cons _ _ => exact always.1
        exact ⟨here.mp still, (ih next still known.2).mp always⟩
      · rintro ⟨met, each⟩
        have still := here.mpr met
        exact ⟨good, (ih next still known.2).mpr each⟩

end

end Embedkv.Lib
