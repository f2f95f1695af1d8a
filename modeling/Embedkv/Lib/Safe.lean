import Embedkv.Lib.Loop

/-!
# Runs that avoid a failure

`Safe inv bad p state`: run from `state`, the procedure does not fail with `bad`,
and wherever it ends, by an answer or by another failure, the state is in `inv`.
There is one rule for each way procedures are put together; the rule of sequencing
hands on what the first part answered.
-/

namespace Embedkv.Lib

set_option autoImplicit false

structure Safe {ε σ α : Type} (inv : σ → Prop) (bad : ε) (p : Proc ε σ α) (state : σ) : Prop where
  answer : (p state).1 ≠ .error bad
  kept : inv (p state).2

namespace Safe

variable {ε σ τ α β : Type} {inv : σ → Prop} {bad : ε} {state : σ}

theorem of_ok {p : Proc ε σ α} {value : α} {after : σ} (ran : p state = (.ok value, after))
    (kept : inv after) : Safe inv bad p state := by
  constructor
  · rw [ran]
    intro failed
    cases failed
  · rw [ran]
    exact kept

theorem of_error {p : Proc ε σ α} {failure : ε} {after : σ}
    (ran : p state = (.error failure, after)) (other : failure ≠ bad) (kept : inv after) :
    Safe inv bad p state := by
  constructor
  · rw [ran]
    intro failed
    exact other (Except.error.inj failed)
  · rw [ran]
    exact kept

theorem congr {p q : Proc ε σ α} (same : p state = q state) (safe : Safe inv bad q state) :
    Safe inv bad p state := by
  constructor
  · rw [same]
    exact safe.answer
  · rw [same]
    exact safe.kept

theorem bind {first : Proc ε σ α} {next : α → Proc ε σ β} (start : Safe inv bad first state)
    (rest : ∀ value middle, first state = (.ok value, middle) → inv middle →
      Safe inv bad (next value) middle) : Safe inv bad (first >>= next) state := by
  rcases ran : first state with ⟨result, middle⟩
  have kept := start.kept
  rw [ran] at kept
  cases result with
  | ok value =>
      have later := rest value middle ran kept
      constructor
      · rw [Proc.bind_ok ran]
        exact later.answer
      · rw [Proc.bind_ok ran]
        exact later.kept
  | error failure =>
      apply of_error (Proc.bind_error ran next) _ kept
      intro same
      apply start.answer
      rw [ran, same]

/-- What is made of the answer alone is as safe as the answer. -/
theorem answering {p : Proc ε σ α} (safe : Safe inv bad p state) (made : α → β) :
    Safe inv bad (do return made (← p)) state := by
  apply safe.bind
  intro value middle _ kept
  exact of_ok rfl kept

theorem zoom {view : σ → τ} {put : σ → τ → σ} {part : τ → Prop} {inner : Proc ε τ α}
    (safe : Safe part bad inner (view state)) (back : ∀ t, part t → inv (put state t)) :
    Safe inv bad (Proc.zoom view put inner) state where
  answer := safe.answer
  kept := back _ safe.kept

/-- A loop over the members of a list, each turn safe on its own member. -/
theorem each {body : β → Proc ε σ β} (turn : ∀ acc one, inv one → Safe inv bad (body acc) one)
    {members : List σ} (start : ∀ one ∈ members, inv one) (seed : β) :
    Safe (fun after => after.length = members.length ∧ ∀ one ∈ after, inv one) bad
      (Proc.each body seed) members := by
  induction members generalizing seed with
  | nil => exact of_ok rfl ⟨rfl, start⟩
  | cons first rest ih =>
      have safe := turn seed first (start first List.mem_cons_self)
      have others : ∀ one ∈ rest, inv one := fun one member =>
        start one (List.mem_cons_of_mem _ member)
      rcases ran : body seed first with ⟨result, first'⟩
      have kept := safe.kept
      rw [ran] at kept
      cases result with
      | ok next =>
          have later := ih others next
          constructor
          · rw [Proc.each_cons_ok ran]
            exact later.answer
          · rw [Proc.each_cons_ok ran]
            refine ⟨congrArg (· + 1) later.kept.1, ?_⟩
            exact List.forall_mem_cons.mpr ⟨kept, later.kept.2⟩
      | error failure =>
          apply of_error (Proc.each_cons_error ran rest)
          · intro same
            apply safe.answer
            rw [ran, same]
          · exact ⟨rfl, List.forall_mem_cons.mpr ⟨kept, others⟩⟩

/-- A loop whose turns are safe, and which ends. -/
theorem loop {turn : τ → Proc ε σ (Turn τ α)} {whole : τ → Proc ε σ α} {measure : τ → Nat}
    (solves : Loop.Solves turn whole) (lowers : Loop.Lowers turn measure)
    (turns : ∀ here {middle}, inv middle → Safe inv bad (turn here) middle) (start : τ)
    (begins : inv state) : Safe inv bad (whole start) state where
  answer := by
    refine solves.ends lowers (fun _ => inv) (fun ended => ended.1 ≠ .error bad) ?_ ?_ start begins
    · intro here next middle after kept went
      have later := (turns here kept).kept
      rwa [went] at later
    · intro here middle ended kept final failed
      cases final with
      | done ran => cases failed
      | failed ran =>
          cases failed
          apply (turns here kept).answer
          rw [ran]
  kept := solves.keeps lowers inv (fun here _ kept => (turns here kept).kept) start begins

end Safe

end Embedkv.Lib
