import Mathlib.Algebra.BigOperators.Group.Finset.Basic
import Mathlib.Algebra.Order.BigOperators.Group.Finset
import Mathlib.Logic.Function.Basic
import Embedkv.Lib.Machine

/-!
# Atomic calls

Threads call an object, and each call takes effect at one instant between its
call and its return. The traces of this machine are the histories that a caller
may take for granted. One object refines another if the effects of the calls do,
as long as the calls do not cost more than a limit in total.
-/

namespace Embedkv.Lib

set_option autoImplicit false

/-- What the threads see: calls and returns. -/
inductive Event (T κ ρ : Type) where
  | call (thread : T) (what : κ)
  | ret (thread : T) (answer : ρ)
  deriving DecidableEq, Repr

variable {T κ ρ σ τ : Type} [DecidableEq T]

namespace Atomic

/-- Where a call of a thread stands. -/
inductive Phase (κ ρ : Type) where
  | idle
  | called (what : κ)
  | served (answer : ρ)

structure State (T κ ρ σ : Type) where
  object : σ
  phase : T → Phase κ ρ

/-- No thread is in a call. -/
def start (object : σ) : State T κ ρ σ where
  object := object
  phase _ := .idle

inductive Step (effect : κ → σ → ρ × σ) : Steps (State T κ ρ σ) (Event T κ ρ) where
  | call {s : State T κ ρ σ} (thread : T) (what : κ) (idle : s.phase thread = .idle) :
      Step effect s (some (.call thread what))
        { s with phase := Function.update s.phase thread (.called what) }
  | effect {s : State T κ ρ σ} (thread : T) (what : κ) (called : s.phase thread = .called what) :
      Step effect s none
        { object := (effect what s.object).2
          phase := Function.update s.phase thread (.served (effect what s.object).1) }
  | ret {s : State T κ ρ σ} (thread : T) (answer : ρ) (served : s.phase thread = .served answer) :
      Step effect s (some (.ret thread answer))
        { s with phase := Function.update s.phase thread .idle }

/-- The call takes effect and returns. -/
theorem served_run (effect : κ → σ → ρ × σ) {s : State T κ ρ σ} {thread : T} {what : κ}
    (called : s.phase thread = .called what) :
    Reaches (Step effect) s [.ret thread (effect what s.object).1]
      { object := (effect what s.object).2, phase := Function.update s.phase thread .idle } := by
  have first : Reaches (Step effect) s [] _ := .single (Step.effect thread what called)
  have second := first.snoc (Step.ret thread _ (Function.update_self ..))
  rwa [Function.update_idem] at second

/-! ## Refinement within a limit -/

/-- What an event costs. -/
def price (cost : κ → Nat) : Event T κ ρ → Nat
  | .call _ what => cost what
  | .ret _ _ => 0

/-- What the calls of a trace cost. -/
def spend (cost : κ → Nat) : List (Event T κ ρ) → Nat
  | [] => 0
  | event :: rest => price cost event + spend cost rest

/-- All calls are allowed, and together they cost less than the limit. -/
structure Within (allowed : κ → Prop) (cost : κ → Nat) (limit : Nat) (trace : List (Event T κ ρ)) :
    Prop where
  allowed : ∀ thread what, .call thread what ∈ trace → allowed what
  spend : spend cost trace < limit

/-- What a call that has not taken effect costs. -/
def Phase.owes (cost : κ → Nat) : Phase κ ρ → Nat
  | called what => cost what
  | _ => 0

section
variable {effect : κ → σ → ρ × σ} {effect' : κ → τ → ρ × τ} {allowed : κ → Prop} {cost : κ → Nat}
  {limit : Nat} {related : Nat → σ → τ → Prop} {trace : List (Event T κ ρ)}

/-- The same calls stand in the same places. Calls that wait are paid for. -/
structure Matched (allowed : κ → Prop) (cost : κ → Nat) (related : Nat → σ → τ → Prop)
    (trace : List (Event T κ ρ)) (s : State T κ ρ σ) (s' : State T κ ρ τ) : Prop where
  phase : s'.phase = s.phase
  allowed : ∀ thread what, s.phase thread = .called what → allowed what
  paid : ∃ spent, related spent s.object s'.object ∧ ∃ waiting : Finset T,
    (∀ thread what, s.phase thread = .called what → thread ∈ waiting) ∧
      spent + ∑ thread ∈ waiting, (s.phase thread).owes cost ≤ spend cost trace

omit [DecidableEq T] in
theorem spend_append (trace later : List (Event T κ ρ)) :
    spend cost (trace ++ later) = spend cost trace + spend cost later := by
  induction trace with
  | nil => exact (Nat.zero_add _).symm
  | cons event rest ih => rw [List.cons_append, spend, spend, ih, Nat.add_assoc]

omit [DecidableEq T] in
theorem Within.before {later : List (Event T κ ρ)} (within : Within allowed cost limit (trace ++ later)) :
    Within allowed cost limit trace := by
  refine ⟨fun thread what member => ?_, ?_⟩
  · exact within.allowed thread what (List.mem_append_left _ member)
  · have total := within.spend
    rw [spend_append] at total
    exact Nat.lt_of_le_of_lt (Nat.le_add_right _ _) total

theorem owes_update (cost : κ → Nat) (phases : T → Phase κ ρ) (thread : T) (phase : Phase κ ρ)
    (waiting : Finset T) :
    ∑ one ∈ insert thread waiting, (Function.update phases thread phase one).owes cost =
      phase.owes cost + ∑ one ∈ waiting.erase thread, (phases one).owes cost := by
  rw [← Finset.add_sum_erase _ _ (Finset.mem_insert_self thread waiting),
    Finset.erase_insert_eq_erase, Function.update_self]
  congr 1
  apply Finset.sum_congr rfl
  intro one member
  rw [Function.update_of_ne (Finset.ne_of_mem_erase member)]

theorem called_of_update {phases : T → Phase κ ρ} {thread one : T} {phase : Phase κ ρ} {what : κ}
    (called : Function.update phases thread phase one = .called what) :
    one = thread ∧ phase = .called what ∨ one ≠ thread ∧ phases one = .called what := by
  by_cases same : one = thread
  · rw [same, Function.update_self] at called
    exact .inl ⟨same, called⟩
  · rw [Function.update_of_ne same] at called
    exact .inr ⟨same, called⟩

/-- One thread goes on; what it owed before is paid or still owed. -/
theorem Matched.update {s : State T κ ρ σ} {s' : State T κ ρ τ} {thread : T} {phase : Phase κ ρ}
    {object : σ} {other : τ} {trace' : List (Event T κ ρ)} {spent : Nat} {waiting : Finset T}
    (matched : Matched allowed cost related trace s s')
    (all : ∀ one what, s.phase one = .called what → one ∈ waiting)
    (new : ∀ what, phase = .called what → allowed what) (here : related spent object other)
    (paid : spent + (phase.owes cost + ∑ one ∈ waiting.erase thread, (s.phase one).owes cost) ≤
      spend cost trace') :
    Matched allowed cost related trace'
      { object := object, phase := Function.update s.phase thread phase }
      { object := other, phase := Function.update s'.phase thread phase } := by
  refine ⟨?_, ?_, spent, here, insert thread waiting, ?_, ?_⟩
  · rw [matched.phase]
  · intro one what called
    rcases called_of_update called with ⟨_, called⟩ | ⟨_, called⟩
    · exact new what called
    · exact matched.allowed one what called
  · intro one what called
    rcases called_of_update called with ⟨rfl, _⟩ | ⟨_, called⟩
    · exact Finset.mem_insert_self ..
    · exact Finset.mem_insert_of_mem (all one what called)
  · rw [owes_update]
    exact paid

theorem Matched.step {s : State T κ ρ σ} {s' : State T κ ρ τ} {label : Option (Event T κ ρ)}
    {next : State T κ ρ σ}
    (refines : ∀ spent object other what, related spent object other → allowed what →
      spent + cost what < limit → (effect what object).1 = (effect' what other).1 ∧
        related (spent + cost what) (effect what object).2 (effect' what other).2)
    (within : Within allowed cost limit (trace ++ label.toList))
    (matched : Matched allowed cost related trace s s') (step : Step effect s label next) :
    ∃ next', Reaches (Step effect') s' label.toList next' ∧
      Matched allowed cost related (trace ++ label.toList) next next' := by
  obtain ⟨spent, here, waiting, all, paid⟩ := matched.paid
  have fewer (thread : T) : ∑ one ∈ waiting.erase thread, (s.phase one).owes cost ≤
      ∑ one ∈ waiting, (s.phase one).owes cost :=
    Finset.sum_le_sum_of_subset (Finset.erase_subset thread waiting)
  have total := within.spend
  cases step with
  | call thread what idle =>
      rw [← matched.phase] at idle
      refine ⟨_, .single (Step.call thread what idle), matched.update all ?_ here ?_⟩
      · rintro other ⟨⟩
        exact within.allowed thread what (by simp)
      · have more : spend cost (trace ++ (some (Event.call thread what)).toList) =
            spend cost trace + cost what := spend_append ..
        have left := fewer thread
        rw [more]
        change spent + (cost what + _) ≤ _
        omega
  | effect thread what called =>
      have owed := Finset.add_sum_erase waiting (fun one => (s.phase one).owes cost)
        (all thread what called)
      have price : (s.phase thread).owes cost = cost what := by
        rw [called]
        rfl
      rw [Option.toList_none, List.append_nil] at total ⊢
      obtain ⟨answered, after⟩ := refines spent s.object s'.object what here
        (matched.allowed thread what called) (by omega)
      rw [← matched.phase] at called
      refine ⟨_, .single (Step.effect thread what called), ?_⟩
      rw [← answered]
      refine matched.update all nofun after ?_
      change spent + cost what + (0 + _) ≤ _
      omega
  | ret thread answer served =>
      have more : spend cost (trace ++ (some (Event.ret thread answer)).toList) =
          spend cost trace := spend_append ..
      have left := fewer thread
      rw [← matched.phase] at served
      refine ⟨_, .single (Step.ret thread answer served), matched.update all nofun here ?_⟩
      rw [more]
      change spent + (0 + _) ≤ _
      omega

/-- Where the effects of the calls do, the histories agree. -/
theorem refined (related : Nat → σ → τ → Prop) {object : σ} {other : τ}
    (refines : ∀ spent object other what, related spent object other → allowed what →
      spent + cost what < limit → (effect what object).1 = (effect' what other).1 ∧
        related (spent + cost what) (effect what object).2 (effect' what other).2)
    (start : related 0 object other) {s : State T κ ρ σ}
    (run : Reaches (Step effect) (Atomic.start object) trace s)
    (within : Within allowed cost limit trace) :
    ∃ s' : State T κ ρ τ, Reaches (Step effect') (Atomic.start other) trace s' ∧
      Matched allowed cost related trace s s' :=
  run.simulates (Matched allowed cost related) (Within allowed cost limit)
    (fun _ _ within => within.before)
    (fun _ _ _ _ _ within matched step => matched.step refines within step) within
    ⟨rfl, nofun, 0, start, ∅, nofun, Nat.le_refl 0⟩

end

end Atomic

end Embedkv.Lib
