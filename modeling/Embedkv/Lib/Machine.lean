import Mathlib.Data.List.Basic

/-!
# Machines and what is seen of them

A machine takes steps, some of which are seen. A run is a sequence of steps with
the trace of what was seen. A simulation carries the runs of one machine over to
another with the same trace; it may look back at the trace so far, and holds as
long as the trace stays within bounds.
-/

namespace Embedkv.Lib

set_option autoImplicit false

variable {S S' L : Type}

/-- From a state, with what is seen of the step if anything is, to a state. -/
abbrev Steps (S L : Type) : Type := S → Option L → S → Prop

inductive Reaches (step : Steps S L) : S → List L → S → Prop where
  | refl (s : S) : Reaches step s [] s
  | snoc {s mid s' : S} {trace : List L} {label : Option L} (before : Reaches step s trace mid)
      (last : step mid label s') : Reaches step s (trace ++ label.toList) s'

namespace Reaches

variable {step : Steps S L} {step' : Steps S' L}

theorem append {s mid s' : S} {trace trace' : List L} (first : Reaches step s trace mid)
    (second : Reaches step mid trace' s') : Reaches step s (trace ++ trace') s' := by
  induction second with
  | refl => rwa [List.append_nil]
  | snoc _ last ih =>
      rw [← List.append_assoc]
      exact ih.snoc last

theorem single {s s' : S} {label : Option L} (last : step s label s') :
    Reaches step s label.toList s' := (refl s).snoc last

/-- What holds at the start and is kept by every step holds after every run. -/
theorem keeps {inv : S → Prop} (kept : ∀ s label s', step s label s' → inv s → inv s')
    {s s' : S} {trace : List L} (run : Reaches step s trace s') (start : inv s) : inv s' := by
  induction run with
  | refl => exact start
  | snoc _ last ih => exact kept _ _ _ last ih

/-- Every step is matched by a run with the same trace, so every run is, as long
as the trace is within `bound`. -/
theorem simulates (related : List L → S → S' → Prop) (bound : List L → Prop)
    (closed : ∀ trace later, bound (trace ++ later) → bound trace)
    (step_matched : ∀ trace mid other label s', bound (trace ++ label.toList) →
      related trace mid other → step mid label s' →
      ∃ other', Reaches step' other label.toList other' ∧
        related (trace ++ label.toList) s' other')
    {s s' : S} {other : S'} {trace : List L} (run : Reaches step s trace s')
    (within : bound trace) (start : related [] s other) :
    ∃ other', Reaches step' other trace other' ∧ related trace s' other' := by
  induction run with
  | refl => exact ⟨other, refl other, start⟩
  | snoc _ last ih =>
      obtain ⟨middle, ran, here⟩ := ih (closed _ _ within)
      obtain ⟨other', more, there⟩ := step_matched _ _ _ _ _ within here last
      exact ⟨other', ran.append more, there⟩

end Reaches

end Embedkv.Lib
