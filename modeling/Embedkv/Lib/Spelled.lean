import Embedkv.Lib.Script

/-!
# Procedures with their scripts

A procedure that works alike in a family of worlds, together with the script it
follows in each of them. The script is not written down beside the procedure: it
is put together from the scripts of its parts, and carries with it the proof
that it runs as the procedure does.
-/

namespace Embedkv.Lib

set_option autoImplicit false

universe u

structure Spelled {ι : Type u} {P : Port} {State : ι → Type} (serve : ∀ w, Server P (State w))
    {ε α : Type} (p : ∀ w, Proc ε (State w) α) where
  script : Script P (Except ε α)
  runs : ∀ w, p w = script.proc (serve w)

namespace Spelled

variable {ι : Type u} {P Q : Port} {State Part : ι → Type} {serve : ∀ w, Server P (State w)}
  {ε α β κ : Type}

def ofExcept (result : Except ε α) :
    Spelled serve fun w => (Proc.ofExcept result : Proc ε (State w) α) where
  script := .done result
  runs _ := rfl

def pure (value : α) : Spelled serve fun w => (Pure.pure value : Proc ε (State w) α) where
  script := .done (.ok value)
  runs _ := rfl

def fail (failure : ε) : Spelled serve fun w => (Proc.fail failure : Proc ε (State w) α) where
  script := .done (.error failure)
  runs _ := rfl

def bind {p : ∀ w, Proc ε (State w) α} {next : ∀ w, α → Proc ε (State w) β}
    (first : Spelled serve p) (rest : ∀ value, Spelled serve fun w => next w value) :
    Spelled serve fun w => p w >>= next w where
  script := first.script.bind fun value => (rest value).script
  runs w := by
    rw [Script.proc_bind, ← first.runs]
    congr 1
    funext value
    exact (rest value).runs w

def ite (c : Prop) [Decidable c] {p q : ∀ w, Proc ε (State w) α} (yes : Spelled serve p)
    (no : Spelled serve q) : Spelled serve fun w => if c then p w else q w where
  script := if c then yes.script else no.script
  runs w := by
    split
    · exact yes.runs w
    · exact no.runs w

def dite (c : Prop) [Decidable c] {p : c → ∀ w, Proc ε (State w) α}
    {q : ¬c → ∀ w, Proc ε (State w) α} (yes : ∀ holds, Spelled serve (p holds))
    (no : ∀ fails, Spelled serve (q fails)) :
    Spelled serve fun w => if holds : c then p holds w else q holds w where
  script := if holds : c then (yes holds).script else (no holds).script
  runs w := by
    split
    · exact (yes _).runs w
    · exact (no _).runs w

/-- The caller decides what becomes of a failure. -/
def handle {p : ∀ w, Proc ε (State w) α} (spelled : Spelled serve p)
    (decide : Except ε α → Except ε β) :
    Spelled serve fun w => fun state => (decide (p w state).1, (p w state).2) where
  script := spelled.script.andThen fun result => .done (decide result)
  runs w := by
    funext state
    rw [spelled.runs w]
    exact (Script.run_andThen (serve w) spelled.script (fun result => .done (decide result))
      state).symm

/-- The script of a procedure that is the same in every world. -/
def congr {p q : ∀ w, Proc ε (State w) α} (same : ∀ w, p w = q w) (spelled : Spelled serve q) :
    Spelled serve p where
  script := spelled.script
  runs w := (same w).trans (spelled.runs w)

def foldlM {body : ∀ w, β → κ → Proc ε (State w) β}
    (turn : ∀ acc one, Spelled serve fun w => body w acc one) :
    (members : List κ) → (seed : β) → Spelled serve fun w => members.foldlM (body w) seed
  | [], seed => congr (fun _ => List.foldlM_nil) (pure seed)
  | one :: rest, seed =>
    congr (fun _ => List.foldlM_cons) (bind (turn seed one) fun acc => foldlM turn rest acc)

theorem foldlM_meets {C : Contract P} {body : ∀ w, β → κ → Proc ε (State w) β}
    {turn : ∀ acc one, Spelled serve fun w => body w acc one} {inv : β → Prop} {members : List κ}
    (turns : ∀ acc, inv acc → ∀ one ∈ members, (turn acc one).script.Meets C (Script.OnSuccess inv))
    {seed : β} (start : inv seed) :
    (foldlM turn members seed).script.Meets C (Script.OnSuccess inv) := by
  induction members generalizing seed with
  | nil => exact .value start
  | cons one rest ih =>
      apply Script.Meets.bind (turns seed start one List.mem_cons_self)
      intro acc here
      exact ih (fun acc holds other member => turns acc holds other (List.mem_cons_of_mem _ member))
        here

def each {body : ∀ w, β → Proc ε (State w) β} (turn : ∀ acc, Spelled serve fun w => body w acc)
    (seed : β) :
    Spelled (fun w => serveMany (serve w)) fun w => Proc.each (body w) seed where
  script := Script.each (fun acc => (turn acc).script) seed
  runs w := by
    rw [Script.proc_each]
    congr 1
    funext acc
    exact (turn acc).runs w

end Spelled

end Embedkv.Lib
