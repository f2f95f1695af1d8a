import Embedkv.Lib.Atomic
import Embedkv.Lib.Script

/-!
# An object behind a readers-writer lock

Threads call an object. A call takes the lock, shared or exclusive, follows its
script question by question, releases the lock and returns; the questions of
different threads interleave as the lock lets them. The lock is a `sync.RWMutex`:
a writer first announces itself, then waits for the readers that are inside;
readers that come after the announcement wait for the writer to leave, and are
let in when it does.

As long as the scripts of the shared calls leave the object as it is, the calls
are atomic: every trace is one of the machine in which each call takes effect at
one instant between its call and its return.
-/

namespace Embedkv.Lib

set_option autoImplicit false

variable {T κ ρ σ : Type} {P : Port} [DecidableEq T]

/-- How an object is called: how it answers, the script of each call, and the
calls that take the lock shared. -/
structure Locked (P : Port) (σ κ ρ : Type) where
  serve : Server P σ
  body : κ → Script P ρ
  Shared : κ → Prop

namespace Locked

inductive Phase (P : Port) (κ ρ : Type) where
  | idle
  /-- A reader that came after an announcement. -/
  | knocking (what : κ)
  /-- A writer that has not announced itself. -/
  | queued (what : κ)
  /-- A writer that has announced itself and waits for the readers inside. -/
  | pending (what : κ)
  | reading (what : κ) (rest : Script P ρ)
  | writing (what : κ) (rest : Script P ρ)

namespace Phase

def Reads : Phase P κ ρ → Prop
  | reading _ _ => True
  | _ => False

def Writes : Phase P κ ρ → Prop
  | writing _ _ => True
  | _ => False

def Announced : Phase P κ ρ → Prop
  | pending _ | writing _ _ => True
  | _ => False

def Knocks : Phase P κ ρ → Prop
  | knocking _ => True
  | _ => False

theorem Writes.announced {phase : Phase P κ ρ} (writes : phase.Writes) : phase.Announced := by
  cases phase with
  | writing => trivial
  | _ => cases writes

/-- A reader that waits is let in. -/
def letIn (body : κ → Script P ρ) : Phase P κ ρ → Phase P κ ρ
  | knocking what => reading what (body what)
  | phase => phase

/-- What a thread knows of its call. -/
def seen : Phase P κ ρ → Atomic.Phase κ ρ
  | idle => .idle
  | knocking what | queued what | pending what | reading what _ | writing what _ => .called what

theorem letIn_announced {body : κ → Script P ρ} {phase : Phase P κ ρ} :
    (phase.letIn body).Announced ↔ phase.Announced := by
  cases phase <;> exact Iff.rfl

theorem letIn_knocks {body : κ → Script P ρ} {phase : Phase P κ ρ} :
    ¬(phase.letIn body).Knocks := by
  cases phase <;> exact id

theorem seen_letIn {body : κ → Script P ρ} {phase : Phase P κ ρ} :
    (phase.letIn body).seen = phase.seen := by
  cases phase <;> rfl

end Phase

structure State (T : Type) (P : Port) (σ κ ρ : Type) where
  object : σ
  phase : T → Phase P κ ρ

def start (object : σ) : State T P σ κ ρ where
  object := object
  phase _ := .idle

/-- A thread goes on to another phase. -/
def State.move (s : State T P σ κ ρ) (thread : T) (phase : Phase P κ ρ) : State T P σ κ ρ :=
  { s with phase := Function.update s.phase thread phase }

inductive Step (locked : Locked P σ κ ρ) : Steps (State T P σ κ ρ) (Event T κ ρ) where
  | read {s : State T P σ κ ρ} (thread : T) (what : κ) (idle : s.phase thread = .idle)
      (shared : locked.Shared what) (clear : ∀ other, ¬(s.phase other).Announced) :
      Step locked s (some (.call thread what)) (s.move thread (.reading what (locked.body what)))
  | knock {s : State T P σ κ ρ} (thread other : T) (what : κ) (idle : s.phase thread = .idle)
      (shared : locked.Shared what) (announced : (s.phase other).Announced) :
      Step locked s (some (.call thread what)) (s.move thread (.knocking what))
  | queue {s : State T P σ κ ρ} (thread : T) (what : κ) (idle : s.phase thread = .idle)
      (exclusive : ¬locked.Shared what) :
      Step locked s (some (.call thread what)) (s.move thread (.queued what))
  | announce {s : State T P σ κ ρ} (thread : T) (what : κ) (queued : s.phase thread = .queued what)
      (clear : ∀ other, ¬(s.phase other).Announced) :
      Step locked s none (s.move thread (.pending what))
  | enter {s : State T P σ κ ρ} (thread : T) (what : κ) (pending : s.phase thread = .pending what)
      (clear : ∀ other, ¬(s.phase other).Reads) :
      Step locked s none (s.move thread (.writing what (locked.body what)))
  | ask_shared {s : State T P σ κ ρ} (thread : T) (what : κ) (query : P.Query)
      (next : P.Answer query → Script P ρ)
      (reading : s.phase thread = .reading what (.ask query next)) :
      Step locked s none
        ({ s with object := (locked.serve query s.object).2 }.move thread
          (.reading what (next (locked.serve query s.object).1)))
  | ask_exclusive {s : State T P σ κ ρ} (thread : T) (what : κ) (query : P.Query)
      (next : P.Answer query → Script P ρ)
      (writing : s.phase thread = .writing what (.ask query next)) :
      Step locked s none
        ({ s with object := (locked.serve query s.object).2 }.move thread
          (.writing what (next (locked.serve query s.object).1)))
  | leave_shared {s : State T P σ κ ρ} (thread : T) (what : κ) (answer : ρ)
      (reading : s.phase thread = .reading what (.done answer)) :
      Step locked s (some (.ret thread answer)) (s.move thread .idle)
  | leave_exclusive {s : State T P σ κ ρ} (thread : T) (what : κ) (answer : ρ)
      (writing : s.phase thread = .writing what (.done answer)) :
      Step locked s (some (.ret thread answer))
        ({ s with phase := fun other => (s.phase other).letIn locked.body }.move thread .idle)

/-! ## What the lock keeps -/

section
variable {locked : Locked P σ κ ρ} {s s' : State T P σ κ ρ} {thread other : T}
  {phase : Phase P κ ρ}

@[simp] theorem move_object : (s.move thread phase).object = s.object := rfl

@[simp] theorem move_self : (s.move thread phase).phase thread = phase :=
  Function.update_self ..

theorem move_other (different : other ≠ thread) :
    (s.move thread phase).phase other = s.phase other :=
  Function.update_of_ne different ..

theorem move_cases (s : State T P σ κ ρ) (thread : T) (phase : Phase P κ ρ) (other : T) :
    other = thread ∧ (s.move thread phase).phase other = phase ∨
      other ≠ thread ∧ (s.move thread phase).phase other = s.phase other := by
  by_cases same : other = thread
  · exact .inl ⟨same, by rw [same, move_self]⟩
  · exact .inr ⟨same, move_other same⟩

/-- How threads exclude each other. -/
structure Orderly (s : State T P σ κ ρ) : Prop where
  /-- One writer at most is announced or inside. -/
  alone : ∀ one, (s.phase one).Announced → ∀ other, (s.phase other).Announced → one = other
  /-- No reader is inside with a writer. -/
  apart : ∀ one, (s.phase one).Writes → ∀ other, ¬(s.phase other).Reads
  /-- A reader waits for a writer only. -/
  waits : ∀ one, (s.phase one).Knocks → ∃ other, (s.phase other).Announced

theorem Orderly.move (orderly : Orderly s)
    (alone : phase.Announced → ∀ other, other ≠ thread → ¬(s.phase other).Announced)
    (enters : phase.Writes → ∀ other, other ≠ thread → ¬(s.phase other).Reads)
    (reads : phase.Reads → ∀ other, other ≠ thread → ¬(s.phase other).Writes)
    (knocks : phase.Knocks → ∃ other, other ≠ thread ∧ (s.phase other).Announced)
    (stays : (s.phase thread).Announced → phase.Announced) :
    Orderly (s.move thread phase) := by
  have announced (one : T) (was : (s.phase one).Announced) :
      ((s.move thread phase).phase one).Announced := by
    rcases move_cases s thread phase one with ⟨rfl, now⟩ | ⟨_, now⟩
    · rw [now]
      exact stays was
    · rwa [now]
  constructor
  · intro one here other there
    rcases move_cases s thread phase one with ⟨same, now⟩ | ⟨different, now⟩
    all_goals rcases move_cases s thread phase other with ⟨same', now'⟩ | ⟨different', now'⟩
    all_goals rw [now] at here
    all_goals rw [now'] at there
    · rw [same, same']
    · exact absurd there (alone here other different')
    · exact absurd here (alone there one different)
    · exact orderly.alone one here other there
  · intro one here other there
    rcases move_cases s thread phase one with ⟨same, now⟩ | ⟨different, now⟩
    all_goals rcases move_cases s thread phase other with ⟨same', now'⟩ | ⟨different', now'⟩
    all_goals rw [now] at here
    all_goals rw [now'] at there
    · cases phase <;> first | exact here | exact there
    · exact enters here other different' there
    · exact reads there one different here
    · exact orderly.apart one here other there
  · intro one here
    rcases move_cases s thread phase one with ⟨rfl, now⟩ | ⟨_, now⟩
    all_goals rw [now] at here
    · obtain ⟨other, _, there⟩ := knocks here
      exact ⟨other, announced other there⟩
    · obtain ⟨other, there⟩ := orderly.waits one here
      exact ⟨other, announced other there⟩

omit [DecidableEq T] in
/-- With a writer inside, all others are outside. -/
theorem Orderly.outside (orderly : Orderly s) {what : κ} {rest : Script P ρ}
    (writing : s.phase thread = .writing what rest) (different : other ≠ thread) :
    ¬(s.phase other).Reads ∧ ¬(s.phase other).Writes := by
  have here : (s.phase thread).Writes := by
    rw [writing]
    trivial
  refine ⟨orderly.apart thread here other, fun writes => different ?_⟩
  exact orderly.alone other writes.announced thread here.announced

omit [DecidableEq T] in
theorem orderly_start (object : σ) : Orderly (start object : State T P σ κ ρ) :=
  ⟨nofun, nofun, nofun⟩

theorem Orderly.step {label : Option (Event T κ ρ)} (orderly : Orderly s)
    (step : Step locked s label s') : Orderly s' := by
  cases step with
  | read thread what idle _ clear =>
      refine orderly.move nofun nofun (fun _ other _ writes => ?_) nofun ?_
      · exact clear other writes.announced
      · rw [idle]
        exact nofun
  | knock thread other what idle _ announced =>
      refine orderly.move nofun nofun nofun (fun _ => ⟨other, ?_, announced⟩) ?_
      · rintro rfl
        rw [idle] at announced
        exact announced
      · rw [idle]
        exact nofun
  | queue thread what idle _ =>
      refine orderly.move nofun nofun nofun nofun ?_
      rw [idle]
      exact nofun
  | announce thread what queued clear =>
      exact orderly.move (fun _ other _ => clear other) nofun nofun nofun fun _ => trivial
  | enter thread what pending clear =>
      refine orderly.move (fun _ other different announced => ?_) (fun _ other _ => clear other)
        nofun nofun fun _ => trivial
      have here : (s.phase thread).Announced := by
        rw [pending]
        trivial
      exact different (orderly.alone other announced thread here)
  | ask_shared thread what query next reading =>
      have kept : Orderly { s with object := (locked.serve query s.object).2 } :=
        ⟨orderly.alone, orderly.apart, orderly.waits⟩
      have here : (s.phase thread).Reads := by
        rw [reading]
        trivial
      refine kept.move nofun nofun (fun _ other _ writes => ?_) nofun ?_
      · exact orderly.apart other writes thread here
      · change (s.phase thread).Announced → _
        rw [reading]
        exact nofun
  | ask_exclusive thread what query next writing =>
      have kept : Orderly { s with object := (locked.serve query s.object).2 } :=
        ⟨orderly.alone, orderly.apart, orderly.waits⟩
      have here : (s.phase thread).Writes := by
        rw [writing]
        trivial
      refine kept.move (fun _ other different announced => ?_) (fun _ other _ => ?_)
        nofun nofun fun _ => trivial
      · exact different (orderly.alone other announced thread here.announced)
      · exact orderly.apart thread here other
  | leave_shared thread what answer reading =>
      refine orderly.move nofun nofun nofun nofun ?_
      rw [reading]
      exact nofun
  | leave_exclusive thread what answer writing =>
      have here : (s.phase thread).Announced := by
        rw [writing]
        trivial
      let admitted : State T P σ κ ρ :=
        { s with phase := fun other => (s.phase other).letIn locked.body }
      have clear (other : T) : ¬((admitted.move thread .idle).phase other).Announced := by
        rcases move_cases admitted thread .idle other with ⟨_, now⟩ | ⟨different, now⟩
        all_goals rw [now]
        · exact nofun
        · intro announced
          exact different (orderly.alone other (Phase.letIn_announced.mp announced) thread here)
      have admits (other : T) : ¬((admitted.move thread .idle).phase other).Knocks := by
        rcases move_cases admitted thread .idle other with ⟨_, now⟩ | ⟨_, now⟩
        all_goals rw [now]
        · exact nofun
        · exact Phase.letIn_knocks
      exact ⟨fun one announced => absurd announced (clear one),
        fun one writes => absurd writes.announced (clear one),
        fun one knocks => absurd knocks (admits one)⟩

end

/-! ## Shared calls leave the object alone -/

/-- What the contract allows to ask changes nothing, and the shared calls ask
nothing else. -/
structure Still (locked : Locked P σ κ ρ) (C : Contract P) : Prop where
  asks : ∀ what, locked.Shared what → (locked.body what).Meets C fun _ => True
  answers : ∀ query object, C.asks query → C.answers query (locked.serve query object).1
  keeps : ∀ query object, C.asks query → (locked.serve query object).2 = object

section
variable {locked : Locked P σ κ ρ} {C : Contract P} {s s' : State T P σ κ ρ}
  {a : Atomic.State T κ ρ σ} {thread : T} {phase : Phase P κ ρ}

omit [DecidableEq T] in
theorem Still.run (still : Still locked C) {script : Script P ρ}
    (meets : script.Meets C fun _ => True) (object : σ) :
    (script.run locked.serve object).2 = object := by
  induction script with
  | done answer => rfl
  | ask query next ih =>
      rw [Script.run, still.keeps query object meets.1]
      exact ih _ (meets.2 _ (still.answers query object meets.1))

/-- A call as one function of the object. -/
def effect (locked : Locked P σ κ ρ) (what : κ) (object : σ) : ρ × σ :=
  (locked.body what).run locked.serve object

/-- What is left of a script gives what the whole script gives: a reader's from
the object as it is, a writer's from the object as it found it. -/
def Phase.Good (locked : Locked P σ κ ρ) (C : Contract P) (object found : σ) : Phase P κ ρ → Prop
  | knocking what => locked.Shared what
  | reading what rest => locked.Shared what ∧ rest.Meets C (fun _ => True) ∧
      (rest.run locked.serve object).1 = (locked.effect what object).1
  | writing what rest => rest.run locked.serve object = locked.effect what found
  | _ => True

/-- A thread that is not inside does not look at the object. -/
theorem Phase.Good.outside {object found object' found' : σ} (reads : ¬phase.Reads)
    (writes : ¬phase.Writes) (good : phase.Good locked C object found) :
    phase.Good locked C object' found' := by
  cases phase with
  | reading => exact absurd trivial reads
  | writing => exact absurd trivial writes
  | _ => exact good

theorem Phase.Good.letIn (still : Still locked C) {object found object' found' : σ}
    (reads : ¬phase.Reads) (writes : ¬phase.Writes) (good : phase.Good locked C object found) :
    (phase.letIn locked.body).Good locked C object' found' := by
  cases phase with
  | knocking what => exact ⟨good, still.asks what good, rfl⟩
  | reading => exact absurd trivial reads
  | writing => exact absurd trivial writes
  | _ => trivial

/-- The locked object goes on from the atomic one. While a writer is inside, the
atomic object is as the writer found it. -/
structure Tracks (locked : Locked P σ κ ρ) (C : Contract P) (s : State T P σ κ ρ)
    (a : Atomic.State T κ ρ σ) : Prop where
  orderly : Orderly s
  seen : ∀ thread, a.phase thread = (s.phase thread).seen
  quiet : (∀ thread, ¬(s.phase thread).Writes) → s.object = a.object
  good : ∀ thread, (s.phase thread).Good locked C s.object a.object

omit [DecidableEq T] in
theorem Tracks.at_rest (tracks : Tracks locked C s a) (reads : (s.phase thread).Reads) :
    s.object = a.object :=
  tracks.quiet fun other writes => tracks.orderly.apart other writes thread reads

/-- One thread moves while the object stays. -/
theorem Tracks.move (tracks : Tracks locked C s a) (orderly : Orderly (s.move thread phase))
    (outside : (s.phase thread).Writes → phase.Writes)
    (good : phase.Good locked C s.object a.object) :
    Tracks locked C (s.move thread phase)
      { a with phase := Function.update a.phase thread phase.seen } := by
  refine ⟨orderly, ?_, ?_, ?_⟩
  · intro other
    rcases move_cases s thread phase other with ⟨rfl, now⟩ | ⟨different, now⟩
    all_goals rw [now]
    · exact Function.update_self ..
    · exact (Function.update_of_ne different ..).trans (tracks.seen other)
  · intro clear
    apply tracks.quiet
    intro other writes
    rcases move_cases s thread phase other with ⟨rfl, now⟩ | ⟨_, now⟩
    all_goals have := clear other
    all_goals rw [now] at this
    · exact this (outside writes)
    · exact this writes
  · intro other
    rcases move_cases s thread phase other with ⟨_, now⟩ | ⟨_, now⟩
    all_goals rw [now]
    · exact good
    · exact tracks.good other

/-- The same, when the thread sees nothing of it. -/
theorem Tracks.move_unseen (tracks : Tracks locked C s a)
    (orderly : Orderly (s.move thread phase)) (outside : (s.phase thread).Writes → phase.Writes)
    (good : phase.Good locked C s.object a.object) (same : phase.seen = (s.phase thread).seen) :
    Tracks locked C (s.move thread phase) a := by
  have moved := tracks.move orderly outside good
  rwa [same, ← tracks.seen, Function.update_eq_self] at moved

/-- A call begins, outside or with the lock shared. -/
theorem Tracks.called (tracks : Tracks locked C s a) (what : κ) (idle : s.phase thread = .idle)
    (orderly : Orderly (s.move thread phase)) (seen : phase.seen = .called what)
    (good : phase.Good locked C s.object a.object) :
    ∃ a', Reaches (Atomic.Step locked.effect) a [.call thread what] a' ∧
      Tracks locked C (s.move thread phase) a' := by
  have here := tracks.seen thread
  rw [idle] at here
  have outside : (s.phase thread).Writes → phase.Writes := by
    rw [idle]
    exact nofun
  have moved := tracks.move orderly outside good
  rw [seen] at moved
  exact ⟨_, .single (Atomic.Step.call thread what here), moved⟩

/-- A writer asks: the atomic object stays as the writer found it. -/
theorem Tracks.asked (tracks : Tracks locked C s a) {what : κ} {query : P.Query}
    {next : P.Answer query → Script P ρ} (writing : s.phase thread = .writing what (.ask query next))
    (orderly : Orderly ({ s with object := (locked.serve query s.object).2 }.move thread
      (.writing what (next (locked.serve query s.object).1)))) :
    Tracks locked C ({ s with object := (locked.serve query s.object).2 }.move thread
      (.writing what (next (locked.serve query s.object).1))) a := by
  have good := tracks.good thread
  have seen := tracks.seen thread
  rw [writing] at good seen
  let asked : State T P σ κ ρ := { s with object := (locked.serve query s.object).2 }
  let goes : Phase P κ ρ := .writing what (next (locked.serve query s.object).1)
  refine ⟨orderly, ?_, ?_, ?_⟩
  · intro other
    rcases move_cases asked thread goes other with ⟨rfl, now⟩ | ⟨_, now⟩
    · exact seen.trans (congrArg Phase.seen now).symm
    · exact (tracks.seen other).trans (congrArg Phase.seen now).symm
  · intro clear
    have here := clear thread
    rw [move_self] at here
    exact absurd trivial here
  · intro other
    rcases move_cases asked thread goes other with ⟨_, now⟩ | ⟨different, now⟩
    all_goals rw [now]
    · exact good
    · obtain ⟨reads, writes⟩ := tracks.orderly.outside writing different
      exact (tracks.good other).outside reads writes

/-- A reader returns what its call gives from the object as it is. -/
theorem Tracks.left_shared (still : Still locked C) (tracks : Tracks locked C s a) {what : κ}
    {answer : ρ} (reading : s.phase thread = .reading what (.done answer))
    (orderly : Orderly (s.move thread .idle)) :
    ∃ a', Reaches (Atomic.Step locked.effect) a [.ret thread answer] a' ∧
      Tracks locked C (s.move thread .idle) a' := by
  have good := tracks.good thread
  have seen := tracks.seen thread
  rw [reading] at good seen
  obtain ⟨shared, _, same⟩ := good
  have reads : (s.phase thread).Reads := by
    rw [reading]
    trivial
  have outside : (s.phase thread).Writes → (Phase.idle : Phase P κ ρ).Writes := by
    rw [reading]
    exact nofun
  have kept : (locked.effect what a.object).2 = a.object :=
    still.run (still.asks what shared) a.object
  have told : (locked.effect what a.object).1 = answer := by
    rw [← tracks.at_rest reads]
    exact same.symm
  have ran := Atomic.served_run locked.effect seen
  rw [kept, told] at ran
  exact ⟨_, ran, tracks.move orderly outside trivial⟩

/-- A writer returns, and the readers that wait are let in. -/
theorem Tracks.left_exclusive (still : Still locked C) (tracks : Tracks locked C s a) {what : κ}
    {answer : ρ} (writing : s.phase thread = .writing what (.done answer))
    (orderly : Orderly ({ s with phase := fun other => (s.phase other).letIn locked.body }.move
      thread .idle)) :
    ∃ a', Reaches (Atomic.Step locked.effect) a [.ret thread answer] a' ∧
      Tracks locked C ({ s with phase := fun other => (s.phase other).letIn locked.body }.move
        thread .idle) a' := by
  have good := tracks.good thread
  have seen := tracks.seen thread
  rw [writing] at good seen
  have told : locked.effect what a.object = (answer, s.object) := good.symm
  have ran := Atomic.served_run locked.effect seen
  rw [told] at ran
  let admitted : State T P σ κ ρ :=
    { s with phase := fun other => (s.phase other).letIn locked.body }
  refine ⟨_, ran, orderly, ?_, fun _ => rfl, ?_⟩
  · intro other
    rcases move_cases admitted thread .idle other with ⟨rfl, now⟩ | ⟨different, now⟩
    · exact (Function.update_self ..).trans (congrArg Phase.seen now).symm
    · refine (Function.update_of_ne different ..).trans ?_
      rw [tracks.seen other, now]
      exact Phase.seen_letIn.symm
  · intro other
    rcases move_cases admitted thread .idle other with ⟨_, now⟩ | ⟨different, now⟩
    all_goals rw [now]
    · trivial
    · obtain ⟨reads, writes⟩ := tracks.orderly.outside writing different
      exact (tracks.good other).letIn still reads writes

/-- Every step of the locked object is a run of the atomic one. -/
theorem Tracks.step (still : Still locked C) (tracks : Tracks locked C s a)
    {label : Option (Event T κ ρ)} (step : Step locked s label s') :
    ∃ a', Reaches (Atomic.Step locked.effect) a label.toList a' ∧ Tracks locked C s' a' := by
  have orderly := tracks.orderly.step step
  cases step with
  | read thread what idle shared _ =>
      exact tracks.called what idle orderly rfl ⟨shared, still.asks what shared, rfl⟩
  | knock thread other what idle shared _ => exact tracks.called what idle orderly rfl shared
  | queue thread what idle _ => exact tracks.called what idle orderly rfl trivial
  | announce thread what queued _ =>
      refine ⟨a, .refl a, tracks.move_unseen orderly ?_ trivial ?_⟩
      all_goals rw [queued]
      · exact False.elim
      · rfl
  | enter thread what pending _ =>
      have here : (s.phase thread).Announced := by
        rw [pending]
        trivial
      have found : s.object = a.object := tracks.quiet fun other writes => by
        rw [tracks.orderly.alone other writes.announced thread here, pending] at writes
        exact writes
      refine ⟨a, .refl a, tracks.move_unseen orderly (fun _ => trivial) ?_ ?_⟩
      · exact congrArg (locked.effect what) found
      · rw [pending]
        rfl
  | ask_shared thread what query next reading =>
      have good := tracks.good thread
      rw [reading] at good
      obtain ⟨shared, meets, same⟩ := good
      have kept := still.keeps query s.object meets.1
      rw [Script.run, kept] at same
      rw [kept] at orderly ⊢
      refine ⟨a, .refl a, tracks.move_unseen orderly ?_ ?_ ?_⟩
      · rw [reading]
        exact False.elim
      · exact ⟨shared, meets.2 _ (still.answers query s.object meets.1), same⟩
      · rw [reading]
        rfl
  | ask_exclusive thread what query next writing =>
      exact ⟨a, .refl a, tracks.asked writing orderly⟩
  | leave_shared thread what answer reading => exact tracks.left_shared still reading orderly
  | leave_exclusive thread what answer writing => exact tracks.left_exclusive still writing orderly

omit [DecidableEq T] in
theorem tracks_start (object : σ) :
    Tracks locked C (start object : State T P σ κ ρ) (Atomic.start object) :=
  ⟨orderly_start object, fun _ => rfl, fun _ => rfl, fun _ => trivial⟩

/-- Calls behind the lock are atomic. -/
theorem linearizable (still : Still locked C) {object : σ} {trace : List (Event T κ ρ)}
    (run : Reaches (Step locked) (start object) trace s) :
    ∃ a, Reaches (Atomic.Step locked.effect) (Atomic.start object) trace a ∧
      Tracks locked C s a :=
  run.simulates (fun _ => Tracks locked C) (fun _ => True) (fun _ _ _ => trivial)
    (fun _ _ _ _ _ _ tracks step => tracks.step still step) trivial (tracks_start object)

end

end Locked

end Embedkv.Lib
