import Mathlib.Algebra.BigOperators.Group.Finset.Basic
import Mathlib.Algebra.Order.BigOperators.Group.Finset
import Mathlib.Order.WellFounded
import Mathlib.Data.Fintype.Basic
import Embedkv.Lib.Locked

/-!
# Calls behind a lock return

With finitely many threads, and no new calls, the locked object takes finitely
many steps, and it stops only when every call has returned: no call waits for
another in a circle. A thread that keeps the lock shared and waits for a writer
is such a circle, and nothing gets out of it.
-/

namespace Embedkv.Lib.Locked

set_option autoImplicit false

variable {T κ ρ σ : Type} {P : Port} [DecidableEq T] {locked : Locked P σ κ ρ} {C : Contract P}
  {s s' : State T P σ κ ρ} {a : Atomic.State T κ ρ σ} {thread : T} {phase : Phase P κ ρ}

/-- A step that is not a new call. -/
def Moves (locked : Locked P σ κ ρ) (s s' : State T P σ κ ρ) : Prop :=
  ∃ label, Step locked s label s' ∧ ∀ thread what, label ≠ some (.call thread what)

/-! ## Calls that nobody disturbs -/

/-- A reader that nobody disturbs asks the rest of its questions and returns. -/
theorem finish_reading (locked : Locked P σ κ ρ) {s : State T P σ κ ρ} {thread : T} {what : κ}
    {rest : Script P ρ} (reading : s.phase thread = .reading what rest) :
    ∃ s', Reaches (Step locked) s [.ret thread (rest.run locked.serve s.object).1] s' ∧
      s'.phase = Function.update s.phase thread .idle := by
  induction rest generalizing s with
  | done answer => exact ⟨_, .single (Step.leave_shared thread what answer reading), rfl⟩
  | ask query next ih =>
      have first : Reaches (Step locked) s [] _ :=
        .single (Step.ask_shared thread what query next reading)
      obtain ⟨s', second, left⟩ := ih _ (s := { s with object := (locked.serve query s.object).2 }.move
        thread (.reading what (next (locked.serve query s.object).1))) (Function.update_self ..)
      refine ⟨s', first.append second, left.trans ?_⟩
      exact Function.update_idem ..

/-- A writer that nobody disturbs asks the rest of its questions and returns. -/
theorem finish_writing (locked : Locked P σ κ ρ) {s : State T P σ κ ρ} {thread : T} {what : κ}
    {rest : Script P ρ} (writing : s.phase thread = .writing what rest) :
    ∃ s', Reaches (Step locked) s [.ret thread (rest.run locked.serve s.object).1] s' := by
  induction rest generalizing s with
  | done answer => exact ⟨_, .single (Step.leave_exclusive thread what answer writing)⟩
  | ask query next ih =>
      have first : Reaches (Step locked) s [] _ :=
        .single (Step.ask_exclusive thread what query next writing)
      obtain ⟨s', second⟩ := ih _ (s := { s with object := (locked.serve query s.object).2 }.move
        thread (.writing what (next (locked.serve query s.object).1))) (Function.update_self ..)
      exact ⟨s', first.append second⟩

/-- A writer that comes while a reader is inside waits for it; then both return. -/
theorem overlapping (locked : Locked P σ κ ρ) (object : σ) {one other : T} (different : other ≠ one)
    (what what' : κ) (shared : locked.Shared what) (exclusive : ¬locked.Shared what') :
    ∃ answer answer' s, Reaches (Step locked) (start object)
      [.call one what, .call other what', .ret one answer, .ret other answer'] s := by
  let called := (start object : State T P σ κ ρ).move one (.reading what (locked.body what))
  have first : Reaches (Step locked) (start object) [.call one what] called :=
    .single (Step.read one what rfl shared fun _ => id)
  have second := first.snoc (Step.queue other what' (move_other different) exclusive)
  have inside : (called.move other (.queued what')).phase one = .reading what (locked.body what) := by
    rw [move_other different.symm, move_self]
  obtain ⟨s, returned, left⟩ := finish_reading locked inside
  have alone (thread : T) : s.phase thread = if thread = other then .queued what' else .idle := by
    rw [left]
    by_cases reader : thread = one
    · rw [reader, Function.update_self, if_neg different.symm]
    · rw [Function.update_of_ne reader]
      rcases move_cases called other (.queued what') thread with ⟨same, now⟩ | ⟨away, now⟩
      · rw [now, if_pos same]
      · rw [now, if_neg away]
        exact move_other reader
  have third := second.append returned
  have clear (thread : T) : ¬(s.phase thread).Announced := by
    rw [alone]
    split <;> exact id
  have fourth := third.snoc (Step.announce other what' (by rw [alone, if_pos rfl]) clear)
  have empty (thread : T) : ¬((s.move other (.pending what')).phase thread).Reads := by
    rcases move_cases s other (.pending what') thread with ⟨_, now⟩ | ⟨away, now⟩
    · rw [now]
      exact id
    · rw [now, alone, if_neg away]
      exact id
  have fifth := fourth.snoc (Step.enter other what' move_self empty)
  obtain ⟨s', ended⟩ := finish_writing locked (s := (s.move other (.pending what')).move other
    (.writing what' (locked.body what'))) move_self
  exact ⟨_, _, s', fifth.append ended⟩

/-! ## A rank that falls -/

/-- The questions a script asks from a state, run alone. -/
def questions (serve : Server P σ) : Script P ρ → σ → Nat
  | .done _, _ => 0
  | .ask query next, object =>
    questions serve (next (serve query object).1) (serve query object).2 + 1

/-- How many times a call has yet to get on. -/
def Phase.stage : Phase P κ ρ → Nat
  | idle => 0
  | reading _ _ | writing _ _ => 1
  | knocking _ | pending _ => 2
  | queued _ => 3

/-- The questions a call inside has yet to ask. -/
def Phase.left (serve : Server P σ) (object : σ) : Phase P κ ρ → Nat
  | reading _ rest | writing _ rest => questions serve rest object
  | _ => 0

theorem Phase.left_outside {serve : Server P σ} {object : σ} (reads : ¬phase.Reads)
    (writes : ¬phase.Writes) : phase.left serve object = 0 := by
  cases phase with
  | reading => exact absurd trivial reads
  | writing => exact absurd trivial writes
  | _ => rfl

theorem Phase.stage_letIn {body : κ → Script P ρ} : (phase.letIn body).stage ≤ phase.stage := by
  cases phase with
  | knocking => exact Nat.le_succ 1
  | _ => exact Nat.le_refl _

theorem sum_move [Fintype T] (measure : Phase P κ ρ → Nat) (s : State T P σ κ ρ) (thread : T)
    (phase : Phase P κ ρ) :
    ∑ one, measure ((s.move thread phase).phase one) + measure (s.phase thread) =
      ∑ one, measure (s.phase one) + measure phase := by
  have others : ∑ one ∈ Finset.univ.erase thread, measure ((s.move thread phase).phase one) =
      ∑ one ∈ Finset.univ.erase thread, measure (s.phase one) := by
    apply Finset.sum_congr rfl
    intro one member
    rw [move_other (Finset.ne_of_mem_erase member)]
  have after := Finset.add_sum_erase Finset.univ
    (fun one => measure ((s.move thread phase).phase one)) (Finset.mem_univ thread)
  have before := Finset.add_sum_erase Finset.univ (fun one => measure (s.phase one))
    (Finset.mem_univ thread)
  rw [move_self] at after
  omega

def rank [Fintype T] (locked : Locked P σ κ ρ) (s : State T P σ κ ρ) : Nat × Nat :=
  (∑ one, (s.phase one).stage, ∑ one, (s.phase one).left locked.serve s.object)

/-- A thread gets on, or asks a question less. -/
def Falls (after before : Nat × Nat) : Prop := Prod.Lex (· < ·) (· < ·) after before

theorem falls_wf : WellFounded Falls := WellFounded.prod_lex Nat.lt_wfRel.wf Nat.lt_wfRel.wf

section
variable [Fintype T]

theorem falls_stage (less : phase.stage < (s.phase thread).stage) :
    Falls (rank locked (s.move thread phase)) (rank locked s) := by
  have moved := sum_move Phase.stage s thread phase
  apply Prod.Lex.left
  omega

/-- A question was asked that left the calls of all others as they were. -/
theorem falls_left {object : σ} (same : phase.stage = (s.phase thread).stage)
    (less : phase.left locked.serve object < (s.phase thread).left locked.serve s.object)
    (others : ∀ other, other ≠ thread → (s.phase other).left locked.serve object =
      (s.phase other).left locked.serve s.object) :
    Falls (rank locked ({ s with object := object }.move thread phase)) (rank locked s) := by
  let asked : State T P σ κ ρ := { s with object := object }
  have moved : ∑ one, ((asked.move thread phase).phase one).stage + (s.phase thread).stage =
      ∑ one, (s.phase one).stage + phase.stage := sum_move Phase.stage asked thread phase
  have stages : ∑ one, ((asked.move thread phase).phase one).stage =
      ∑ one, (s.phase one).stage := by omega
  refine Prod.lex_def.mpr (.inr ⟨stages, ?_⟩)
  apply Finset.sum_lt_sum
  · intro one _
    rcases move_cases asked thread phase one with ⟨rfl, now⟩ | ⟨different, now⟩
    all_goals rw [now]
    · exact less.le
    · exact (others one different).le
  · refine ⟨thread, Finset.mem_univ thread, ?_⟩
    rw [move_self]
    exact less

theorem moves_falls (still : Still locked C) (tracks : Tracks locked C s a)
    (moves : Moves locked s s') : Falls (rank locked s') (rank locked s) := by
  obtain ⟨label, step, unasked⟩ := moves
  cases step with
  | read thread what => exact absurd rfl (unasked thread what)
  | knock thread _ what => exact absurd rfl (unasked thread what)
  | queue thread what => exact absurd rfl (unasked thread what)
  | announce thread what queued _ =>
      apply falls_stage
      rw [queued]
      exact Nat.lt_succ_self 2
  | enter thread what pending _ =>
      apply falls_stage
      rw [pending]
      exact Nat.lt_succ_self 1
  | ask_shared thread what query next reading =>
      have good := tracks.good thread
      rw [reading] at good
      have kept := still.keeps query s.object good.2.1.1
      apply falls_left
      · rw [reading]
        rfl
      · rw [reading]
        exact Nat.lt_succ_self _
      · intro other _
        rw [kept]
  | ask_exclusive thread what query next writing =>
      apply falls_left
      · rw [writing]
        rfl
      · rw [writing]
        exact Nat.lt_succ_self _
      · intro other different
        obtain ⟨reads, writes⟩ := tracks.orderly.outside writing different
        rw [Phase.left_outside reads writes, Phase.left_outside reads writes]
  | leave_shared thread what answer reading =>
      apply falls_stage
      rw [reading]
      exact Nat.lt_succ_self 0
  | leave_exclusive thread what answer writing =>
      let admitted : State T P σ κ ρ :=
        { s with phase := fun other => (s.phase other).letIn locked.body }
      have moved := sum_move Phase.stage admitted thread .idle
      have fewer : ∑ one, (admitted.phase one).stage ≤ ∑ one, (s.phase one).stage :=
        Finset.sum_le_sum fun one _ => Phase.stage_letIn
      have here : (admitted.phase thread).stage = 1 := by
        change ((s.phase thread).letIn locked.body).stage = 1
        rw [writing]
        rfl
      apply Prod.Lex.left
      change _ + _ = _ + 0 at moved
      change ∑ one, ((admitted.move thread .idle).phase one).stage < _
      omega

end

/-! ## No circle of waiting -/

/-- A call that is inside can get on. -/
theorem inside_moves (inside : (s.phase thread).Reads ∨ (s.phase thread).Writes) :
    ∃ s', Moves locked s s' := by
  cases now : s.phase thread with
  | reading what rest =>
      cases rest with
      | done answer => exact ⟨_, _, .leave_shared thread what answer now, nofun⟩
      | ask query next => exact ⟨_, _, .ask_shared thread what query next now, nofun⟩
  | writing what rest =>
      cases rest with
      | done answer => exact ⟨_, _, .leave_exclusive thread what answer now, nofun⟩
      | ask query next => exact ⟨_, _, .ask_exclusive thread what query next now, nofun⟩
  | _ =>
      rw [now] at inside
      exact absurd inside (not_or_intro nofun nofun)

/-- Some thread can get on, unless no thread is in a call. -/
theorem some_moves (locked : Locked P σ κ ρ) (orderly : Orderly s) (busy : s.phase thread ≠ .idle) :
    ∃ s', Moves locked s s' := by
  by_cases inside : ∃ one, (s.phase one).Reads ∨ (s.phase one).Writes
  · obtain ⟨one, inside⟩ := inside
    exact inside_moves inside
  have reads (one : T) : ¬(s.phase one).Reads := fun reads => inside ⟨one, .inl reads⟩
  have writes (one : T) : ¬(s.phase one).Writes := fun writes => inside ⟨one, .inr writes⟩
  by_cases announced : ∃ one, (s.phase one).Announced
  · obtain ⟨one, announced⟩ := announced
    have outside := writes one
    cases now : s.phase one with
    | pending what => exact ⟨_, _, .enter one what now reads, nofun⟩
    | writing =>
        rw [now] at outside
        exact absurd trivial outside
    | _ =>
        rw [now] at announced
        exact absurd announced nofun
  · have clear (one : T) : ¬(s.phase one).Announced := fun here => announced ⟨one, here⟩
    cases now : s.phase thread with
    | idle => exact absurd now busy
    | knocking =>
        have knocks := orderly.waits thread
        rw [now] at knocks
        exact absurd (knocks trivial) announced
    | queued what => exact ⟨_, _, .announce thread what now clear, nofun⟩
    | pending =>
        have here := clear thread
        rw [now] at here
        exact absurd trivial here
    | reading =>
        have here := reads thread
        rw [now] at here
        exact absurd trivial here
    | writing =>
        have here := writes thread
        rw [now] at here
        exact absurd trivial here

/-- Without new calls, every sequence of steps ends. -/
theorem moves_end [Fintype T] (still : Still locked C) (tracks : Tracks locked C s a) :
    Acc (fun after before => Moves locked before after) s := by
  induction ranked : rank locked s using falls_wf.induction generalizing s a with
  | _ before ih =>
      constructor
      intro after moves
      obtain ⟨label, step, _⟩ := id moves
      obtain ⟨a', _, tracks'⟩ := tracks.step still step
      have falls := moves_falls still tracks moves
      rw [ranked] at falls
      exact ih _ falls tracks' rfl

theorem Orderly.moves (orderly : Orderly s) (moves : Relation.ReflTransGen (Moves locked) s s') :
    Orderly s' := by
  induction moves with
  | refl => exact orderly
  | tail _ last ih =>
      obtain ⟨label, step, _⟩ := last
      exact ih.step step

/-- Where nothing can get on, every call has returned. -/
theorem idle_of_stuck (orderly : Orderly s) (stuck : ∀ s', ¬Moves locked s s') (thread : T) :
    s.phase thread = .idle := by
  by_contra busy
  obtain ⟨s', moves⟩ := some_moves locked orderly busy
  exact stuck s' moves

/-! ## A reader that waits for a call -/

/-- The call has begun and is not inside. -/
def Phase.Waits : Phase P κ ρ → Prop
  | knocking _ | queued _ | pending _ => True
  | _ => False

theorem kept_by_move {holds : Phase P κ ρ → Prop} {one : T} (here : holds (s.phase one))
    (moved : one = thread → holds phase) : holds ((s.move thread phase).phase one) := by
  rcases move_cases s thread phase one with ⟨same, now⟩ | ⟨_, now⟩
  all_goals rw [now]
  · exact moved same
  · exact here

variable {outer inner : T} {label : Option (Event T κ ρ)} {trace : List (Event T κ ρ)}

/-- A reader stays inside until it returns. -/
theorem reads_step (reads : (s.phase outer).Reads) (step : Step locked s label s')
    (stays : ∀ answer, label ≠ some (.ret outer answer)) : (s'.phase outer).Reads := by
  cases step with
  | read thread what => exact kept_by_move reads fun _ => trivial
  | knock thread other what idle =>
      apply kept_by_move reads
      rintro rfl
      rw [idle] at reads
      exact reads
  | queue thread what idle =>
      apply kept_by_move reads
      rintro rfl
      rw [idle] at reads
      exact reads
  | announce thread what queued =>
      apply kept_by_move reads
      rintro rfl
      rw [queued] at reads
      exact reads
  | enter thread what _ clear => exact absurd reads (clear outer)
  | ask_shared thread what query next _ =>
      exact kept_by_move (s := { s with object := (locked.serve query s.object).2 }) reads
        fun _ => trivial
  | ask_exclusive thread what query next writing =>
      apply kept_by_move (s := { s with object := (locked.serve query s.object).2 }) reads
      rintro rfl
      rw [writing] at reads
      exact reads
  | leave_shared thread what answer _ =>
      apply kept_by_move reads
      rintro rfl
      exact absurd rfl (stays answer)
  | leave_exclusive thread what answer writing =>
      have still : ((s.phase outer).letIn locked.body).Reads := by
        cases now : s.phase outer with
        | reading => trivial
        | _ =>
            rw [now] at reads
            exact absurd reads nofun
      apply kept_by_move (s := { s with phase := fun other => (s.phase other).letIn locked.body })
        still
      rintro rfl
      rw [writing] at reads
      exact reads

/-- As long as a reader is inside, a call that waits goes on waiting. -/
theorem waits_step (orderly : Orderly s) (reads : (s.phase outer).Reads)
    (waits : (s.phase inner).Waits) (step : Step locked s label s') :
    (s'.phase inner).Waits ∧ ∀ answer, label ≠ some (.ret inner answer) := by
  cases step with
  | read thread what idle =>
      refine ⟨kept_by_move waits ?_, nofun⟩
      rintro rfl
      rw [idle] at waits
      exact waits
  | knock thread other what idle => exact ⟨kept_by_move waits fun _ => trivial, nofun⟩
  | queue thread what idle => exact ⟨kept_by_move waits fun _ => trivial, nofun⟩
  | announce thread what queued => exact ⟨kept_by_move waits fun _ => trivial, nofun⟩
  | enter thread what _ clear => exact absurd reads (clear outer)
  | ask_shared thread what query next reading =>
      refine ⟨?_, nofun⟩
      apply kept_by_move (s := { s with object := (locked.serve query s.object).2 }) waits
      rintro rfl
      rw [reading] at waits
      exact waits
  | ask_exclusive thread what query next writing =>
      refine ⟨?_, nofun⟩
      apply kept_by_move (s := { s with object := (locked.serve query s.object).2 }) waits
      rintro rfl
      rw [writing] at waits
      exact waits
  | leave_shared thread what answer reading =>
      have other : inner ≠ thread := by
        rintro rfl
        rw [reading] at waits
        exact waits
      refine ⟨kept_by_move waits fun same => absurd same other, ?_⟩
      rintro _ ⟨⟩
      exact other rfl
  | leave_exclusive thread what answer writing =>
      have inside : (s.phase thread).Writes := by
        rw [writing]
        trivial
      exact absurd reads (orderly.apart thread inside outer)

/-- The call of `outer` returns only after one of `inner` has returned. -/
def Nested (outer inner : T) (trace : List (Event T κ ρ)) : Prop :=
  ∀ before answer after, trace = before ++ .ret outer answer :: after →
    ∃ reply, .ret inner reply ∈ before

omit [DecidableEq T] in
theorem Nested.before {later : List (Event T κ ρ)} (nested : Nested outer inner (trace ++ later)) :
    Nested outer inner trace := by
  rintro before answer after rfl
  exact nested before answer (after ++ later) (List.append_assoc ..)

/-- A reader that waits for a call that waits for the lock: neither returns. -/
theorem nested_hangs (orderly : Orderly s) (reads : (s.phase outer).Reads)
    (waits : (s.phase inner).Waits) (run : Reaches (Step locked) s trace s')
    (nested : Nested outer inner trace) :
    (Orderly s' ∧ (s'.phase outer).Reads ∧ (s'.phase inner).Waits) ∧
      (∀ answer, .ret outer answer ∉ trace) ∧ ∀ answer, .ret inner answer ∉ trace := by
  induction run with
  | refl => exact ⟨⟨orderly, reads, waits⟩, nofun, nofun⟩
  | @snoc mid s' trace label _ last ih =>
      obtain ⟨⟨orderly, reads, waits⟩, outside, hung⟩ := ih nested.before
      have stays : ∀ answer, label ≠ some (.ret outer answer) := by
        rintro answer rfl
        obtain ⟨reply, returned⟩ := nested trace answer [] rfl
        exact hung reply returned
      obtain ⟨waits', unreturned⟩ := waits_step orderly reads waits last
      refine ⟨⟨orderly.step last, reads_step reads last stays, waits'⟩, ?_, ?_⟩
      all_goals intro answer member
      all_goals rcases List.mem_append.mp member with earlier | now
      · exact outside answer earlier
      · exact stays answer (Option.mem_toList.mp now)
      · exact hung answer earlier
      · exact unreturned answer (Option.mem_toList.mp now)

/-- The later event is not the return of the earlier call. -/
def Unanswered (earlier later : Event T κ ρ) : Prop :=
  ∀ thread what answer, earlier = .call thread what → later ≠ .ret thread answer

/-- While a reader stays inside and a writer is announced, readers leave only. -/
theorem frozen_step (orderly : Orderly s) (reads : (s.phase outer).Reads)
    (announced : (s.phase inner).Announced) (step : Step locked s label s') :
    (s'.phase inner).Announced ∧ (∀ one, (s'.phase one).Reads → (s.phase one).Reads ∧
        ∀ what, label ≠ some (.call one what)) ∧
      ∀ one answer, label = some (.ret one answer) → (s.phase one).Reads := by
  have calm (one : T) : ¬(s.phase one).Writes := fun writes => orderly.apart one writes outer reads
  cases step with
  | read thread what _ _ clear => exact absurd announced (clear inner)
  | announce thread what _ clear => exact absurd announced (clear inner)
  | enter thread what _ clear => exact absurd reads (clear outer)
  | knock thread other what idle =>
      refine ⟨kept_by_move announced ?_, ?_, nofun⟩
      · rintro rfl
        rw [idle] at announced
        exact announced
      · intro one here
        rcases move_cases s thread (.knocking what) one with ⟨_, now⟩ | ⟨different, now⟩
        all_goals rw [now] at here
        · cases here
        · refine ⟨here, ?_⟩
          rintro _ ⟨⟩
          exact different rfl
  | queue thread what idle =>
      refine ⟨kept_by_move announced ?_, ?_, nofun⟩
      · rintro rfl
        rw [idle] at announced
        exact announced
      · intro one here
        rcases move_cases s thread (.queued what) one with ⟨_, now⟩ | ⟨different, now⟩
        all_goals rw [now] at here
        · cases here
        · refine ⟨here, ?_⟩
          rintro _ ⟨⟩
          exact different rfl
  | ask_shared thread what query next reading =>
      let asked : State T P σ κ ρ := { s with object := (locked.serve query s.object).2 }
      refine ⟨kept_by_move (s := asked) announced ?_, ?_, nofun⟩
      · rintro rfl
        rw [reading] at announced
        exact announced
      · intro one here
        refine ⟨?_, nofun⟩
        rcases move_cases asked thread
          (.reading what (next (locked.serve query s.object).1)) one with ⟨rfl, _⟩ | ⟨_, now⟩
        · rw [reading]
          trivial
        · rw [now] at here
          exact here
  | ask_exclusive thread what query next writing =>
      have outside := calm thread
      rw [writing] at outside
      exact absurd trivial outside
  | leave_shared thread what answer reading =>
      have inside : (s.phase thread).Reads := by
        rw [reading]
        trivial
      refine ⟨kept_by_move announced ?_, ?_, ?_⟩
      · rintro rfl
        rw [reading] at announced
        exact announced
      · intro one here
        refine ⟨?_, nofun⟩
        rcases move_cases s thread .idle one with ⟨_, now⟩ | ⟨_, now⟩
        all_goals rw [now] at here
        · cases here
        · exact here
      · rintro one other ⟨⟩
        exact inside
  | leave_exclusive thread what answer writing =>
      have outside := calm thread
      rw [writing] at outside
      exact absurd trivial outside

/-- While a reader stays inside and a writer is announced, no call that begins
returns. -/
theorem frozen (orderly : Orderly s) (reads : (s.phase outer).Reads)
    (announced : (s.phase inner).Announced) (run : Reaches (Step locked) s trace s')
    (stays : ∀ answer, .ret outer answer ∉ trace) : trace.Pairwise Unanswered := by
  suffices held : (Orderly s' ∧ (s'.phase outer).Reads ∧ (s'.phase inner).Announced) ∧
      (∀ one, (s'.phase one).Reads → ∀ what, .call one what ∉ trace) ∧
      trace.Pairwise Unanswered from held.2.2
  induction run with
  | refl => exact ⟨⟨orderly, reads, announced⟩, fun _ _ _ => List.not_mem_nil, .nil⟩
  | @snoc mid s' trace label _ last ih =>
      have inside : ∀ answer, .ret outer answer ∉ trace := fun answer member =>
        stays answer (List.mem_append_left _ member)
      obtain ⟨⟨orderly, reads, announced⟩, old, pairs⟩ := ih inside
      have remains : ∀ answer, label ≠ some (.ret outer answer) := by
        rintro answer rfl
        exact stays answer (List.mem_append_right _ List.mem_cons_self)
      obtain ⟨announced', fewer, readers⟩ := frozen_step orderly reads announced last
      refine ⟨⟨orderly.step last, reads_step reads last remains, announced'⟩, ?_, ?_⟩
      · intro one here what member
        rcases List.mem_append.mp member with earlier | now
        · exact old one (fewer one here).1 what earlier
        · exact (fewer one here).2 what (Option.mem_toList.mp now)
      · refine List.pairwise_append.mpr ⟨pairs, ?_, ?_⟩
        · cases label <;> simp
        · rintro earlier member later now thread what answer rfl rfl
          exact old thread (readers thread answer (Option.mem_toList.mp now)) what member

end Embedkv.Lib.Locked
