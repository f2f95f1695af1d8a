import Embedkv.Lib.Proc

/-!
# Scripts

A script is a procedure spelled out as the questions it puts to an object: it is
done with a result, or it asks something and goes on with the answer. What a
script does follows from how the object answers, so one script runs on every
object behind the same port. A contract says which questions may be asked and
which answers may come back. Two objects that answer alike where the contract
allows the question cannot be told apart by a script that meets it.
-/

namespace Embedkv.Lib

set_option autoImplicit false

/-- What an object can be asked, and the type of each answer. -/
structure Port where
  Query : Type
  Answer : Query → Type

/-- How a state answers, and the state it becomes. -/
def Server (P : Port) (σ : Type) : Type := (query : P.Query) → σ → P.Answer query × σ

inductive Script (P : Port) (α : Type) : Type where
  | done (result : α)
  | ask (query : P.Query) (next : P.Answer query → Script P α)

namespace Script

variable {P Q : Port} {σ τ ε α β : Type}

def run (serve : Server P σ) : Script P α → σ → α × σ
  | done result, state => (result, state)
  | ask query next, state => (next (serve query state).1).run serve (serve query state).2

/-- A script that can fail, as the procedure it spells out. -/
def proc (serve : Server P σ) (script : Script P (Except ε α)) : Proc ε σ α := script.run serve

def andThen (next : α → Script P β) : Script P α → Script P β
  | done result => next result
  | ask query rest => ask query fun answer => (rest answer).andThen next

/-- What follows a script that can fail, once it has succeeded. -/
def onSuccess (next : α → Script P (Except ε β)) : Except ε α → Script P (Except ε β)
  | .ok value => next value
  | .error failure => done (.error failure)

def bind (first : Script P (Except ε α)) (next : α → Script P (Except ε β)) :
    Script P (Except ε β) := first.andThen (onSuccess next)

/-- Put every question through another port. -/
def relay (carry : P.Query → Q.Query) (back : ∀ query, Q.Answer (carry query) → P.Answer query) :
    Script P α → Script Q α
  | done result => done result
  | ask query next => ask (carry query) fun answer => (next (back query answer)).relay carry back

theorem run_andThen (serve : Server P σ) (script : Script P α) (next : α → Script P β) (state : σ) :
    (script.andThen next).run serve state =
      (next (script.run serve state).1).run serve (script.run serve state).2 := by
  induction script generalizing state with
  | done result => rfl
  | ask query rest ih => exact ih _ _

theorem proc_bind (serve : Server P σ) (first : Script P (Except ε α))
    (next : α → Script P (Except ε β)) :
    (first.bind next).proc serve = first.proc serve >>= fun value => (next value).proc serve := by
  funext state
  have split := run_andThen serve first (onSuccess next) state
  rcases ran : first.proc serve state with ⟨result, middle⟩
  rw [show first.run serve state = (result, middle) from ran] at split
  cases result with
  | ok value =>
      exact split.trans (Proc.bind_ok ran fun value => (next value).proc serve).symm
  | error failure =>
      exact split.trans (Proc.bind_error ran fun value => (next value).proc serve).symm

/-- A script on a part of the state runs on the whole state as on that part. -/
theorem run_relay (serve : Server P τ) (whole : Server Q σ) {view : σ → τ} (put : σ → τ → σ)
    {carry : P.Query → Q.Query} {back : ∀ query, Q.Answer (carry query) → P.Answer query}
    (get_put : ∀ state part, view (put state part) = part)
    (put_put : ∀ state part part', put (put state part) part' = put state part')
    (put_get : ∀ state, put state (view state) = state)
    (answers : ∀ query state, back query (whole (carry query) state).1 = (serve query (view state)).1)
    (after : ∀ query state, (whole (carry query) state).2 = put state (serve query (view state)).2)
    (script : Script P α) (state : σ) :
    (script.relay carry back).run whole state =
      ((script.run serve (view state)).1, put state (script.run serve (view state)).2) := by
  induction script generalizing state with
  | done result =>
      change (result, state) = (result, put state (view state))
      rw [put_get]
  | ask query next ih =>
      change ((next (back query (whole (carry query) state).1)).relay carry back).run whole
        (whole (carry query) state).2 = _
      rw [answers, after, ih, get_put, put_put]
      rfl

end Script

/-! ## Several objects behind one port -/

inductive ManyQuery (P : Port) where
  | size
  | member (position : Nat) (query : P.Query)

/-- A place outside the list gives no answer. -/
abbrev ManyQuery.Answer {P : Port} : ManyQuery P → Type
  | size => Nat
  | member _ query => Option (P.Answer query)

/-- The port of a list of objects. -/
abbrev manyPort (P : Port) : Port where
  Query := ManyQuery P
  Answer := ManyQuery.Answer

def serveMany {P : Port} {σ : Type} (serve : Server P σ) : Server (manyPort P) (List σ)
  | .size, members => (members.length, members)
  | .member position query, members =>
    match members[position]? with
    | none => (none, members)
    | some one => (some (serve query one).1, members.set position (serve query one).2)

namespace Script

variable {P : Port} {σ τ ε α β : Type}

/-- A script for one object, on the object at a place in a list. -/
def place (position : Nat) : Script P α → Script (manyPort P) (Option α)
  | done result => done (some result)
  | ask query next => ask (.member position query) fun
    | none => done none
    | some answer => (next answer).place position

/-- The turns of an iteration that has `left` members to go, the next one at `position`. -/
def eachFrom (body : β → Script P (Except ε β)) :
    Nat → Nat → β → Script (manyPort P) (Except ε β)
  | 0, _, seed => done (.ok seed)
  | left + 1, position, seed => ((body seed).place position).andThen fun
    | none => done (.ok seed)
    | some (.ok next) => eachFrom body left (position + 1) next
    | some (.error failure) => done (.error failure)

def each (body : β → Script P (Except ε β)) (seed : β) : Script (manyPort P) (Except ε β) :=
  ask .size fun count => eachFrom body count 0 seed

theorem serveMany_member (serve : Server P σ) (before after : List σ) (one : σ) (query : P.Query) :
    serveMany serve (.member before.length query) (before ++ one :: after) =
      (some (serve query one).1, before ++ (serve query one).2 :: after) := by
  have found : (before ++ one :: after)[before.length]? = some one := by simp
  have replaced (other : σ) : (before ++ one :: after).set before.length other =
      before ++ other :: after := by simp
  simp only [serveMany, found, replaced]

theorem run_place (serve : Server P σ) (script : Script P α) (before after : List σ) (one : σ) :
    (script.place before.length).run (serveMany serve) (before ++ one :: after) =
      (some (script.run serve one).1, before ++ (script.run serve one).2 :: after) := by
  induction script generalizing one with
  | done result => rfl
  | ask query next ih =>
      have served := serveMany_member serve before after one query
      rw [place, run, served]
      exact ih _ _

theorem run_eachFrom (serve : Server P σ) (body : β → Script P (Except ε β)) (seed : β)
    (before after : List σ) :
    (eachFrom body after.length before.length seed).run (serveMany serve) (before ++ after) =
      ((Proc.each (fun acc => (body acc).proc serve) seed after).1,
        before ++ (Proc.each (fun acc => (body acc).proc serve) seed after).2) := by
  induction after generalizing before seed with
  | nil => rfl
  | cons one rest ih =>
      rw [List.length_cons, eachFrom, run_andThen, run_place]
      rcases turn : (body seed).proc serve one with ⟨result, one'⟩
      rw [show (body seed).run serve one = (result, one') from turn]
      cases result with
      | error failure =>
          have stops : Proc.each (fun acc => (body acc).proc serve) seed (one :: rest) = _ :=
            Proc.each_cons_error turn rest
          rw [stops]
          rfl
      | ok next =>
          have goes : Proc.each (fun acc => (body acc).proc serve) seed (one :: rest) = _ :=
            Proc.each_cons_ok turn rest
          rw [goes]
          have later := ih next (before ++ [one'])
          rw [List.length_append, List.length_singleton, List.append_assoc, List.append_assoc]
            at later
          exact later

theorem proc_each (serve : Server P σ) (body : β → Script P (Except ε β)) (seed : β) :
    (each body seed).proc (serveMany serve) = Proc.each (fun acc => (body acc).proc serve) seed := by
  funext members
  exact run_eachFrom serve body seed [] members

end Script

/-! ## Contracts -/

/-- Which questions may be asked, and which answers may come back. -/
structure Contract (P : Port) where
  asks : P.Query → Prop
  answers : (query : P.Query) → P.Answer query → Prop

namespace Contract

variable {P : Port} {σ τ : Type}

/-- The same contract with every member of a list. -/
def many (C : Contract P) : Contract (manyPort P) where
  asks
    | .size => True
    | .member _ query => C.asks query
  answers
    | .size, _ => True
    | .member _ query, answer => ∀ given, answer = some given → C.answers query given

/-- Asked what the contract allows, related states answer alike, as the contract
allows, and stay related. -/
def Matches (C : Contract P) (serve : Server P σ) (serve' : Server P τ) (related : σ → τ → Prop) :
    Prop :=
  ∀ query state state', C.asks query → related state state' →
    (serve query state).1 = (serve' query state').1 ∧ C.answers query (serve query state).1 ∧
      related (serve query state).2 (serve' query state').2

theorem forall₂_get_set {related : σ → τ → Prop} {members : List σ} {members' : List τ}
    (pairs : List.Forall₂ related members members') (position : Nat) :
    members[position]? = none ∧ members'[position]? = none ∨
      ∃ one one', members[position]? = some one ∧ members'[position]? = some one' ∧
        related one one' ∧ ∀ next next', related next next' →
          List.Forall₂ related (members.set position next) (members'.set position next') := by
  induction pairs generalizing position with
  | nil => exact .inl ⟨rfl, rfl⟩
  | @cons one one' rest rest' here pairs ih =>
      cases position with
      | zero => exact .inr ⟨one, one', rfl, rfl, here, fun _ _ holds => .cons holds pairs⟩
      | succ position =>
          rcases ih position with ⟨none, none'⟩ | ⟨other, other', found, found', there, kept⟩
          · exact .inl ⟨none, none'⟩
          · exact .inr ⟨other, other', found, found', there,
              fun next next' holds => .cons here (kept next next' holds)⟩

/-- Lists of objects that match member by member match. -/
theorem Matches.many {C : Contract P} {serve : Server P σ} {serve' : Server P τ}
    {related : σ → τ → Prop} (same : C.Matches serve serve' related) :
    C.many.Matches (serveMany serve) (serveMany serve') (List.Forall₂ related) := by
  intro query members members' allowed pairs
  cases query with
  | size => exact ⟨pairs.length_eq, trivial, pairs⟩
  | member position query =>
      rcases forall₂_get_set pairs position with ⟨found, found'⟩ |
        ⟨one, one', found, found', here, kept⟩
      · simp only [serveMany, found, found']
        exact ⟨trivial, nofun, pairs⟩
      · obtain ⟨answered, fine, after⟩ := same query one one' allowed here
        simp only [serveMany, found, found', answered]
        refine ⟨trivial, ?_, kept _ _ after⟩
        intro given shown
        rw [← Option.some.inj shown, ← answered]
        exact fine

/-- Questions that change no member change no list. -/
theorem serveMany_still {C : Contract P} {serve : Server P σ}
    (still : ∀ query one, C.asks query → (serve query one).2 = one) (query : ManyQuery P)
    (members : List σ) (allowed : C.many.asks query) : (serveMany serve query members).2 = members := by
  cases query with
  | size => rfl
  | member position query =>
      cases found : members[position]? with
      | none => simp only [serveMany, found]
      | some one =>
          obtain ⟨inside, rfl⟩ := List.getElem?_eq_some_iff.mp found
          simp only [serveMany, found, still query _ allowed, List.set_getElem_self]

end Contract

namespace Script

variable {P Q : Port} {σ τ ε α β : Type} {C : Contract P}

/-- The script asks only what the contract allows and ends in `post`, as long as
the answers are those the contract allows. -/
def Meets (C : Contract P) (post : α → Prop) : Script P α → Prop
  | done result => post result
  | ask query next => C.asks query ∧
    ∀ answer, C.answers query answer → (next answer).Meets C post

theorem Meets.mono {post post' : α → Prop} (weaker : ∀ result, post result → post' result)
    {script : Script P α} (meets : script.Meets C post) : script.Meets C post' := by
  induction script with
  | done result => exact weaker result meets
  | ask query next ih => exact ⟨meets.1, fun answer fine => ih answer (meets.2 answer fine)⟩

theorem Meets.andThen {mid : α → Prop} {post : β → Prop} {next : α → Script P β}
    {script : Script P α} (meets : script.Meets C mid)
    (later : ∀ result, mid result → (next result).Meets C post) :
    (script.andThen next).Meets C post := by
  induction script with
  | done result => exact later result meets
  | ask query rest ih => exact ⟨meets.1, fun answer fine => ih answer (meets.2 answer fine)⟩

theorem Meets.relay {C' : Contract Q} {post : α → Prop} {carry : P.Query → Q.Query}
    {back : ∀ query, Q.Answer (carry query) → P.Answer query}
    (asks : ∀ query, C.asks query → C'.asks (carry query))
    (answers : ∀ query answer, C'.answers (carry query) answer → C.answers query (back query answer))
    {script : Script P α} (meets : script.Meets C post) :
    (script.relay carry back).Meets C' post := by
  induction script with
  | done result => exact meets
  | ask query next ih =>
      refine ⟨asks query meets.1, fun answer fine => ?_⟩
      exact ih _ (meets.2 _ (answers query answer fine))

/-- A result is in `post`, unless the script failed. -/
def OnSuccess (post : α → Prop) (result : Except ε α) : Prop :=
  ∀ value, result = .ok value → post value

theorem Meets.bind {mid : α → Prop} {post : β → Prop} {first : Script P (Except ε α)}
    {next : α → Script P (Except ε β)} (meets : first.Meets C (OnSuccess mid))
    (later : ∀ value, mid value → (next value).Meets C (OnSuccess post)) :
    (first.bind next).Meets C (OnSuccess post) := by
  apply meets.andThen
  intro result fine
  cases result with
  | ok value => exact later value (fine value rfl)
  | error failure => nofun

theorem Meets.value {value : α} {post : α → Prop} (holds : post value) :
    (done (.ok value) : Script P (Except ε α)).Meets C (OnSuccess post) := by
  intro other shown
  rw [← Except.ok.inj shown]
  exact holds

theorem Meets.failure {failure : ε} {post : α → Prop} :
    (done (.error failure) : Script P (Except ε α)).Meets C (OnSuccess post) := nofun

/-- A computation that asks nothing, and what follows where it succeeds. -/
theorem Meets.checked {post : β → Prop} {result : Except ε α} {next : α → Script P (Except ε β)}
    (later : ∀ value, result = .ok value → (next value).Meets C (OnSuccess post)) :
    ((done result).bind next).Meets C (OnSuccess post) := by
  cases result with
  | ok value => exact later value rfl
  | error failure => exact Meets.failure

theorem Meets.ite {c : Prop} [Decidable c] {post : α → Prop} {yes no : Script P α}
    (holds : c → yes.Meets C post) (fails : ¬c → no.Meets C post) :
    (if c then yes else no).Meets C post := by
  split
  next here => exact holds here
  next here => exact fails here

theorem Meets.dite {c : Prop} [Decidable c] {post : α → Prop} {yes : c → Script P α}
    {no : ¬c → Script P α} (holds : ∀ here, (yes here).Meets C post)
    (fails : ∀ here, (no here).Meets C post) :
    (if here : c then yes here else no here).Meets C post := by
  split
  next here => exact holds here
  next here => exact fails here

theorem Meets.place {post : α → Prop} {script : Script P α} (meets : script.Meets C post)
    (position : Nat) :
    (script.place position).Meets C.many fun result => ∀ given, result = some given → post given := by
  induction script with
  | done result =>
      intro given shown
      rw [← Option.some.inj shown]
      exact meets
  | ask query next ih =>
      rw [Script.place, Meets]
      refine ⟨meets.1, fun answer fine => ?_⟩
      cases answer with
      | none => nofun
      | some given => exact ih given (meets.2 given (fine given rfl))

/-- What each turn keeps of the accumulator, the iteration keeps. -/
theorem Meets.each {inv : β → Prop} {body : β → Script P (Except ε β)}
    (turn : ∀ acc, inv acc → (body acc).Meets C (OnSuccess inv)) {seed : β} (start : inv seed) :
    (each body seed).Meets C.many (OnSuccess inv) := by
  suffices turns : ∀ left position, (eachFrom body left position seed).Meets C.many
      (OnSuccess inv) from ⟨trivial, fun count _ => turns count 0⟩
  intro left
  induction left generalizing seed with
  | zero =>
      intro position value shown
      rw [← Except.ok.inj shown]
      exact start
  | succ left ih =>
      intro position
      apply ((turn seed start).place position).andThen
      intro result fine
      cases result with
      | none =>
          intro value shown
          rw [← Except.ok.inj shown]
          exact start
      | some outcome =>
          cases outcome with
          | ok next => exact ih (fine _ rfl next rfl) (position + 1)
          | error failure => nofun

/-- A script that meets a contract does not tell matching objects apart. -/
theorem Meets.matches {post : α → Prop} {serve : Server P σ} {serve' : Server P τ}
    {related : σ → τ → Prop} (same : C.Matches serve serve' related) {script : Script P α}
    (meets : script.Meets C post) {state : σ} {state' : τ} (start : related state state') :
    (script.run serve state).1 = (script.run serve' state').1 ∧
      post (script.run serve state).1 ∧
      related (script.run serve state).2 (script.run serve' state').2 := by
  induction script generalizing state state' with
  | done result => exact ⟨rfl, meets, start⟩
  | ask query next ih =>
      obtain ⟨answered, fine, after⟩ := same query state state' meets.1 start
      rw [run, run, ← answered]
      exact ih _ (meets.2 _ fine) after

end Script

end Embedkv.Lib
