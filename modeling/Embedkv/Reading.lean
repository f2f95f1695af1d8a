import Embedkv.Fanout
import Embedkv.Stores

/-!
# What a get reads

A get asks one replica after the other and keeps the copy of the highest
generation. A replica offers a copy when its index names a record that verifies.
Nothing is assumed of the devices here: a replica whose record does not verify,
or whose reads fail, offers none. The implementations differ in what stops the
loop. Rust reads every indexed record and stops only where a check unwinds; Go
reads a record only if it can win, and stops at any error.
-/

namespace Embedkv.Reading

open Embedkv.Lib Embedkv.Format Embedkv.Device Embedkv.State Embedkv.Exact Embedkv.Fanout
open Embedkv.Stores

set_option autoImplicit false

/-! ## The leading copy -/

/-- The copy at position `i` leads: no other has a higher generation, and none
of its generation stands before it. -/
def Leading (copies : List (Option (Nat × Bytes))) (i : Nat) (copy : Nat × Bytes) : Prop :=
  copies[i]? = some (some copy) ∧ ∀ j other, copies[j]? = some (some other) →
    other.1 < copy.1 ∨ other.1 = copy.1 ∧ i ≤ j

theorem lead_concat (copies : List (Option (Nat × Bytes))) (copy : Option (Nat × Bytes)) :
    lead (copies ++ [copy]) = better (lead copies) copy := List.foldl_concat ..

/-- A further copy does not lead when it is no better. -/
theorem Leading.concat {copies : List (Option (Nat × Bytes))} {i : Nat} {copy : Nat × Bytes}
    (leading : Leading copies i copy) {last : Option (Nat × Bytes)}
    (below : ∀ other, last = some other → other.1 ≤ copy.1) :
    Leading (copies ++ [last]) i copy := by
  have inside : i < copies.length := (List.getElem?_eq_some_iff.mp leading.1).1
  refine ⟨by rw [List.getElem?_append_left inside, leading.1], ?_⟩
  intro j other there
  rcases Nat.lt_or_ge j copies.length with early | late
  · rw [List.getElem?_append_left early] at there
    exact leading.2 j other there
  · rw [List.getElem?_append_right late] at there
    have mine := List.mem_singleton.mp (List.mem_of_getElem? there)
    have bounded := below other mine.symm
    omega

/-- A copy above all earlier ones leads. -/
theorem leading_last {copies : List (Option (Nat × Bytes))} {copy : Nat × Bytes}
    (above : ∀ other, some other ∈ copies → other.1 < copy.1) :
    Leading (copies ++ [some copy]) copies.length copy := by
  refine ⟨List.getElem?_concat_length, ?_⟩
  intro j other there
  rcases Nat.lt_or_ge j copies.length with early | late
  · rw [List.getElem?_append_left early] at there
    exact .inl (above other (List.mem_of_getElem? there))
  · rw [List.getElem?_append_right late] at there
    have mine := List.mem_singleton.mp (List.mem_of_getElem? there)
    cases mine
    exact .inr ⟨rfl, late⟩

theorem Leading.le {copies : List (Option (Nat × Bytes))} {i : Nat} {copy other : Nat × Bytes}
    (leading : Leading copies i copy) (member : some other ∈ copies) : other.1 ≤ copy.1 := by
  obtain ⟨j, there⟩ := List.getElem?_of_mem member
  have bounded := leading.2 j other there
  omega

/-- The fold finds the leading copy, or there is none. -/
theorem lead_leads (copies : List (Option (Nat × Bytes))) :
    match lead copies with
    | none => ∀ copy, some copy ∉ copies
    | some copy => ∃ i, Leading copies i copy := by
  induction copies using List.reverseRecOn with
  | nil => simp [lead]
  | append_singleton copies last ih =>
      rw [lead_concat]
      cases before : lead copies with
      | none =>
          rw [before] at ih
          cases last with
          | none => simpa [better] using ih
          | some copy => exact ⟨_, leading_last fun other member => absurd member (ih other)⟩
      | some best =>
          rw [before] at ih
          obtain ⟨i, leading⟩ := ih
          cases last with
          | none => exact ⟨i, leading.concat fun other same => by cases same⟩
          | some copy =>
              by_cases higher : copy.1 > best.1
              · have taken : better (some best) (some copy) = some copy := if_pos higher
                rw [taken]
                refine ⟨_, leading_last fun other member => ?_⟩
                exact Nat.lt_of_le_of_lt (leading.le member) higher
              · have kept : better (some best) (some copy) = some best := if_neg higher
                rw [kept]
                refine ⟨i, leading.concat ?_⟩
                intro other same
                cases same
                exact Nat.not_lt.mp higher

theorem lead_none {copies : List (Option (Nat × Bytes))} (none : lead copies = none) :
    ∀ copy, some copy ∉ copies := by
  have spec := lead_leads copies
  rw [none] at spec
  exact spec

theorem lead_some {copies : List (Option (Nat × Bytes))} {copy : Nat × Bytes}
    (some : lead copies = some copy) : ∃ i, Leading copies i copy := by
  have spec := lead_leads copies
  rw [some] at spec
  exact spec

/-- The leading copy is at least as high as a bound if any copy is. -/
theorem lead_reaches {copies : List (Option (Nat × Bytes))} {bound : Nat} :
    (∃ copy, lead copies = some copy ∧ bound ≤ copy.1) ↔
      ∃ copy, some copy ∈ copies ∧ bound ≤ copy.1 := by
  constructor
  · rintro ⟨copy, found, reaches⟩
    obtain ⟨i, leading⟩ := lead_some found
    exact ⟨copy, List.mem_of_getElem? leading.1, reaches⟩
  · rintro ⟨copy, member, reaches⟩
    cases found : lead copies with
    | none => exact absurd member (lead_none found copy)
    | some best =>
        obtain ⟨i, leading⟩ := lead_some found
        exact ⟨best, rfl, reaches.trans (leading.le member)⟩

/-! ## One replica's turn -/

section
variable {D : Type} [BlockDevice D]

/-- The copy of a key that a replica offers. -/
def offered (impl : Impl) (key : Bytes) (r : Replica D) : Option (Nat × Bytes) :=
  match r.index.get (impl.name key) with
  | none => none
  | some e =>
    match (impl.verifyAndReadRecord e.descriptorBlock r.dev).1 with
    | .ok (some rec) => some (e.generation, rec.value)
    | _ => none

/-- The record the index names for a key cannot be read. -/
def Unread (impl : Impl) (key : Bytes) (r : Replica D) (e : IndexEntry) (failure : Failure) :
    Prop :=
  r.index.get (impl.name key) = some e ∧
    (impl.verifyAndReadRecord e.descriptorBlock r.dev).1 = .error failure

/-- Where the loop of a get stops: in Rust at a check that unwinds, in Go at any
error of a record that could still win. -/
def Stops (key : Bytes) (best : Option (Nat × Bytes)) (r : Replica D) : Impl → Prop
  | .rust build => ∃ e, Unread (.rust build) key r e .panic
  | .go => ∃ e failure, Unread .go key r e failure ∧
      ¬∃ copy, best = some copy ∧ e.generation ≤ copy.1

theorem rust_getReplica_offered {build : Rust.Build} {key : Bytes} {best : Option (Nat × Bytes)}
    {r : Replica D} (goes : ¬Stops key best r (.rust build)) :
    (Rust.getReplica build key best r).1 = .ok (better best (offered (.rust build) key r)) := by
  cases found : r.index.get (fromUtf8Lossy key) with
  | none =>
      have absent : offered (.rust build) key r = none := by
        simp only [offered, Impl.name, found]
      rw [absent, Rust.getReplica, Proc.bind_ok (Plan.rust_getWithGeneration_absent build found)]
      rfl
  | some e =>
      rcases read : Rust.verifyAndReadRecord build e.descriptorBlock r.dev with ⟨result, dev⟩
      cases result with
      | ok outcome =>
          cases outcome with
          | none =>
              have absent : offered (.rust build) key r = none := by
                simp only [offered, Impl.name, found, Impl.verifyAndReadRecord, read]
              have turn : Rust.getWithGeneration build key r =
                  (.ok (some (.error .corruptRecord)), { r with dev := dev }) := by
                simp only [Rust.getWithGeneration, found, read]
              rw [absent, Rust.getReplica, Proc.bind_ok turn]
              rfl
          | some rec =>
              have copied : offered (.rust build) key r = some (e.generation, rec.value) := by
                simp only [offered, Impl.name, found, Impl.verifyAndReadRecord, read]
              have turn : Rust.getWithGeneration build key r =
                  (.ok (some (.ok (e.generation, rec.value))), { r with dev := dev }) := by
                simp only [Rust.getWithGeneration, found, read]
              rw [copied, Rust.getReplica, Proc.bind_ok turn]
              cases best with
              | none => rfl
              | some kept => rfl
      | error failure =>
          cases failure with
          | panic =>
              refine absurd ⟨e, found, ?_⟩ goes
              change (Rust.verifyAndReadRecord build e.descriptorBlock r.dev).1 = _
              rw [read]
          | err error =>
              have absent : offered (.rust build) key r = none := by
                simp only [offered, Impl.name, found, Impl.verifyAndReadRecord, read]
              have turn : Rust.getWithGeneration build key r =
                  (.ok (some (.error error)), { r with dev := dev }) := by
                simp only [Rust.getWithGeneration, found, read]
              rw [absent, Rust.getReplica, Proc.bind_ok turn]
              rfl

theorem rust_getReplica_stops {build : Rust.Build} {key : Bytes} {best : Option (Nat × Bytes)}
    {r : Replica D} (stops : Stops key best r (.rust build)) :
    (Rust.getReplica build key best r).1 = .error .panic := by
  obtain ⟨e, found, unwinds⟩ := stops
  have got : r.index.get (fromUtf8Lossy key) = some e := found
  rcases read : Rust.verifyAndReadRecord build e.descriptorBlock r.dev with ⟨result, dev⟩
  have failed : result = .error .panic := by
    rw [← unwinds]
    exact (congrArg Prod.fst read).symm
  have turn : Rust.getWithGeneration build key r = (.error .panic, { r with dev := dev }) := by
    simp only [Rust.getWithGeneration, got, read, failed]
  rw [Rust.getReplica, Proc.bind_error turn]

/-- A record that cannot win is as good as none. -/
theorem better_of_le {best copy : Nat × Bytes} (le : copy.1 ≤ best.1) :
    better (some best) (some copy) = some best := if_neg (Nat.not_lt.mpr le)

/-- Go reads a record that could still win. -/
theorem go_getReplica_reads {key : Bytes} {best : Option (Nat × Bytes)} {r : Replica D}
    {e : IndexEntry} (found : r.index.get key = some e)
    (contends : ¬∃ copy, best = some copy ∧ e.generation ≤ copy.1) :
    (Go.getReplica key best r).1 = (Go.verifyAndReadRecord e.descriptorBlock r.dev).1.map
      fun outcome => match outcome with
        | none => best
        | some rec => some (e.generation, rec.value) := by
  rcases read : Go.verifyAndReadRecord e.descriptorBlock r.dev with ⟨result, dev⟩
  have turn : Replica.onDevice (Go.verifyAndReadRecord e.descriptorBlock) r =
      (result, { r with dev := dev }) := by
    rw [Replica.onDevice, Proc.zoom_apply, read]
  have reads : Go.getReplica key best r =
      (Replica.onDevice (Go.verifyAndReadRecord e.descriptorBlock) >>= fun outcome =>
        match outcome with
        | none => pure best
        | some rec => pure (some (e.generation, rec.value))) r := by
    rw [Go.getReplica, Proc.get_bind_apply, found]
    cases best with
    | none => rfl
    | some copy =>
        have unsettled : decide (e.generation ≤ copy.1) = false :=
          decide_eq_false fun le => contends ⟨copy, rfl, le⟩
        change (if decide (e.generation ≤ copy.1) then pure (some copy) else _ :
          Proc Failure (Replica D) (Option (Nat × Bytes))) r = _
        rw [unsettled]
        rfl
  rw [reads]
  cases result with
  | error failure =>
      rw [Proc.bind_error turn]
      rfl
  | ok outcome =>
      rw [Proc.bind_ok turn]
      cases outcome with
      | none => rfl
      | some rec => rfl

theorem go_getReplica_offered {key : Bytes} {best : Option (Nat × Bytes)} {r : Replica D}
    (goes : ¬Stops key best r .go) :
    (Go.getReplica key best r).1 = .ok (better best (offered .go key r)) := by
  cases found : r.index.get key with
  | none =>
      simp only [offered, Impl.name, id, found, Go.getReplica, Proc.get_bind_apply]
      rfl
  | some e =>
      by_cases settled : ∃ copy, best = some copy ∧ e.generation ≤ copy.1
      · obtain ⟨copy, rfl, le⟩ := settled
        have kept : better (some copy) (offered .go key r) = some copy := by
          simp only [offered, Impl.name, id, found]
          split
          · exact better_of_le le
          · rfl
        rw [kept]
        simp only [Go.getReplica, Proc.get_bind_apply, found, le, decide_true, if_true]
        rfl
      · rw [go_getReplica_reads found settled]
        simp only [offered, Impl.name, id, found, Impl.verifyAndReadRecord]
        cases read : (Go.verifyAndReadRecord e.descriptorBlock r.dev).1 with
        | error failure => exact absurd ⟨e, failure, ⟨found, read⟩, settled⟩ goes
        | ok outcome =>
            cases outcome with
            | none => rfl
            | some rec =>
                cases best with
                | none => rfl
                | some copy =>
                    have higher : e.generation > copy.1 :=
                      Nat.lt_of_not_le fun le => settled ⟨copy, rfl, le⟩
                    exact congrArg Except.ok (if_pos higher).symm

theorem go_getReplica_stops {key : Bytes} {best : Option (Nat × Bytes)} {r : Replica D}
    (stops : Stops key best r .go) : ∃ failure, (Go.getReplica key best r).1 = .error failure := by
  obtain ⟨e, failure, ⟨named, failed⟩, contends⟩ := stops
  have found : r.index.get key = some e := named
  have read : (Go.verifyAndReadRecord e.descriptorBlock r.dev).1 = .error failure := failed
  refine ⟨failure, ?_⟩
  rw [go_getReplica_reads found contends, read]
  rfl

/-! ## The whole get -/

theorem getReplica_offered (impl : Impl) (key : Bytes) (best : Option (Nat × Bytes))
    (r : Replica D) (goes : ¬Stops key best r impl) :
    (impl.getReplica key best r).1 = .ok (better best (offered impl key r)) := by
  cases impl with
  | rust build => exact rust_getReplica_offered goes
  | go => exact go_getReplica_offered goes

theorem getReplica_stops (impl : Impl) (key : Bytes) (best : Option (Nat × Bytes))
    (r : Replica D) (stops : Stops key best r impl) :
    ∃ failure, (impl.getReplica key best r).1 = .error failure := by
  cases impl with
  | rust build => exact ⟨.panic, rust_getReplica_stops stops⟩
  | go => exact go_getReplica_stops stops

/-- The copies the replicas of a list offer. -/
def offers (impl : Impl) (key : Bytes) (replicas : List (Replica D)) :
    List (Option (Nat × Bytes)) := replicas.map (offered impl key)

/-- No replica stops the loop, given what the ones before it offer. -/
def Spared (impl : Impl) (key : Bytes) (replicas : List (Replica D)) : Prop :=
  ∀ before r after, replicas = before ++ r :: after →
    ¬Stops key (lead (offers impl key before)) r impl

theorem get_answers (impl : Impl) (key : Bytes) (s : Store D) : (impl.get key s).1 =
    (Proc.each (impl.getReplica key) none s.replicas).1.bind fun best =>
      answer (best.map Prod.snd) := by
  rcases ran : Proc.each (impl.getReplica key) none s.replicas with ⟨result, replicas⟩
  have asked : Store.onReplicas (Proc.each (impl.getReplica key) none) s =
      (result, { s with replicas := replicas }) := by
    rw [Store.onReplicas, Proc.zoom_apply, ran]
  cases impl with
  | rust build =>
      change Store.onReplicas (Proc.each (Rust.getReplica build key) none) s = _ at asked
      change (Rust.get build key s).1 = _
      rw [Rust.get]
      cases result with
      | error failure =>
          rw [Proc.bind_error asked]
          rfl
      | ok best =>
          rw [Proc.bind_ok asked]
          cases best <;> rfl
  | go =>
      change Store.onReplicas (Proc.each (Go.getReplica key) none) s = _ at asked
      change (Go.get key s).1 = _
      rw [Go.get]
      cases result with
      | error failure =>
          rw [Proc.bind_error asked]
          rfl
      | ok best =>
          rw [Proc.bind_ok asked]
          cases best <;> rfl

theorem offers_fold (impl : Impl) (key : Bytes) (replicas : List (Replica D)) :
    replicas.foldl (fun best r => better best (offered impl key r)) none =
      lead (offers impl key replicas) := List.foldl_map.symm

/-- The loop ends exactly when no replica stops it, with the leading copy. -/
theorem each_getReplica {impl : Impl} {key : Bytes} {replicas : List (Replica D)}
    {result : Option (Nat × Bytes)} :
    (Proc.each (impl.getReplica key) none replicas).1 = .ok result ↔
      Spared impl key replicas ∧ result = lead (offers impl key replicas) := by
  rw [Proc.each_fold_iff (getReplica_offered impl key) (getReplica_stops impl key)]
  simp only [offers_fold, Spared]

theorem get_spared {impl : Impl} {key : Bytes} {s : Store D}
    (spared : Spared impl key s.replicas) :
    (impl.get key s).1 = answer ((lead (offers impl key s.replicas)).map Prod.snd) := by
  rw [get_answers, each_getReplica.mpr ⟨spared, rfl⟩]
  rfl

/-- A get succeeds exactly when nothing stops it and a copy is offered, and then
its answer is the leading copy. -/
theorem get_eq_ok {impl : Impl} {key value : Bytes} {s : Store D} :
    (impl.get key s).1 = .ok value ↔ Spared impl key s.replicas ∧
      ∃ generation, lead (offers impl key s.replicas) = some (generation, value) := by
  constructor
  · intro answered
    have spared : Spared impl key s.replicas := by
      rw [get_answers] at answered
      cases ran : (Proc.each (impl.getReplica key) none s.replicas).1 with
      | error failure =>
          rw [ran] at answered
          cases answered
      | ok best => exact (each_getReplica.mp ran).1
    refine ⟨spared, ?_⟩
    rw [get_spared spared] at answered
    cases found : lead (offers impl key s.replicas) with
    | none =>
        rw [found] at answered
        cases answered
    | some copy =>
        rw [found] at answered
        cases answered
        exact ⟨copy.1, rfl⟩
  · rintro ⟨spared, generation, found⟩
    rw [get_spared spared, found]
    rfl

end

end Embedkv.Reading
