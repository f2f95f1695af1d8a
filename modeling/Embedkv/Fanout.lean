import Embedkv.Cut

/-!
# Requests over several replicas

The replicas of a store need not agree: a request takes its turns on one after
the other, and a power loss in between leaves some moved and some not. A get
reads the copy of the highest generation. A request is refused as a whole or
fans out, and then all replicas have moved, or one turn did not end well and
the replicas after it are as they were.
-/

namespace Embedkv.Fanout

open Embedkv.Lib Embedkv.Format Embedkv.Device Embedkv.State Embedkv.Image Embedkv.Record
open Embedkv.Plan Embedkv.Outcome Embedkv.Session Embedkv.Exact Embedkv.Run Embedkv.Steady
open Embedkv.Cache Embedkv.Cut

set_option autoImplicit false

/-! ## Reading several replicas -/

/-- One more replica's copy: a higher generation takes over. -/
def better (best : Option (Nat × Bytes)) : Option (Nat × Bytes) → Option (Nat × Bytes)
  | none => best
  | some copy =>
    match best with
    | none => some copy
    | some (generation, _) => if copy.1 > generation then some copy else best

/-- The copy a get picks among those of the replicas. -/
def lead (copies : List (Option (Nat × Bytes))) : Option (Nat × Bytes) := copies.foldl better none

theorem lead_singleton (copy : Option (Nat × Bytes)) : lead [copy] = copy := by
  cases copy <;> rfl

section
variable {D : Type} [BlockDevice D] [LawfulBlockDevice D] {r : Replica D} {s : Store D}

theorem table_settled (settled : Settled r) :
    table (image r.dev) = contents copyOf (recordAt (image r.dev)) r.index :=
  table_whole settled.whole (recordAt_zero settled.mountable)

/-- An index entry has the generation of the copy it stands for. -/
theorem table_entry (settled : Settled r) {name : Bytes} {e : IndexEntry}
    (found : r.index.lookup name = some e) :
    ∃ rec, recordAt (image r.dev) e.descriptorBlock = some rec ∧
      table (image r.dev) name = some (e.generation, rec.value) := by
  rcases settled.whole.entry found with ⟨rec, present, _, entered⟩
  have numbered : e.generation = rec.generation := by
    rw [entered]
    rfl
  refine ⟨rec, present, ?_⟩
  rw [table_settled settled, contents_present found present, numbered]
  rfl

theorem table_unindexed (settled : Settled r) {name : Bytes} (absent : r.index.lookup name = none) :
    table (image r.dev) name = none := by
  rw [table_settled settled, contents_absent absent]

theorem getReplica_better (settled : Settled r) (build : Rust.Build) (key : Bytes)
    (best : Option (Nat × Bytes)) : Rust.getReplica build key best r =
      (.ok (better best (table (image r.dev) (fromUtf8Lossy key))), r) := by
  rcases Option.eq_none_or_eq_some (r.index.lookup (fromUtf8Lossy key)) with absent | ⟨e, found⟩
  · rw [Rust.getReplica, Proc.bind_ok (rust_getWithGeneration_absent build absent),
      table_unindexed settled absent]
    rfl
  · rcases table_entry settled found with ⟨rec, present, copied⟩
    rw [Rust.getReplica, Proc.bind_ok (rust_getWithGeneration build settled.large found
      (recordAt_eq_some.mp present)), copied]
    cases best with
    | none => rfl
    | some held => rfl

/-- A get reads the leading copy. -/
theorem get_lead (settled : ∀ r ∈ s.replicas, Settled r) (build : Rust.Build) (key : Bytes) :
    Rust.get build key s = (answer ((lead (s.replicas.map fun r =>
      table (image r.dev) (fromUtf8Lossy key))).map Prod.snd), s) := by
  have fold := Proc.each_pure (fun best r member =>
    getReplica_better (settled r member) build key best) (none : Option (Nat × Bytes))
  have each : Store.onReplicas (Proc.each (Rust.getReplica build key) none) s =
      (.ok (lead (s.replicas.map fun r => table (image r.dev) (fromUtf8Lossy key))), s) := by
    rw [Store.onReplicas, Proc.zoom_apply, fold, lead, List.foldl_map]
  rw [Rust.get, Proc.bind_ok each]
  cases lead (s.replicas.map fun r => table (image r.dev) (fromUtf8Lossy key)) with
  | none => rfl
  | some copy => rfl

/-- The indexed generation of a key is that of the copy the device holds. -/
theorem generationOf_table (settled : Settled r) (name : Bytes) :
    generationOf r.index name = ((table (image r.dev) name).map Prod.fst).getD 0 := by
  rcases Option.eq_none_or_eq_some (r.index.lookup name) with absent | ⟨e, found⟩
  · rw [generationOf_absent absent, table_unindexed settled absent]
    rfl
  · rcases table_entry settled found with ⟨rec, _, entered⟩
    rw [generationOf_held found, entered]
    rfl

/-- The generation a put counts on from is that of the leading copy: no copy has
a higher one, and any bound on the copies bounds it. -/
theorem indexedGeneration_bounds (settled : ∀ r ∈ s.replicas, Settled r) (name : Bytes) :
    (∀ r ∈ s.replicas, ∀ copy, table (image r.dev) name = some copy →
        copy.1 ≤ Rust.indexedGeneration name s.replicas) ∧
      ∀ bound, (∀ r ∈ s.replicas, ∀ copy, table (image r.dev) name = some copy →
        copy.1 ≤ bound) → Rust.indexedGeneration name s.replicas ≤ bound := by
  constructor
  · intro r member copy copied
    have counted := generationOf_table (settled r member) name
    rw [copied] at counted
    change generationOf r.index name = copy.1 at counted
    rw [← counted]
    exact generationOf_le member name
  · intro bound bounded
    apply indexedGeneration_le
    intro r member
    rw [generationOf_table (settled r member) name]
    cases copied : table (image r.dev) name with
    | none => exact Nat.zero_le bound
    | some copy => exact bounded r member copy copied

end

/-! ## Requests -/

/-- What a caller asks of a store that can be interrupted. -/
inductive Request where
  | put (key value : Bytes) (userFlags : UInt32)
  | delete (key : Bytes)
  | recover
  deriving DecidableEq, Repr

def Request.run {D : Type} [BlockDevice D] (build : Rust.Build) :
    Request → Proc Failure (Store D) Unit
  | .put key value userFlags => Rust.putFlagged build key value userFlags
  | .delete key => Rust.delete key
  | .recover => Rust.recover build

/-- What the callers promise. -/
def Request.Allowed (blockSize : Nat) : Request → Prop
  | .put key value _ => KeyAllowed key ∧ value.length + blockSize < 2 ^ 32
  | .delete key => KeyAllowed key
  | .recover => True

instance (blockSize : Nat) : (request : Request) → Decidable (request.Allowed blockSize)
  | .put key value _ =>
    inferInstanceAs (Decidable (KeyAllowed key ∧ value.length + blockSize < 2 ^ 32))
  | .delete key => inferInstanceAs (Decidable (KeyAllowed key))
  | .recover => isTrue trivial

def Request.isPut : Request → Bool
  | .put _ _ _ => true
  | _ => false

/-- The table a request moves a replica to; a put comes with its generation. -/
def Request.target (generation : Nat) : Request → Table → Table
  | .put key value _ => fun t => Function.update t key (some (generation, value))
  | .delete key => fun t => Function.update t key none
  | .recover => id

/-- The generation of a put is above those of all copies. -/
def Request.Newer (generation : Nat) (tables : List Table) : Request → Prop
  | .put key _ _ => ∀ t ∈ tables, ∀ copy, t key = some copy → copy.1 < generation
  | _ => True

/-- What the replicas are after their turns: all have moved, or the turn of one
did not end well and those after it had none. -/
inductive Fanned {D : Type} [BlockDevice D] [BufferedDevice D] (target : Table → Table) :
    List (Replica D) → Except Failure Unit → List (Replica D) → Prop
  | finished {replicas replicas' : List (Replica D)}
      (moved : List.Forall₂ (fun r r' => Moved (target (table (image r.dev))) r r') replicas
        replicas') : Fanned target replicas (.ok ()) replicas'
  | stopped {before before' after : List (Replica D)} {r r' : Replica D} {failure : Failure}
      (moved : List.Forall₂ (fun r r' => Moved (target (table (image r.dev))) r r') before before')
      (turn : Turn (target (table (image r.dev))) r (.error failure : Except Failure Unit) r') :
      Fanned target (before ++ r :: after) (.error failure) (before' ++ r' :: after)

section
variable {D : Type} [BlockDevice D] [BufferedDevice D]

/-- Turns taken one after the other. -/
theorem each_fanned {β : Type} {body : β → Proc Failure (Replica D) β} (target : Table → Table)
    {seed : β} {replicas replicas' : List (Replica D)} {result : Except Failure β}
    (turns : ∀ r ∈ replicas, ∀ acc outcome r', body acc r = (outcome, r') →
      Turn (target (table (image r.dev))) r outcome r')
    (ran : Proc.each body seed replicas = (result, replicas')) :
    Fanned target replicas (result.map fun _ => ()) replicas' := by
  have moved (members members' : List (Replica D)) (among : ∀ r ∈ members, r ∈ replicas)
      (acc acc' : β) (done : Proc.each body acc members = (.ok acc', members')) :
      List.Forall₂ (fun r r' => Moved (target (table (image r.dev))) r r') members members' := by
    refine Proc.each_forall₂ ?_ done
    intro acc r member acc' r' turn
    exact (turns r (among r member) acc _ r' turn).of_ok
  cases result with
  | ok value => exact .finished (moved replicas replicas' (fun _ member => member) _ _ ran)
  | error failure =>
      rcases Proc.each_error ran with
        ⟨before, before', r, r', after, acc, rfl, rfl, earlier, stopped⟩
      apply Fanned.stopped
      · exact moved before before' (fun one member => List.mem_append_left _ member) _ _ earlier
      · exact (turns r (by simp) acc _ r' stopped).of_error

omit [BlockDevice D] [BufferedDevice D] in
theorem onReplicas_apply {α : Type} {inner : Proc Failure (List (Replica D)) α} {s s' : Store D}
    {result : Except Failure α} (ran : Store.onReplicas inner s = (result, s')) :
    inner s.replicas = (result, s'.replicas) ∧ s'.opts = s.opts := by
  rw [Store.onReplicas, Proc.zoom_apply] at ran
  rcases Prod.mk.inj ran with ⟨answered, rfl⟩
  exact ⟨Prod.ext answered rfl, rfl⟩

/-- A medium of a formatted store, its generations bounded by the puts so far. -/
structure Medium (blockSize blockCount puts : Nat) (img : MemDevice) : Prop where
  mountable : Mount.Mountable img
  size : img.blockSize = blockSize
  count : img.blockCount = blockCount
  bounded : ∀ name copy, table img name = some copy → copy.1 ≤ puts

theorem Medium.of_keeps {img img' : MemDevice} {blockSize blockCount puts more : Nat}
    (medium : Medium blockSize blockCount puts img) (kept : Keeps img img')
    (bounded : ∀ name copy, table img' name = some copy → copy.1 ≤ more) :
    Medium blockSize blockCount more img' where
  mountable := medium.mountable.congr kept.size kept.count kept.header
  size := kept.size.trans medium.size
  count := kept.count.trans medium.count
  bounded := bounded

theorem Medium.mono {img : MemDevice} {blockSize blockCount puts more : Nat}
    (medium : Medium blockSize blockCount puts img) (le : puts ≤ more) :
    Medium blockSize blockCount more img :=
  medium.of_keeps (keeps_refl img) fun name copy copied =>
    Nat.le_trans (medium.bounded name copy copied) le

/-- A store between requests. -/
structure Resting (blockSize blockCount puts : Nat) (s : Store D) : Prop where
  nonempty : s.replicas ≠ []
  flushed : ∀ r ∈ s.replicas, Flushed r
  medium : ∀ r ∈ s.replicas, Medium blockSize blockCount puts (image r.dev)

variable {blockSize blockCount puts : Nat} {s s' : Store D} {result : Except Failure Unit}

/-- A put is refused as a whole, or fans out with a generation above all copies. -/
theorem put_ends (resting : Resting blockSize blockCount puts s) (large : 36 ≤ blockSize)
    (room : puts + 1 < 2 ^ 32) {build : Rust.Build} {key value : Bytes} {userFlags : UInt32}
    (allowed : KeyAllowed key) (bounded : value.length + blockSize < 2 ^ 32)
    (ran : Rust.putFlagged build key value userFlags s = (result, s')) :
    (∃ failure, failure ≠ .err .io ∧ result = .error failure ∧ s' = s) ∨
      ∃ generation, generation ≤ puts + 1 ∧
        (∀ r ∈ s.replicas, ∀ copy, table (image r.dev) key = some copy → copy.1 < generation) ∧
        Fanned (fun t => Function.update t key (some (generation, value))) s.replicas result
          s'.replicas ∧ s'.opts = s.opts := by
  have settled : ∀ r ∈ s.replicas, Settled r := fun r member => (resting.flushed r member).settled
  have size : ∀ r ∈ s.replicas, (image r.dev).blockSize = blockSize :=
    fun r member => (resting.medium r member).size
  have short := allowed.2
  rcases indexedGeneration_bounds settled key with ⟨above, least⟩
  have few := least puts fun r member => (resting.medium r member).bounded key
  rw [putFlagged_eq build resting.nonempty size large, allowed.lossy,
    rust_u32Add_ok (by omega)] at ran
  split at ran
  next =>
    cases ran
    exact .inl ⟨_, by decide, rfl, rfl⟩
  next fits =>
    have keyFits : key.length + 36 ≤ blockSize := by
      rw [asU32, Nat.mod_eq_of_lt (by omega)] at fits
      omega
    right
    rcases onReplicas_apply ran with ⟨turns, sameOpts⟩
    refine ⟨_, Nat.succ_le_succ few, fun r member copy copied =>
      Nat.lt_succ_of_le (above r member copy copied), ?_, sameOpts⟩
    have fanned := each_fanned (fun t => Function.update t key
      (some (Rust.indexedGeneration key s.replicas + 1, value))) ?_ turns
    · cases result with
      | ok => exact fanned
      | error failure => exact fanned
    · intro r member acc outcome r' turn
      have medium := resting.medium r member
      apply put_turn (resting.flushed r member) allowed (by rw [medium.size]; exact keyFits)
        (by rw [medium.size]; exact bounded) (by omega) _ turn
      intro copy copied
      exact Nat.lt_succ_of_le (above r member copy copied)

/-- A turn of a delete that reports nothing found had nothing to do. -/
theorem deleteReplica_unseen {r r' : Replica D} {name : Bytes} {pattern : UInt8} {seen : Bool}
    (flushed : Flushed r) (ran : Rust.deleteReplica name pattern seen r = (.ok false, r')) :
    seen = false ∧ r' = r := by
  rcases Option.eq_none_or_eq_some (r.index.lookup name) with absent | ⟨e, found⟩
  · rw [rust_deleteReplica_absent absent] at ran
    cases ran
    exact ⟨rfl, rfl⟩
  · have sound := flushed.settled.sound.indexed
    rcases sound.complete name e found with ⟨rec, record⟩
    rw [rust_deleteReplica sound found record, Proc.bind_pure_apply _ fun _ => true] at ran
    rcases Prod.mk.inj ran with ⟨answered, _⟩
    generalize (performAll (deleteActs (image r.dev) name rec.blocks pattern) r).1 = outcome
      at answered
    cases outcome with
    | error failure => cases answered
    | ok => cases answered

theorem each_delete_unseen {name : Bytes} {pattern : UInt8} {replicas replicas' : List (Replica D)}
    {seen : Bool} (flushed : ∀ r ∈ replicas, Flushed r)
    (ran : Proc.each (Rust.deleteReplica name pattern) seen replicas = (.ok false, replicas')) :
    seen = false ∧ replicas' = replicas := by
  induction replicas generalizing seen replicas' with
  | nil =>
      cases ran
      exact ⟨rfl, rfl⟩
  | cons first rest ih =>
      rcases turn : Rust.deleteReplica name pattern seen first with ⟨outcome, first'⟩
      cases outcome with
      | error failure =>
          rw [Proc.each_cons_error turn] at ran
          cases ran
      | ok next =>
          rcases rested : Proc.each (Rust.deleteReplica name pattern) next rest with ⟨result, rest'⟩
          rw [Proc.each_cons_ok turn, rested] at ran
          cases ran
          rcases ih (fun r member => flushed r (List.mem_cons_of_mem _ member)) rested with
            ⟨rfl, rfl⟩
          rcases deleteReplica_unseen (flushed first List.mem_cons_self) turn with ⟨rfl, rfl⟩
          exact ⟨rfl, rfl⟩

/-- A delete finds nothing and changes nothing, or fans out. -/
theorem delete_ends (resting : Resting blockSize blockCount puts s) {key : Bytes}
    (allowed : KeyAllowed key) (ran : Rust.delete key s = (result, s')) :
    (∃ failure, failure ≠ .err .io ∧ result = .error failure ∧ s' = s) ∨
      Fanned (fun t => Function.update t key none) s.replicas result s'.replicas ∧
        s'.opts = s.opts := by
  rw [delete_eq, allowed.lossy] at ran
  rcases turns : Proc.each (Rust.deleteReplica key s.opts.freePattern) false s.replicas with
    ⟨outcome, replicas⟩
  rw [turns] at ran
  have fanned := each_fanned (fun t => Function.update t key none)
    (fun r member acc outcome r' turn => delete_turn (resting.flushed r member) turn) turns
  cases outcome with
  | error failure =>
      cases ran
      exact .inr ⟨fanned, rfl⟩
  | ok found =>
      cases found with
      | true =>
          cases ran
          exact .inr ⟨fanned, rfl⟩
      | false =>
          cases ran
          rw [(each_delete_unseen resting.flushed turns).2]
          exact .inl ⟨_, by decide, rfl, rfl⟩

theorem recover_fans (resting : Resting blockSize blockCount puts s) {build : Rust.Build}
    (ran : Rust.recover build s = (result, s')) :
    Fanned id s.replicas result s'.replicas ∧ s'.opts = s.opts := by
  rcases onReplicas_apply ran with ⟨turns, sameOpts⟩
  have fanned := each_fanned id
    (fun r member acc outcome r' turn => recover_turn (resting.flushed r member) turn) turns
  refine ⟨?_, sameOpts⟩
  cases result with
  | ok => exact fanned
  | error failure => exact fanned

/-- Every request is refused as a whole or fans out. -/
theorem request_ends (resting : Resting blockSize blockCount puts s) (large : 36 ≤ blockSize)
    {request : Request} (room : puts + (if request.isPut then 1 else 0) < 2 ^ 32)
    (allowed : request.Allowed blockSize) {build : Rust.Build}
    (ran : request.run build s = (result, s')) :
    (∃ failure, failure ≠ .err .io ∧ result = .error failure ∧ s' = s) ∨
      ∃ generation, generation ≤ puts + 1 ∧
        request.Newer generation (s.replicas.map fun r => table (image r.dev)) ∧
        Fanned (request.target generation) s.replicas result s'.replicas ∧ s'.opts = s.opts := by
  cases request with
  | put key value userFlags =>
      rcases put_ends resting large room allowed.1 allowed.2 ran with
        refused | ⟨generation, le, newer, fanned, sameOpts⟩
      · exact .inl refused
      · refine .inr ⟨generation, le, ?_, fanned, sameOpts⟩
        intro t member
        rcases List.mem_map.mp member with ⟨r, inside, rfl⟩
        exact newer r inside
  | delete key =>
      rcases delete_ends resting allowed ran with refused | fanned
      · exact .inl refused
      · exact .inr ⟨0, Nat.zero_le _, trivial, fanned⟩
  | recover => exact .inr ⟨0, Nat.zero_le _, trivial, recover_fans resting ran⟩

end

end Embedkv.Fanout
