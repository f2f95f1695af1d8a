import Embedkv.Lib.Runs
import Embedkv.Stores
import Embedkv.Frame
import Embedkv.Lead
import Embedkv.DeleteLaws

/-!
# Generations rise

A put counts on from the highest generation the indexes hold for its key. That
is the highest on the devices as long as every record is covered by an entry of
its string. Puts keep it so, and so does a delete that leaves no record of its
key behind; a delete that leaves an older one uncovers it, and the next put
starts at generation 1 again.
-/

namespace Embedkv.GenerationLaws

open Embedkv.Lib Embedkv.Format Embedkv.Device Embedkv.State Embedkv.Record Embedkv.Effects
open Embedkv.Plan Embedkv.Outcome Embedkv.Session Embedkv.Run Embedkv.Frame Embedkv.Lead
open Embedkv.Stores

set_option autoImplicit false

/-! ## Covered replicas -/

/-- Entry and record agree in the string and the generation. -/
def Tracks (name : Bytes → Bytes) (s : Bytes) (e : IndexEntry) (rec : CompleteRecord) : Prop :=
  name rec.key = s ∧ e.generation = rec.generation

section
variable {D : Type} [BlockDevice D] [LawfulBlockDevice D] {name : Bytes → Bytes}
  {r r' : Replica D}

/-- The index is sound, and no record has a higher generation than the entry of
its string. -/
structure Covered (name : Bytes → Bytes) (r : Replica D) : Prop where
  sound : Sound (Tracks name) r
  covers : ∀ d rec, recordAt (image r.dev) d = some rec →
    ∃ e, r.index.lookup (name rec.key) = some e ∧ rec.generation ≤ e.generation

theorem Covered.le (covered : Covered name r) {d : Nat} {rec : CompleteRecord}
    (present : recordAt (image r.dev) d = some rec) :
    rec.generation ≤ generationOf r.index (name rec.key) := by
  rcases covered.covers d rec present with ⟨e, found, below⟩
  rw [generationOf_held found]
  exact below

theorem covered_scanned (name : Bytes → Bytes) {dev : D} (large : 36 ≤ (image dev).blockSize)
    (mountable : Mount.Mountable (image dev)) : Covered name (scannedAs name dev) where
  sound :=
    { large := large
      mountable := mountable
      index := by
        apply (indexedBy_scanAs name).mono
        rintro s e rec ⟨named, rfl⟩
        exact ⟨named, rfl⟩ }
  covers := by
    intro d rec present
    obtain ⟨best, selected⟩ :=
      Recovery.selected_exists name (records_of_present mountable present)
    refine ⟨Scan.entryOf name best, Scan.lookup_indexOf.mpr ⟨best, selected, rfl⟩, ?_⟩
    rcases selected.leads (records_of_present mountable present) rfl with below | ⟨level, _⟩
    · exact Nat.le_of_lt below
    · exact Nat.le_of_eq level

/-- Replicas without a last generation leave room for the next one. -/
theorem indexedGeneration_lt {replicas : List (Replica D)}
    (covered : ∀ r ∈ replicas, Covered name r) {key : Bytes}
    (last : ∀ r ∈ replicas, ∀ rec ∈ Scan.records (image r.dev),
      name rec.key = name key → rec.generation ≠ 2 ^ 32 - 1) :
    Rust.indexedGeneration (name key) replicas + 1 < 2 ^ 32 := by
  have bounded : Rust.indexedGeneration (name key) replicas ≤ 2 ^ 32 - 2 := by
    apply indexedGeneration_le
    intro r member
    have sound := (covered r member).sound
    cases held : r.index.get (name key) with
    | none =>
        rw [generationOf_absent held]
        exact Nat.zero_le _
    | some e =>
        obtain ⟨rec, present, named, same⟩ := sound.index.complete _ e held
        have stored := records_of_present sound.mountable present
        have short := (recordAt_eq_some.mp present).generation_lt
        have inner := last r member rec stored named
        rw [generationOf_held held, same]
        omega
  omega

/-- A put above the entry of its key. -/
theorem Covered.put (covered : Covered name r) {key value : Bytes} {generation : Nat}
    {pattern : UInt8} {new : CompleteRecord} (short : key.length ≤ 65535)
    (bounded : generation < 2 ^ 32) (above : generationOf r.index (name key) < generation)
    (done : PutDone (name key) key value generation pattern new r r') : Covered name r' := by
  have keyed : new.key = key := (done.added.contents short).1
  have counted : new.generation = generation := by
    rw [done.added.generation_eq, Nat.mod_eq_of_lt bounded]
  constructor
  · apply done.sound covered.sound
    exact ⟨by rw [keyed], counted.symm⟩
  · intro d rec present
    rw [done.records] at present
    rw [done.index]
    have entered : (r.index.put (entryAs (name key) generation new.descriptorBlock value)).lookup
        (name key) = some (entryAs (name key) generation new.descriptorBlock value) :=
      lookup_put_self _
    rcases replaced_origin present with old | ⟨_, rfl⟩
    · by_cases mine : name rec.key = name key
      · have below := covered.le old
        rw [mine] at below ⊢
        exact ⟨_, entered, Nat.le_of_lt (Nat.lt_of_le_of_lt below above)⟩
      · rcases covered.covers d rec old with ⟨e, found, below⟩
        refine ⟨e, ?_, below⟩
        rw [lookup_put_other mine]
        exact found
    · rw [keyed]
      exact ⟨_, entered, Nat.le_of_eq counted⟩

/-- A delete that takes the only record of its string. -/
theorem Covered.delete (covered : Covered name r) {s : Bytes} {e : IndexEntry} {pattern : UInt8}
    {gone : CompleteRecord} (done : DeleteDone s e pattern gone r r')
    (only : ∀ d rec, recordAt (image r.dev) d = some rec → name rec.key = s →
      d = e.descriptorBlock) : Covered name r' := by
  refine ⟨done.sound covered.sound, ?_⟩
  intro d rec present
  rw [done.records] at present
  rw [done.index]
  have apart : d ≠ e.descriptorBlock := by
    intro same
    rw [same, Function.update_self] at present
    cases present
  have before := removed_origin present
  rcases covered.covers d rec before with ⟨other, found, below⟩
  refine ⟨other, ?_, below⟩
  rw [lookup_delete_other fun named => apart (only d rec before named)]
  exact found

end

/-! ## Runs of puts and deletes -/

inductive Edit where
  | put (key value : Bytes) (userFlags : UInt32)
  | delete (key : Bytes)
  deriving DecidableEq, Repr

/-- The store after an edit, whatever the edit returned. -/
def edited {D : Type} [BlockDevice D] (impl : Impl) : Edit → Store D → Store D
  | .put key value userFlags, s => (impl.put key value userFlags s).2
  | .delete key, s => (impl.delete key s).2

section
variable {D : Type} [BlockDevice D] [LawfulBlockDevice D]

/-- Every record that is in `s'` and was not in `s` has a higher generation than
every record of the key that was on any replica of `s`. -/
def WritesAbove (key : Bytes) (s s' : Store D) : Prop :=
  ∀ pair ∈ s.replicas.zip s'.replicas, ∀ new ∈ Scan.records (image pair.2.dev),
    new ∉ Scan.records (image pair.1.dev) →
      ∀ r ∈ s.replicas, ∀ old ∈ Scan.records (image r.dev), old.key = key →
        old.generation < new.generation

/-- What the generations are for: each put writes above what is there. -/
def Rises (impl : Impl) : Edit → Store D → Prop
  | .put key value userFlags, s => WritesAbove key s (edited impl (.put key value userFlags) s)
  | .delete _, _ => True

/-- A put whose key is stored whole, whose value the size arithmetic can count
and which does not meet the last generation; a delete that takes the only
record on each replica whose key goes by that name. -/
def Orderly (impl : Impl) : Edit → Store D → Prop
  | .put key value _, s => key.length ≤ 65535 ∧ ∀ r ∈ s.replicas,
      value.length + (image r.dev).blockSize < 2 ^ 32 ∧
        ∀ rec ∈ Scan.records (image r.dev), impl.name rec.key = impl.name key →
          rec.generation ≠ 2 ^ 32 - 1
  | .delete key, s => ∀ r ∈ s.replicas, ∀ rec ∈ Scan.records (image r.dev),
      impl.name rec.key = impl.name key →
        (r.index.get (impl.name key)).map IndexEntry.descriptorBlock = some rec.descriptorBlock

instance (key : Bytes) (s s' : Store D) : Decidable (WritesAbove key s s') :=
  inferInstanceAs (Decidable (∀ pair ∈ s.replicas.zip s'.replicas,
    ∀ new ∈ Scan.records (image pair.2.dev), new ∉ Scan.records (image pair.1.dev) →
      ∀ r ∈ s.replicas, ∀ old ∈ Scan.records (image r.dev), old.key = key →
        old.generation < new.generation))

instance (impl : Impl) : (edit : Edit) → (s : Store D) → Decidable (Rises impl edit s)
  | .put key value userFlags, s => inferInstanceAs
      (Decidable (WritesAbove key s (edited impl (.put key value userFlags) s)))
  | .delete _, _ => isTrue trivial

instance (impl : Impl) : (edit : Edit) → (s : Store D) → Decidable (Orderly impl edit s)
  | .put key value _, s => inferInstanceAs (Decidable (key.length ≤ 65535 ∧ ∀ r ∈ s.replicas,
      value.length + (image r.dev).blockSize < 2 ^ 32 ∧
        ∀ rec ∈ Scan.records (image r.dev), impl.name rec.key = impl.name key →
          rec.generation ≠ 2 ^ 32 - 1))
  | .delete key, s => inferInstanceAs (Decidable (∀ r ∈ s.replicas,
      ∀ rec ∈ Scan.records (image r.dev), impl.name rec.key = impl.name key →
        (r.index.get (impl.name key)).map IndexEntry.descriptorBlock = some rec.descriptorBlock))

end

section
variable {D : Type} [BlockDevice D] [ReliableBlockDevice D] {impl : Impl} {s : Store D}
  {blockSize : Nat}

/-- A store whose replicas have one block size and are covered. -/
structure Counted (impl : Impl) (blockSize : Nat) (s : Store D) : Prop where
  large : 36 ≤ blockSize
  nonempty : s.replicas ≠ []
  size : ∀ r ∈ s.replicas, (image r.dev).blockSize = blockSize
  covered : ∀ r ∈ s.replicas, Covered impl.name r

/-- A put that meets no last generation counts on without a wrap. -/
theorem Counted.below (counted : Counted impl blockSize s) {key : Bytes}
    (last : ∀ r ∈ s.replicas, ∀ rec ∈ Scan.records (image r.dev),
      impl.name rec.key = impl.name key → rec.generation ≠ 2 ^ 32 - 1) :
    Rust.indexedGeneration (impl.name key) s.replicas + 1 < 2 ^ 32 :=
  indexedGeneration_lt counted.covered last

/-- What becomes of one replica in a put. -/
def Turned (impl : Impl) (key value : Bytes) (generation : Nat) (pattern : UInt8)
    (r r' : Replica D) : Prop :=
  r' = r ∨ ∃ new, PutDone (impl.name key) key value generation pattern new r r'

/-- A put is refused, or every replica is left alone or holds the record at the
next generation. -/
theorem Counted.turns (counted : Counted impl blockSize s) {key value : Bytes}
    (short : key.length ≤ 65535) (small : value.length + blockSize < 2 ^ 32)
    (below : Rust.indexedGeneration (impl.name key) s.replicas + 1 < 2 ^ 32)
    (userFlags : UInt32) :
    List.Forall₂ (Turned impl key value (Rust.indexedGeneration (impl.name key) s.replicas + 1)
      s.opts.freePattern) s.replicas (edited impl (.put key value userFlags) s).replicas := by
  have same : ∀ r ∈ s.replicas, Turned impl key value
      (Rust.indexedGeneration (impl.name key) s.replicas + 1) s.opts.freePattern r r :=
    fun r _ => .inl rfl
  rw [edited, impl.put_eq counted.nonempty counted.size counted.large (by omega) small,
    impl.next_below below]
  by_cases overlong : blockSize - 36 < key.length
  · rw [if_pos overlong]
    exact List.forall₂_same.mpr same
  · rw [if_neg overlong]
    refine Proc.each_related same ?_ ()
    intro _ r member
    have large := counted.large
    have size := counted.size r member
    have sound := (counted.covered r member).sound.indexed
    rcases storeAs_reliable (Rust.indexedGeneration (impl.name key) s.replicas + 1) userFlags
      s.opts.freePattern sound (show key.length + 36 ≤ (image r.dev).blockSize by omega) with
      ⟨full, _⟩ | ⟨_, r', new, ran, done⟩
    · rw [full]
      exact .inl rfl
    · rw [ran]
      exact .inr ⟨new, done⟩

/-- Turns that keep the size and the cover of each replica keep the store counted. -/
theorem Counted.turned {s' : Store D} {related : Replica D → Replica D → Prop}
    (counted : Counted impl blockSize s)
    (turns : List.Forall₂ related s.replicas s'.replicas)
    (keeps : ∀ r ∈ s.replicas, ∀ r', related r r' →
      (image r'.dev).blockSize = (image r.dev).blockSize ∧ Covered impl.name r') :
    Counted impl blockSize s' := by
  have each : ∀ r' ∈ s'.replicas,
      (image r'.dev).blockSize = blockSize ∧ Covered impl.name r' := by
    intro r' member'
    obtain ⟨r, member, turned⟩ := exists_of_forall₂ turns member'
    obtain ⟨size, covered⟩ := keeps r member r' turned
    exact ⟨size.trans (counted.size r member), covered⟩
  refine ⟨counted.large, ?_, fun r' member => (each r' member).1,
    fun r' member => (each r' member).2⟩
  intro empty
  rw [empty] at turns
  exact counted.nonempty (List.forall₂_nil_right_iff.mp turns)

theorem Counted.put (counted : Counted impl blockSize s) {key value : Bytes} {userFlags : UInt32}
    (orderly : Orderly impl (.put key value userFlags) s) :
    Rises impl (.put key value userFlags) s ∧
      Counted impl blockSize (edited impl (.put key value userFlags) s) := by
  obtain ⟨first, member⟩ := List.exists_mem_of_ne_nil _ counted.nonempty
  have small : value.length + blockSize < 2 ^ 32 := by
    rw [← counted.size first member]
    exact (orderly.2 first member).1
  have below := counted.below fun r member => (orderly.2 r member).2
  have turns := counted.turns orderly.1 small below userFlags
  constructor
  · intro pair paired new stored unseen r member old there keyed
    have lower : old.generation ≤ Rust.indexedGeneration (impl.name key) s.replicas := by
      have covered := (counted.covered r member).le (present_of_records there)
      rw [keyed] at covered
      exact Nat.le_trans covered (generationOf_le member _)
    rcases List.forall₂_zip turns paired with same | ⟨added, done⟩
    · rw [same] at stored
      exact absurd stored unseen
    · have present := present_of_records stored
      rw [done.records] at present
      rcases replaced_origin present with before | ⟨_, rfl⟩
      · have mountable := (counted.covered _ (List.of_mem_zip paired).1).sound.mountable
        exact absurd (records_of_present mountable before) unseen
      · rw [done.added.generation_eq, Nat.mod_eq_of_lt below]
        omega
  · refine counted.turned turns ?_
    intro r member r' turned
    have covered := counted.covered r member
    rcases turned with rfl | ⟨new, done⟩
    · exact ⟨rfl, covered⟩
    · refine ⟨done.blocks.keeps.size, covered.put orderly.1 below ?_ done⟩
      exact Nat.lt_succ_of_le (generationOf_le member _)

theorem Counted.delete (counted : Counted impl blockSize s) {key : Bytes}
    (orderly : Orderly impl (.delete key) s) :
    Counted impl blockSize (edited impl (.delete key) s) := by
  let related (r r' : Replica D) : Prop := r' = r ∨
    ∃ e gone, DeleteDone (impl.name key) e s.opts.freePattern gone r r'
  have turns : List.Forall₂ related s.replicas (edited impl (.delete key) s).replicas := by
    have each : List.Forall₂ related s.replicas (Proc.each
        (Rust.deleteReplica (impl.name key) s.opts.freePattern) false s.replicas).2 := by
      refine Proc.each_related (fun r _ => .inl rfl) ?_ false
      intro found r member
      cases held : r.index.lookup (impl.name key) with
      | none =>
          rw [rust_deleteReplica_absent held]
          exact .inl rfl
      | some e =>
          obtain ⟨r', gone, ran, done⟩ := deleteReplica_reliable s.opts.freePattern
            (counted.covered r member).sound.indexed held
          rw [ran found]
          exact .inr ⟨e, gone, done⟩
    rw [edited, impl.delete_as, deleteAs_eq]
    rcases ran : Proc.each (Rust.deleteReplica (impl.name key) s.opts.freePattern) false
      s.replicas with ⟨result, replicas⟩
    rw [ran] at each
    cases result with
    | ok found => exact each
    | error failure => exact each
  refine counted.turned turns ?_
  intro r member r' turned
  have covered := counted.covered r member
  rcases turned with rfl | ⟨e, gone, done⟩
  · exact ⟨rfl, covered⟩
  · refine ⟨done.blocks.keeps.size, covered.delete done ?_⟩
    intro d rec present named
    have only := orderly r member rec (records_of_present covered.sound.mountable present) named
    have held : r.index.get (impl.name key) = some e := done.found
    rw [held, (recordAt_eq_some.mp present).descriptorBlock_eq] at only
    exact (Option.some.inj only).symm

/-- In a run of puts and deletes whose deletes each take the only record of
their key, every put writes above all records of its key on all replicas, unless
it meets the last generation. -/
theorem generations_rise {devs : List D} {opts : Options}
    (large : ∀ dev ∈ devs, 36 ≤ (image dev).blockSize)
    (opened : impl.mount devs opts = .ok s) {edits : List Edit}
    (orderly : Each (edited impl) (Orderly impl) edits s) :
    Each (edited impl) (Rises impl) edits s := by
  obtain ⟨blockSize, blockCount, accepted, largeHere, rfl⟩ := Impl.mount_inv large opened
  let inv (state : Store D) : Prop := Counted impl blockSize state
  have start : inv { replicas := devs.map (scannedAs impl.name), opts := opts } := by
    refine ⟨largeHere, ?_, ?_, ?_⟩
    · intro empty
      exact accepted.nonempty (List.map_eq_nil_iff.mp empty)
    · intro r member
      obtain ⟨dev, stands, rfl⟩ := List.mem_map.mp member
      exact (accepted.mountable dev stands).2.1
    · intro r member
      obtain ⟨dev, stands, rfl⟩ := List.mem_map.mp member
      exact covered_scanned impl.name (large dev stands) (accepted.mountable dev stands).1
  refine each_of_invariant ?_ ?_ start orderly
  · intro edit state met counted
    cases edit with
    | put key value userFlags => exact (Counted.put counted met).1
    | delete key => trivial
  · intro edit state met counted
    cases edit with
    | put key value userFlags => exact (Counted.put counted met).2
    | delete key => exact Counted.delete counted met

end

/-- Two replicas that hold the key at generation 1: an update, a delete, and a
put that starts anew. -/
theorem generations_rise_anew :
    ∃ s, Impl.go.mount [DeleteLaws.storedDevice false, DeleteLaws.storedDevice false] .default =
        .ok s ∧
      Each (edited .go) (Rises .go) [.put [0x41] [5] 0, .delete [0x41], .put [0x41] [6] 0] s := by
  have checked : (Impl.go.mount [DeleteLaws.storedDevice false, DeleteLaws.storedDevice false]
      .default).toOption.any (fun s => Each (edited .go) (Orderly .go)
        [.put [0x41] [5] 0, .delete [0x41], .put [0x41] [6] 0] s) = true := by
    decide +kernel
  obtain ⟨s, opened, holds⟩ := ok_of_any checked
  exact ⟨s, opened, generations_rise (by decide +kernel) opened (decide_eq_true_eq.mp holds)⟩

/-- Generations 1 and 2 of a key on the device: a delete takes the second, and
the next put writes generation 1 next to the first, in both implementations. -/
theorem delete_restarts_generation :
    (∃ s, (Impl.rust .dev).mount [DeleteLaws.storedDevice true] .default = .ok s ∧
      ¬Each (edited (.rust .dev)) (Rises (.rust .dev)) [.delete [0x41], .put [0x41] [9] 0] s) ∧
    ∃ s, Impl.go.mount [DeleteLaws.storedDevice true] .default = .ok s ∧
      ¬Each (edited .go) (Rises .go) [.delete [0x41], .put [0x41] [9] 0] s := by
  have rust : ((Impl.rust .dev).mount [DeleteLaws.storedDevice true] .default).toOption.any
      (fun s => ¬Each (edited (.rust .dev)) (Rises (.rust .dev))
        [.delete [0x41], .put [0x41] [9] 0] s) = true := by
    decide +kernel
  have go : (Impl.go.mount [DeleteLaws.storedDevice true] .default).toOption.any
      (fun s => ¬Each (edited .go) (Rises .go) [.delete [0x41], .put [0x41] [9] 0] s) = true := by
    decide +kernel
  obtain ⟨s, found, fails⟩ := ok_of_any rust
  obtain ⟨s', found', fails'⟩ := ok_of_any go
  exact ⟨⟨s, found, decide_eq_true_eq.mp fails⟩,
    ⟨s', found', decide_eq_true_eq.mp fails'⟩⟩

end Embedkv.GenerationLaws
