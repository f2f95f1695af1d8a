import Embedkv.Frame
import Embedkv.Steady

/-!
# Sessions on one replica

Every step of a session without device errors, told once: what it does to the
replica of a one-replica store whose index names complete records. The laws about
such sessions go through these cases and look at no operation again.
-/

namespace Embedkv.Alone

open Embedkv.Lib Embedkv.Format Embedkv.Device Embedkv.State Embedkv.Image Embedkv.Record
open Embedkv.Effects Embedkv.Plan Embedkv.Outcome Embedkv.Session Embedkv.Run Embedkv.Steady
open Embedkv.Frame

set_option autoImplicit false

section
variable {D : Type} [BlockDevice D] [LawfulBlockDevice D]

/-- Every entry names the record that a scan selects for its string. -/
def Current (r : Replica D) : Prop :=
  ∀ s e, r.index.lookup s = some e → ∃ rec, Scan.Selected fromUtf8Lossy (image r.dev) s rec ∧
    rec.descriptorBlock = e.descriptorBlock

/-- A scan makes entries of the selected records. -/
theorem current_scanned (dev : D) : Current (scannedReplica dev) := by
  intro s e found
  rcases Scan.lookup_indexOf.mp found with ⟨rec, selected, rfl⟩
  exact ⟨rec, selected, rfl⟩

/-- The key fits into a descriptor and the record into the free blocks. -/
def HasRoom (r : Replica D) (key value : Bytes) : Prop :=
  key.length + 36 ≤ (image r.dev).blockSize ∧
    Layout.blocksFor (image r.dev).blockSize key.length (asU32 value.length) ≤
      (freeBlocks (image r.dev)).length

instance (r : Replica D) (key value : Bytes) : Decidable (HasRoom r key value) :=
  inferInstanceAs (Decidable (_ ∧ _))

end

section
variable {D : Type} [BlockDevice D] [ReliableBlockDevice D]

/-- What a step answers and does to the replica. -/
inductive Effect (build : Rust.Build) (opts : Options) (r : Replica D) :
    Step → Except Failure (Option Bytes) → Replica D → Prop
  | refused {key value : Bytes} {userFlags : UInt32} {failure : Failure} :
      Effect build opts r (.call (.put key value userFlags)) (.error failure) r
  | put {key value : Bytes} {userFlags : UInt32} {generation : Nat} {new : CompleteRecord}
      {r' : Replica D}
      (advanced : Rust.u32Add build (generationOf r.index (fromUtf8Lossy key)) 1 = .ok generation)
      (done : PutDone (fromUtf8Lossy key) key value generation opts.freePattern new r r') :
      Effect build opts r (.call (.put key value userFlags)) (.ok none) r'
  | missing {key : Bytes} (absent : r.index.lookup (fromUtf8Lossy key) = none) :
      Effect build opts r (.call (.delete key)) (.error (.err .keyNotFound)) r
  | delete {key : Bytes} {e : IndexEntry} {rec : CompleteRecord} {r' : Replica D}
      (done : DeleteDone (fromUtf8Lossy key) e opts.freePattern rec r r') :
      Effect build opts r (.call (.delete key)) (.ok none) r'
  | get {key : Bytes} {result : Except Failure (Option Bytes)} :
      Effect build opts r (.call (.get key)) result r
  | recover : Effect build opts r .recover (.ok none) (recoveredReplica build opts.freePattern r)
  | reopen : Effect build opts r .reopen (.ok none) (scannedReplica r.dev)

variable {matching : Bytes → IndexEntry → CompleteRecord → Prop} {r : Replica D}

/-- A put of a key that fits finds too few blocks and changes nothing, or it is done. -/
theorem putFlagged_fitting (sound : Sound matching r) (build : Rust.Build) (opts : Options)
    {key : Bytes} (keyFits : key.length + 36 ≤ (image r.dev).blockSize) (value : Bytes)
    (userFlags : UInt32) {generation : Nat}
    (advanced : Rust.u32Add build (generationOf r.index (fromUtf8Lossy key)) 1 = .ok generation) :
    (Rust.putFlagged build key value userFlags (single r opts) =
        (.error (.err .storageFull), single r opts) ∧ ¬HasRoom r key value) ∨
      HasRoom r key value ∧ ∃ new r', Rust.putFlagged build key value userFlags (single r opts) =
          (.ok (), single r' opts) ∧
        PutDone (fromUtf8Lossy key) key value generation opts.freePattern new r r' := by
  have size := (image r.dev).size_lt
  have length : asU32 key.length = key.length := Nat.mod_eq_of_lt (by omega)
  have turn := rust_replicaPut_storeAs build keyFits value generation userFlags opts.freePattern
  rw [putFlagged_single build r opts sound.large, length, if_neg (by omega), advanced]
  rcases storeAs_reliable generation userFlags opts.freePattern sound.indexed keyFits with
    ⟨full, crowded⟩ | ⟨room, r', new, ran, done⟩
  · rw [full] at turn
    refine .inl ⟨?_, fun room => Nat.not_lt.mpr room.2 crowded⟩
    simp only [turn]
  · rw [ran] at turn
    refine .inr ⟨⟨keyFits, room⟩, new, r', ?_, done⟩
    simp only [turn]

/-- A put of a key that does not fit is refused. -/
theorem putFlagged_unfit (sound : Sound matching r) (build : Rust.Build) (opts : Options)
    {key : Bytes} (short : key.length ≤ 65535)
    (unfit : ¬key.length + 36 ≤ (image r.dev).blockSize) (value : Bytes) (userFlags : UInt32) :
    Rust.putFlagged build key value userFlags (single r opts) =
      (.error (.err .keyTooLong), single r opts) := by
  have large := sound.large
  have length : asU32 key.length = key.length := Nat.mod_eq_of_lt (by omega)
  rw [putFlagged_single build r opts large, length, if_pos (by omega)]

/-- A put goes through exactly if there is room for it. -/
theorem putFlagged_ok_iff (sound : Sound matching r) (build : Rust.Build) (opts : Options)
    {key : Bytes} (short : key.length ≤ 65535) (value : Bytes) (userFlags : UInt32)
    {generation : Nat}
    (advanced : Rust.u32Add build (generationOf r.index (fromUtf8Lossy key)) 1 = .ok generation) :
    (Rust.putFlagged build key value userFlags (single r opts)).1 = .ok () ↔
      HasRoom r key value := by
  by_cases keyFits : key.length + 36 ≤ (image r.dev).blockSize
  · rcases putFlagged_fitting sound build opts keyFits value userFlags advanced with
      ⟨full, crowded⟩ | ⟨room, new, r', ran, _⟩
    · rw [full]
      exact iff_of_false nofun crowded
    · rw [ran]
      exact iff_of_true rfl room
  · rw [putFlagged_unfit sound build opts short keyFits]
    exact iff_of_false nofun fun room => keyFits room.1

/-- A put is refused and changes nothing, or it is done. -/
theorem putFlagged_alone (sound : Sound matching r) (build : Rust.Build) (opts : Options)
    (key value : Bytes) (userFlags : UInt32) :
    (∃ failure, Rust.putFlagged build key value userFlags (single r opts) =
        (.error failure, single r opts)) ∨
      ∃ generation new r', Rust.putFlagged build key value userFlags (single r opts) =
          (.ok (), single r' opts) ∧
        Rust.u32Add build (generationOf r.index (fromUtf8Lossy key)) 1 = .ok generation ∧
        PutDone (fromUtf8Lossy key) key value generation opts.freePattern new r r' := by
  have large := sound.large
  cases advanced : Rust.u32Add build (generationOf r.index (fromUtf8Lossy key)) 1 with
  | error failure =>
      left
      rw [putFlagged_single build r opts large, advanced]
      split <;> exact ⟨_, rfl⟩
  | ok generation =>
      by_cases keyFits : key.length + 36 ≤ (image r.dev).blockSize
      · rcases putFlagged_fitting sound build opts keyFits value userFlags advanced with
          ⟨full, _⟩ | ⟨_, new, r', ran, done⟩
        · exact .inl ⟨_, full⟩
        · exact .inr ⟨generation, new, r', ran, rfl, done⟩
      · left
        rw [putFlagged_single build r opts large, advanced]
        split
        next => exact ⟨_, rfl⟩
        next fits =>
          have refused := rust_replicaPut_cut build (by omega)
            (overlong_of_cut large fits keyFits) value generation userFlags opts.freePattern
          simp only [refused]
          exact ⟨_, rfl⟩

/-- A delete finds nothing and changes nothing, or it is done. -/
theorem delete_alone (sound : Sound matching r) (opts : Options) (key : Bytes) :
    (r.index.lookup (fromUtf8Lossy key) = none ∧
        Rust.delete key (single r opts) = (.error (.err .keyNotFound), single r opts)) ∨
      ∃ e rec r', Rust.delete key (single r opts) = (.ok (), single r' opts) ∧
        DeleteDone (fromUtf8Lossy key) e opts.freePattern rec r r' := by
  rw [delete_single]
  rcases Option.eq_none_or_eq_some (r.index.lookup (fromUtf8Lossy key)) with absent | ⟨e, found⟩
  · rw [rust_deleteReplica_absent absent]
    exact .inl ⟨absent, rfl⟩
  · rcases deleteReplica_reliable opts.freePattern sound.indexed found with ⟨r', rec, ran, done⟩
    rw [ran false]
    exact .inr ⟨e, rec, r', rfl, done⟩

/-- Every step has one of the effects. -/
theorem step_effect (sound : Sound matching r) (build : Rust.Build) (opts : Options) (step : Step) :
    ∃ result r', step.run build (single r opts) = (result, single r' opts) ∧
      Effect build opts r step result r' := by
  cases step with
  | call op =>
      rw [Step.run]
      cases op with
      | put key value userFlags =>
          rw [perform_put]
          rcases putFlagged_alone sound build opts key value userFlags with
            ⟨failure, refused⟩ | ⟨generation, new, r', ran, advanced, done⟩
          · rw [refused]
            exact ⟨_, r, rfl, .refused⟩
          · rw [ran]
            exact ⟨_, r', rfl, .put advanced done⟩
      | delete key =>
          rw [perform_delete]
          rcases delete_alone sound opts key with ⟨absent, missing⟩ | ⟨e, rec, r', ran, done⟩
          · rw [missing]
            exact ⟨_, r, rfl, .missing absent⟩
          · rw [ran]
            exact ⟨_, r', rfl, .delete done⟩
      | get key =>
          rw [perform_get, get_single_state sound build key opts]
          exact ⟨_, r, rfl, .get⟩
  | recover =>
      have large : ∀ q ∈ (single r opts).replicas, 36 ≤ (image q.dev).blockSize := by
        intro q member
        rw [List.mem_singleton.mp member]
        exact sound.large
      refine ⟨_, _, ?_, .recover⟩
      rw [Step.run, Proc.bind_ok (rust_recover build large)]
      rfl
  | reopen =>
      have opened : mount build (Rust.intoDevices (single r opts)) (single r opts).opts =
          .ok (single (scannedReplica r.dev) opts) :=
        mount_single build sound.large sound.mountable opts
      refine ⟨_, _, ?_, .reopen⟩
      simp only [Step.run, opened]

variable {build : Rust.Build} {opts : Options} {step : Step} {r' : Replica D}
  {result : Except Failure (Option Bytes)}

theorem image_recoveredReplica (sound : Sound matching r) (build : Rust.Build) (pattern : UInt8) :
    image (recoveredReplica build pattern r).dev =
      Recovery.recovered fromUtf8Lossy (image r.dev) pattern :=
  (replicaRecover_reliable build pattern sound.large).2

/-- No step touches the geometry or block 0. -/
theorem Effect.keeps (sound : Sound matching r) (effect : Effect build opts r step result r') :
    Keeps (image r.dev) (image r'.dev) := by
  cases effect with
  | put _ done => exact done.blocks.keeps
  | delete done => exact done.blocks.keeps
  | refused | missing | get => exact keeps_refl _
  | recover =>
      rw [image_recoveredReplica sound]
      exact recovered_keeps fromUtf8Lossy (image r.dev) opts.freePattern
  | reopen => exact keeps_refl _

/-- Recovery keeps the selected records, and with them a current index sound. -/
theorem recovered_sound (sound : Sound matching r) (current : Current r) (build : Rust.Build)
    (pattern : UInt8) : Sound matching (recoveredReplica build pattern r) := by
  have image' := image_recoveredReplica sound build pattern
  have kept := recovered_keeps fromUtf8Lossy (image r.dev) pattern
  rw [← image'] at kept
  apply sound.of_keeps kept
  refine ⟨?_, sound.index.distinct⟩
  intro s e found
  rcases sound.index.complete s e found with ⟨rec, present, matched⟩
  rcases current s e found with ⟨best, selected, place⟩
  have same : rec = best := by
    rw [← place] at present
    exact recordAt_unique (recordAt_eq_some.mp present) selected.record
  have still := (Recovery.selected_recovered sound.large pattern s best).mpr selected
  refine ⟨rec, ?_, matched⟩
  rw [image', ← place, same]
  exact recordAt_eq_some.mpr still.record

/-- Where every record is indexed, every step leaves it so. -/
theorem Effect.settled (settled : Settled r) (effect : Effect build opts r step result r')
    (short : ∀ op, step = .call op → op.key.length ≤ 65535) : Settled r' := by
  have kept := effect.keeps settled.sound
  cases effect with
  | refused | missing | get => exact settled
  | @put key value _ generation new _ advanced done =>
      let entry := entryAs (fromUtf8Lossy key) generation new.descriptorBlock value
      have listed : Listed entry.key entry new :=
        listed_added (short _ rfl) (rust_u32Add_lt advanced) done.added
      apply settled.of_keeps kept
      rw [done.records, done.index]
      exact settled.whole.put done.added.fresh listed
  | delete done =>
      apply settled.of_keeps kept
      rw [done.records, done.index]
      exact settled.whole.delete done.found
  | recover => exact (recover_settled settled build opts.freePattern).1
  | reopen => exact (mount_settled settled).1

end

end Embedkv.Alone
