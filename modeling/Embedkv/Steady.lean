import Embedkv.Exact
import Embedkv.Lockstep

/-!
# Operations without device errors

On a device whose calls all work, every operation leaves the index naming every
record. The results below say which answers each operation can give and what
the replica holds afterwards.
-/

namespace Embedkv.Steady

open Embedkv.Lib Embedkv.Format Embedkv.Device Embedkv.State Embedkv.Image Embedkv.Record
open Embedkv.Layout Embedkv.Effects Embedkv.Plan Embedkv.Outcome Embedkv.Session Embedkv.Exact
open Embedkv.Lockstep Embedkv.Run

set_option autoImplicit false

section
variable {D : Type} [BlockDevice D] [LawfulBlockDevice D]

/-- A mounted replica whose index names every record. -/
structure Settled (r : Replica D) : Prop where
  large : 36 ≤ (image r.dev).blockSize
  mountable : Mount.Mountable (image r.dev)
  whole : Whole (recordAt (image r.dev)) r.index

theorem Settled.sound {r : Replica D} (settled : Settled r) : Sound Listed r :=
  ⟨settled.large, settled.mountable, settled.whole.toIndexedBy⟩

theorem Settled.of_keeps {r r' : Replica D} (settled : Settled r)
    (kept : Keeps (image r.dev) (image r'.dev))
    (whole : Whole (recordAt (image r'.dev)) r'.index) : Settled r' where
  large := by
    rw [kept.size]
    exact settled.large
  mountable := settled.mountable.congr kept.size kept.count kept.header
  whole := whole

/-- The answers of a put, and what it leaves. -/
inductive PutAnswer (build : Rust.Build) (key value : Bytes) (r : Replica D) :
    Except Failure Unit → Replica D → Prop
  | tooLong (overlong : (image r.dev).blockSize < key.length + 36) :
      PutAnswer build key value r (.error (.err .keyTooLong)) r
  | overflow {failure : Failure}
      (wrapped : Rust.u32Add build (generationOf r.index (fromUtf8Lossy key)) 1 = .error failure) :
      PutAnswer build key value r (.error failure) r
  | full (crowded : (freeBlocks (image r.dev)).length <
        blocksFor (image r.dev).blockSize key.length (asU32 value.length)) :
      PutAnswer build key value r (.error (.err .storageFull)) r
  | stored {generation : Nat} {new : CompleteRecord} {r' : Replica D}
      (advanced : Rust.u32Add build (generationOf r.index (fromUtf8Lossy key)) 1 = .ok generation)
      (added : Added (image r.dev) key value generation new) (settled : Settled r')
      (index : r'.index = r.index.put (newEntry key generation new.descriptorBlock value))
      (holds : held r' = Function.update (held r) (fromUtf8Lossy key) (some new.value))
      (kept : Keeps (image r.dev) (image r'.dev)) :
      PutAnswer build key value r (.ok ()) r'

/-- The answers of a delete, and what it leaves. -/
inductive DeleteAnswer (s : Bytes) (r : Replica D) : Except Failure Unit → Replica D → Prop
  | absent (absent : r.index.lookup s = none) :
      DeleteAnswer s r (.error (.err .keyNotFound)) r
  | removed {e : IndexEntry} {r' : Replica D} (found : r.index.lookup s = some e)
      (settled : Settled r') (index : r'.index = r.index.delete s)
      (holds : held r' = Function.update (held r) s none)
      (kept : Keeps (image r.dev) (image r'.dev)) : DeleteAnswer s r (.ok ()) r'

end

section
variable {D : Type} [BlockDevice D] [ReliableBlockDevice D] {r : Replica D}

theorem put_answer (settled : Settled r) (build : Rust.Build) (opts : Options) {key : Bytes}
    (short : key.length ≤ 65535) (value : Bytes) (userFlags : UInt32) :
    ∃ result r', Rust.putFlagged build key value userFlags (single r opts) =
      (result, single r' opts) ∧ PutAnswer build key value r result r' := by
  have large := settled.large
  rw [putFlagged_single build r opts large]
  split
  next tooLong =>
    refine ⟨_, r, rfl, .tooLong ?_⟩
    rw [asU32, Nat.mod_eq_of_lt (by omega)] at tooLong
    omega
  next fits =>
    have keyFits : key.length + 36 ≤ (image r.dev).blockSize := by
      rw [asU32, Nat.mod_eq_of_lt (by omega)] at fits
      omega
    cases advanced : Rust.u32Add build (generationOf r.index (fromUtf8Lossy key)) 1 with
    | error failure => exact ⟨_, r, rfl, .overflow advanced⟩
    | ok generation =>
      rcases ran : Rust.replicaPut build key value generation userFlags opts.freePattern r with
        ⟨result, r'⟩
      simp only [ran]
      rcases replicaPut_outcome settled.sound.indexed keyFits ran with
        ⟨rfl, rfl, crowded⟩ | ⟨new, added, ended, kept, _⟩
      · exact ⟨_, _, rfl, .full crowded⟩
      · -- No device call fails, so the put ran to its end.
        have finished : result = .ok () := by
          rcases twin_replicaPut settled.sound build keyFits value generation userFlags
            opts.freePattern with ⟨r1, done, _⟩ | refused
          · rw [ran] at done
            exact (Prod.mk.inj done).1
          · have full := refused r (twin_refl settled.sound)
            rw [ran] at full
            rw [(Prod.mk.inj full).1] at ended
            cases ended
        subst finished
        let entry := newEntry key generation new.descriptorBlock value
        have listed : Listed entry.key entry new :=
          listed_added short (rust_u32Add_lt advanced) added
        rcases ended.ok with ⟨records, index⟩
        refine ⟨_, r', rfl, .stored advanced added (settled.of_keeps kept ?_) index ?_ kept⟩
        · rw [records, index]
          exact settled.whole.put added.fresh listed
        · rw [held, held, records, index]
          exact contents_put _ settled.whole added.fresh listed

theorem delete_answer (settled : Settled r) (opts : Options) (key : Bytes) :
    ∃ result r', Rust.delete key (single r opts) = (result, single r' opts) ∧
      DeleteAnswer (fromUtf8Lossy key) r result r' := by
  rw [delete_single]
  rcases Option.eq_none_or_eq_some (r.index.lookup (fromUtf8Lossy key)) with absent | ⟨e, found⟩
  · rw [rust_deleteReplica_absent absent]
    exact ⟨_, r, rfl, .absent absent⟩
  · rcases twin_deleteReplica settled.sound found opts.freePattern with ⟨r', ran, _⟩
    rw [ran false]
    rcases deleteReplica_outcome settled.sound.indexed found (ran false) with
      ⟨⟨failed, _⟩ | ⟨_, index, gone⟩, kept, _⟩
    · cases failed
    · refine ⟨_, r', rfl, .removed found (settled.of_keeps kept ?_) index ?_ kept⟩
      · rw [gone, index]
        exact settled.whole.delete found
      · rw [held, held, gone, index]
        exact contents_delete _ settled.whole found

/-- Recovery in the middle of a session drops nothing. -/
theorem recover_settled (settled : Settled r) (build : Rust.Build) (pattern : UInt8) :
    Settled (recoveredReplica build pattern r) ∧
      held (recoveredReplica build pattern r) = held r ∧
      (recoveredReplica build pattern r).index = r.index ∧
      (image (recoveredReplica build pattern r).dev).blockSize = (image r.dev).blockSize := by
  have image_ := (replicaRecover_reliable build pattern settled.large).2
  have kept := recovered_keeps fromUtf8Lossy (image r.dev) pattern
  have records : recordAt (image (recoveredReplica build pattern r).dev) =
      recordAt (image r.dev) := by
    change recordAt (image (Rust.replicaRecover build pattern r.dev).2) = _
    rw [image_]
    exact settled.whole.recovered (recordAt_zero settled.mountable) settled.large pattern
  have keeps : Keeps (image r.dev) (image (recoveredReplica build pattern r).dev) := by
    change Keeps _ (image (Rust.replicaRecover build pattern r.dev).2)
    rw [image_]
    exact kept
  refine ⟨settled.of_keeps keeps ?_, ?_, rfl, keeps.size⟩
  · rw [records]
    exact settled.whole
  · rw [held, held, records]
    rfl

/-- Reopening builds the index that was there. -/
theorem mount_settled (settled : Settled r) :
    Settled (scannedReplica r.dev) ∧ held (scannedReplica r.dev) = held r ∧
      (scannedReplica r.dev).index = r.index := by
  have index : (scannedReplica r.dev).index = r.index :=
    (settled.whole.scan (recordAt_zero settled.mountable)).symm
  refine ⟨⟨settled.large, settled.mountable, ?_⟩, ?_, index⟩
  · rw [index]
    exact settled.whole
  · rw [held, held, index]
    rfl

end

/-! ## Stores of twins -/

/-- A call, a recovery in the middle of a session, or a reopening. -/
inductive Step where
  | call (op : Op)
  | recover
  | reopen
  deriving DecidableEq, Repr

def Step.run {D : Type} [BlockDevice D] (build : Rust.Build) :
    Step → Proc Failure (Store D) (Option Bytes)
  | .call op => op.perform build
  | .recover => do
    Rust.recover build
    return none
  | .reopen => fun s =>
    match mount build (Rust.intoDevices s) s.opts with
    | .ok reopened => (.ok none, reopened)
    | .error failure => (.error failure, s)

/-- The state after a step. -/
def after {D : Type} [BlockDevice D] (build : Rust.Build) (step : Step) (s : Store D) : Store D :=
  (step.run build s).2

section
variable {D : Type} [BlockDevice D] (build : Rust.Build) (s : Store D)

theorem after_recover : after build .recover s = (Rust.recover build s).2 :=
  congrArg Prod.snd (Proc.bind_pure_apply (Rust.recover build) (fun _ => none) s)

end

/-- The store after a list of steps. -/
def runSteps {D : Type} [BlockDevice D] (build : Rust.Build) (steps : List Step) (s : Store D) :
    Store D :=
  runTo (after build) steps s

section
variable {D : Type} [BlockDevice D] [ReliableBlockDevice D] {r : Replica D} {opts : Options}
  {s : Store D}

omit [BlockDevice D] [ReliableBlockDevice D] in
theorem single_inj {r q : Replica D} (same : single r opts = single q opts) : r = q :=
  List.head_eq_of_cons_eq (congrArg Store.replicas same)

theorem store_put (lock : InStep r opts s) (settled : Settled r) (build : Rust.Build) {key : Bytes}
    (short : key.length ≤ 65535) (value : Bytes) (userFlags : UInt32) :
    ∃ result r', (Rust.putFlagged build key value userFlags s).1 = result ∧
      InStep r' opts (Rust.putFlagged build key value userFlags s).2 ∧
      PutAnswer build key value r result r' := by
  rcases inStep_put lock settled.sound build short value userFlags with ⟨r1, one, same, lock'⟩
  rcases put_answer settled build opts short value userFlags with ⟨result, r', ran, answered⟩
  rw [ran] at one same
  rw [← single_inj one] at lock'
  exact ⟨result, r', same, lock', answered⟩

theorem store_delete (lock : InStep r opts s) (settled : Settled r) (key : Bytes) :
    ∃ result r', (Rust.delete key s).1 = result ∧ InStep r' opts (Rust.delete key s).2 ∧
      DeleteAnswer (fromUtf8Lossy key) r result r' := by
  rcases inStep_delete lock settled.sound key with ⟨r1, one, same, lock'⟩
  rcases delete_answer settled opts key with ⟨result, r', ran, answered⟩
  rw [ran] at one same
  rw [← single_inj one] at lock'
  exact ⟨result, r', same, lock', answered⟩

theorem store_get (lock : InStep r opts s) (settled : Settled r) (build : Rust.Build)
    (key : Bytes) : Rust.get build key s = (answer (held r (fromUtf8Lossy key)), s) := by
  rw [inStep_get lock settled.sound, get_held settled.sound]

theorem store_recover (lock : InStep r opts s) (settled : Settled r) (build : Rust.Build) :
    (Rust.recover build s).1 = .ok () ∧ ∃ r', InStep r' opts (Rust.recover build s).2 ∧
      Settled r' ∧ held r' = held r ∧ r'.index = r.index ∧
      (image r'.dev).blockSize = (image r.dev).blockSize := by
  rcases inStep_recover lock settled.sound build with ⟨finished, lock'⟩
  exact ⟨finished, _, lock', recover_settled settled build opts.freePattern⟩

theorem store_reopen (lock : InStep r opts s) (settled : Settled r) (build : Rust.Build) :
    (Step.reopen.run build s).1 = .ok none ∧ ∃ r', InStep r' opts (Step.reopen.run build s).2 ∧
      Settled r' ∧ held r' = held r ∧ r'.index = r.index ∧
      (image r'.dev).blockSize = (image r.dev).blockSize := by
  rcases inStep_mount lock settled.sound build with ⟨reopened, opened, lock'⟩
  rcases mount_settled settled with ⟨settled', holds, index⟩
  simp only [Step.run, lock.opts_eq, opened]
  exact ⟨trivial, _, lock', settled', holds, index, rfl⟩

/-- The keys of a store of twins are the keys of one of them. -/
theorem store_keys (lock : InStep r opts s) : Rust.keys s = r.index.entryKeys := by
  have fold : ∀ rest : List (Replica D), (∀ q ∈ rest, q.index = r.index) →
      rest.foldl (fun set q => set ∪ q.index.entryKeys) r.index.entryKeys =
        r.index.entryKeys := by
    intro rest same
    induction rest with
    | nil => rfl
    | cons q rest ih =>
        rw [List.foldl_cons, same q List.mem_cons_self, Finset.union_self]
        exact ih fun other member => same other (List.mem_cons_of_mem _ member)
  have same : ∀ q ∈ s.replicas, q.index = r.index := fun q member => (lock.twins q member).index
  rw [Rust.keys]
  cases replicas : s.replicas with
  | nil => exact absurd replicas lock.nonempty
  | cons q rest =>
      rw [replicas] at same
      rw [List.foldl_cons, same q List.mem_cons_self, Finset.empty_union]
      exact fold rest fun other member => same other (List.mem_cons_of_mem _ member)

end

/-- A formatted device, indexed. -/
theorem blank_settled {D : Type} [BlockDevice D] [LawfulBlockDevice D] {blockSize blockCount : Nat}
    {dev : D} (large : 36 ≤ blockSize) (blank : Blank blockSize blockCount (image dev)) :
    Settled (scannedReplica dev) := by
  refine ⟨?_, blank.mountable, indexedBy_scan, ?_, ?_⟩
  · change 36 ≤ (image dev).blockSize
    rw [blank.size]
    exact large
  · intro d rec present
    change recordAt (image dev) d = some rec at present
    rw [blank.recordAt] at present
    cases present
  · intro d rec present
    change recordAt (image dev) d = some rec at present
    rw [blank.recordAt] at present
    cases present

/-- A formatted store, opened and indexed: twins that hold nothing. -/
theorem fresh_settled {build : Rust.Build} {opts : Options} {blockSize blockCount n : Nat}
    {size_lt : blockSize < 2 ^ 32} {count_lt : blockCount < 2 ^ 32} {s : Store MemDevice}
    (large : 36 ≤ blockSize)
    (fresh : freshStore build opts id (List.replicate n
      (MemDevice.new blockSize blockCount size_lt count_lt)) = .ok s) :
    ∃ r : Replica MemDevice, InStep r opts s ∧ Settled r ∧ r.dev.blockSize = blockSize ∧
      ∀ name, r.index.lookup name = none := by
  rcases freshStore_eq large (fun _ => rfl) fresh with ⟨devs, nonempty, _, blank, rfl⟩
  rcases List.exists_mem_of_ne_nil devs nonempty with ⟨dev, member⟩
  have here := blank dev member
  have none : ∀ name, (Scan.indexOf fromUtf8Lossy dev).lookup name = none := by
    intro name
    rw [Scan.lookup_indexOf_none, blank_records here]
    intro rec stored
    cases stored
  refine ⟨scannedReplica dev, ⟨rfl, ?_, ?_⟩, blank_settled large here, here.size, none⟩
  · simpa using nonempty
  · intro q inside
    rcases List.mem_map.mp inside with ⟨other, among, rfl⟩
    have there := blank other among
    have same : SameData dev other := by
      refine ⟨?_, ?_, ?_⟩
      · rw [there.size, here.size]
      · rw [there.count, here.count]
      · intro b data
        by_cases bound : b < blockCount
        · rw [there.data b data bound, here.data b data bound]
        · rw [MemDevice.block, MemDevice.block, List.getD_eq_default, List.getD_eq_default]
          · rw [← here.count] at bound
            exact Nat.le_of_not_lt bound
          · rw [← there.count] at bound
            exact Nat.le_of_not_lt bound
    refine ⟨same, ?_, there.mountable⟩
    change Scan.indexOf fromUtf8Lossy other = Scan.indexOf fromUtf8Lossy dev
    rw [Scan.indexOf, Scan.indexOf, blank_records here, blank_records there]

end Embedkv.Steady
