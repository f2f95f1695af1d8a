import Embedkv.ChainWalk
import Embedkv.Reading
import Embedkv.DeleteLaws

/-!
# Which record a get returns

Indexes are built by scanning each device, and a get compares what they name
across the replicas. Over devices that read without errors the two selections
together are one: the complete record of highest generation over all replicas,
the lowest replica on a tie and then the lowest block. A record is complete here
when the verification of the store accepts it, whatever the block size.
-/

namespace Embedkv.ReadLaws

open Embedkv.Lib Embedkv.Format Embedkv.Device Embedkv.State Embedkv.Image Embedkv.Record
open Embedkv.Effects Embedkv.Session Embedkv.Run Embedkv.Fanout Embedkv.Stores Embedkv.Reading
open Embedkv.ChainWalk Embedkv.DeleteLaws

set_option autoImplicit false

/-! ## Verification -/

theorem readDescriptor_place {build : Rust.Build} {blockSize d : Nat} {buf : Bytes}
    {rec : CompleteRecord} (read : Rust.readDescriptor build blockSize d buf = .ok (some rec)) :
    rec.descriptorBlock = d := by
  simp only [Rust.readDescriptor, bind, Except.bind, pure, Except.pure] at read
  repeat' split at read
  all_goals first | cases read; rfl | cases read

section
variable {D : Type} [BlockDevice D]

theorem chainLoop_place {build : Rust.Build} {blockSize blockCount d next idx idx' : Nat}
    {visited : Finset Nat} {rec rec' : CompleteRecord} {dev : D}
    (walked : (Rust.chainLoop build blockSize blockCount d next idx visited rec dev).1 =
      .ok (some (rec', idx'))) : rec'.descriptorBlock = rec.descriptorBlock := by
  have placed : ∀ last, (chainLoopAt build blockSize blockCount d ⟨next, idx, visited, rec⟩ dev).1 =
      .ok (some last) → last.1.descriptorBlock = rec.descriptorBlock := by
    refine (chainLoop_solves build blockSize blockCount d).ends
      (chainTurn_visits build blockSize blockCount d).lowers
      (fun s _ => s.record.descriptorBlock = rec.descriptorBlock)
      (fun ended => ∀ last, ended.1 = .ok (some last) →
        last.1.descriptorBlock = rec.descriptorBlock) ?_ ?_ _ rfl
    · intro s s' store after kept went
      obtain ⟨_, _, _, _, _, _, _, grew⟩ := chainTurn_again went
      rw [grew]
      exact kept
    · intro s store ended kept final last answer
      rw [chainTurn_done (final.answered answer)]
      exact kept
  exact placed _ walked

theorem verify_place {build : Rust.Build} {d : Nat} {rec : CompleteRecord} {dev : D}
    (verified : (Rust.verifyAndReadRecord build d dev).1 = .ok (some rec)) :
    rec.descriptorBlock = d := by
  obtain ⟨buf, dev', head, _, described, same | ⟨idx, walked⟩⟩ := verify_inv verified
  · rw [same]
    exact readDescriptor_place described
  · exact (chainLoop_place walked).trans (readDescriptor_place described)

end

section
variable {D : Type} [BlockDevice D] [LawfulBlockDevice D]

theorem chainLoop_still (build : Rust.Build) (blockSize blockCount d next idx : Nat)
    (visited : Finset Nat) (rec : CompleteRecord) (dev : D) :
    (Rust.chainLoop build blockSize blockCount d next idx visited rec dev).2 = dev := by
  refine (chainLoop_solves build blockSize blockCount d).keeps
    (chainTurn_visits build blockSize blockCount d).lowers (· = dev) ?_
    ⟨next, idx, visited, rec⟩ rfl
  intro s store same
  rcases chainTurn_store build blockSize blockCount d s store with still | ⟨_, read⟩
  · exact still.trans same
  · rw [read, readBlock_still]
    exact same

/-- Verification only reads. -/
theorem verify_still (build : Rust.Build) (d : Nat) (dev : D) :
    (Rust.verifyAndReadRecord build d dev).2 = dev := by
  rcases verify_store build d dev with left | ⟨head, left⟩
  · rw [left, readBlock_still]
  · rw [left, readBlock_still]
    exact chainLoop_still _ _ _ _ _ _ _ _ _

/-- The store's verification accepts the record at block `d`. -/
def Complete (build : Rust.Build) (dev : D) (d : Nat) (rec : CompleteRecord) : Prop :=
  (Rust.verifyAndReadRecord build d dev).1 = .ok (some rec)

def verified (build : Rust.Build) (dev : D) (d : Nat) : Option CompleteRecord :=
  match (Rust.verifyAndReadRecord build d dev).1 with
  | .ok outcome => outcome
  | .error _ => none

omit [LawfulBlockDevice D] in
theorem verified_eq_some {build : Rust.Build} {dev : D} {d : Nat} {rec : CompleteRecord} :
    verified build dev d = some rec ↔ Complete build dev d rec := by
  unfold verified Complete
  cases (Rust.verifyAndReadRecord build d dev).1 with
  | error failure =>
      constructor
      · intro same
        cases same
      · intro same
        cases same
  | ok outcome => exact ⟨congrArg Except.ok, Except.ok.inj⟩

/-- With blocks of 36 bytes and more this is the format's notion. -/
theorem complete_iff_recordAt (build : Rust.Build) {dev : D} (large : 36 ≤ (image dev).blockSize)
    {d : Nat} (inside : d < (image dev).blockCount) {rec : CompleteRecord} :
    Complete build dev d rec ↔ RecordAt (image dev) d rec := by
  rw [Complete, rust_verifyAndReadRecord build dev d large inside, ← recordAt_eq_some]
  exact ⟨Except.ok.inj, congrArg Except.ok⟩

/-- A block of another type is passed over. -/
theorem verify_of_type (build : Rust.Build) {dev : D} {d : Nat}
    (inside : d < (image dev).blockCount)
    (other : u8At ((image dev).block d) 0 ≠ blockTypeRecordDescriptor) :
    Rust.verifyAndReadRecord build d dev = (.ok none, dev) := by
  have size : blockSizeOf dev = (.ok (BlockDevice.blockSize dev), dev) := rfl
  rw [Rust.verifyAndReadRecord, Proc.bind_ok size,
    Proc.bind_ok (LawfulBlockDevice.readBlock_eq dev d inside), Rust.readDescriptor, if_pos other]
  rfl

/-- Complete records stand in the data blocks. -/
theorem Complete.scanned {build : Rust.Build} {dev : D} (mountable : Mount.Mountable (image dev))
    {d : Nat} {rec : CompleteRecord} (complete : Complete build dev d rec) :
    d ∈ dataBlocks (image dev).blockCount := by
  have inside : d < (image dev).blockCount := by
    by_contra outside
    have unread := (Impl.rust build).verify_unread
      (LawfulBlockDevice.readBlock_outside dev d (Nat.not_lt.mp outside))
    change Rust.verifyAndReadRecord build d dev = _ at unread
    rw [Complete, unread] at complete
    cases complete
  refine mem_dataBlocks.mpr ⟨Nat.one_le_iff_ne_zero.mpr ?_, inside⟩
  rintro rfl
  have other : u8At ((image dev).block 0) 0 ≠ blockTypeRecordDescriptor := by
    rw [mountable.type]
    decide
  rw [Complete, verify_of_type build inside other] at complete
  cases complete

/-! ## The scan -/

/-- The complete records of a device, in scan order. -/
def found (build : Rust.Build) (dev : D) : List CompleteRecord :=
  (dataBlocks (image dev).blockCount).filterMap (verified build dev)

theorem mem_found {build : Rust.Build} {dev : D} (mountable : Mount.Mountable (image dev))
    {rec : CompleteRecord} :
    rec ∈ found build dev ↔ Complete build dev rec.descriptorBlock rec := by
  rw [found, List.mem_filterMap]
  constructor
  · rintro ⟨d, _, stored⟩
    have complete := verified_eq_some.mp stored
    rw [verify_place complete]
    exact complete
  · intro complete
    exact ⟨_, complete.scanned mountable, verified_eq_some.mpr complete⟩

theorem Complete.found {build : Rust.Build} {dev : D} (mountable : Mount.Mountable (image dev))
    {d : Nat} {rec : CompleteRecord} (complete : Complete build dev d rec) :
    rec ∈ found build dev := by
  rw [mem_found mountable, verify_place complete]
  exact complete

theorem found_sorted (build : Rust.Build) (dev : D) :
    ((found build dev).map CompleteRecord.descriptorBlock).Pairwise (· < ·) := by
  rw [List.pairwise_map, found, List.pairwise_filterMap]
  apply (dataBlocks_pairwise (image dev).blockCount).imp
  intro d d' below rec stored rec' stored'
  rw [verify_place (verified_eq_some.mp stored), verify_place (verified_eq_some.mp stored')]
  exact below

def foundIndex (build : Rust.Build) (dev : D) : MemIndex :=
  select IndexEntry.key IndexEntry.generation
    ((found build dev).map (Scan.entryOf fromUtf8Lossy))

theorem indexBlock_inv {build : Rust.Build} {r r' : Replica D} {i : Nat}
    (inside : i < (image r.dev).blockCount)
    (ran : Rust.indexBlock build i r = (.ok (), r')) :
    r' = { r with index := Scan.enter fromUtf8Lossy r.index (verified build r.dev i) } := by
  have read : Replica.onDevice (BlockDevice.readBlock i) r = (.ok ((image r.dev).block i), r) :=
    Plan.onDevice_ok (LawfulBlockDevice.readBlock_eq r.dev i inside)
  rcases checked : Rust.verifyAndReadRecord build i r.dev with ⟨result, dev⟩
  have still : dev = r.dev :=
    (congrArg Prod.snd checked).symm.trans (verify_still build i r.dev)
  subst still
  cases result with
  | ok outcome =>
      have seen : verified build r.dev i = outcome := by rw [verified, checked]
      have entered := Scan.rust_indexBlock_enters read (Plan.onDevice_ok checked) (by
        intro other
        rw [verify_of_type build inside other] at checked
        cases checked
        rfl) (by
        intro rec same
        rw [same] at checked
        exact verify_place (congrArg Prod.fst checked))
      rw [ran] at entered
      rw [seen]
      exact congrArg Prod.snd entered
  | error failure =>
      have failed : Replica.onDevice (Rust.verifyAndReadRecord build i) r =
          (.error failure, r) := by
        rw [Replica.onDevice, Proc.zoom_apply, checked]
      have typed : ¬u8At ((image r.dev).block i) 0 ≠ blockTypeRecordDescriptor := by
        intro other
        rw [verify_of_type build inside other] at checked
        cases checked
      rw [Rust.indexBlock, Proc.bind_ok read, if_neg typed, Proc.bind_error failed] at ran
      cases ran

theorem replicaBuildIndex_inv {build : Rust.Build} {r r' : Replica D}
    (ran : Rust.replicaBuildIndex build r = (.ok (), r')) :
    r' = { r with index := foundIndex build r.dev } := by
  have count : Replica.onDevice blockCountOf { r with index := ∅ } =
      (.ok (image r.dev).blockCount, { r with index := ∅ }) := by
    rw [Replica.onDevice, Proc.zoom_apply, blockCountOf, LawfulBlockDevice.blockCount_eq]
  rw [Rust.replicaBuildIndex, Replica.setIndex, Proc.modify_bind_apply, Proc.bind_ok count] at ran
  have step : ∀ state : Replica D, state.dev = r.dev →
      ∀ i ∈ dataBlocks (image r.dev).blockCount, ∀ state',
        Rust.indexBlock build i state = (.ok (), state') →
        state' = { state with
          index := Scan.enter fromUtf8Lossy state.index (verified build r.dev i) } ∧
          state'.dev = r.dev := by
    intro state same i member state' turn
    have inside := (mem_dataBlocks.mp member).2
    rw [← same] at inside
    have entered := indexBlock_inv inside turn
    rw [same] at entered
    rw [entered]
    exact ⟨by rw [← same], rfl⟩
  have start : ({ r with index := ∅ } : Replica D).dev = r.dev := rfl
  have folded := Proc.foldlM_inv step start ran
  rw [folded, Scan.foldl_index (fun index i =>
    Scan.enter fromUtf8Lossy index (verified build r.dev i)), foundIndex, found,
    Scan.select_entries]

/-- A replica after `open` and `build_index`, at any block size. -/
def indexed (build : Rust.Build) (dev : D) : Replica D :=
  { Mount.mounted dev with index := foundIndex build dev }

/-- A store that was opened consists of its devices with the indexes of their scans. -/
theorem mount_indexed {build : Rust.Build} {devs : List D} {opts : Options} {s : Store D}
    (opened : mount build devs opts = .ok s) :
    (∀ dev ∈ devs, Mount.Mountable (image dev)) ∧ s.replicas = devs.map (indexed build) := by
  cases accepted : Rust.openStore devs opts with
  | error failure =>
      rw [mount, accepted] at opened
      cases opened
  | ok start =>
      obtain ⟨⟨blockSize, blockCount, accepts⟩, rfl⟩ := Mount.openStore_iff.mp accepted
      refine ⟨fun dev member => (accepts.mountable dev member).1, ?_⟩
      rcases scanned : Proc.each (fun _ => Rust.replicaBuildIndex build) ()
        (devs.map Mount.mounted) with ⟨result, replicas⟩
      have built : Rust.buildIndex build { replicas := devs.map Mount.mounted, opts := opts } =
          (result, { replicas := replicas, opts := opts }) := by
        rw [Rust.buildIndex, Store.onReplicas, Proc.zoom_apply, scanned]
      simp only [mount, accepted, bind, Except.bind, built] at opened
      cases result with
      | error failure => cases opened
      | ok done =>
          cases opened
          have step : ∀ (_ : Unit), ∀ r ∈ devs.map Mount.mounted, ∀ (_ : Unit) (r' : Replica D),
              Rust.replicaBuildIndex build r = (.ok (), r') →
              r' = { r with index := foundIndex build r.dev } :=
            fun _ r _ _ r' ran => replicaBuildIndex_inv ran
          have pairs := Proc.each_forall₂ step scanned
          have same : List.Forall₂ Eq ((devs.map Mount.mounted).map fun r =>
              { r with index := foundIndex build r.dev }) replicas :=
            List.forall₂_map_left_iff.mpr (pairs.imp fun _ _ done => done.symm)
          rw [List.forall₂_eq_eq_eq, List.map_map] at same
          exact same.symm

/-! ## Reading the scanned replicas -/

/-- The record a scan prefers for a string. -/
def Picked (build : Rust.Build) (dev : D) (name : Bytes) (rec : CompleteRecord) : Prop :=
  Preferred (fun rec => fromUtf8Lossy rec.key) CompleteRecord.generation
    CompleteRecord.descriptorBlock (found build dev) name rec

/-- An index names the preferred record, or there is none. -/
theorem foundIndex_cases (build : Rust.Build) (dev : D) (name : Bytes) :
    (∃ rec, Picked build dev name rec ∧
      (foundIndex build dev).get name = some (Scan.entryOf fromUtf8Lossy rec)) ∨
    (foundIndex build dev).get name = none ∧
      ∀ rec ∈ found build dev, fromUtf8Lossy rec.key ≠ name := by
  have sorted : (((found build dev).map (Scan.entryOf fromUtf8Lossy)).map
      IndexEntry.descriptorBlock).Pairwise (· < ·) := by
    rw [List.map_map]
    exact found_sorted build dev
  cases held : (foundIndex build dev).get name with
  | none =>
      have absent := (lookup_select_eq_none sorted).mp held
      refine .inr ⟨rfl, ?_⟩
      intro rec stored
      exact absent _ (List.mem_map_of_mem stored)
  | some e =>
      have preferred := (lookup_select_eq_some sorted).mp held
      obtain ⟨rec, picked, rfl⟩ := preferred_map.mp preferred
      exact .inl ⟨rec, picked, rfl⟩

theorem Picked.complete {build : Rust.Build} {dev : D} (mountable : Mount.Mountable (image dev))
    {name : Bytes} {rec : CompleteRecord} (picked : Picked build dev name rec) :
    Complete build dev rec.descriptorBlock rec := (mem_found mountable).mp picked.1

theorem offered_indexed (build : Rust.Build) {dev : D} (mountable : Mount.Mountable (image dev))
    (key : Bytes) :
    (∃ rec, Picked build dev (fromUtf8Lossy key) rec ∧
      offered (.rust build) key (indexed build dev) = some (rec.generation, rec.value)) ∨
    offered (.rust build) key (indexed build dev) = none ∧
      ∀ rec ∈ found build dev, fromUtf8Lossy rec.key ≠ fromUtf8Lossy key := by
  rcases foundIndex_cases build dev (fromUtf8Lossy key) with ⟨rec, picked, held⟩ | ⟨held, absent⟩
  · have read : (Rust.verifyAndReadRecord build rec.descriptorBlock dev).1 = .ok (some rec) :=
      picked.complete mountable
    refine .inl ⟨rec, picked, ?_⟩
    have got : (indexed build dev).index.get ((Impl.rust build).name key) =
      some (Scan.entryOf fromUtf8Lossy rec) := held
    have verifies : ((Impl.rust build).verifyAndReadRecord
        (Scan.entryOf fromUtf8Lossy rec).descriptorBlock (indexed build dev).dev).1 =
      .ok (some rec) := read
    simp only [offered, got, verifies]
    rfl
  · refine .inr ⟨?_, absent⟩
    have got : (indexed build dev).index.get ((Impl.rust build).name key) = none := held
    simp only [offered, got]

/-- Nothing an index of a scan names makes a check unwind. -/
theorem spared_indexed {build : Rust.Build} {devs : List D}
    (mountable : ∀ dev ∈ devs, Mount.Mountable (image dev)) (key : Bytes) :
    Spared (.rust build) key (devs.map (indexed build)) := by
  rintro before r after split ⟨e, named, unwinds⟩
  have member : r ∈ devs.map (indexed build) := by
    rw [split]
    exact List.mem_append_right _ List.mem_cons_self
  obtain ⟨dev, stands, rfl⟩ := List.mem_map.mp member
  have held : (foundIndex build dev).get (fromUtf8Lossy key) = some e := named
  have failed : (Rust.verifyAndReadRecord build e.descriptorBlock dev).1 = .error .panic := unwinds
  rcases foundIndex_cases build dev (fromUtf8Lossy key) with ⟨rec, picked, got⟩ | ⟨got, _⟩
  · rw [got] at held
    cases held
    have complete : (Rust.verifyAndReadRecord build rec.descriptorBlock dev).1 = .ok (some rec) :=
      picked.complete (mountable dev stands)
    rw [Scan.entryOf, complete] at failed
    cases failed
  · rw [got] at held
    cases held

/-! ## The record over all replicas -/

/-- `rec` on replica `i` is the complete record of a key with the highest
generation over all replicas, on the lowest replica and in the lowest block of
that generation. -/
structure Best (build : Rust.Build) (devs : List D) (key : Bytes) (i : Nat)
    (rec : CompleteRecord) : Prop where
  stored : ∃ dev, devs[i]? = some dev ∧ Complete build dev rec.descriptorBlock rec
  keyed : rec.key = key
  leads : ∀ j dev d other, devs[j]? = some dev → Complete build dev d other → other.key = key →
    other.generation < rec.generation ∨ other.generation = rec.generation ∧
      (i < j ∨ i = j ∧ rec.descriptorBlock ≤ d)

/-- No replica holds a complete record of a key. -/
def Missing (build : Rust.Build) (devs : List D) (key : Bytes) : Prop :=
  ∀ dev ∈ devs, ∀ d rec, Complete build dev d rec → rec.key ≠ key

/-- The answer is that of the best record, or the key is not found and missing. -/
def Reads (build : Rust.Build) (devs : List D) (key : Bytes) (answer : Except Failure Bytes) :
    Prop :=
  (∃ i rec, Best build devs key i rec ∧ answer = .ok rec.value) ∨
    Missing build devs key ∧ answer = .error (.err .keyNotFound)

/-- The leading copy of scanned replicas is that of the best record. -/
theorem best_of_leading {build : Rust.Build} {devs : List D} {key : Bytes} {i : Nat}
    {copy : Nat × Bytes} (mountable : ∀ dev ∈ devs, Mount.Mountable (image dev))
    (utf8 : ∀ dev ∈ devs, ∀ d rec, Complete build dev d rec → isUtf8 rec.key = true)
    (leading : Leading (offers (.rust build) key (devs.map (indexed build))) i copy) :
    ∃ rec, Best build devs (fromUtf8Lossy key) i rec ∧ copy.2 = rec.value := by
  obtain ⟨here, leads⟩ := leading
  simp only [offers, List.map_map, List.getElem?_map] at here leads
  obtain ⟨dev, place, copied⟩ := Option.map_eq_some_iff.mp here
  have member := List.mem_of_getElem? place
  have decodes : ∀ dev ∈ devs, ∀ d rec, Complete build dev d rec →
      fromUtf8Lossy rec.key = rec.key := fun dev stands d rec complete =>
    fromUtf8Lossy_of_isUtf8 _ (utf8 dev stands d rec complete)
  rcases offered_indexed build (mountable dev member) key with ⟨rec, picked, offer⟩ | ⟨nothing, _⟩
  · have complete := picked.complete (mountable dev member)
    cases copied.symm.trans offer
    refine ⟨rec, ⟨⟨dev, place, complete⟩, ?_, ?_⟩, rfl⟩
    · rw [← decodes dev member _ rec complete]
      exact picked.2.1
    · intro j dev' d other place' complete' keyed
      have member' := List.mem_of_getElem? place'
      have stored := complete'.found (mountable dev' member')
      have named : fromUtf8Lossy other.key = fromUtf8Lossy key := by
        rw [decodes dev' member' d other complete', keyed]
      have at_d := verify_place complete'
      rcases offered_indexed build (mountable dev' member') key with
        ⟨rec', picked', offer'⟩ | ⟨_, absent⟩
      · have across := leads j (rec'.generation, rec'.value) (by
          rw [place', Option.map_some, Function.comp_apply, offer'])
        have within := picked'.2.2 other stored named
        rcases Nat.eq_or_lt_of_le (show other.generation ≤ rec.generation by omega) with
          level | below
        · rcases Nat.lt_or_ge i j with early | late
          · exact .inr ⟨level, .inl early⟩
          · -- Of one generation and not on a later replica: on this one.
            have same : i = j := by omega
            subst same
            cases place.symm.trans place'
            have first := picked.2.2 other stored named
            exact .inr ⟨level, .inr ⟨rfl, by omega⟩⟩
        · exact .inl below
      · exact absurd named (absent other stored)
  · rw [Function.comp_apply, nothing] at copied
    cases copied

theorem missing_of_lead {build : Rust.Build} {devs : List D} {key : Bytes}
    (mountable : ∀ dev ∈ devs, Mount.Mountable (image dev))
    (utf8 : ∀ dev ∈ devs, ∀ d rec, Complete build dev d rec → isUtf8 rec.key = true)
    (nothing : lead (offers (.rust build) key (devs.map (indexed build))) = none) :
    Missing build devs (fromUtf8Lossy key) := by
  intro dev member d rec complete keyed
  have stored := complete.found (mountable dev member)
  have decodes := fromUtf8Lossy_of_isUtf8 _ (utf8 dev member d rec complete)
  rcases offered_indexed build (mountable dev member) key with ⟨other, _, offer⟩ | ⟨_, absent⟩
  · refine lead_none nothing (other.generation, other.value) ?_
    exact List.mem_map.mpr ⟨_, List.mem_map_of_mem member, offer⟩
  · exact absent rec stored (decodes.trans keyed)

/-- A get reads the string its key decodes to. -/
theorem get_reads {build : Rust.Build} {devs : List D} {opts : Options} {s : Store D}
    (opened : mount build devs opts = .ok s)
    (utf8 : ∀ dev ∈ devs, ∀ d rec, Complete build dev d rec → isUtf8 rec.key = true)
    (key : Bytes) : Reads build devs (fromUtf8Lossy key) (Rust.get build key s).1 := by
  obtain ⟨mountable, scanned⟩ := mount_indexed opened
  have spared : Spared (.rust build) key s.replicas := by
    rw [scanned]
    exact spared_indexed mountable key
  have answered : (Rust.get build key s).1 = _ := get_spared spared
  rw [scanned] at answered
  cases leader : lead (offers (.rust build) key (devs.map (indexed build))) with
  | none =>
      rw [leader] at answered
      exact .inr ⟨missing_of_lead mountable utf8 leader, answered⟩
  | some copy =>
      rw [leader] at answered
      obtain ⟨i, leading⟩ := lead_some leader
      obtain ⟨rec, best, same⟩ := best_of_leading mountable utf8 leading
      exact .inl ⟨i, rec, best, answered.trans (congrArg Except.ok same)⟩

/-- A get of a key reads the best record of that key, or finds it missing,
exactly when the key is its own decoding or no record of the decoding is there. -/
theorem get_selects_iff {build : Rust.Build} {devs : List D} {opts : Options} {s : Store D}
    (opened : mount build devs opts = .ok s)
    (utf8 : ∀ dev ∈ devs, ∀ d rec, Complete build dev d rec → isUtf8 rec.key = true)
    (key : Bytes) :
    Reads build devs key (Rust.get build key s).1 ↔
      fromUtf8Lossy key = key ∨ Missing build devs (fromUtf8Lossy key) := by
  have decoded := get_reads opened utf8 key
  constructor
  · intro reads
    rcases decoded with ⟨i, rec, best, answer⟩ | ⟨missing, _⟩
    · left
      rcases reads with ⟨i', rec', best', _⟩ | ⟨_, refused⟩
      · obtain ⟨dev, place, complete⟩ := best'.stored
        have clean := utf8 dev (List.mem_of_getElem? place) _ rec' complete
        rw [best'.keyed] at clean
        exact fromUtf8Lossy_of_isUtf8 _ clean
      · rw [answer] at refused
        cases refused
    · exact .inr missing
  · rintro (same | missing)
    · rw [same] at decoded
      exact decoded
    · rcases decoded with ⟨i, rec, best, _⟩ | ⟨_, answer⟩
      · obtain ⟨dev, place, complete⟩ := best.stored
        exact absurd best.keyed (missing dev (List.mem_of_getElem? place) _ rec complete)
      · refine .inr ⟨?_, answer⟩
        intro dev member d rec complete keyed
        have clean := fromUtf8Lossy_of_isUtf8 _ (utf8 dev member d rec complete)
        refine missing dev member d rec complete ?_
        rw [← clean, keyed]

end

theorem get_selects_newer :
    ∃ s, mount .dev unevenDevices .default = .ok s ∧
      (Rust.get .dev [0x41] s).1 = .ok [2] ∧
      (Reads .dev unevenDevices [0x41] (Rust.get .dev [0x41] s).1 ↔
        fromUtf8Lossy [0x41] = [0x41] ∨ Missing .dev unevenDevices (fromUtf8Lossy [0x41])) := by
  have checked : (mount .dev unevenDevices .default).toOption.any (fun s =>
      (Rust.get .dev [0x41] s).1 = .ok [2]) = true := by
    decide +kernel
  have clean : ∀ dev ∈ unevenDevices, ∀ rec ∈ found .dev dev, isUtf8 rec.key = true := by
    decide +kernel
  obtain ⟨s, opened, holds⟩ := ok_of_any checked
  obtain ⟨mountable, _⟩ := mount_indexed opened
  refine ⟨s, opened, decide_eq_true_eq.mp holds, get_selects_iff opened ?_ [0x41]⟩
  intro dev member d rec complete
  exact clean dev member rec (complete.found (mountable dev member))

/-- A formatted device with one record, of the replacement character. -/
def replacedDevice : MemDevice :=
  let formatted := (Rust.format .dev .default [smallDevice]).2.headD smallDevice
  (Rust.writeRecord .dev 1 [] [0xEF, 0xBF, 0xBD] 1 [5] 0 formatted).2

/-- A byte that is not UTF-8 reads the record of the replacement character, and
has none of its own. -/
theorem get_reads_replacement :
    ∃ s, mount .dev [replacedDevice] .default = .ok s ∧
      (∀ d rec, Complete .dev replacedDevice d rec → isUtf8 rec.key = true) ∧
      Missing .dev [replacedDevice] [0xFF] ∧ (Rust.get .dev [0xFF] s).1 = .ok [5] := by
  have checked : (mount .dev [replacedDevice] .default).toOption.any (fun s =>
      (Rust.get .dev [0xFF] s).1 = .ok [5]) = true := by
    decide +kernel
  have clean : ∀ rec ∈ found .dev replacedDevice, isUtf8 rec.key = true ∧ rec.key ≠ [0xFF] := by
    decide +kernel
  obtain ⟨s, opened, holds⟩ := ok_of_any checked
  obtain ⟨mountable, _⟩ := mount_indexed opened
  have stored := mountable replacedDevice List.mem_cons_self
  refine ⟨s, opened, ?_, ?_, decide_eq_true_eq.mp holds⟩
  · intro d rec complete
    exact (clean rec (complete.found stored)).1
  · intro dev member d rec complete
    cases List.mem_singleton.mp member
    exact (clean rec (complete.found stored)).2

end Embedkv.ReadLaws
