import Embedkv.Frame
import Embedkv.Lead
import Embedkv.DeleteLaws
import Embedkv.GenerationLaws

/-!
# Puts over replicas that differ

Replicas are written one after the other, each from its own free blocks. A put
that one of them has no room for stops there: the replicas before it have taken
the put and the others have not. A put that succeeds has been taken by all of
them, at a generation above whatever each of them held.
-/

namespace Embedkv.DivergentLaws

open Embedkv.Lib Embedkv.Format Embedkv.Device Embedkv.State Embedkv.Image Embedkv.Record
open Embedkv.Layout Embedkv.Effects Embedkv.Plan Embedkv.Outcome Embedkv.Session Embedkv.Run
open Embedkv.Frame Embedkv.Lead

set_option autoImplicit false

section
variable {D : Type} [BlockDevice D] [LawfulBlockDevice D]

/-- The replica has fewer free data blocks than the record takes. -/
def Crowded (build : Rust.Build) (key value : Bytes) (r : Replica D) : Prop :=
  ∃ needed, Rust.neededBlocks build key value (image r.dev).blockSize = .ok needed ∧
    (freeBlocks (image r.dev)).length < needed

/-- The replica has taken a put: record written, indexed, its predecessor erased. -/
def Took (key value : Bytes) (pattern : UInt8) (r r' : Replica D) : Prop :=
  ∃ generation new, PutDone (fromUtf8Lossy key) key value generation pattern new r r'

/-- Every block of every replica and every index are the same. -/
def Unchanged (s s' : Store D) : Prop :=
  (s'.replicas.map fun r => ((image r.dev).blocks, r.index)) =
    s.replicas.map fun r => ((image r.dev).blocks, r.index)

instance (s s' : Store D) : Decidable (Unchanged s s') :=
  inferInstanceAs (Decidable ((s'.replicas.map fun r => ((image r.dev).blocks, r.index)) =
    s.replicas.map fun r => ((image r.dev).blocks, r.index)))

theorem crowded_iff (build : Rust.Build) {key : Bytes} {r : Replica D}
    (passes : asU32 key.length + 36 ≤ (image r.dev).blockSize) (value : Bytes) :
    Crowded build key value r ↔ (freeBlocks (image r.dev)).length <
      blocksFor (image r.dev).blockSize (asU32 key.length) (asU32 value.length) := by
  have needed := rust_neededBlocks_cut build passes (image r.dev).size_lt value
  constructor
  · rintro ⟨count, counted, few⟩
    rw [needed] at counted
    rwa [← Except.ok.inj counted] at few
  · intro few
    exact ⟨_, needed, few⟩

/-- A replica that has taken a put has another image than before. -/
theorem took_blocks_ne {s key value : Bytes} {generation : Nat} {pattern : UInt8}
    {new : CompleteRecord} {r r' : Replica D}
    (done : PutDone s key value generation pattern new r r') :
    (image r'.dev).blocks ≠ (image r.dev).blocks := by
  intro same
  have equal : image r'.dev = image r.dev := MemDevice.ext done.blocks.keeps.size same
  have written := done.blocks.written
  rw [equal, ← recordAt_eq_some, done.added.fresh] at written
  cases written

end

section
variable {D : Type} [BlockDevice D] [ReliableBlockDevice D]
  {matching : Bytes → IndexEntry → CompleteRecord → Prop}

/-- One replica's turn: no room, a key cut in the check that unwinds, or done. -/
theorem replicaPut_turn (build : Rust.Build) {r : Replica D} (sound : Sound matching r)
    {key : Bytes} (passes : asU32 key.length + 36 ≤ (image r.dev).blockSize) (value : Bytes)
    (generation : Nat) (userFlags : UInt32) (pattern : UInt8) :
    (Rust.replicaPut build key value generation userFlags pattern r =
        (.error (.err .storageFull), r) ∧ Crowded build key value r) ∨
      Rust.replicaPut build key value generation userFlags pattern r = (.error .panic, r) ∨
      ∃ r' new, Rust.replicaPut build key value generation userFlags pattern r = (.ok (), r') ∧
        ¬Crowded build key value r ∧
        PutDone (fromUtf8Lossy key) key value generation pattern new r r' := by
  have size := (image r.dev).size_lt
  rw [crowded_iff build passes]
  by_cases keyFits : key.length + 36 ≤ (image r.dev).blockSize
  · have cast : asU32 key.length = key.length := Codec.asU32_of_lt (by omega)
    rw [rust_replicaPut_storeAs build keyFits, cast]
    rcases storeAs_reliable generation userFlags pattern sound.indexed keyFits with
      full | ⟨room, r', new, ran, done⟩
    · exact .inl full
    · exact .inr (.inr ⟨r', new, ran, Nat.not_lt.mpr room, done⟩)
  · have overlong := overlong_of_cut sound.large (by omega) keyFits
    rw [rust_replicaPut_cut build passes overlong]
    by_cases full : (freeBlocks (image r.dev)).length <
        blocksFor (image r.dev).blockSize (asU32 key.length) (asU32 value.length)
    · rw [if_pos full]
      exact .inl ⟨rfl, full⟩
    · rw [if_neg full]
      exact .inr (.inl rfl)

/-- The replicas of a store, each sound, all of one block size. -/
structure Ranked (matching : Bytes → IndexEntry → CompleteRecord → Prop) (blockSize : Nat)
    (s : Store D) : Prop where
  large : 36 ≤ blockSize
  nonempty : s.replicas ≠ []
  size : ∀ r ∈ s.replicas, (image r.dev).blockSize = blockSize
  sound : ∀ r ∈ s.replicas, Sound matching r

theorem ranked_mounted {build : Rust.Build} {devs : List D} {opts : Options} {s : Store D}
    (large : ∀ dev ∈ devs, 36 ≤ (image dev).blockSize)
    (opened : mount build devs opts = .ok s) :
    ∃ blockSize, Ranked Listed blockSize s ∧ ∀ r ∈ s.replicas, Scanned r := by
  obtain ⟨blockSize, blockCount, accepted, largeHere, rfl⟩ := mount_inv large opened
  refine ⟨blockSize, ⟨largeHere, ?_, ?_, ?_⟩, ?_⟩
  · intro empty
    exact accepted.nonempty (List.map_eq_nil_iff.mp empty)
  · intro r member
    obtain ⟨dev, stands, rfl⟩ := List.mem_map.mp member
    exact (accepted.mountable dev stands).2.1
  · intro r member
    obtain ⟨dev, stands, rfl⟩ := List.mem_map.mp member
    have scanned : Scanned (scannedReplica dev) := rfl
    exact scanned.sound (large dev stands) (accepted.mountable dev stands).1
  · intro r member
    obtain ⟨dev, _, rfl⟩ := List.mem_map.mp member
    rfl

section
variable {build : Rust.Build} {s s' : Store D} {blockSize : Nat} {key value : Bytes}
  {userFlags : UInt32}

/-- A put that got past the key check and the counter took its turn on the
replicas in order. -/
theorem put_turns (ranked : Ranked matching blockSize s) {result : Except Failure Unit}
    (ran : Rust.putFlagged build key value userFlags s = (result, s')) :
    (result = .error (.err .keyTooLong) ∧ s' = s) ∨ (result = .error .panic ∧ s' = s) ∨
      asU32 key.length + 36 ≤ blockSize ∧ ∃ generation replicas,
        Rust.u32Add build (Rust.indexedGeneration (fromUtf8Lossy key) s.replicas) 1 =
          .ok generation ∧
        Proc.each (fun _ => Rust.replicaPut build key value generation userFlags
          s.opts.freePattern) () s.replicas = (result, replicas) ∧
        s' = { s with replicas := replicas } := by
  rw [putFlagged_eq build ranked.nonempty ranked.size ranked.large] at ran
  have large := ranked.large
  by_cases overlong : blockSize - 36 < asU32 key.length
  · rw [if_pos overlong] at ran
    obtain ⟨rfl, rfl⟩ := Prod.mk.inj ran
    exact .inl ⟨rfl, rfl⟩
  rw [if_neg overlong] at ran
  rcases counted : Rust.u32Add build (Rust.indexedGeneration (fromUtf8Lossy key) s.replicas) 1
    with failure | generation
  · rw [counted] at ran
    obtain ⟨rfl, rfl⟩ := Prod.mk.inj ran
    rw [rust_u32Add_error counted]
    exact .inr (.inl ⟨rfl, rfl⟩)
  · rw [counted] at ran
    obtain ⟨rfl, rfl⟩ := Prod.mk.inj ran
    exact .inr (.inr ⟨by omega, generation, _, rfl, Prod.ext rfl rfl, rfl⟩)

/-- The replicas a put was done on have room and have taken it. -/
theorem each_took {generation : Nat} {members members' : List (Replica D)} {pattern : UInt8}
    (sound : ∀ r ∈ members, Sound matching r)
    (passes : ∀ r ∈ members, asU32 key.length + 36 ≤ (image r.dev).blockSize)
    (ran : Proc.each (fun _ => Rust.replicaPut build key value generation userFlags pattern) ()
      members = (.ok (), members')) :
    List.Forall₂ (fun r r' => r ∈ members ∧ ¬Crowded build key value r ∧ ∃ new,
      PutDone (fromUtf8Lossy key) key value generation pattern new r r') members members' := by
  refine Proc.each_forall₂ ?_ ran
  intro _ r member _ r' turn
  rcases replicaPut_turn build (sound r member) (passes r member) value generation userFlags
    pattern with ⟨full, _⟩ | panicked | ⟨r'', new, done, room, put⟩
  · rw [full] at turn
    cases turn
  · rw [panicked] at turn
    cases turn
  · rw [done] at turn
    cases turn
    exact ⟨member, room, new, put⟩

/-! ## A put that fails -/

/-- A put that fails with an error changed nothing or stopped at the first
replica without room, after the replicas before it had taken it. -/
theorem failed_put_divides {devs : List D} {opts : Options}
    (large : ∀ dev ∈ devs, 36 ≤ (image dev).blockSize)
    (opened : mount build devs opts = .ok s) {error : Error}
    (failed : Rust.putFlagged build key value userFlags s = (.error (.err error), s')) :
    (error = .keyTooLong ∧ Unchanged s s') ∨
      error = .storageFull ∧ ∃ before before' r after, s.replicas = before ++ r :: after ∧
        s'.replicas = before' ++ r :: after ∧ Crowded build key value r ∧
        (∀ q ∈ before, ¬Crowded build key value q) ∧
        List.Forall₂ (Took key value s.opts.freePattern) before before' ∧
        (Unchanged s s' ↔ before = []) := by
  obtain ⟨blockSize, ranked, _⟩ := ranked_mounted large opened
  rcases put_turns ranked failed with ⟨same, rfl⟩ | ⟨unwound, _⟩ | ⟨passes, generation, replicas,
    _, ran, rfl⟩
  · cases same
    exact .inl ⟨rfl, rfl⟩
  · cases unwound
  obtain ⟨before, before', r, r', after, _, split, rfl, earlier, stopped⟩ := Proc.each_error ran
  have member : r ∈ s.replicas := by
    rw [split]
    exact List.mem_append_right _ List.mem_cons_self
  have among : ∀ q ∈ before, q ∈ s.replicas := fun q earlier => by
    rw [split]
    exact List.mem_append_left _ earlier
  have passesAt : ∀ q ∈ s.replicas, asU32 key.length + 36 ≤ (image q.dev).blockSize := by
    intro q stands
    rw [ranked.size q stands]
    exact passes
  have took := each_took (fun q stands => ranked.sound q (among q stands))
    (fun q stands => passesAt q (among q stands)) earlier
  rcases replicaPut_turn build (ranked.sound r member) (passesAt r member) value generation
    userFlags s.opts.freePattern with ⟨full, crowded⟩ | panicked | ⟨_, _, done, _⟩
  · rw [full] at stopped
    cases stopped
    refine .inr ⟨rfl, before, before', r, after, split, rfl, crowded, ?_, ?_, ?_⟩
    · intro q stands
      obtain ⟨q', _, _, room, _⟩ := exists_of_forall₂ took.flip stands
      exact room
    · exact took.imp fun q q' here => ⟨generation, here.2.2⟩
    · rw [Unchanged, split]
      cases took with
      | nil => exact ⟨fun _ => rfl, fun _ => rfl⟩
      | cons head tail =>
          constructor
          · intro same
            obtain ⟨_, _, new, done⟩ := head
            have first := congrArg List.head? same
            exact absurd (congrArg Prod.fst (Option.some.inj first)) (took_blocks_ne done)
          · intro empty
            cases empty
  · rw [panicked] at stopped
    cases stopped
  · rw [done] at stopped
    cases stopped

end

end

theorem failed_put_divides_uneven :
    ∃ s s', mount .dev DeleteLaws.unevenDevices .default = .ok s ∧
      Rust.putFlagged .dev [0x42] [7] 0 s = (.error (.err .storageFull), s') ∧
      ((Error.storageFull = .keyTooLong ∧ Unchanged s s') ∨
        Error.storageFull = .storageFull ∧ ∃ before before' r after,
          s.replicas = before ++ r :: after ∧ s'.replicas = before' ++ r :: after ∧
          Crowded .dev [0x42] [7] r ∧ (∀ q ∈ before, ¬Crowded .dev [0x42] [7] q) ∧
          List.Forall₂ (Took [0x42] [7] s.opts.freePattern) before before' ∧
          (Unchanged s s' ↔ before = [])) := by
  have checked : (mount .dev DeleteLaws.unevenDevices .default).toOption.any (fun s =>
      (Rust.putFlagged .dev [0x42] [7] 0 s).1 = .error (.err .storageFull)) = true := by
    decide +kernel
  obtain ⟨s, opened, holds⟩ := ok_of_any checked
  have failed : Rust.putFlagged .dev [0x42] [7] 0 s = (.error (.err .storageFull), _) :=
    Prod.ext (decide_eq_true_eq.mp holds) rfl
  exact ⟨s, _, opened, failed, failed_put_divides (by decide +kernel) opened failed⟩

/-- The put fails for want of room on the second replica and the first has changed. -/
theorem failed_put_changes_first :
    ∃ s s', (∀ dev ∈ DeleteLaws.unevenDevices, 36 ≤ dev.blockSize) ∧
      mount .dev DeleteLaws.unevenDevices .default = .ok s ∧
      Rust.putFlagged .dev [0x42] [7] 0 s = (.error (.err .storageFull), s') ∧
      ¬Unchanged s s' := by
  have checked : (mount .dev DeleteLaws.unevenDevices .default).toOption.any (fun s =>
      (Rust.putFlagged .dev [0x42] [7] 0 s).1 = .error (.err .storageFull) ∧
        ¬Unchanged s (Rust.putFlagged .dev [0x42] [7] 0 s).2) = true := by
    decide +kernel
  obtain ⟨s, found, holds⟩ := ok_of_any checked
  obtain ⟨failed, changed⟩ := decide_eq_true_eq.mp holds
  exact ⟨s, _, by decide +kernel, found, Prod.ext failed rfl, changed⟩

/-! ## A put that succeeds -/

section
variable {D : Type} [BlockDevice D]

/-- Open one device alone, with or without a recovery before the index is built. -/
def alone (build : Rust.Build) (opts : Options) (recovers : Bool) (dev : D) :
    Except Failure (Store D) :=
  if recovers then mountRecovered build [dev] opts else mount build [dev] opts

def readAlone (build : Rust.Build) (opts : Options) (recovers : Bool) (dev : D) (key : Bytes) :
    Except Failure Bytes := do
  let s ← alone build opts recovers dev
  (Rust.get build key s).1

/-- The generation at which a device opened alone holds a key. -/
def generationAlone (build : Rust.Build) (opts : Options) (recovers : Bool) (dev : D)
    (key : Bytes) : Except Failure Nat := do
  let s ← alone build opts recovers dev
  return Rust.indexedGeneration (fromUtf8Lossy key) s.replicas

end

section
variable {D : Type} [BlockDevice D] [ReliableBlockDevice D] {dev : D}

/-- A device alone is one scanned replica, whose selection is that of the image. -/
theorem alone_scanned (build : Rust.Build) (opts : Options) (recovers : Bool)
    (large : 36 ≤ (image dev).blockSize) (mountable : Mount.Mountable (image dev)) :
    ∃ r, alone build opts recovers dev = .ok (single r opts) ∧ Scanned r ∧
      36 ≤ (image r.dev).blockSize ∧
      Scan.bestOf fromUtf8Lossy (image r.dev) = Scan.bestOf fromUtf8Lossy (image dev) := by
  cases recovers with
  | false => exact ⟨_, mount_single build large mountable opts, rfl, large, rfl⟩
  | true =>
      have now := image_remounted build opts.freePattern large
      refine ⟨_, mountRecovered_single build large mountable opts,
        remounted_scanned build opts.freePattern dev, ?_, ?_⟩
      · rw [now, (recovered_keeps ..).size]
        exact large
      · rw [now, bestOf_recovered fromUtf8Lossy large]

theorem readAlone_eq (build : Rust.Build) (opts : Options) (recovers : Bool)
    (large : 36 ≤ (image dev).blockSize) (mountable : Mount.Mountable (image dev))
    (key : Bytes) :
    readAlone build opts recovers dev key =
      match (Scan.bestOf fromUtf8Lossy (image dev)).lookup (fromUtf8Lossy key) with
      | some rec => .ok rec.value
      | none => .error (.err .keyNotFound) := by
  obtain ⟨r, opened, scanned, size, best⟩ := alone_scanned build opts recovers large mountable
  have read := get_scanned scanned size build key opts
  rw [best] at read
  rw [readAlone, opened]
  exact congrArg Prod.fst read

theorem generationAlone_eq (build : Rust.Build) (opts : Options) (recovers : Bool)
    (large : 36 ≤ (image dev).blockSize) (mountable : Mount.Mountable (image dev))
    {key : Bytes} {rec : CompleteRecord}
    (best : (Scan.bestOf fromUtf8Lossy (image dev)).lookup (fromUtf8Lossy key) = some rec) :
    generationAlone build opts recovers dev key = .ok rec.generation := by
  obtain ⟨r, opened, scanned, _, same⟩ := alone_scanned build opts recovers large mountable
  have held : r.index.get (fromUtf8Lossy key) = some (Scan.entryOf fromUtf8Lossy rec) := by
    rw [scanned, MemIndex.get, Scan.lookup_indexOf]
    rw [← same] at best
    exact ⟨rec, Scan.lookup_bestOf.mp best, rfl⟩
  rw [generationAlone, opened]
  change Except.ok (Rust.indexedGeneration (fromUtf8Lossy key) [r]) = _
  rw [indexedGeneration_single, generationOf_held held]
  rfl

/-- What a put leaves on a replica opened alone: the value at the generation, and
of the other keys only those changed that decode to the key. -/
structure Realigned (build : Rust.Build) (opts : Options) (key value : Bytes) (generation : Nat)
    (r r' : Replica D) (recovers : Bool) : Prop where
  reads : readAlone build opts recovers r'.dev key = .ok value
  holds : generationAlone build opts recovers r'.dev key = .ok generation
  others : ∀ other, other ≠ key →
    (readAlone build opts recovers r'.dev other = readAlone build opts recovers r.dev other ↔
      fromUtf8Lossy other ≠ key ∨ readAlone build opts recovers r.dev other = .ok value)

/-- A put above all records of its key makes its record the selected one, and
leaves the selection of the other strings. -/
theorem selection_put {r r' : Replica D} (sound : Sound Listed r) {key value : Bytes}
    {generation : Nat} {pattern : UInt8} {new : CompleteRecord} (allowed : KeyAllowed key)
    (done : PutDone (fromUtf8Lossy key) key value generation pattern new r r')
    (above : ∀ d rec, recordAt (image r.dev) d = some rec → fromUtf8Lossy rec.key = key →
      rec.generation < new.generation) :
    (Scan.bestOf fromUtf8Lossy (image r'.dev)).lookup key = some new ∧
      ∀ s, s ≠ key → (Scan.bestOf fromUtf8Lossy (image r'.dev)).lookup s =
        (Scan.bestOf fromUtf8Lossy (image r.dev)).lookup s := by
  have keyed : new.key = key := (done.added.contents allowed.2).1
  have named : fromUtf8Lossy new.key = key := by rw [keyed, allowed.lossy]
  have fresh := done.added.fresh
  have records := done.records
  rw [allowed.lossy] at records
  have mountable' := sound.mountable.congr done.blocks.keeps.size done.blocks.keeps.count
    done.blocks.keeps.header
  have owns := owns_of_listed sound.index key
  constructor
  · rw [Scan.lookup_bestOf, selected_iff_leads (recordAt_zero mountable'), records]
    apply (leads_replaced_new owns fresh named).mpr
    intro d rec present mine _
    exact .inl (above d rec present mine)
  · intro s other
    apply Option.ext
    intro rec
    rw [Scan.lookup_bestOf, Scan.lookup_bestOf,
      selected_iff_leads (recordAt_zero mountable'),
      selected_iff_leads (recordAt_zero sound.mountable), records]
    exact leads_replaced_other owns fresh named other

theorem realigned_put {build : Rust.Build} {opts : Options} {r r' : Replica D}
    (sound : Sound Listed r) {key value : Bytes} {generation : Nat} {pattern : UInt8}
    {new : CompleteRecord} (allowed : KeyAllowed key)
    (small : value.length + (image r.dev).blockSize < 2 ^ 32)
    (bounded : generation < 2 ^ 32)
    (done : PutDone (fromUtf8Lossy key) key value generation pattern new r r')
    (above : ∀ d rec, recordAt (image r.dev) d = some rec → fromUtf8Lossy rec.key = key →
      rec.generation < generation) (recovers : Bool) :
    Realigned build opts key value generation r r' recovers := by
  have counted : new.generation = generation := by
    rw [done.added.generation_eq, Nat.mod_eq_of_lt bounded]
  have valued : new.value = value := (added_contents allowed small done.added).2
  have large' : 36 ≤ (image r'.dev).blockSize := by
    rw [done.blocks.keeps.size]
    exact sound.large
  have mountable' := sound.mountable.congr done.blocks.keeps.size done.blocks.keeps.count
    done.blocks.keeps.header
  obtain ⟨mine, others⟩ := selection_put sound allowed done (by rw [counted]; exact above)
  have reads (other : Bytes) (same : fromUtf8Lossy other = key) :
      readAlone build opts recovers r'.dev other = .ok value := by
    rw [readAlone_eq build opts recovers large' mountable', same, mine, ← valued]
  refine ⟨reads key allowed.lossy, ?_, ?_⟩
  · rw [← counted]
    apply generationAlone_eq build opts recovers large' mountable'
    rw [allowed.lossy]
    exact mine
  · intro other _
    by_cases same : fromUtf8Lossy other = key
    · rw [reads other same]
      constructor
      · intro unchanged
        exact .inr unchanged.symm
      · rintro (different | unchanged)
        · exact absurd same different
        · exact unchanged.symm
    · have kept : readAlone build opts recovers r'.dev other =
          readAlone build opts recovers r.dev other := by
        rw [readAlone_eq build opts recovers large' mountable',
          readAlone_eq build opts recovers sound.large sound.mountable, others _ same]
      exact ⟨fun _ => .inl same, fun _ => kept⟩

/-- A put that succeeds leaves every replica, opened alone with or without a
recovery, with the value at one generation common to all. Another key reads as
before exactly when it does not decode to the key put, or read as the value
already. -/
theorem put_realigns {build : Rust.Build} {devs : List D} {opts : Options} {s s' : Store D}
    (large : ∀ dev ∈ devs, 36 ≤ (image dev).blockSize)
    (utf8 : ∀ dev ∈ devs, Utf8Keys (image dev))
    (opened : mount build devs opts = .ok s) {key value : Bytes} {userFlags : UInt32}
    (allowed : KeyAllowed key)
    (small : ∀ dev ∈ devs, value.length + (image dev).blockSize < 2 ^ 32)
    (last : ∀ dev ∈ devs, ∀ rec ∈ Scan.records (image dev), rec.key = key →
      rec.generation ≠ 2 ^ 32 - 1)
    (finished : Rust.putFlagged build key value userFlags s = (.ok (), s')) :
    ∃ generation, List.Forall₂ (fun r r' => ∀ recovers,
      Realigned build opts key value generation r r' recovers) s.replicas s'.replicas := by
  obtain ⟨blockSize, ranked, _⟩ := ranked_mounted large opened
  obtain ⟨_, _, accepted, _, rfl⟩ := mount_inv large opened
  have decoded : ∀ dev ∈ devs, ∀ rec ∈ Scan.records (image dev),
      fromUtf8Lossy rec.key = fromUtf8Lossy key → rec.key = key := by
    intro dev stands rec stored same
    rw [allowed.lossy, fromUtf8Lossy_of_isUtf8 _ (utf8 dev stands rec stored)] at same
    exact same
  have covered : ∀ r ∈ devs.map scannedReplica, GenerationLaws.Covered fromUtf8Lossy r := by
    intro r member
    obtain ⟨dev, stands, rfl⟩ := List.mem_map.mp member
    exact GenerationLaws.covered_scanned fromUtf8Lossy (large dev stands)
      (accepted.mountable dev stands).1
  have unspent : ∀ r ∈ devs.map scannedReplica, ∀ rec ∈ Scan.records (image r.dev),
      fromUtf8Lossy rec.key = fromUtf8Lossy key → rec.generation ≠ 2 ^ 32 - 1 := by
    intro r member rec stored same
    obtain ⟨dev, stands, rfl⟩ := List.mem_map.mp member
    exact last dev stands rec stored (decoded dev stands rec stored same)
  have next := GenerationLaws.indexedGeneration_lt covered unspent
  rcases put_turns ranked finished with ⟨refused, _⟩ | ⟨unwound, _⟩ | ⟨passes, generation,
    replicas, counted, ran, rfl⟩
  · cases refused
  · cases unwound
  rw [rust_u32Add_ok next] at counted
  cases counted
  have took := each_took ranked.sound (fun r member => by
    rw [ranked.size r member]
    exact passes) ran
  refine ⟨Rust.indexedGeneration (fromUtf8Lossy key) (devs.map scannedReplica) + 1, ?_⟩
  apply took.imp
  rintro r r' ⟨member, _, new, done⟩
  have fits : value.length + (image r.dev).blockSize < 2 ^ 32 := by
    obtain ⟨dev, stands, rfl⟩ := List.mem_map.mp member
    exact small dev stands
  refine realigned_put (ranked.sound r member) allowed fits next done ?_
  intro d rec present same
  have held := (covered r member).le present
  rw [same, ← allowed.lossy] at held
  exact Nat.lt_succ_of_le (held.trans (generationOf_le member _))

end

/-- The first replica has never seen the key that the second holds. -/
def partedDevices : List MemDevice :=
  [(Rust.format .dev .default [smallDevice]).2.headD smallDevice, DeleteLaws.storedDevice false]

theorem put_realigns_parted :
    ∃ s s', mount .dev partedDevices .default = .ok s ∧
      Rust.putFlagged .dev [0x41] [7] 0 s = (.ok (), s') ∧
      ∃ generation, List.Forall₂ (fun r r' => ∀ recovers,
        Realigned .dev .default [0x41] [7] generation r r' recovers)
          s.replicas s'.replicas := by
  have checked : (mount .dev partedDevices .default).toOption.any (fun s =>
      (Rust.putFlagged .dev [0x41] [7] 0 s).1 = .ok ()) = true := by
    decide +kernel
  obtain ⟨s, opened, holds⟩ := ok_of_any checked
  have finished : Rust.putFlagged .dev [0x41] [7] 0 s = (.ok (), _) :=
    Prod.ext (decide_eq_true_eq.mp holds) rfl
  exact ⟨s, _, opened, finished, put_realigns (by decide +kernel) (by decide +kernel) opened
    (by decide +kernel) (by decide +kernel) (by decide +kernel) finished⟩

/-- A put of the replacement character is read back, on every replica, under a
byte that is not UTF-8 and that no replica knew before. -/
theorem put_moves_undecoded :
    ∃ s s', mount .dev partedDevices .default = .ok s ∧
      Rust.putFlagged .dev [0xEF, 0xBF, 0xBD] [7] 0 s = (.ok (), s') ∧
      (∀ dev ∈ partedDevices, 36 ≤ dev.blockSize ∧ Utf8Keys dev ∧
        ∀ rec ∈ Scan.records dev, rec.key ≠ [0xEF, 0xBF, 0xBD]) ∧
      KeyAllowed [0xEF, 0xBF, 0xBD] ∧
      (s.replicas.map fun r => readAlone .dev .default false r.dev [0xFF]) =
        [.error (.err .keyNotFound), .error (.err .keyNotFound)] ∧
      (s'.replicas.map fun r => readAlone .dev .default false r.dev [0xFF]) =
        [.ok [7], .ok [7]] := by
  have checked : (mount .dev partedDevices .default).toOption.any (fun s =>
      decide ((Rust.putFlagged .dev [0xEF, 0xBF, 0xBD] [7] 0 s).1 = .ok ()) &&
      decide ((s.replicas.map fun r => readAlone .dev .default false r.dev [0xFF]) =
        [.error (.err .keyNotFound), .error (.err .keyNotFound)]) &&
      decide (((Rust.putFlagged .dev [0xEF, 0xBF, 0xBD] [7] 0 s).2.replicas.map fun r =>
        readAlone .dev .default false r.dev [0xFF]) = [.ok [7], .ok [7]])) = true := by
    decide +kernel
  obtain ⟨s, found, holds⟩ := ok_of_any checked
  simp only [Bool.and_eq_true, decide_eq_true_eq] at holds
  obtain ⟨⟨finished, before⟩, moved⟩ := holds
  exact ⟨s, _, found, Prod.ext finished rfl, by decide +kernel,
    by decide +kernel, before, moved⟩

end Embedkv.DivergentLaws
