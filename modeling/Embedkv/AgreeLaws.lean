import Embedkv.Lib.Runs
import Embedkv.ChainWalk
import Embedkv.Stores
import Embedkv.DeleteLaws

/-!
# The two implementations in step

A Go store and a Rust store that open the same devices and serve the same calls
return the same answers, list the same keys and leave the same bytes, call by
call. The functions agree as long as the keys on the devices and in the calls
are UTF-8 and no generation wraps; what a run has to keep is that the devices
hold no other keys and that the index names blocks of the device. It need not
keep the index sound: after a recovery it may name blocks that were erased or
written anew, and then both stores do the same to them.
-/

namespace Embedkv.AgreeLaws

open Embedkv.Lib Embedkv.Format Embedkv.Device Embedkv.State Embedkv.Image Embedkv.Record
open Embedkv.Erase Embedkv.Layout Embedkv.Effects Embedkv.Plan Embedkv.Outcome Embedkv.Session
open Embedkv.Run Embedkv.Agree Embedkv.Stores Embedkv.ChainWalk

set_option autoImplicit false

section
variable {D : Type} [BlockDevice D] [LawfulBlockDevice D] {before : MemDevice} {dev : D}
  {free : Bytes}

/-- The device is as before but for some blocks, whichever they are, made inert. -/
def Worn (before : MemDevice) (dev : D) : Prop := Damage (fun _ => True) before (image dev)

theorem writeBlock_worn (worn : Worn before dev) (inert : Inert free)
    (sized : free.length = before.blockSize) (c : Nat) :
    Worn before (BlockDevice.writeBlock c free dev).2 := by
  by_cases inside : c < (image dev).blockCount
  · rw [← Damage.size worn] at sized
    rcases ran : BlockDevice.writeBlock c free dev with ⟨result, dev'⟩
    cases result with
    | ok _ =>
        change Worn before dev'
        rw [Worn, LawfulBlockDevice.writeBlock_ok dev dev' c free inside sized ran]
        exact Damage.set worn trivial inert
    | error failure =>
        change Worn before dev'
        rcases (LawfulBlockDevice.writeBlock_error dev dev' c free failure inside sized ran).2 with
          same | written
        · rw [Worn, same]
          exact worn
        · rw [Worn, written]
          exact Damage.set worn trivial inert
  · rw [LawfulBlockDevice.writeBlock_outside dev c free (Nat.le_of_not_lt inside)]
    exact worn

theorem readBlock_worn (worn : Worn before dev) (c : Nat) :
    Worn before (BlockDevice.readBlock c dev).2 := by
  rw [readBlock_still]
  exact worn

/-- Whatever chain the erasing loop follows, it only erases. -/
theorem freeChain_worn (inert : Inert free) (sized : free.length = before.blockSize)
    {blockCount next : Nat} {visited : Finset Nat} (worn : Worn before dev) :
    Worn before (Rust.freeChain blockCount free next visited dev).2 := by
  refine (freeChain_solves blockCount free).keeps (freeTurn_visits blockCount free).lowers
    (Worn before) ?_ ⟨next, visited⟩ worn
  intro s dev worn
  apply guarded_keeps worn
  apply Proc.bind_keeps (readBlock_worn worn s.next)
  intro cbuf dev1 worn1
  apply Proc.bind_keeps worn1
  rintro ⟨ch, ok⟩ dev2 worn2
  cases ok with
  | false => exact worn2
  | true =>
      apply Proc.bind_keeps (writeBlock_worn worn2 inert sized s.next)
      intro _ dev3 worn3
      exact worn3

theorem freeRecord_worn (large : 36 ≤ (image dev).blockSize) (d : Nat) (pattern : UInt8) :
    Worn (image dev) (Rust.freeRecord d pattern dev).2 := by
  have start : Worn (image dev) dev := Damage.refl _ _
  have inert : Inert (makeFreeBuf (image dev).blockSize pattern) :=
    inert_makeFreeBuf (by omega) pattern
  have sized : (makeFreeBuf (image dev).blockSize pattern).length = (image dev).blockSize :=
    List.length_replicate
  rw [Rust.freeRecord, Proc.bind_ok (blockSizeOf_eq dev), Proc.bind_ok (blockCountOf_eq dev)]
  apply Proc.bind_keeps (readBlock_worn start d)
  intro buf dev1 worn1
  apply Proc.bind_keeps worn1
  rintro ⟨hdr, ok⟩ dev2 worn2
  cases ok with
  | false => exact worn2
  | true =>
      apply Proc.bind_keeps (writeBlock_worn worn2 inert sized d)
      intro _ dev3 worn3
      exact freeChain_worn inert sized worn3

/-! ## What a run keeps on each replica -/

/-- The replica holds UTF-8 keys only, and its index names blocks of the device. -/
structure Plain (blockSize : Nat) (r : Replica D) : Prop where
  size : (image r.dev).blockSize = blockSize
  utf8 : Utf8Keys (image r.dev)
  pointed : Pointed r

variable {blockSize : Nat} {r r' : Replica D}

/-- Erasing blocks and forgetting entries leaves a replica plain. -/
theorem Plain.damaged (plain : Plain blockSize r) {area : Nat → Prop}
    (damage : Damage area (image r.dev) (image r'.dev))
    (among : ∀ name e, r'.index.lookup name = some e → r.index.lookup name = some e) :
    Plain blockSize r' where
  size := by rw [damage.size, plain.size]
  utf8 rec stored := plain.utf8 rec (Recovery.damage_records damage stored)
  pointed :=
    { keyed := fun name e found => plain.pointed.keyed name e (among name e found)
      inside := by
        intro name e found
        rw [damage.count]
        exact plain.pointed.inside name e (among name e found) }

theorem Plain.flushed (plain : Plain blockSize r) :
    Plain blockSize (Replica.onDevice BlockDevice.flush r).2 := by
  have same : image (BlockDevice.flush r.dev).2 = image r.dev :=
    LawfulBlockDevice.flush_image r.dev
  have worn : Worn (image r.dev) (BlockDevice.flush r.dev).2 := by
    rw [Worn, same]
    exact Damage.refl _ _
  exact plain.damaged worn fun name e found => found

theorem Plain.released (large : 36 ≤ blockSize) (plain : Plain blockSize r) (d : Nat)
    (pattern : UInt8) :
    Plain blockSize (Replica.onDevice (Rust.freeRecord d pattern) r).2 := by
  have worn : Worn (image r.dev) (Rust.freeRecord d pattern r.dev).2 :=
    freeRecord_worn (by rw [plain.size]; exact large) d pattern
  exact plain.damaged worn fun name e found => found

theorem Plain.deleted (large : 36 ≤ blockSize) (plain : Plain blockSize r) (name : Bytes)
    (pattern : UInt8) (found : Bool) :
    Plain blockSize (Rust.deleteReplica name pattern found r).2 := by
  rw [Rust.deleteReplica, Proc.get_bind_apply]
  cases r.index.get name with
  | none => exact plain
  | some e =>
      apply Proc.bind_keeps (plain.released large e.descriptorBlock pattern)
      intro _ r1 plain1
      apply Proc.bind_keeps plain1.flushed
      intro _ r2 plain2
      have fewer : ∀ other e', (r2.index.delete name).lookup other = some e' →
          r2.index.lookup other = some e' := by
        intro other e' kept
        by_cases same : other = name
        · rw [same, lookup_delete_self] at kept
          cases kept
        · rwa [lookup_delete_other same] at kept
      exact plain2.damaged (Damage.refl (fun _ => True) _) fewer

theorem Plain.scanned (plain : Plain blockSize r) :
    Plain blockSize { r with index := Scan.indexOf fromUtf8Lossy (image r.dev) } where
  size := plain.size
  utf8 := plain.utf8
  pointed :=
    { keyed := by
        intro name e found
        obtain ⟨rec, selected, rfl⟩ := Scan.lookup_indexOf.mp found
        exact selected.named
      inside := by
        intro name e found
        obtain ⟨rec, selected, rfl⟩ := Scan.lookup_indexOf.mp found
        exact selected.record.inside }

/-- A record of an allowed key, written to free blocks and entered. -/
theorem Plain.written (plain : Plain blockSize r) {key value : Bytes} {d generation : Nat}
    {chunks : List Nat} {userFlags : UInt32} {new : CompleteRecord} (allowed : KeyAllowed key)
    (fits : Fits (image r.dev) d chunks key value)
    (among : ∀ c ∈ d :: chunks, c ∈ freeBlocks (image r.dev)) (place : new.descriptorBlock = d)
    (added : Added (image r.dev) key value generation new)
    (record : RecordAt ((image r.dev).apply (recordWrites (image r.dev).blockSize d chunks key
      generation value userFlags)) d new)
    (now : image r'.dev = (image r.dev).apply (recordWrites (image r.dev).blockSize d chunks key
      generation value userFlags))
    (index : r'.index = r.index.put (entryAs key generation d value)) : Plain blockSize r' where
  size := by rw [now, MemDevice.blockSize_apply, plain.size]
  utf8 := by
    intro rec stored
    have inert : ∀ c ∈ d :: chunks, Inert ((image r.dev).block c) := fun c member =>
      inert_of_free (mem_freeBlocks.mp (among c member)).2
    have present := present_of_records stored
    rw [now, Transition.recordAt_written fits inert record, ← place] at present
    rcases update_eq_some present with old | ⟨_, rfl⟩
    · apply plain.utf8
      rw [Scan.mem_records] at stored ⊢
      exact ⟨stored.1, recordAt_eq_some.mp old⟩
    · rw [(added.contents allowed.2).1]
      exact allowed.1
  pointed :=
    { keyed := by
        intro name e found
        rw [index] at found
        rcases lookup_put_cases found with ⟨rfl, rfl⟩ | ⟨_, old⟩
        · rfl
        · exact plain.pointed.keyed name e old
      inside := by
        intro name e found
        rw [index] at found
        rw [now, MemDevice.blockCount_apply]
        rcases lookup_put_cases found with ⟨_, rfl⟩ | ⟨_, old⟩
        · exact fits.inside d List.mem_cons_self
        · exact plain.pointed.inside name e old }

end

section
variable {D : Type} [BlockDevice D] [ReliableBlockDevice D] {blockSize : Nat}

/-- A put leaves a replica plain, also one that fails on its way to free a block
the index names wrongly. -/
theorem Plain.stored {r : Replica D} (large : 36 ≤ blockSize) (plain : Plain blockSize r)
    {key : Bytes} (allowed : KeyAllowed key) (keyFits : key.length + 36 ≤ blockSize)
    (value : Bytes) (generation : Nat) (userFlags : UInt32) (pattern : UInt8) :
    Plain blockSize (storeAs key key value generation userFlags pattern r).2 := by
  have largeHere : 36 ≤ (image r.dev).blockSize := by rw [plain.size]; exact large
  have fitsHere : key.length + 36 ≤ (image r.dev).blockSize := by rw [plain.size]; exact keyFits
  by_cases room : blocksFor (image r.dev).blockSize key.length (asU32 value.length) ≤
      (freeBlocks (image r.dev)).length
  · obtain ⟨d, chunks, new, taken, fits, among, place, added, record⟩ :=
      put_allocates fitsHere room generation userFlags
    obtain ⟨dev1, wrote, image1⟩ := writeAll_reliable (recordWrites (image r.dev).blockSize d
      chunks key generation value userFlags) r.dev fun write member =>
        recordWrites_valid fits.placed member
    have flushed : BlockDevice.flush dev1 = (.ok (), (BlockDevice.flush dev1).2) :=
      Prod.ext (ReliableBlockDevice.flush_total dev1) rfl
    have wrote' : Replica.onDevice (writeAll (recordWrites (image r.dev).blockSize d chunks key
        generation value userFlags)) r = (.ok (), { r with dev := dev1 }) := onDevice_ok wrote
    have flushed' : Replica.onDevice BlockDevice.flush { r with dev := dev1 } =
        (.ok (), { r with dev := (BlockDevice.flush dev1).2 }) := onDevice_ok flushed
    have image2 : image (BlockDevice.flush dev1).2 = _ :=
      (LawfulBlockDevice.flush_image dev1).trans image1
    rw [storeAs, Proc.get_bind_apply, LawfulBlockDevice.blockSize_eq,
      Proc.bind_ok (findFree_ok largeHere room), taken]
    simp only []
    rw [Proc.bind_ok wrote', Proc.bind_ok flushed', Replica.putIndex, Proc.modify_bind_apply]
    have entered : Plain blockSize { r with
        dev := (BlockDevice.flush dev1).2
        index := r.index.put (entryAs key generation d value) } :=
      plain.written allowed fits among place added record image2 rfl
    cases r.index.get key with
    | none => exact entered
    | some old =>
        apply Proc.bind_keeps (entered.released large old.descriptorBlock pattern)
        intro _ next still
        exact still.flushed
  · rw [storeAs_full largeHere (by omega)]
    exact plain

/-! ## Calls -/

/-- A call on an open store. -/
inductive Call where
  | serve (op : Op)
  | recover
  | buildIndex
  deriving DecidableEq, Repr

def Call.Allowed (blockSize : Nat) : Call → Prop
  | .serve op => op.Allowed blockSize
  | .recover => True
  | .buildIndex => True

instance (blockSize : Nat) : (call : Call) → Decidable (call.Allowed blockSize)
  | .serve op => inferInstanceAs (Decidable (op.Allowed blockSize))
  | .recover => isTrue trivial
  | .buildIndex => isTrue trivial

/-- A call on one of the stores; only a get returns bytes. -/
def Call.run (impl : Impl) : Call → Proc Failure (Store D) (Option Bytes)
  | .serve (.put key value userFlags) => do
    impl.put key value userFlags
    return none
  | .serve (.delete key) => do
    impl.delete key
    return none
  | .serve (.get key) => do
    return some (← impl.get key)
  | .recover => do
    impl.recover
    return none
  | .buildIndex => do
    impl.buildIndex
    return none

/-- A put finds a generation it can count on from. -/
def Counts : Call → Store D → Prop
  | .serve (.put key _ _), s => Rust.indexedGeneration (fromUtf8Lossy key) s.replicas < 2 ^ 32 - 1
  | _, _ => True

instance : (call : Call) → (s : Store D) → Decidable (Counts call s)
  | .serve (.put key _ _), s => inferInstanceAs
      (Decidable (Rust.indexedGeneration (fromUtf8Lossy key) s.replicas < 2 ^ 32 - 1))
  | .serve (.delete _), _ => isTrue trivial
  | .serve (.get _), _ => isTrue trivial
  | .recover, _ => isTrue trivial
  | .buildIndex, _ => isTrue trivial

/-- What a call returns, and what there is to see of the store after it. -/
structure Seen where
  result : Except Failure (Option Bytes)
  keys : Finset Bytes
  images : List MemDevice

def traceOf (impl : Impl) : List Call → Store D → List Seen
  | [], _ => []
  | call :: rest, s =>
    { result := (call.run impl s).1
      keys := impl.keys (call.run impl s).2
      images := (call.run impl s).2.replicas.map fun r => image r.dev } ::
        traceOf impl rest (call.run impl s).2

/-! ## One call -/

def Level (blockSize : Nat) (s : Store D) : Prop := ∀ r ∈ s.replicas, Plain blockSize r

theorem Level.large {s : Store D} (level : Level blockSize s) (large : 36 ≤ blockSize) :
    ∀ r ∈ s.replicas, 36 ≤ (image r.dev).blockSize := by
  intro r member
  rw [(level r member).size]
  exact large

section
variable {s : Store D} (build : Rust.Build) (large : 36 ≤ blockSize) (level : Level blockSize s)

include large level

theorem level_put {key value : Bytes} (allowed : KeyAllowed key) (userFlags : UInt32) :
    Level blockSize (Rust.putFlagged build key value userFlags s).2 := by
  by_cases empty : s.replicas = []
  · rw [Rust.putFlagged, Proc.get_bind_apply, empty]
    exact level
  rw [putFlagged_eq build empty (fun r member => (level r member).size) large]
  have cast : asU32 key.length = key.length := Codec.asU32_of_lt (by have := allowed.2; omega)
  split
  · exact level
  next fits =>
    rw [cast] at fits
    split
    · exact level
    next generation _ =>
      intro r member
      refine Proc.each_keeps ?_ level r member
      intro _ one plain
      rw [rust_replicaPut_storeAs build (by rw [plain.size]; omega), allowed.lossy]
      exact plain.stored large allowed (by omega) value generation userFlags _

theorem level_delete (key : Bytes) : Level blockSize (Rust.delete key s).2 := by
  have kept : ∀ r ∈ (Proc.each (Rust.deleteReplica (fromUtf8Lossy key) s.opts.freePattern) false
      s.replicas).2, Plain blockSize r := by
    intro r member
    refine Proc.each_keeps ?_ level r member
    intro found one plain
    exact plain.deleted large _ _ found
  rw [delete_eq]
  rcases ran : Proc.each (Rust.deleteReplica (fromUtf8Lossy key) s.opts.freePattern) false
    s.replicas with ⟨result, replicas⟩
  rw [ran] at kept
  cases result with
  | ok found => exact kept
  | error failure => exact kept

theorem level_recover : Level blockSize (Rust.recover build s).2 := by
  have larges := level.large large
  rw [rust_recover build larges]
  intro r' member
  obtain ⟨r, stands, rfl⟩ := List.mem_map.mp member
  have damage : Damage (· ∈ Recovery.garbage fromUtf8Lossy (image r.dev)) (image r.dev)
      (image (recoveredReplica build s.opts.freePattern r).dev) := by
    rw [recoveredReplica, (replicaRecover_reliable build _ (larges r stands)).2]
    exact Recovery.recovered_damage (larges r stands) _
  exact (level r stands).damaged damage fun name e found => found

theorem level_buildIndex : Level blockSize (Rust.buildIndex build s).2 := by
  have larges := level.large large
  rw [Mount.rust_buildIndex build larges]
  intro r' member
  obtain ⟨r, stands, rfl⟩ := List.mem_map.mp member
  exact (level r stands).scanned

theorem put_agrees {key value : Bytes} (allowed : KeyAllowed key)
    (small : value.length + blockSize < 2 ^ 32)
    (below : Rust.indexedGeneration key s.replicas < 2 ^ 32 - 1) (userFlags : UInt32) :
    Impl.go.put key value userFlags s = (Impl.rust build).put key value userFlags s := by
  by_cases empty : s.replicas = []
  · change Go.put key value userFlags s = Rust.putFlagged build key value userFlags s
    rw [Go.put, Rust.putFlagged, Proc.get_bind_apply, Proc.get_bind_apply, empty]
  have sizes : ∀ r ∈ s.replicas, (image r.dev).blockSize = blockSize := fun r member =>
    (level r member).size
  have short : key.length < 2 ^ 32 := by
    have length := allowed.2
    omega
  have counted : Rust.indexedGeneration key s.replicas + 1 < 2 ^ 32 := by omega
  rw [Impl.go.put_eq empty sizes large short small,
    (Impl.rust build).put_eq empty sizes large short small]
  simp only [Impl.name, id_eq, allowed.lossy, Impl.next_below _ counted]

/-- One call: the same answer and the same store, and the run can go on. -/
theorem call_agrees {call : Call} (allowed : call.Allowed blockSize) (counts : Counts call s) :
    call.run .go s = call.run (.rust build) s ∧
      Level blockSize (call.run (.rust build) s).2 := by
  have larges := level.large large
  have utf8 : ∀ r ∈ s.replicas, Utf8Keys (image r.dev) := fun r member => (level r member).utf8
  cases call with
  | serve op =>
      cases op with
      | put key value userFlags =>
          rw [Counts, allowed.1.lossy] at counts
          constructor
          · exact Proc.bind_first_congr
              (put_agrees build large level allowed.1 allowed.2 counts userFlags) _
          · rw [Call.run, Proc.bind_pure_apply]
            exact level_put build large level allowed.1 userFlags
      | delete key =>
          constructor
          · exact Proc.bind_first_congr (congrFun (go_delete (KeyAllowed.lossy allowed)) s) _
          · rw [Call.run, Proc.bind_pure_apply]
            exact level_delete large level key
      | get key =>
          have decodes := KeyAllowed.lossy allowed
          have pointed : ∀ r ∈ s.replicas, Pointed r := fun r member => (level r member).pointed
          constructor
          · exact Proc.bind_first_congr (go_get build larges pointed decodes) _
          · rw [Call.run, Proc.bind_pure_apply]
            change Level blockSize (Rust.get build key s).2
            rw [get_keeps build larges pointed decodes]
            exact level
  | recover =>
      constructor
      · exact Proc.bind_first_congr (go_recover build larges utf8) _
      · rw [Call.run, Proc.bind_pure_apply]
        exact level_recover build large level
  | buildIndex =>
      constructor
      · exact Proc.bind_first_congr (go_buildIndex build larges utf8) _
      · rw [Call.run, Proc.bind_pure_apply]
        exact level_buildIndex build large level

theorem trace_agrees {calls : List Call} (allowed : ∀ call ∈ calls, call.Allowed blockSize)
    (counts : Each (fun call s => (call.run (.rust build) s).2) Counts calls s) :
    traceOf .go calls s = traceOf (.rust build) calls s := by
  induction calls generalizing s with
  | nil => rfl
  | cons call rest ih =>
      obtain ⟨same, still⟩ :=
        call_agrees build large level (allowed call List.mem_cons_self) counts.1
      have rested := ih still (fun later member => allowed later (List.mem_cons_of_mem _ member))
        counts.2
      have keys : Impl.go.keys (call.run (.rust build) s).2 =
          (Impl.rust build).keys (call.run (.rust build) s).2 :=
        go_keys fun r member => (still r member).pointed.keyed
      rw [traceOf, traceOf, same, keys, rested]

end

theorem level_mounted {devs : List D} {opts : Options} {s : Store D}
    (opened : Rust.openStore devs opts = .ok s)
    (utf8 : ∀ dev ∈ devs, Utf8Keys (image dev)) :
    ∃ blockSize, (∃ dev ∈ devs, (image dev).blockSize = blockSize) ∧ Level blockSize s := by
  obtain ⟨⟨blockSize, blockCount, accepted⟩, rfl⟩ := Mount.openStore_iff.mp opened
  obtain ⟨dev, stands⟩ := List.exists_mem_of_ne_nil devs accepted.nonempty
  refine ⟨blockSize, ⟨dev, stands, (accepted.mountable dev stands).2.1⟩, ?_⟩
  intro r member
  obtain ⟨dev, stands, rfl⟩ := List.mem_map.mp member
  refine ⟨(accepted.mountable dev stands).2.1, utf8 dev stands, ?_, ?_⟩
  · intro name e found
    cases found
  · intro name e found
    cases found

/-- The two implementations accept the same devices and then go the same way:
every call, whatever the earlier ones did to the index, is answered alike, lists
the same keys and leaves the same bytes on every device. -/
theorem go_matches_rust (build : Rust.Build) {devs : List D} {opts : Options} {s : Store D}
    (opened : (Impl.rust build).openStore devs opts = .ok s)
    (large : ∀ dev ∈ devs, 36 ≤ (image dev).blockSize)
    (utf8 : ∀ dev ∈ devs, Utf8Keys (image dev)) {calls : List Call}
    (allowed : ∀ call ∈ calls, ∀ dev ∈ devs, call.Allowed (image dev).blockSize)
    (counts : Each (fun call s => (call.run (.rust build) s).2) Counts (.buildIndex :: calls) s) :
    Impl.go.openStore devs opts = .ok s ∧
      traceOf .go (.buildIndex :: calls) s = traceOf (.rust build) (.buildIndex :: calls) s := by
  obtain ⟨blockSize, ⟨dev, stands, size⟩, level⟩ := level_mounted opened utf8
  have largeHere : 36 ≤ blockSize := by
    rw [← size]
    exact large dev stands
  have all : ∀ call ∈ Call.buildIndex :: calls, call.Allowed blockSize := by
    intro call member
    rcases List.mem_cons.mp member with rfl | later
    · trivial
    · rw [← size]
      exact allowed call later dev stands
  exact ⟨(go_openStore devs opts).trans opened, trace_agrees build largeHere level all counts⟩

end

/-- A put that fails on the second replica, a recovery the index does not follow,
an update, a delete and a read. -/
def sample : List Call :=
  [.serve (.put [0x42] [7] 0), .recover, .serve (.put [0x41] [5, 6] 1), .serve (.delete [0x42]),
    .serve (.get [0x41])]

theorem go_matches_rust_sample :
    ∃ s, (Impl.rust .dev).openStore DeleteLaws.unevenDevices .default = .ok s ∧
      Impl.go.openStore DeleteLaws.unevenDevices .default = .ok s ∧
      traceOf .go (.buildIndex :: sample) s = traceOf (.rust .dev) (.buildIndex :: sample) s := by
  have checked : ((Impl.rust .dev).openStore DeleteLaws.unevenDevices .default).toOption.any
      (fun s => Each (fun call s => (Call.run (.rust .dev) call s).2) Counts
        (.buildIndex :: sample) s) = true := by
    decide +kernel
  obtain ⟨s, opened, holds⟩ := ok_of_any checked
  have counts := decide_eq_true_eq.mp holds
  exact ⟨s, opened, go_matches_rust .dev opened (by decide +kernel) (by decide +kernel)
    (by decide +kernel) counts⟩

end Embedkv.AgreeLaws
