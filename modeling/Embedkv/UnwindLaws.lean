import Embedkv.Lib.Safe
import Embedkv.AgreeLaws
import Embedkv.MountLaws

/-!
# Where the Rust store unwinds

Every size computation of the store subtracts the header and the CRC of a
descriptor from the block size, 36 bytes in all, while `format` and `open` ask
for 32. From 36 bytes on no call unwinds, whatever the data blocks hold and
whatever the calls before it left in the index. On the four sizes below, a put
runs into the underflow: with overflow checks at once, without them at the slice
the wrapped capacity leads to.
-/

namespace Embedkv.UnwindLaws

open Embedkv.Lib Embedkv.Format Embedkv.Device Embedkv.State Embedkv.Codec
open Embedkv.Image Embedkv.Record Embedkv.Layout Embedkv.Effects Embedkv.Erase Embedkv.Plan
open Embedkv.Stores Embedkv.AgreeLaws Embedkv.ChainWalk

set_option autoImplicit false

section
variable {D : Type} [BlockDevice D] [LawfulBlockDevice D] {blockSize : Nat}

/-! ## Device calls -/

/-- All that the calls have to keep: the block size. -/
def Of (blockSize : Nat) (dev : D) : Prop := (image dev).blockSize = blockSize

theorem Of.le {dev : D} (size : Of blockSize dev) {bound : Nat} (large : bound ≤ blockSize) :
    bound ≤ (image dev).blockSize := large.trans (Eq.ge size)

theorem readBlock_safe {dev : D} (size : Of blockSize dev) (i : Nat) :
    Safe (Of blockSize) .panic (BlockDevice.readBlock i) dev := by
  by_cases inside : i < (image dev).blockCount
  · exact .of_ok (LawfulBlockDevice.readBlock_eq dev i inside) size
  · exact .of_error (LawfulBlockDevice.readBlock_outside dev i (Nat.le_of_not_lt inside))
      (err_ne_panic _) size

theorem readBlock_whole {dev dev' : D} (size : Of blockSize dev) {i : Nat} {buf : Bytes}
    (read : BlockDevice.readBlock i dev = (.ok buf, dev')) : buf.length = blockSize := by
  by_cases inside : i < (image dev).blockCount
  · rw [LawfulBlockDevice.readBlock_eq dev i inside] at read
    cases read
    rw [(image dev).block_length inside, size]
  · rw [LawfulBlockDevice.readBlock_outside dev i (Nat.le_of_not_lt inside)] at read
    cases read

theorem writeBlock_safe {dev : D} (size : Of blockSize dev) {buf : Bytes}
    (whole : buf.length = blockSize) (i : Nat) :
    Safe (Of blockSize) .panic (BlockDevice.writeBlock i buf) dev := by
  by_cases inside : i < (image dev).blockCount
  · have sized : buf.length = (image dev).blockSize := whole.trans size.symm
    rcases ran : BlockDevice.writeBlock i buf dev with ⟨result, dev'⟩
    cases result with
    | ok _ =>
        apply Safe.of_ok ran
        rw [Of, LawfulBlockDevice.writeBlock_ok dev dev' i buf inside sized ran,
          MemDevice.blockSize_set]
        exact size
    | error failure =>
        obtain ⟨rfl, left⟩ :=
          LawfulBlockDevice.writeBlock_error dev dev' i buf failure inside sized ran
        apply Safe.of_error ran (err_ne_panic _)
        rcases left with same | written
        · rw [Of, same]
          exact size
        · rw [Of, written, MemDevice.blockSize_set]
          exact size
  · exact .of_error (LawfulBlockDevice.writeBlock_outside dev i buf (Nat.le_of_not_lt inside))
      (err_ne_panic _) size

theorem flush_safe {dev : D} (size : Of blockSize dev) :
    Safe (Of blockSize) .panic (BlockDevice.flush : Proc Failure D Unit) dev where
  answer := by
    rcases ran : BlockDevice.flush dev with ⟨result, dev'⟩
    cases result with
    | ok _ =>
        intro failed
        cases failed
    | error failure =>
        rw [LawfulBlockDevice.flush_error dev dev' failure ran]
        intro failed
        cases failed
  kept := by
    rw [Of, LawfulBlockDevice.flush_image]
    exact size

theorem writeAll_safe {dev : D} (size : Of blockSize dev) {writes : List (Nat × Bytes)}
    (whole : ∀ write ∈ writes, write.2.length = blockSize) :
    Safe (Of blockSize) .panic (writeAll writes) dev := by
  induction writes generalizing dev with
  | nil => exact .of_ok rfl size
  | cons write rest ih =>
      apply Safe.bind (writeBlock_safe size (whole write List.mem_cons_self) write.1)
      intro _ middle _ kept
      exact ih kept fun other member => whole other (List.mem_cons_of_mem _ member)

/-! ## One replica's turn -/

/-- The walk of the erasing loop, on whatever chain it finds. -/
theorem freeChain_safe (large : 36 ≤ blockSize) {free : Bytes} (whole : free.length = blockSize)
    {blockCount next : Nat} {visited : Finset Nat} {dev : D} (size : Of blockSize dev) :
    Safe (Of blockSize) .panic (Rust.freeChain blockCount free next visited) dev := by
  refine Safe.loop (freeChain_solves blockCount free) (freeTurn_visits blockCount free).lowers ?_
    ⟨next, visited⟩ size
  intro s dev size
  rcases guarded_cases (σ := FreeState) blockCount s.next s.visited () () with
    ⟨result, stops⟩ | ⟨_, visits⟩
  · exact .congr (congrFun (stops (freeVisit free s)) dev) (.of_ok rfl size)
  apply Safe.congr (congrFun (visits (freeVisit free s)) dev)
  apply Safe.bind (readBlock_safe size s.next)
  intro cbuf dev1 read size1
  have long := readBlock_whole size read
  rw [rust_unmarshalChunkHeader cbuf (by omega)]
  apply Safe.bind (.of_ok (Proc.ofExcept_apply _ _) size1)
  intro answer dev2 parsed size2
  cases parsed
  cases Rust.verifyBlockCrc cbuf with
  | false => exact .of_ok rfl size2
  | true =>
      apply Safe.bind (writeBlock_safe size2 whole s.next)
      intro _ dev3 _ size3
      exact .of_ok rfl size3

theorem freeRecord_safe (large : 36 ≤ blockSize) {dev : D} (size : Of blockSize dev) (d : Nat)
    (pattern : UInt8) : Safe (Of blockSize) .panic (Rust.freeRecord d pattern) dev := by
  have sizeRead := blockSizeOf_eq dev
  have whole : (makeFreeBuf blockSize pattern).length = blockSize := List.length_replicate
  rw [Rust.freeRecord]
  apply Safe.bind (.of_ok sizeRead size)
  intro found dev1 asked size1
  rw [sizeRead] at asked
  cases asked
  rw [show (image dev).blockSize = blockSize from size]
  have countRead : blockCountOf dev = (.ok (BlockDevice.blockCount dev), dev) := rfl
  apply Safe.bind (.of_ok countRead size1)
  intro blockCount dev2 _ size2
  apply Safe.bind (readBlock_safe size2 d)
  intro buf dev3 read size3
  have long := readBlock_whole size2 read
  rw [rust_unmarshalDescriptorHeader buf (by omega)]
  apply Safe.bind (.of_ok (Proc.ofExcept_apply _ _) size3)
  intro answer dev4 parsed size4
  cases parsed
  cases Rust.verifyBlockCrc buf with
  | false => exact .of_error rfl (err_ne_panic _) size4
  | true =>
      apply Safe.bind (writeBlock_safe size4 whole d)
      intro _ dev5 _ size5
      exact freeChain_safe large whole size5

/-- The same of a replica. -/
def Within (blockSize : Nat) (r : Replica D) : Prop := Of blockSize r.dev

theorem onDevice_safe {α : Type} {p : Proc Failure D α} {r : Replica D}
    (safe : Safe (Of blockSize) .panic p r.dev) :
    Safe (Within blockSize) .panic (Replica.onDevice p) r :=
  safe.zoom fun _ size => size

theorem putIndex_safe {r : Replica D} (size : Within blockSize r) (entry : IndexEntry) :
    Safe (Within blockSize) .panic (Replica.putIndex entry) r := .of_ok rfl size

theorem replicaRecover_safe (build : Rust.Build) (large : 36 ≤ blockSize) {dev : D}
    (size : Of blockSize dev) (pattern : UInt8) :
    Safe (Of blockSize) .panic (Rust.replicaRecover build pattern) dev := by
  have enough := size.le large
  have swept :
      Safe (Of blockSize) .panic (Recovery.sweep fromUtf8Lossy pattern (image dev)) dev := by
    rw [Recovery.sweep]
    apply Safe.bind
    · apply writeAll_safe size
      intro write member
      obtain ⟨c, _, rfl⟩ := List.mem_map.mp member
      exact List.length_replicate.trans size
    · intro _ dev' _ size'
      by_cases clean : (Recovery.garbage fromUtf8Lossy (image dev)).isEmpty = true
      · rw [if_pos clean]
        exact .of_ok rfl size'
      · rw [if_neg clean]
        exact flush_safe size'
  exact swept.congr (Recovery.rust_replicaRecover build dev pattern enough)

/-- What an index names is read or found missing; a record that does not verify
is no reason to unwind. -/
theorem getReplica_safe (build : Rust.Build) (large : 36 ≤ blockSize) {r : Replica D}
    (size : Within blockSize r) (key : Bytes) (best : Option (Nat × Bytes)) :
    Safe (Within blockSize) .panic (Rust.getReplica build key best) r := by
  have enough := Of.le size large
  have looked : Safe (Within blockSize) .panic
      (Rust.getWithGeneration build key) r := by
    cases found : r.index.get (fromUtf8Lossy key) with
    | none => exact .of_ok (rust_getWithGeneration_absent build found) size
    | some e =>
        by_cases inside : e.descriptorBlock < (image r.dev).blockCount
        · have read := rust_verifyAndReadRecord build r.dev e.descriptorBlock enough inside
          cases stored : recordAt (image r.dev) e.descriptorBlock with
          | none =>
              rw [stored] at read
              have ran : Rust.getWithGeneration build key r =
                  (.ok (some (.error .corruptRecord)), r) := by
                simp only [Rust.getWithGeneration, found, read]
              exact .of_ok ran size
          | some rec =>
              rw [stored] at read
              have ran : Rust.getWithGeneration build key r =
                  (.ok (some (.ok (e.generation, rec.value))), r) := by
                simp only [Rust.getWithGeneration, found, read]
              exact .of_ok ran size
        · have read := (Impl.rust build).verify_unread
            (LawfulBlockDevice.readBlock_outside r.dev _ (Nat.le_of_not_lt inside))
          change Rust.verifyAndReadRecord build e.descriptorBlock r.dev = _ at read
          have ran : Rust.getWithGeneration build key r =
              (.ok (some (.error .invalidBlock)), r) := by
            simp only [Rust.getWithGeneration, found, read]
          exact .of_ok ran size
  rw [Rust.getReplica]
  apply looked.bind
  intro found r' _ size'
  cases found with
  | none => exact .of_ok rfl size'
  | some copy =>
      cases copy with
      | error _ => exact .of_ok rfl size'
      | ok pair =>
          cases best with
          | none => exact .of_ok rfl size'
          | some _ => exact .of_ok rfl size'

theorem deleteReplica_safe (large : 36 ≤ blockSize) {r : Replica D} (size : Within blockSize r)
    (name : Bytes) (pattern : UInt8) (found : Bool) :
    Safe (Within blockSize) .panic
      (Rust.deleteReplica name pattern found) r := by
  rw [Rust.deleteReplica]
  apply Safe.bind (.of_ok (Proc.get_apply r) size)
  intro r0 r1 got size1
  cases got
  cases r.index.get name with
  | none => exact .of_ok rfl size1
  | some e =>
      apply Safe.bind (onDevice_safe (freeRecord_safe large size1 e.descriptorBlock pattern))
      intro _ r2 _ size2
      apply Safe.bind (onDevice_safe (flush_safe size2))
      intro _ r3 _ size3
      exact .of_ok rfl size3

theorem replicaPut_safe (build : Rust.Build) {r : Replica D} (size : Within blockSize r)
    {key : Bytes} (fits : key.length + 36 ≤ blockSize) (value : Bytes) (generation : Nat)
    (userFlags : UInt32) (pattern : UInt8) :
    Safe (Within blockSize) .panic
      (Rust.replicaPut build key value generation userFlags pattern) r := by
  have room := Of.le size fits
  have large : 36 ≤ (image r.dev).blockSize := by omega
  rw [Rust.replicaPut]
  apply Safe.bind (.of_ok (Proc.get_apply r) size)
  intro r0 r1 got size1
  cases got
  rw [LawfulBlockDevice.blockSize_eq, rust_neededBlocks build room (image r.dev).size_lt]
  apply Safe.bind (.of_ok (Proc.ofExcept_apply _ _) size1)
  intro needed r1 reckoned size2
  cases reckoned
  by_cases full : (freeBlocks (image r.dev)).length <
      blocksFor (image r.dev).blockSize key.length (asU32 value.length)
  · apply Safe.bind (.of_error (findFree_full large full) (err_ne_panic _) size2)
    intro free r2 found
    rw [findFree_full large full] at found
    cases found
  · have found := findFree_ok large (Nat.le_of_not_lt full)
    apply Safe.bind (.of_ok found size2)
    intro free r2 ran size3
    rw [found] at ran
    cases ran
    -- A record takes a block at least, so the list has a head, and its blocks are free ones.
    have positive := blocksFor_pos (image r.dev).blockSize key.length (asU32 value.length)
    have among := List.take_subset
      (blocksFor (image r.dev).blockSize key.length (asU32 value.length)) (freeBlocks (image r.dev))
    have distinct := (freeBlocks_nodup (image r.dev)).sublist (List.take_sublist
      (blocksFor (image r.dev).blockSize key.length (asU32 value.length)) _)
    cases taken : (freeBlocks (image r.dev)).take
      (blocksFor (image r.dev).blockSize key.length (asU32 value.length)) with
    | nil =>
        have none := congrArg List.length taken
        rw [List.length_take, List.length_nil] at none
        omega
    | cons d chunks =>
        rw [taken] at among distinct
        have placed : Placed (image r.dev) d chunks key :=
          ⟨room, fun c member => (mem_freeBlocks.mp (among member)).1.2, distinct⟩
        have wrote : Safe (Of blockSize) .panic
            (Rust.writeRecord build d chunks key generation value userFlags) r.dev := by
          have written := rust_writeRecord build r.dev placed generation value userFlags
          have all : Safe (Of blockSize) .panic (writeAll (recordWrites (image r.dev).blockSize d
              chunks key generation value userFlags)) r.dev :=
            writeAll_safe size3 fun write member => (recordWrites_valid placed member).2.trans size3
          exact all.congr written
        apply Safe.bind (onDevice_safe wrote)
        intro _ r4 _ size4
        apply Safe.bind (onDevice_safe (flush_safe size4))
        intro _ r5 _ size5
        apply Safe.bind (putIndex_safe size5 _)
        intro _ r6 _ size6
        cases (r.index.get (fromUtf8Lossy key)).map IndexEntry.descriptorBlock with
        | none => exact .of_ok rfl size6
        | some old =>
            apply Safe.bind (onDevice_safe (freeRecord_safe (by omega) size6 old pattern))
            intro _ r7 _ size7
            exact onDevice_safe (flush_safe size7)

/-! ## Calls and runs -/

/-- A store of replicas with one block size. -/
def Shaped (blockSize : Nat) (s : Store D) : Prop :=
  s.replicas ≠ [] ∧ ∀ r ∈ s.replicas, Within blockSize r

theorem onReplicas_safe {β : Type} {body : β → Proc Failure (Replica D) β} {s : Store D}
    (shaped : Shaped blockSize s)
    (turn : ∀ acc (r : Replica D), Within blockSize r →
      Safe (Within blockSize) .panic (body acc) r) (seed : β) :
    Safe (Shaped blockSize) .panic (Store.onReplicas (Proc.each body seed)) s := by
  apply Safe.zoom (Safe.each turn shaped.2 seed)
  intro replicas kept
  refine ⟨?_, kept.2⟩
  change replicas ≠ []
  intro empty
  rw [empty, List.length_nil, eq_comm, List.length_eq_zero_iff] at kept
  exact shaped.1 kept.1

theorem putFlagged_safe (build : Rust.Build) (large : 36 ≤ blockSize) {s : Store D}
    (shaped : Shaped blockSize s) {key : Bytes} (short : key.length < 2 ^ 32)
    (counts : Rust.indexedGeneration (fromUtf8Lossy key) s.replicas < 2 ^ 32 - 1) (value : Bytes)
    (userFlags : UInt32) :
    Safe (Shaped blockSize) .panic (Rust.putFlagged build key value userFlags) s := by
  rw [Rust.putFlagged]
  apply Safe.bind (.of_ok (Proc.get_apply s) shaped)
  intro s0 s1 got shaped1
  cases got
  cases replicas : s.replicas with
  | nil => exact absurd replicas shaped.1
  | cons first rest =>
      have size : Within blockSize first := by
        apply shaped.2
        rw [replicas]
        exact List.mem_cons_self
      have width : BlockDevice.blockSize first.dev = blockSize := by
        rw [LawfulBlockDevice.blockSize_eq]
        exact size
      simp only [width, rust_keyRoom build large]
      apply Safe.bind (.of_ok (Proc.ofExcept_apply _ _) shaped1)
      intro room s2 known shaped2
      cases known
      have keyCast : asU32 key.length = key.length := asU32_of_lt short
      by_cases long : asU32 key.length > blockSize - 36
      · rw [if_pos long]
        exact .of_error rfl (err_ne_panic _) shaped2
      · rw [if_neg long, ← replicas, rust_u32Add_ok (by omega)]
        apply Safe.bind (.of_ok (Proc.ofExcept_apply _ _) shaped2)
        intro generation s3 _ shaped3
        apply onReplicas_safe shaped3
        intro _ r size'
        exact replicaPut_safe build size' (by omega) value generation userFlags s.opts.freePattern

/-- The calls with keys and values of less than 2^32 bytes. -/
def Sized : Call → Prop
  | .serve (.put key value _) => key.length < 2 ^ 32 ∧ value.length < 2 ^ 32
  | .serve (.delete key) => key.length < 2 ^ 32
  | .serve (.get key) => key.length < 2 ^ 32
  | .recover => True
  | .buildIndex => True

theorem call_safe (build : Rust.Build) (large : 36 ≤ blockSize) {s : Store D}
    (shaped : Shaped blockSize s) {call : Call} (sized : Sized call) (counts : Counts call s) :
    Safe (Shaped blockSize) .panic (call.run (.rust build)) s := by
  cases call with
  | serve op =>
      cases op with
      | put key value userFlags =>
          exact (putFlagged_safe build large shaped sized.1 counts value userFlags).answering _
      | delete key =>
          have deleted : Safe (Shaped blockSize) .panic (Rust.delete key) s := by
            rw [Rust.delete]
            apply Safe.bind (.of_ok (Proc.get_apply s) shaped)
            intro s0 s1 got shaped1
            cases got
            apply Safe.bind (onReplicas_safe shaped1 (fun found r size =>
              deleteReplica_safe large size (fromUtf8Lossy key) s.opts.freePattern found) false)
            intro found s2 _ shaped2
            cases found with
            | false => exact .of_error rfl (err_ne_panic _) shaped2
            | true => exact .of_ok rfl shaped2
          exact deleted.answering _
      | get key =>
          have read : Safe (Shaped blockSize) .panic (Rust.get build key) s := by
            rw [Rust.get]
            apply Safe.bind (onReplicas_safe shaped (fun best r size =>
              getReplica_safe build large size key best) none)
            intro found s1 _ shaped1
            cases found with
            | none => exact .of_error rfl (err_ne_panic _) shaped1
            | some copy => exact .of_ok rfl shaped1
          exact read.answering _
  | recover =>
      have recovers : Safe (Shaped blockSize) .panic (Rust.recover build) s := by
        rw [Rust.recover]
        apply Safe.bind (.of_ok (Proc.get_apply s) shaped)
        intro s0 s1 got shaped1
        cases got
        exact onReplicas_safe shaped1 (fun _ r size =>
          onDevice_safe (replicaRecover_safe build large size s.opts.freePattern)) ()
      exact recovers.answering _
  | buildIndex =>
      have enough : ∀ r ∈ s.replicas, 36 ≤ (image r.dev).blockSize := fun r member =>
        Of.le (shaped.2 r member) large
      have built := Mount.rust_buildIndex build enough
      have kept : Shaped blockSize { s with replicas := s.replicas.map fun r =>
          { r with index := Scan.indexOf fromUtf8Lossy (image r.dev) } } := by
        refine ⟨fun empty => shaped.1 (List.map_eq_nil_iff.mp empty), ?_⟩
        intro r member
        obtain ⟨before, present, rfl⟩ := List.mem_map.mp member
        exact shaped.2 before present
      exact (Safe.of_ok built kept).answering _

/-- A run in which every put can count on from the generation it finds. -/
theorem run_safe (build : Rust.Build) (large : 36 ≤ blockSize) {s : Store D}
    (shaped : Shaped blockSize s) {calls : List Call} (sized : ∀ call ∈ calls, Sized call)
    (counts : Each (fun call s => (call.run (.rust build) s).2) Counts calls s) :
    Each (fun call s => (call.run (.rust build) s).2)
      (fun call s => (call.run (.rust build) s).1 ≠ .error .panic) calls s := by
  refine each_of_invariant ?_ ?_ shaped (each_and sized counts)
  · intro call s met kept
    exact (call_safe build large kept met.1 met.2).answer
  · intro call s met kept
    exact (call_safe build large kept met.1 met.2).kept

theorem shaped_opened {devs : List D} {opts : Options} {s : Store D}
    (opened : Rust.openStore devs opts = .ok s) (size : ∀ dev ∈ devs, Of blockSize dev) :
    Shaped blockSize s := by
  obtain ⟨⟨_, _, accepted⟩, rfl⟩ := Mount.openStore_iff.mp opened
  refine ⟨fun empty => accepted.nonempty (List.map_eq_nil_iff.mp empty), ?_⟩
  intro r member
  obtain ⟨dev, present, rfl⟩ := List.mem_map.mp member
  exact size dev present

end

/-! ## The sizes below 36 -/

def narrowBlank (extra : Fin 4) : MemDevice := .zeroed (32 + .ofNat extra.val) 3

theorem narrowBlank_size (extra : Fin 4) : (narrowBlank extra).blockSize = 32 + extra.val := by
  decide +revert

theorem narrowBlank_count (extra : Fin 4) : (narrowBlank extra).blockCount = 3 :=
  List.length_replicate

/-- What `format` makes of it. -/
def narrowDevice (extra : Fin 4) : MemDevice := MountLaws.stamped .default (narrowBlank extra) 0

def narrowStore (extra : Fin 4) : Store MemDevice where
  replicas := [Mount.mounted (narrowDevice extra)]
  opts := .default

theorem narrow_formatted (extra : Fin 4) :
    Mount.Formatted (narrowBlank extra) (narrowDevice extra) := by
  apply MountLaws.stamped_formatted
  · rw [narrowBlank_size]
    exact Nat.le_add_right 32 extra.val
  · rw [narrowBlank_count]
    decide

theorem narrow_opened (extra : Fin 4) :
    Rust.openStore [narrowDevice extra] .default = .ok (narrowStore extra) := by
  have formatted := narrow_formatted extra
  have accepted : ∀ dev ∈ [narrowDevice extra], Mount.Mountable (image dev) ∧
      (image dev).blockSize = 32 + extra.val ∧ (image dev).blockCount = 3 := by
    intro dev member
    rw [List.mem_singleton.mp member, image_memDevice]
    exact ⟨formatted.mountable, formatted.size.trans (narrowBlank_size extra),
      formatted.count.trans (narrowBlank_count extra)⟩
  rw [Mount.rust_openStore (List.cons_ne_nil _ _) accepted .default, narrowStore,
    List.map_singleton]

/-- A put of four bytes on a block that has no room for a descriptor and its CRC. -/
def narrowPut : Call := .serve (.put [] [1, 2, 3, 4] 0)

theorem narrow_unwinds (build : Rust.Build) (extra : Fin 4) :
    (narrowPut.run (.rust build) (narrowStore extra)).1 = .error .panic := by
  cases build with
  | dev => decide +kernel +revert
  | release => decide +kernel +revert

theorem narrow_counts (extra : Fin 4) : Counts narrowPut (narrowStore extra) := by
  decide +kernel +revert

/-- On block sizes that `format` and `open` accept, no run unwinds exactly when the
size is 36 or more. -/
theorem no_unwinding_iff (build : Rust.Build) {blockSize : Nat} (formattable : 32 ≤ blockSize)
    (small : blockSize < 2 ^ 32) :
    (∀ (D : Type) [BlockDevice D] [LawfulBlockDevice D] (devs : List D) (opts : Options)
        (s : Store D) (calls : List Call), Rust.openStore devs opts = .ok s →
      (∀ dev ∈ devs, (image dev).blockSize = blockSize) → (∀ call ∈ calls, Sized call) →
      Each (fun call s => (call.run (.rust build) s).2) Counts calls s →
      Each (fun call s => (call.run (.rust build) s).2)
        (fun call s => (call.run (.rust build) s).1 ≠ .error .panic) calls s) ↔
      36 ≤ blockSize := by
  constructor
  · intro never
    by_contra narrow
    obtain ⟨extra, rfl⟩ : ∃ extra : Fin 4, blockSize = 32 + extra.val :=
      ⟨⟨blockSize - 32, by omega⟩, by simp only []; omega⟩
    have sized : ∀ call ∈ [narrowPut], Sized call := by
      intro call member
      rw [List.mem_singleton.mp member]
      exact ⟨by decide, by decide⟩
    have size : ∀ dev ∈ [narrowDevice extra], (image dev).blockSize = 32 + extra.val := by
      intro dev member
      rw [List.mem_singleton.mp member, image_memDevice]
      exact (narrow_formatted extra).size.trans (narrowBlank_size extra)
    have answers := never MemDevice [narrowDevice extra] .default (narrowStore extra) [narrowPut]
      (narrow_opened extra) size sized ⟨narrow_counts extra, trivial⟩
    exact answers.1 (narrow_unwinds build extra)
  · intro large D _ _ devs opts s calls opened size sized counts
    exact run_safe build large (shaped_opened opened size) sized counts

theorem no_unwinding_sample :
    ∃ s, Rust.openStore DeleteLaws.unevenDevices .default = .ok s ∧
      Each (fun call s => (Call.run (.rust .dev) call s).2)
        (fun call s => (Call.run (.rust .dev) call s).1 ≠ .error .panic) (.buildIndex :: sample)
        s := by
  have checked : (Rust.openStore DeleteLaws.unevenDevices .default).toOption.any (fun s =>
      Each (fun call s => (Call.run (.rust .dev) call s).2) Counts (.buildIndex :: sample) s) =
        true := by
    decide +kernel
  obtain ⟨s, opened, holds⟩ := Run.ok_of_any checked
  have sized : ∀ call ∈ Call.buildIndex :: sample, Sized call := by
    simp [sample, Sized]
  have size : ∀ dev ∈ DeleteLaws.unevenDevices, (image dev).blockSize = 40 := by decide +kernel
  have fits : 32 ≤ 40 := by decide
  have answers := (no_unwinding_iff .dev fits (by decide)).mpr (by decide) MemDevice _ _ s _
    opened size sized (decide_eq_true_eq.mp holds)
  exact ⟨s, opened, answers⟩

/-- At a block size of 32 bytes the store opens and its first put unwinds. -/
theorem narrow_put_unwinds :
    ∃ s : Store MemDevice, Rust.openStore [narrowDevice 0] .default = .ok s ∧
      (narrowDevice 0).blockSize = 32 ∧
      (Rust.putFlagged .dev [] [1, 2, 3, 4] 0 s).1 = .error .panic ∧
      (Rust.putFlagged .release [] [1, 2, 3, 4] 0 s).1 = .error .panic := by
  refine ⟨narrowStore 0, narrow_opened 0, ?_, ?_, ?_⟩
  · decide +kernel
  · decide +kernel
  · decide +kernel

end Embedkv.UnwindLaws
