import Embedkv.Run

/-!
# Devices that fail

A device whose writes and flushes may report an error, the effect of the failed
call applied or not. Every call of a run comes with the fates of its device
calls, so a run says which of them fail and how; nothing is assumed about when
that happens.
-/

namespace Embedkv.Faulty

open Embedkv.Lib Embedkv.Format Embedkv.Device Embedkv.State Embedkv.Image Embedkv.Record
open Embedkv.Erase Embedkv.Plan Embedkv.Outcome Embedkv.Session Embedkv.Run

set_option autoImplicit false

/-- What becomes of one write or flush. -/
inductive Fate where
  | works
  | fails (applied : Bool)
  deriving DecidableEq, Repr

/-- Blocks, and the fates of the calls to come; beyond the list every call works. -/
structure FaultyDevice where
  mem : MemDevice
  fates : List Fate

namespace FaultyDevice

def writeBlock (index : Nat) (buf : Bytes) : Proc Failure FaultyDevice Unit := fun dev =>
  match MemDevice.writeBlock index buf dev.mem with
  | (.error failure, _) => (.error failure, dev)
  | (.ok (), mem) =>
    match dev.fates with
    | [] => (.ok (), { mem := mem, fates := [] })
    | .works :: fates => (.ok (), { mem := mem, fates := fates })
    | .fails true :: fates => (.error (.err .io), { mem := mem, fates := fates })
    | .fails false :: fates => (.error (.err .io), { mem := dev.mem, fates := fates })

/-- The blocks read the same before and after a flush, whether it works or not. -/
def flush : Proc Failure FaultyDevice Unit := fun dev =>
  match dev.fates with
  | [] => (.ok (), dev)
  | .works :: fates => (.ok (), { mem := dev.mem, fates := fates })
  | .fails _ :: fates => (.error (.err .io), { mem := dev.mem, fates := fates })

instance : BlockDevice FaultyDevice where
  blockSize dev := dev.mem.blockSize
  blockCount dev := dev.mem.blockCount
  readBlock index := Proc.zoom mem (fun dev mem => { dev with mem := mem }) (MemDevice.readBlock index)
  writeBlock := writeBlock
  flush := flush

theorem writeBlock_fits {dev : FaultyDevice} {index : Nat} {buf : Bytes}
    (inside : index < dev.mem.blockCount) (sized : buf.length = dev.mem.blockSize) :
    MemDevice.writeBlock index buf dev.mem = (.ok (), dev.mem.set index buf) := by
  rw [MemDevice.writeBlock, if_pos inside, if_pos (by omega), List.take_of_length_le (by omega)]

instance : LawfulBlockDevice FaultyDevice where
  image := mem
  blockSize_eq _ := rfl
  blockCount_eq _ := rfl
  readBlock_eq dev index inside := by
    show Proc.zoom _ _ _ _ = _
    rw [Proc.zoom_apply, MemDevice.readBlock, if_pos inside]
  readBlock_outside dev index outside := by
    show Proc.zoom _ _ _ _ = _
    rw [Proc.zoom_apply, MemDevice.readBlock, if_neg (Nat.not_lt.mpr outside)]
  writeBlock_outside dev index buf outside := by
    show writeBlock index buf dev = _
    rw [writeBlock, MemDevice.writeBlock, if_neg (Nat.not_lt.mpr outside)]
  writeBlock_ok dev dev' index buf inside sized ran := by
    change writeBlock index buf dev = _ at ran
    rw [writeBlock, writeBlock_fits inside sized] at ran
    rcases fates : dev.fates with _ | ⟨_ | ⟨_ | _⟩, rest⟩ <;> rw [fates] at ran <;> cases ran <;> rfl
  writeBlock_error dev dev' index buf failure inside sized ran := by
    change writeBlock index buf dev = _ at ran
    rw [writeBlock, writeBlock_fits inside sized] at ran
    rcases fates : dev.fates with _ | ⟨_ | ⟨_ | _⟩, rest⟩ <;> rw [fates] at ran <;> cases ran
    · exact ⟨rfl, .inl rfl⟩
    · exact ⟨rfl, .inr rfl⟩
  flush_image dev := by
    show (flush dev).2.mem = dev.mem
    rw [flush]
    rcases dev.fates with _ | ⟨_ | _, rest⟩ <;> rfl
  flush_error dev dev' failure ran := by
    change flush dev = _ at ran
    rw [flush] at ran
    rcases fates : dev.fates with _ | ⟨_ | _, rest⟩ <;> rw [fates] at ran <;> cases ran
    rfl

/-- A device none of whose coming calls fails. -/
def steady (mem : MemDevice) : FaultyDevice := { mem := mem, fates := [] }

@[simp] theorem image_mem (dev : FaultyDevice) : image dev = dev.mem := rfl

end FaultyDevice

/-! ## Acts on a faulty device -/

/-- The first `n` device calls work. -/
def Works (n : Nat) (fates : List Fate) : Prop := ∀ fate ∈ fates.take n, fate = .works

instance (n : Nat) (fates : List Fate) : Decidable (Works n fates) :=
  inferInstanceAs (Decidable (∀ _ ∈ _, _))

theorem works_tail {n : Nat} {fates : List Fate} (works : Works (n + 1) fates) :
    (fates = [] ∨ ∃ later, fates = .works :: later) ∧ Works n fates.tail := by
  cases fates with
  | nil => exact ⟨.inl rfl, by simp [Works]⟩
  | cons fate later =>
      have first := works fate (by rw [List.take_succ_cons]; exact List.mem_cons_self)
      refine ⟨.inr ⟨later, by rw [first]⟩, ?_⟩
      intro other member
      exact works other (by rw [List.take_succ_cons]; exact List.mem_cons_of_mem _ member)

theorem writeBlock_works {n index : Nat} {buf : Bytes} {dev : FaultyDevice}
    (inside : index < dev.mem.blockCount) (sized : buf.length = dev.mem.blockSize)
    (works : Works (n + 1) dev.fates) :
    FaultyDevice.writeBlock index buf dev =
      (.ok (), { mem := dev.mem.set index buf, fates := dev.fates.tail }) := by
  rw [FaultyDevice.writeBlock, FaultyDevice.writeBlock_fits inside sized]
  rcases (works_tail works).1 with none | ⟨later, next⟩
  · rw [none]
    rfl
  · rw [next]
    rfl

theorem flush_works {n : Nat} {dev : FaultyDevice} (works : Works (n + 1) dev.fates) :
    FaultyDevice.flush dev = (.ok (), { dev with fates := dev.fates.tail }) := by
  rw [FaultyDevice.flush]
  rcases dev with ⟨mem, fates⟩
  rcases (works_tail works).1 with none | ⟨later, next⟩
  · subst none
    rfl
  · subst next
    rfl

/-- Acts none of whose device calls fails are all done. -/
theorem performAll_works {acts : List Act} {r : Replica FaultyDevice}
    (valid : ValidActs r.dev.mem acts) (works : Works (deviceActs acts) r.dev.fates) :
    (performAll acts r).1 = .ok () := by
  have serves : ∀ (dev : FaultyDevice) n, Works (n + 1) dev.fates → Works n dev.fates.tail :=
    fun dev n able => (works_tail able).2
  refine performAll_can (fun dev n => Works n dev.fates) ?_ ?_ valid works
  · intro dev n b buf able inside sized
    exact ⟨_, writeBlock_works inside sized able, serves dev n able⟩
  · intro dev n able
    exact ⟨_, flush_works able, serves dev n able⟩

/-! ## Runs -/

/-- A call and the fates of the device calls it makes. -/
structure Call where
  op : Op
  fates : List Fate
  deriving DecidableEq, Repr

/-- Give the devices of a store their fates for the next call. -/
def arm (fates : List Fate) (s : Store FaultyDevice) : Store FaultyDevice :=
  { s with replicas := s.replicas.map fun r => { r with dev := { r.dev with fates := fates } } }

def Call.run (build : Rust.Build) (call : Call) : Proc Failure (Store FaultyDevice) (Option Bytes) :=
  fun s => call.op.perform build (arm call.fates s)

def Call.after (build : Rust.Build) (call : Call) (s : Store FaultyDevice) : Store FaultyDevice :=
  (call.run build s).2

/-- The store after a list of calls. -/
def runAll (build : Rust.Build) (calls : List Call) (s : Store FaultyDevice) : Store FaultyDevice :=
  runTo (Call.after build) calls s

/-- A replica whose next calls have the given fates. -/
def armed (fates : List Fate) (r : Replica FaultyDevice) : Replica FaultyDevice :=
  { r with dev := { r.dev with fates := fates } }

theorem arm_single (fates : List Fate) (r : Replica FaultyDevice) (opts : Options) :
    arm fates (single r opts) = single (armed fates r) opts := rfl

theorem sound_armed {matching : Bytes → IndexEntry → CompleteRecord → Prop}
    {r : Replica FaultyDevice} (sound : Sound matching r) (fates : List Fate) :
    Sound matching (armed fates r) := ⟨sound.large, sound.mountable, sound.index⟩

/-- A delete that meets no device error, or whose first write fails without
effect. A delete of a key that is not indexed makes no device call. -/
def DeleteSpared (r : Replica FaultyDevice) (s : Bytes) (fates : List Fate) : Prop :=
  match r.index.get s with
  | none => True
  | some e =>
    match recordAt r.dev.mem e.descriptorBlock with
    | none => True
    | some rec => fates.head? = some (.fails false) ∨ Works (rec.blocks.length + 1) fates

instance (r : Replica FaultyDevice) (s : Bytes) (fates : List Fate) :
    Decidable (DeleteSpared r s fates) :=
  match h : r.index.get s with
  | none => isTrue (by simp only [DeleteSpared, h])
  | some e =>
    match h' : recordAt r.dev.mem e.descriptorBlock with
    | none => isTrue (by simp only [DeleteSpared, h, h'])
    | some rec =>
      decidable_of_iff (fates.head? = some (.fails false) ∨ Works (rec.blocks.length + 1) fates)
        (by simp only [DeleteSpared, h, h'])

/-- A call that is no delete, or a spared one. -/
def Call.Spared (call : Call) (s : Store FaultyDevice) : Prop :=
  match call.op with
  | .delete key => ∀ r ∈ s.replicas, DeleteSpared r (fromUtf8Lossy key) call.fates
  | _ => True

instance (call : Call) (s : Store FaultyDevice) : Decidable (call.Spared s) :=
  match h : call.op with
  | .delete key =>
    decidable_of_iff (∀ r ∈ s.replicas, DeleteSpared r (fromUtf8Lossy key) call.fates)
      (by simp only [Call.Spared, h])
  | .put _ _ _ => isTrue (by simp only [Call.Spared, h])
  | .get _ => isTrue (by simp only [Call.Spared, h])

/-- Every delete of the calls is spared in the state it is made in. -/
def DeletesSpared (build : Rust.Build) (calls : List Call) (s : Store FaultyDevice) : Prop :=
  Each (Call.after build) Call.Spared calls s

instance (build : Rust.Build) (calls : List Call) (s : Store FaultyDevice) :
    Decidable (DeletesSpared build calls s) :=
  inferInstanceAs (Decidable (Each (Call.after build) Call.Spared calls s))

/-- A delete whose first write fails without effect changes nothing. -/
theorem deleteReplica_unapplied {matching : Bytes → IndexEntry → CompleteRecord → Prop}
    {r : Replica FaultyDevice} {s : Bytes} {e : IndexEntry} {rec : CompleteRecord}
    (sound : Sound matching r) (found : r.index.lookup s = some e)
    (record : RecordAt r.dev.mem e.descriptorBlock rec)
    (first : r.dev.fates.head? = some (.fails false)) (pattern : UInt8) (seen : Bool) :
    ∃ r', Rust.deleteReplica s pattern seen r = (.error (.err .io), r') ∧
      r'.dev.mem = r.dev.mem ∧ r'.index = r.index := by
  obtain ⟨later, fates⟩ : ∃ later, r.dev.fates = .fails false :: later := by
    cases fates : r.dev.fates with
    | nil =>
        rw [fates] at first
        cases first
    | cons fate later =>
        rw [fates] at first
        cases first
        exact ⟨later, rfl⟩
  refine ⟨armed later r, ?_, rfl, rfl⟩
  have failed : (Act.write rec.descriptorBlock (makeFreeBuf r.dev.mem.blockSize pattern)).perform r =
      (.error (.err .io), armed later r) := by
    have inside : rec.descriptorBlock < r.dev.mem.blockCount := by
      rw [record.descriptorBlock_eq]
      exact record.inside
    have sized : (makeFreeBuf r.dev.mem.blockSize pattern).length = r.dev.mem.blockSize :=
      List.length_replicate
    show Replica.onDevice (FaultyDevice.writeBlock _ _) r = _
    rw [Replica.onDevice, Proc.zoom_apply, FaultyDevice.writeBlock,
      FaultyDevice.writeBlock_fits inside sized, fates]
    rfl
  rw [rust_deleteReplica sound.indexed found record, deleteActs]
  have acts : performAll (writeActs (erasures rec.blocks (makeFreeBuf r.dev.mem.blockSize pattern)) ++
      [.flush, .forget s]) r = (.error (.err .io), armed later r) := by
    rw [CompleteRecord.blocks, erasures, List.map_cons, writeActs, List.map_cons, List.cons_append,
      performAll, Proc.bind_error failed]
  exact Proc.bind_error acts _

/-- A spared delete keeps a replica sound. -/
theorem deleteReplica_spared {matching : Bytes → IndexEntry → CompleteRecord → Prop}
    {r r' : Replica FaultyDevice} {s : Bytes} {pattern : UInt8} {seen : Bool}
    {result : Except Failure Bool} (sound : Sound matching r) (spared : DeleteSpared r s r.dev.fates)
    (ran : Rust.deleteReplica s pattern seen r = (result, r')) : Sound matching r' := by
  rcases Option.eq_none_or_eq_some (r.index.lookup s) with absent | ⟨e, found⟩
  · rw [rust_deleteReplica_absent absent] at ran
    cases ran
    exact sound
  obtain ⟨rec, present, _⟩ := sound.index.complete s e found
  have record := recordAt_eq_some.mp present
  have got : r.index.get s = some e := found
  have held : recordAt r.dev.mem e.descriptorBlock = some rec := present
  simp only [DeleteSpared, got, held] at spared
  rcases spared with first | works
  · obtain ⟨r1, ran1, mem, index⟩ := deleteReplica_unapplied sound found record first pattern seen
    rw [ran1] at ran
    cases ran
    refine ⟨?_, ?_, ?_⟩
    · rw [FaultyDevice.image_mem, mem]
      exact sound.large
    · rw [FaultyDevice.image_mem, mem]
      exact sound.mountable
    · rw [FaultyDevice.image_mem, mem, index]
      exact sound.index
  · obtain ⟨⟨failed, _⟩ | ⟨_, index, gone⟩, kept, _⟩ := deleteReplica_outcome sound.indexed found ran
    · -- No device call fails, so neither does the delete.
      have counted : deviceActs (deleteActs (image r.dev) s rec.blocks pattern) =
          rec.blocks.length + 1 := by
        rw [deleteActs, deviceActs_writeActs, erasures, List.length_map]
        rfl
      have finished := performAll_works (delete_writes record s pattern) (by
        rw [counted]
        exact works)
      rw [rust_deleteReplica sound.indexed found record] at ran
      rcases performed : performAll (deleteActs (image r.dev) s rec.blocks pattern) r with
        ⟨outcome, r1⟩
      rw [performed] at finished
      cases finished
      rw [Proc.bind_ok performed, failed] at ran
      cases ran
    · apply sound.of_keeps kept
      rw [gone, index]
      exact sound.index.delete found

end Embedkv.Faulty
