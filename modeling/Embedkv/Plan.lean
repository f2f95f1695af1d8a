import Embedkv.Effects

/-!
# What an operation does to its replica

Every mutating call is a list of acts: block writes, flushes and index changes,
in an order that depends only on the image and the index the call started
from. On a lawful device a put or a delete performs that list, and the first
failing device call ends it. What a fault or a power cut can leave behind is
then a question about prefixes of the list.
-/

namespace Embedkv.Plan

open Embedkv.Lib Embedkv.Format Embedkv.Device Embedkv.State Embedkv.Codec Embedkv.Image
open Embedkv.Record Embedkv.Erase Embedkv.Layout Embedkv.Effects

set_option autoImplicit false

/-! ## Acts -/

inductive Act where
  | write (block : Nat) (buf : Bytes)
  | flush
  | enter (entry : IndexEntry)
  | forget (key : Bytes)

def writeActs (writes : List (Nat × Bytes)) : List Act := writes.map fun w => .write w.1 w.2

/-- The block writes among the acts. -/
def writesOf : List Act → List (Nat × Bytes)
  | [] => []
  | .write b buf :: rest => (b, buf) :: writesOf rest
  | .flush :: rest => writesOf rest
  | .enter _ :: rest => writesOf rest
  | .forget _ :: rest => writesOf rest

/-- The index after the acts. -/
def indexAfter : List Act → MemIndex → MemIndex
  | [], index => index
  | .write _ _ :: rest, index => indexAfter rest index
  | .flush :: rest, index => indexAfter rest index
  | .enter entry :: rest, index => indexAfter rest (index.put entry)
  | .forget key :: rest, index => indexAfter rest (index.delete key)

/-- Every write addresses a block of the device with a whole block. -/
def ValidActs (img : MemDevice) (acts : List Act) : Prop :=
  ∀ write ∈ writesOf acts, write.1 < img.blockCount ∧ write.2.length = img.blockSize

theorem ValidActs.rest {img img' : MemDevice} {act : Act} {rest : List Act}
    (valid : ValidActs img (act :: rest)) (size : img'.blockSize = img.blockSize)
    (count : img'.blockCount = img.blockCount) : ValidActs img' rest := by
  intro write member
  rw [size, count]
  apply valid write
  cases act with
  | write b buf => exact List.mem_cons_of_mem _ member
  | flush => exact member
  | enter entry => exact member
  | forget key => exact member

theorem writesOf_append (first second : List Act) :
    writesOf (first ++ second) = writesOf first ++ writesOf second := by
  induction first with
  | nil => rfl
  | cons act rest ih => cases act <;> simp [writesOf, ih]

theorem indexAfter_append (first second : List Act) (index : MemIndex) :
    indexAfter (first ++ second) index = indexAfter second (indexAfter first index) := by
  induction first generalizing index with
  | nil => rfl
  | cons act rest ih => cases act <;> simp [indexAfter, ih]

@[simp] theorem writesOf_writeActs (writes : List (Nat × Bytes)) :
    writesOf (writeActs writes) = writes := by
  induction writes with
  | nil => rfl
  | cons write rest ih => exact congrArg (write :: ·) ih

@[simp] theorem indexAfter_writeActs (writes : List (Nat × Bytes)) (index : MemIndex) :
    indexAfter (writeActs writes) index = index := by
  induction writes with
  | nil => rfl
  | cons write rest ih => exact ih

section
variable {D : Type} [BlockDevice D]

def Act.perform : Act → Proc Failure (Replica D) Unit
  | .write b buf => Replica.onDevice (BlockDevice.writeBlock b buf)
  | .flush => Replica.onDevice BlockDevice.flush
  | .enter entry => Replica.putIndex entry
  | .forget key => Replica.dropIndex key

def performAll : List Act → Proc Failure (Replica D) Unit
  | [] => pure ()
  | act :: rest => do
    act.perform
    performAll rest

theorem performAll_append (first second : List Act) (r : Replica D) :
    performAll (first ++ second) r = (do performAll first; performAll second) r := by
  induction first generalizing r with
  | nil => rfl
  | cons act rest ih =>
      rw [List.cons_append, performAll, performAll, Proc.bind_assoc_apply]
      exact Proc.bind_congr_ok fun _ r' _ => ih r'

theorem performAll_singleton (act : Act) (r : Replica D) : performAll [act] r = act.perform r := by
  rcases step : act.perform r with ⟨result, r'⟩
  rw [performAll]
  cases result with
  | ok => rw [Proc.bind_ok step]; rfl
  | error failure => rw [Proc.bind_error step]

omit [BlockDevice D] in
theorem onDevice_bind {α β : Type} (first : Proc Failure D α) (next : α → Proc Failure D β)
    (r : Replica D) : Replica.onDevice (first >>= next) r =
      (Replica.onDevice first >>= fun value => Replica.onDevice (next value)) r := by
  rcases ran : first r.dev with ⟨result, dev⟩
  have lifted : Replica.onDevice first r = (result, { r with dev := dev }) := by
    rw [Replica.onDevice, Proc.zoom_apply, ran]
  cases result with
  | ok value =>
      rw [Proc.bind_ok lifted, Replica.onDevice, Proc.zoom_apply, Proc.bind_ok ran]
      rfl
  | error failure =>
      rw [Proc.bind_error lifted, Replica.onDevice, Proc.zoom_apply, Proc.bind_error ran]

theorem onDevice_writeAll (writes : List (Nat × Bytes)) (r : Replica D) :
    Replica.onDevice (writeAll writes) r = performAll (writeActs writes) r := by
  induction writes generalizing r with
  | nil => rfl
  | cons write rest ih =>
      rcases ran : BlockDevice.writeBlock write.1 write.2 r.dev with ⟨result, dev⟩
      have acted : (Act.write write.1 write.2).perform r = (result, { r with dev := dev }) := by
        rw [Act.perform, Replica.onDevice, Proc.zoom_apply, ran]
      have direct : writeAll (write :: rest) r.dev =
          (do BlockDevice.writeBlock write.1 write.2; writeAll rest) r.dev := rfl
      rw [writeActs, List.map_cons, performAll, Replica.onDevice, Proc.zoom_apply, direct]
      cases result with
      | error failure => rw [Proc.bind_error ran, Proc.bind_error acted]
      | ok value =>
          rw [Proc.bind_ok ran, Proc.bind_ok acted]
          exact ih { r with dev := dev }

end

section
variable {D : Type} [BlockDevice D] [LawfulBlockDevice D]

theorem perform_write_ok {b : Nat} {buf : Bytes} {r r' : Replica D}
    (inside : b < (image r.dev).blockCount) (sized : buf.length = (image r.dev).blockSize)
    (ran : (Act.write b buf).perform r = (.ok (), r')) :
    image r'.dev = (image r.dev).set b buf ∧ r'.index = r.index ∧ r'.header = r.header := by
  simp only [Act.perform, Replica.onDevice, Proc.zoom_apply, Prod.mk.injEq] at ran
  obtain ⟨ok, rfl⟩ := ran
  exact ⟨LawfulBlockDevice.writeBlock_ok r.dev _ b buf inside sized (Prod.ext ok rfl), rfl, rfl⟩

theorem perform_write_error {b : Nat} {buf : Bytes} {r r' : Replica D} {failure : Failure}
    (inside : b < (image r.dev).blockCount) (sized : buf.length = (image r.dev).blockSize)
    (ran : (Act.write b buf).perform r = (.error failure, r')) :
    failure = .err .io ∧ (image r'.dev = image r.dev ∨ image r'.dev = (image r.dev).set b buf) ∧
      r'.index = r.index ∧ r'.header = r.header := by
  simp only [Act.perform, Replica.onDevice, Proc.zoom_apply, Prod.mk.injEq] at ran
  obtain ⟨failed, rfl⟩ := ran
  obtain ⟨io, effect⟩ := LawfulBlockDevice.writeBlock_error r.dev _ b buf failure inside sized
    (Prod.ext failed rfl)
  exact ⟨io, effect, rfl, rfl⟩

theorem perform_flush {r r' : Replica D} {result : Except Failure Unit}
    (ran : Act.flush.perform r = (result, r')) :
    (∀ failure, result = .error failure → failure = .err .io) ∧ image r'.dev = image r.dev ∧
      r'.index = r.index ∧ r'.header = r.header := by
  simp only [Act.perform, Replica.onDevice, Proc.zoom_apply, Prod.mk.injEq] at ran
  obtain ⟨outcome, rfl⟩ := ran
  refine ⟨?_, LawfulBlockDevice.flush_image r.dev, rfl, rfl⟩
  intro failure failed
  exact LawfulBlockDevice.flush_error r.dev _ failure (Prod.ext (outcome.trans failed) rfl)

/-- Where a run of acts can end: after all of them, or at a failing device call
whose own effect happened or not. -/
inductive Ended (acts : List Act) (img : MemDevice) (index : MemIndex) :
    Except Failure Unit → MemDevice → MemIndex → Prop
  | done : Ended acts img index (.ok ()) (img.apply (writesOf acts)) (indexAfter acts index)
  | failed (before : List Act) (act : Act) (rest : List Act) (split : acts = before ++ act :: rest)
      (device : act = .flush ∨ ∃ b buf, act = .write b buf) (applied : Bool) :
      Ended acts img index (.error (.err .io))
        (img.apply (writesOf (if applied then before ++ [act] else before)))
        (indexAfter before index)

omit [BlockDevice D] [LawfulBlockDevice D] in
/-- An act performed before a run only lengthens the part that was done. -/
theorem Ended.cons {act : Act} {rest : List Act} {img img' : MemDevice} {index index' : MemIndex}
    {result : Except Failure Unit}
    (ended : Ended rest (img.apply (writesOf [act])) (indexAfter [act] index) result img' index') :
    Ended (act :: rest) img index result img' index' := by
  have writes (acts : List Act) :
      (img.apply (writesOf [act])).apply (writesOf acts) = img.apply (writesOf (act :: acts)) := by
    rw [← MemDevice.apply_append, ← writesOf_append, List.singleton_append]
  have indexes (acts : List Act) :
      indexAfter acts (indexAfter [act] index) = indexAfter (act :: acts) index := by
    rw [← indexAfter_append, List.singleton_append]
  cases ended with
  | done =>
      rw [writes, indexes]
      exact .done
  | failed before next rest split device applied =>
      have shape : (if applied = true then act :: before ++ [next] else act :: before) =
          act :: (if applied = true then before ++ [next] else before) := by
        cases applied <;> rfl
      rw [writes, indexes, ← shape]
      exact .failed (act :: before) next rest (by rw [split, List.cons_append]) device applied

/-- Every run of valid acts ends after all of them or at a failing device call. -/
theorem performAll_ended {acts : List Act} {r r' : Replica D} {result : Except Failure Unit}
    (valid : ValidActs (image r.dev) acts) (ran : performAll acts r = (result, r')) :
    Ended acts (image r.dev) r.index result (image r'.dev) r'.index ∧ r'.header = r.header := by
  induction acts generalizing r with
  | nil =>
      cases ran
      exact ⟨.done, rfl⟩
  | cons act rest ih =>
      rcases step : act.perform r with ⟨outcome, r1⟩
      -- One device call: what it leaves is the first act done, or its failure.
      have effect : (outcome = .ok () ∧ image r1.dev = (image r.dev).apply (writesOf [act]) ∧
            r1.index = indexAfter [act] r.index ∨
          outcome = .error (.err .io) ∧ (act = .flush ∨ ∃ b buf, act = .write b buf) ∧
            r1.index = r.index ∧ ∃ applied : Bool, image r1.dev =
              (image r.dev).apply (writesOf (if applied then [act] else []))) ∧
          r1.header = r.header := by
        cases act with
        | write b buf =>
            obtain ⟨inside, sized⟩ := valid (b, buf) List.mem_cons_self
            cases outcome with
            | ok =>
                obtain ⟨written, index, header⟩ := perform_write_ok inside sized step
                exact ⟨.inl ⟨rfl, written, index⟩, header⟩
            | error failure =>
                obtain ⟨rfl, written, index, header⟩ := perform_write_error inside sized step
                refine ⟨.inr ⟨rfl, .inr ⟨b, buf, rfl⟩, index, ?_⟩, header⟩
                rcases written with kept | changed
                · exact ⟨false, kept⟩
                · exact ⟨true, changed⟩
        | flush =>
            obtain ⟨io, kept, index, header⟩ := perform_flush step
            cases outcome with
            | ok => exact ⟨.inl ⟨rfl, kept, index⟩, header⟩
            | error failure =>
                have isIo := io failure rfl
                subst isIo
                exact ⟨.inr ⟨rfl, .inl rfl, index, false, kept⟩, header⟩
        | enter entry =>
            cases step
            exact ⟨.inl ⟨rfl, rfl, rfl⟩, rfl⟩
        | forget key =>
            cases step
            exact ⟨.inl ⟨rfl, rfl, rfl⟩, rfl⟩
      obtain ⟨⟨rfl, written, index⟩ | ⟨rfl, device, index, applied, written⟩, header⟩ := effect
      · have validRest : ValidActs (image r1.dev) rest := by
          apply valid.rest
          · rw [written, MemDevice.blockSize_apply]
          · rw [written, MemDevice.blockCount_apply]
        rw [performAll, Proc.bind_ok step] at ran
        obtain ⟨ended, header'⟩ := ih validRest ran
        rw [written, index] at ended
        exact ⟨ended.cons, header'.trans header⟩
      · rw [performAll, Proc.bind_error step] at ran
        cases ran
        rw [written, index]
        exact ⟨.failed [] act rest rfl device applied, header⟩

end

/-- A run that reports success did all its acts. -/
theorem performAll_ok {D : Type} [BlockDevice D] [LawfulBlockDevice D] {acts : List Act}
    {r r' : Replica D} (valid : ValidActs (image r.dev) acts)
    (ran : performAll acts r = (.ok (), r')) :
    image r'.dev = (image r.dev).apply (writesOf acts) ∧ r'.index = indexAfter acts r.index ∧
      r'.header = r.header := by
  obtain ⟨ended, header⟩ := performAll_ended valid ran
  generalize image r'.dev = img at ended
  generalize r'.index = index at ended
  cases ended
  exact ⟨rfl, rfl, header⟩

/-- The device calls among the acts. -/
def deviceActs : List Act → Nat
  | [] => 0
  | .write _ _ :: rest => deviceActs rest + 1
  | .flush :: rest => deviceActs rest + 1
  | .enter _ :: rest => deviceActs rest
  | .forget _ :: rest => deviceActs rest

theorem deviceActs_writeActs (writes : List (Nat × Bytes)) (rest : List Act) :
    deviceActs (writeActs writes ++ rest) = writes.length + deviceActs rest := by
  induction writes with
  | nil => exact (Nat.zero_add _).symm
  | cons write writes ih =>
      have turn : deviceActs (writeActs (write :: writes) ++ rest) =
          deviceActs (writeActs writes ++ rest) + 1 := rfl
      rw [turn, ih, List.length_cons]
      omega

/-- Acts are all done when the device can serve their calls; `can dev n` says
that the next `n` calls on `dev` work. -/
theorem performAll_can {D : Type} [BlockDevice D] [LawfulBlockDevice D] (can : D → Nat → Prop)
    (write : ∀ dev n b buf, can dev (n + 1) → b < (image dev).blockCount →
      buf.length = (image dev).blockSize →
      ∃ dev', BlockDevice.writeBlock b buf dev = (.ok (), dev') ∧ can dev' n)
    (flush : ∀ dev n, can dev (n + 1) → ∃ dev', BlockDevice.flush dev = (.ok (), dev') ∧ can dev' n)
    {acts : List Act} {r : Replica D} (valid : ValidActs (image r.dev) acts)
    (able : can r.dev (deviceActs acts)) : (performAll acts r).1 = .ok () := by
  induction acts generalizing r with
  | nil => rfl
  | cons act rest ih =>
      -- The first act succeeds and leaves a device that can serve the others.
      have first : ∃ r', act.perform r = (.ok (), r') ∧
          (image r'.dev).blockCount = (image r.dev).blockCount ∧
          (image r'.dev).blockSize = (image r.dev).blockSize ∧ can r'.dev (deviceActs rest) := by
        cases act with
        | write b buf =>
            rcases valid (b, buf) List.mem_cons_self with ⟨inside, sized⟩
            rcases write r.dev _ b buf able inside sized with ⟨dev', wrote, ableLater⟩
            have stored := LawfulBlockDevice.writeBlock_ok r.dev dev' b buf inside sized wrote
            refine ⟨{ r with dev := dev' }, ?_, ?_, ?_, ableLater⟩
            · rw [Act.perform, Replica.onDevice, Proc.zoom_apply, wrote]
            · rw [stored, MemDevice.blockCount_set]
            · rw [stored, MemDevice.blockSize_set]
        | flush =>
            rcases flush r.dev _ able with ⟨dev', flushed, ableLater⟩
            have stored := LawfulBlockDevice.flush_image r.dev
            rw [flushed] at stored
            refine ⟨{ r with dev := dev' }, ?_, congrArg _ stored, congrArg _ stored, ableLater⟩
            rw [Act.perform, Replica.onDevice, Proc.zoom_apply, flushed]
        | enter entry => exact ⟨_, rfl, rfl, rfl, able⟩
        | forget key => exact ⟨_, rfl, rfl, rfl, able⟩
      rcases first with ⟨r', ran, count, size, ableLater⟩
      rw [performAll, Proc.bind_ok ran]
      exact ih (valid.rest size count) ableLater

/-- What acts leave on a device without errors. -/
theorem performAll_reliable {D : Type} [BlockDevice D] [ReliableBlockDevice D] {acts : List Act}
    {r : Replica D} (valid : ValidActs (image r.dev) acts) :
    ∃ r', performAll acts r = (.ok (), r') ∧
      image r'.dev = (image r.dev).apply (writesOf acts) ∧ r'.index = indexAfter acts r.index := by
  have finished : (performAll acts r).1 = .ok () := by
    apply performAll_can (fun _ _ => True) _ _ valid trivial
    · intro dev n b buf _ inside sized
      exact ⟨_, Prod.ext (ReliableBlockDevice.writeBlock_total dev b buf inside sized) rfl, trivial⟩
    · intro dev n _
      exact ⟨_, Prod.ext (ReliableBlockDevice.flush_total dev) rfl, trivial⟩
  rcases performed : performAll acts r with ⟨result, r'⟩
  rw [performed] at finished
  cases finished
  rcases performAll_ok valid performed with ⟨img, index, _⟩
  exact ⟨r', rfl, img, index⟩

/-! ## Put and delete -/

/-- The index names complete records, one for each key. -/
structure Indexed (img : MemDevice) (index : MemIndex) : Prop where
  large : 36 ≤ img.blockSize
  mounted : u8At (img.block 0) 0 = blockTypeStorageHeader
  complete : ∀ s e, index.lookup s = some e → ∃ rec, RecordAt img e.descriptorBlock rec
  distinct : ∀ s s' e e', index.lookup s = some e → index.lookup s' = some e' →
    e.descriptorBlock = e'.descriptorBlock → s = s'

/-- The blocks of the record the index names for a key. -/
def indexedBlocks (img : MemDevice) (index : MemIndex) (s : Bytes) : Option (List Nat) :=
  (index.get s).bind fun e => (recordAt img e.descriptorBlock).map CompleteRecord.blocks

def newEntry (key : Bytes) (generation d : Nat) (value : Bytes) : IndexEntry where
  key := fromUtf8Lossy key
  generation := generation
  descriptorBlock := d
  totalSize := asU32 value.length

def eraseActs (blocks : List Nat) (free : Bytes) : List Act :=
  writeActs (erasures blocks free) ++ [.flush]

/-- Release what the index held before. -/
def releaseActs (old : Option (List Nat)) (free : Bytes) : List Act :=
  match old with
  | none => []
  | some blocks => eraseActs blocks free

/-- Write, flush, index, release: the copy-on-write order of a put. -/
def putActs (img : MemDevice) (old : Option (List Nat)) (d : Nat) (chunks : List Nat)
    (key : Bytes) (generation : Nat) (value : Bytes) (userFlags : UInt32) (pattern : UInt8) :
    List Act :=
  writeActs (recordWrites img.blockSize d chunks key generation value userFlags) ++
    .flush :: .enter (newEntry key generation d value) ::
      releaseActs old (makeFreeBuf img.blockSize pattern)

/-- The acts of a put that enters the given index entry. -/
def storeActs (img : MemDevice) (entry : IndexEntry) (old : Option (List Nat)) (d : Nat)
    (chunks : List Nat) (key : Bytes) (generation : Nat) (value : Bytes) (userFlags : UInt32)
    (pattern : UInt8) : List Act :=
  writeActs (recordWrites img.blockSize d chunks key generation value userFlags) ++
    .flush :: .enter entry :: releaseActs old (makeFreeBuf img.blockSize pattern)

def deleteActs (img : MemDevice) (s : Bytes) (blocks : List Nat) (pattern : UInt8) : List Act :=
  writeActs (erasures blocks (makeFreeBuf img.blockSize pattern)) ++ [.flush, .forget s]

theorem indexedBlocks_of_record {img : MemDevice} {index : MemIndex} {s : Bytes} {e : IndexEntry}
    {rec : CompleteRecord} (found : index.lookup s = some e)
    (record : RecordAt img e.descriptorBlock rec) :
    indexedBlocks img index s = some rec.blocks := by
  have got : index.get s = some e := found
  rw [indexedBlocks, got, Option.bind_some, recordAt_eq_some.mpr record, Option.map_some]

/-- No block of a record is free. -/
theorem record_not_free {img : MemDevice} {d c : Nat} {rec : CompleteRecord}
    (record : RecordAt img d rec) (member : c ∈ rec.blocks) : ¬IsFree (img.block c) := by
  unfold IsFree
  rcases record.block_type member with descriptor | chunk
  · rw [descriptor]
    decide
  · rw [chunk]
    decide

/-- The blocks a put allocates are on the device, distinct, free and enough. -/
theorem allocated {img : MemDevice} {d : Nat} {chunks : List Nat} {key value : Bytes}
    (keyFits : key.length + 36 ≤ img.blockSize)
    (room : blocksFor img.blockSize key.length (asU32 value.length) ≤ (freeBlocks img).length)
    (taken : (freeBlocks img).take (blocksFor img.blockSize key.length (asU32 value.length)) =
      d :: chunks) :
    Fits img d chunks key value ∧ ∀ c ∈ d :: chunks, c ∈ freeBlocks img := by
  have among : ∀ c ∈ d :: chunks, c ∈ freeBlocks img := by
    intro c member
    rw [← taken] at member
    exact List.mem_of_mem_take member
  refine ⟨⟨keyFits, fun c member => (mem_freeBlocks.mp (among c member)).1.2, ?_, ?_⟩, among⟩
  · rw [← taken]
    exact (freeBlocks_nodup img).sublist (List.take_sublist _ _)
  · rw [← taken, List.length_take]
    omega

theorem recordWrites_valid {img : MemDevice} {d : Nat} {chunks : List Nat} {key value : Bytes}
    (placed : Placed img d chunks key) {generation : Nat} {userFlags : UInt32}
    {write : Nat × Bytes}
    (member : write ∈ recordWrites img.blockSize d chunks key generation value userFlags) :
    write.1 < img.blockCount ∧ write.2.length = img.blockSize := by
  have place := List.mem_map_of_mem (f := Prod.fst) member
  rw [recordWrites_blocks] at place
  exact ⟨placed.inside _ place, (recordWrites_view placed member).1⟩

theorem erasures_valid {img : MemDevice} {blocks : List Nat} {pattern : UInt8}
    (inside : ∀ c ∈ blocks, c < img.blockCount) {write : Nat × Bytes}
    (member : write ∈ erasures blocks (makeFreeBuf img.blockSize pattern)) :
    write.1 < img.blockCount ∧ write.2.length = img.blockSize := by
  obtain ⟨c, block, rfl⟩ := List.mem_map.mp member
  exact ⟨inside c block, List.length_replicate⟩

/-- A record away from the free blocks is not touched by what is written there. -/
theorem record_after_writes {img : MemDevice} {d d' : Nat} {chunks : List Nat} {key value : Bytes}
    {rec : CompleteRecord} (record : RecordAt img d' rec)
    (among : ∀ c ∈ d :: chunks, c ∈ freeBlocks img) (generation : Nat) (userFlags : UInt32) :
    RecordAt (img.apply (recordWrites img.blockSize d chunks key generation value userFlags)) d'
      rec := by
  apply record.congr (MemDevice.blockCount_apply _ _)
  intro c member
  apply MemDevice.block_apply_other
  rw [recordWrites_blocks]
  intro allocated
  exact record_not_free record member (mem_freeBlocks.mp (among c allocated)).2

section
variable {D : Type} [BlockDevice D] [LawfulBlockDevice D]

omit [BlockDevice D] [LawfulBlockDevice D] in
theorem onDevice_ok {α : Type} {inner : Proc Failure D α} {r : Replica D} {dev : D} {value : α}
    (ran : inner r.dev = (.ok value, dev)) :
    Replica.onDevice inner r = (.ok value, { r with dev := dev }) := by
  rw [Replica.onDevice, Proc.zoom_apply, ran]

/-- Releasing a complete record performs the release acts. -/
theorem release_performs {r : Replica D} {d : Nat} {rec : CompleteRecord} {blockSize : Nat}
    (pattern : UInt8) (large : 36 ≤ (image r.dev).blockSize)
    (size : (image r.dev).blockSize = blockSize) (record : RecordAt (image r.dev) d rec) :
    (do Replica.onDevice (Rust.freeRecord d pattern); Replica.onDevice BlockDevice.flush) r =
      performAll (eraseActs rec.blocks (makeFreeBuf blockSize pattern)) r := by
  subst size
  have freed : Replica.onDevice (Rust.freeRecord d pattern) r =
      performAll (writeActs (erasures rec.blocks (makeFreeBuf (image r.dev).blockSize pattern)))
        r := by
    rw [← onDevice_writeAll, Replica.onDevice, Proc.zoom_apply, Proc.zoom_apply,
      rust_freeRecord r.dev pattern large record]
  rw [eraseActs, performAll_append, Proc.bind_first_congr freed]
  exact Proc.bind_congr_ok fun _ r' _ => (performAll_singleton .flush r').symm

/-- The entry a put makes under the string `s`. -/
def entryAs (s : Bytes) (generation d : Nat) (value : Bytes) : IndexEntry where
  key := s
  generation := generation
  descriptorBlock := d
  totalSize := asU32 value.length

/-- The put of both implementations on one replica. They differ in the string
the index knows the key by. -/
def storeAs (s key value : Bytes) (generation : Nat) (userFlags : UInt32) (pattern : UInt8) :
    Proc Failure (Replica D) Unit := do
  let r ← Proc.get
  let blockSize := BlockDevice.blockSize r.dev
  let free ← Replica.onDevice
    (Rust.findFreeBlocks (blocksFor blockSize key.length (asU32 value.length)))
  match free with
  | [] => Proc.fail .panic
  | d :: chunks => do
    Replica.onDevice (writeAll (recordWrites blockSize d chunks key generation value userFlags))
    Replica.onDevice BlockDevice.flush
    Replica.putIndex (entryAs s generation d value)
    match r.index.get s with
    | none => pure ()
    | some old => do
      Replica.onDevice (Rust.freeRecord old.descriptorBlock pattern)
      Replica.onDevice BlockDevice.flush

theorem findFree_ok {r : Replica D} {n : Nat} (large : 36 ≤ (image r.dev).blockSize)
    (room : n ≤ (freeBlocks (image r.dev)).length) :
    Replica.onDevice (Rust.findFreeBlocks n) r = (.ok ((freeBlocks (image r.dev)).take n), r) := by
  have found := rust_findFreeBlocks r.dev large n
  rw [if_pos room] at found
  exact onDevice_ok found

theorem findFree_full {r : Replica D} {n : Nat} (large : 36 ≤ (image r.dev).blockSize)
    (full : (freeBlocks (image r.dev)).length < n) :
    Replica.onDevice (Rust.findFreeBlocks n) r = (.error (.err .storageFull), r) := by
  have found := rust_findFreeBlocks r.dev large n
  rw [if_neg (by omega)] at found
  rw [Replica.onDevice, Proc.zoom_apply, found]

theorem storeAs_full {r : Replica D} {key value : Bytes} (large : 36 ≤ (image r.dev).blockSize)
    (full : (freeBlocks (image r.dev)).length <
      blocksFor (image r.dev).blockSize key.length (asU32 value.length))
    (s : Bytes) (generation : Nat) (userFlags : UInt32) (pattern : UInt8) :
    storeAs s key value generation userFlags pattern r = (.error (.err .storageFull), r) := by
  rw [storeAs, Proc.get_bind_apply, LawfulBlockDevice.blockSize_eq]
  exact Proc.bind_error (findFree_full large full) _

/-- A key longer than a block that passes the check is refused before anything is
written: for want of room, or by unwinding. -/
theorem rust_replicaPut_cut (build : Rust.Build) {r : Replica D} {key : Bytes}
    (passes : asU32 key.length + 36 ≤ (image r.dev).blockSize)
    (overlong : (image r.dev).blockSize < key.length) (value : Bytes) (generation : Nat)
    (userFlags : UInt32) (pattern : UInt8) :
    Rust.replicaPut build key value generation userFlags pattern r =
      (.error (if (freeBlocks (image r.dev)).length <
          blocksFor (image r.dev).blockSize (asU32 key.length) (asU32 value.length)
        then .err .storageFull else .panic), r) := by
  have large : 36 ≤ (image r.dev).blockSize := by omega
  rw [Rust.replicaPut, Proc.get_bind_apply, LawfulBlockDevice.blockSize_eq,
    rust_neededBlocks_cut build passes (image r.dev).size_lt, Proc.ofExcept_ok_bind_apply]
  by_cases full : (freeBlocks (image r.dev)).length <
      blocksFor (image r.dev).blockSize (asU32 key.length) (asU32 value.length)
  · rw [if_pos full, Proc.bind_error (findFree_full large full)]
  · rw [if_neg full, Proc.bind_ok (findFree_ok large (Nat.le_of_not_lt full))]
    cases (freeBlocks (image r.dev)).take
      (blocksFor (image r.dev).blockSize (asU32 key.length) (asU32 value.length)) with
    | nil => rfl
    | cons d chunks =>
        have failed : Replica.onDevice
            (Rust.writeRecord build d chunks key generation value userFlags) r =
              (.error .panic, r) := by
          rw [Replica.onDevice, Proc.zoom_apply,
            rust_writeRecord_cut build r.dev d chunks passes overlong]
        simp only []
        rw [Proc.bind_error failed]

/-- A put with room performs its acts. -/
theorem storeAs_performs {r : Replica D} {s key value : Bytes} {d : Nat} {chunks : List Nat}
    (sound : Indexed (image r.dev) r.index)
    (keyFits : key.length + 36 ≤ (image r.dev).blockSize)
    (room : blocksFor (image r.dev).blockSize key.length (asU32 value.length) ≤
      (freeBlocks (image r.dev)).length)
    (taken : (freeBlocks (image r.dev)).take
      (blocksFor (image r.dev).blockSize key.length (asU32 value.length)) = d :: chunks)
    (generation : Nat) (userFlags : UInt32) (pattern : UInt8) :
    storeAs s key value generation userFlags pattern r =
      performAll (storeActs (image r.dev) (entryAs s generation d value)
        (indexedBlocks (image r.dev) r.index s) d chunks key generation value userFlags pattern)
        r := by
  rcases allocated keyFits room taken with ⟨fits, among⟩
  have found := findFree_ok sound.large room
  rw [taken] at found
  have written := onDevice_writeAll (recordWrites (image r.dev).blockSize d chunks key generation
    value userFlags) r
  rw [storeAs, Proc.get_bind_apply, LawfulBlockDevice.blockSize_eq, Proc.bind_ok found]
  simp only []
  rw [storeActs, performAll_append, Proc.bind_first_congr written]
  apply Proc.bind_congr_ok
  intro _ r1 wrote
  apply Proc.bind_congr_ok
  intro _ r2 flushed
  apply Proc.bind_congr_ok
  intro _ r3 entered
  have valid : ValidActs (image r.dev) (writeActs (recordWrites (image r.dev).blockSize d chunks
      key generation value userFlags)) := by
    intro write member
    rw [writesOf_writeActs] at member
    exact recordWrites_valid fits.placed member
  have imageNow : image r3.dev = (image r.dev).apply (recordWrites (image r.dev).blockSize d
      chunks key generation value userFlags) := by
    have afterWrites := (performAll_ok valid wrote).1
    have afterFlush := (perform_flush flushed).2.1
    have afterEntry : r2.dev = r3.dev := by
      cases entered
      rfl
    rw [← afterEntry, afterFlush, afterWrites, writesOf_writeActs]
  cases existing : r.index.get s with
  | none =>
      simp only [indexedBlocks, existing, Option.bind_none]
      rfl
  | some e =>
      rcases sound.complete _ e existing with ⟨rec, record⟩
      have size : (image r3.dev).blockSize = (image r.dev).blockSize := by
        rw [imageNow, MemDevice.blockSize_apply]
      have still : RecordAt (image r3.dev) e.descriptorBlock rec := by
        rw [imageNow]
        exact record_after_writes record among generation userFlags
      rw [indexedBlocks_of_record existing record]
      exact release_performs pattern (by rw [size]; exact sound.large) size still

/-- The Rust put is that put under the decoded key, whatever the index says. -/
theorem rust_replicaPut_storeAs (build : Rust.Build) {r : Replica D} {key : Bytes}
    (keyFits : key.length + 36 ≤ (image r.dev).blockSize) (value : Bytes) (generation : Nat)
    (userFlags : UInt32) (pattern : UInt8) :
    Rust.replicaPut build key value generation userFlags pattern r =
      storeAs (fromUtf8Lossy key) key value generation userFlags pattern r := by
  have large : 36 ≤ (image r.dev).blockSize := by omega
  rw [Rust.replicaPut, storeAs, Proc.get_bind_apply, Proc.get_bind_apply,
    LawfulBlockDevice.blockSize_eq, rust_neededBlocks build keyFits (image r.dev).size_lt,
    Proc.ofExcept_ok_bind_apply]
  by_cases room : blocksFor (image r.dev).blockSize key.length (asU32 value.length) ≤
      (freeBlocks (image r.dev)).length
  · rw [Proc.bind_ok (findFree_ok large room), Proc.bind_ok (findFree_ok large room)]
    cases taken : (freeBlocks (image r.dev)).take
      (blocksFor (image r.dev).blockSize key.length (asU32 value.length)) with
    | nil => rfl
    | cons d chunks =>
        have written : Replica.onDevice
            (Rust.writeRecord build d chunks key generation value userFlags) r =
              Replica.onDevice (writeAll (recordWrites (image r.dev).blockSize d chunks key
                generation value userFlags)) r := by
          rw [Replica.onDevice, Proc.zoom_apply, Proc.zoom_apply,
            rust_writeRecord build r.dev (allocated keyFits room taken).1.placed]
        simp only []
        rw [Proc.bind_first_congr written]
        cases r.index.get (fromUtf8Lossy key) with
        | none => rfl
        | some old => rfl
  · rw [Proc.bind_error (findFree_full large (by omega)),
      Proc.bind_error (findFree_full large (by omega))]

/-- A put that finds no room changes nothing. -/
theorem rust_replicaPut_full (build : Rust.Build) {r : Replica D} {key value : Bytes}
    (large : 36 ≤ (image r.dev).blockSize) (keyFits : key.length + 36 ≤ (image r.dev).blockSize)
    (full : (freeBlocks (image r.dev)).length <
      blocksFor (image r.dev).blockSize key.length (asU32 value.length))
    (generation : Nat) (userFlags : UInt32) (pattern : UInt8) :
    Rust.replicaPut build key value generation userFlags pattern r =
      (.error (.err .storageFull), r) := by
  rw [rust_replicaPut_storeAs build keyFits]
  exact storeAs_full large full _ _ _ _

theorem rust_replicaPut (build : Rust.Build) {r : Replica D} {key value : Bytes} {d : Nat}
    {chunks : List Nat} (sound : Indexed (image r.dev) r.index)
    (keyFits : key.length + 36 ≤ (image r.dev).blockSize)
    (room : blocksFor (image r.dev).blockSize key.length (asU32 value.length) ≤
      (freeBlocks (image r.dev)).length)
    (taken : (freeBlocks (image r.dev)).take
      (blocksFor (image r.dev).blockSize key.length (asU32 value.length)) = d :: chunks)
    (generation : Nat) (userFlags : UInt32) (pattern : UInt8) :
    Rust.replicaPut build key value generation userFlags pattern r =
      performAll (putActs (image r.dev)
        (indexedBlocks (image r.dev) r.index (fromUtf8Lossy key)) d chunks key generation value
          userFlags pattern) r := by
  rw [rust_replicaPut_storeAs build keyFits]
  exact storeAs_performs sound keyFits room taken generation userFlags pattern

/-- A delete of an indexed key performs its acts. -/
theorem rust_deleteReplica {r : Replica D} {s : Bytes} {e : IndexEntry} {rec : CompleteRecord}
    (sound : Indexed (image r.dev) r.index) (found : r.index.lookup s = some e)
    (record : RecordAt (image r.dev) e.descriptorBlock rec) (pattern : UInt8) (seen : Bool) :
    Rust.deleteReplica s pattern seen r =
      (do performAll (deleteActs (image r.dev) s rec.blocks pattern); pure true) r := by
  have got : r.index.get s = some e := found
  have freed : Replica.onDevice (Rust.freeRecord e.descriptorBlock pattern) r =
      performAll (writeActs (erasures rec.blocks (makeFreeBuf (image r.dev).blockSize pattern)))
        r := by
    rw [← onDevice_writeAll, Replica.onDevice, Proc.zoom_apply, Proc.zoom_apply,
      rust_freeRecord r.dev pattern sound.large record]
  rw [Rust.deleteReplica, Proc.get_bind_apply, got]
  rw [deleteActs, Proc.bind_first_congr (performAll_append _ _ r), Proc.bind_assoc_apply]
  simp only []
  rw [Proc.bind_first_congr freed]
  apply Proc.bind_congr_ok
  intro _ r1 _
  rw [performAll, Proc.bind_assoc_apply]
  rfl

omit [LawfulBlockDevice D] in
/-- A key that is not indexed is left alone. -/
theorem rust_deleteReplica_absent {r : Replica D} {s : Bytes} (absent : r.index.lookup s = none)
    (pattern : UInt8) (seen : Bool) : Rust.deleteReplica s pattern seen r = (.ok seen, r) := by
  have got : r.index.get s = none := absent
  rw [Rust.deleteReplica, Proc.get_bind_apply, got]
  rfl

/-! ## Get -/

theorem rust_getWithGeneration (build : Rust.Build) {r : Replica D} {key : Bytes} {e : IndexEntry}
    {rec : CompleteRecord} (large : 36 ≤ (image r.dev).blockSize)
    (found : r.index.lookup (fromUtf8Lossy key) = some e)
    (record : RecordAt (image r.dev) e.descriptorBlock rec) :
    Rust.getWithGeneration build key r = (.ok (some (.ok (e.generation, rec.value))), r) := by
  have got : r.index.get (fromUtf8Lossy key) = some e := found
  have read := rust_verifyAndReadRecord build r.dev e.descriptorBlock large record.inside
  rw [recordAt_eq_some.mpr record] at read
  simp only [Rust.getWithGeneration, got, read]

omit [LawfulBlockDevice D] in
theorem rust_getWithGeneration_absent (build : Rust.Build) {r : Replica D} {key : Bytes}
    (absent : r.index.lookup (fromUtf8Lossy key) = none) :
    Rust.getWithGeneration build key r = (.ok none, r) := by
  have got : r.index.get (fromUtf8Lossy key) = none := absent
  simp only [Rust.getWithGeneration, got]

end

end Embedkv.Plan
