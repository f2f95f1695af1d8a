import Embedkv.Transition

/-!
# Outcomes of put and delete

Where a put or a delete can end on a lawful device, told in terms of the
records of the image and of the index. A put writes its record, indexes it and
releases the record it replaces; it can fail before any of the three, and the
effects up to that point stay.
-/

namespace Embedkv.Outcome

open Embedkv.Lib Embedkv.Format Embedkv.Device Embedkv.State Embedkv.Image
open Embedkv.Record Embedkv.Erase Embedkv.Layout Embedkv.Effects Embedkv.Plan Embedkv.Transition

set_option autoImplicit false

/-! ## Ends of act lists -/

section
variable {img img' : MemDevice} {index index' : MemIndex} {result : Except Failure Unit}

theorem ended_nil (ended : Ended [] img index result img' index') :
    result = .ok () ∧ img' = img ∧ index' = index := by
  cases ended with
  | done => exact ⟨rfl, rfl, rfl⟩
  | failed before act rest split => simp at split

theorem ended_cons {act : Act} {rest : List Act}
    (ended : Ended (act :: rest) img index result img' index') :
    (result = .error (.err .io) ∧ index' = index ∧
        (act = .flush ∨ ∃ b buf, act = .write b buf) ∧
          (img' = img ∨ img' = img.apply (writesOf [act]))) ∨
      Ended rest (img.apply (writesOf [act])) (indexAfter [act] index) result img' index' := by
  have writes (acts : List Act) :
      img.apply (writesOf (act :: acts)) = (img.apply (writesOf [act])).apply (writesOf acts) := by
    rw [← MemDevice.apply_append, ← writesOf_append, List.singleton_append]
  have indexes (acts : List Act) :
      indexAfter (act :: acts) index = indexAfter acts (indexAfter [act] index) := by
    rw [← indexAfter_append, List.singleton_append]
  cases ended with
  | done =>
      rw [writes, indexes]
      exact .inr .done
  | failed before next after split device applied =>
      cases before with
      | nil =>
          obtain ⟨rfl, rfl⟩ := List.cons.inj split
          left
          refine ⟨rfl, rfl, device, ?_⟩
          cases applied with
          | true => exact .inr rfl
          | false => exact .inl rfl
      | cons first earlier =>
          obtain ⟨rfl, rfl⟩ := List.cons.inj split
          right
          have shape : (if applied = true then act :: earlier ++ [next] else act :: earlier) =
              act :: (if applied = true then earlier ++ [next] else earlier) := by
            cases applied <;> rfl
          rw [shape, writes (if applied = true then earlier ++ [next] else earlier), indexes earlier]
          exact .failed earlier next after rfl device applied

theorem ended_flush {rest : List Act} (ended : Ended (.flush :: rest) img index result img' index') :
    (result = .error (.err .io) ∧ index' = index ∧ img' = img) ∨
      Ended rest img index result img' index' := by
  rcases ended_cons ended with ⟨failed, same, _, kept | kept⟩ | later
  · exact .inl ⟨failed, same, kept⟩
  · exact .inl ⟨failed, same, kept⟩
  · exact .inr later

theorem ended_enter {entry : IndexEntry} {rest : List Act}
    (ended : Ended (.enter entry :: rest) img index result img' index') :
    Ended rest img (index.put entry) result img' index' := by
  rcases ended_cons ended with ⟨_, _, device, _⟩ | later
  · rcases device with flush | ⟨b, buf, write⟩
    · cases flush
    · cases write
  · exact later

theorem ended_forget {key : Bytes} {rest : List Act}
    (ended : Ended (.forget key :: rest) img index result img' index') :
    Ended rest img (index.delete key) result img' index' := by
  rcases ended_cons ended with ⟨_, _, device, _⟩ | later
  · rcases device with flush | ⟨b, buf, write⟩
    · cases flush
    · cases write
  · exact later

/-- A run of writes stops after some of them, or all are done. -/
theorem ended_writes {writes : List (Nat × Bytes)} {rest : List Act}
    (ended : Ended (writeActs writes ++ rest) img index result img' index') :
    (result = .error (.err .io) ∧ index' = index ∧
        ∃ part, (∀ write ∈ part, write ∈ writes) ∧ img' = img.apply part) ∨
      Ended rest (img.apply writes) index result img' index' := by
  induction writes generalizing img with
  | nil => exact .inr ended
  | cons write writes ih =>
      rcases ended_cons ended with ⟨failed, same, _, kept | changed⟩ | later
      · exact .inl ⟨failed, same, [], by simp, kept⟩
      · exact .inl ⟨failed, same, [write], by simp, changed⟩
      · rcases ih later with ⟨failed, same, part, among, applied⟩ | finished
        · left
          refine ⟨failed, same, write :: part, ?_, applied⟩
          intro other member
          rcases List.mem_cons.mp member with rfl | inRest
          · exact List.mem_cons_self
          · exact List.mem_cons_of_mem _ (among other inRest)
        · exact .inr finished

/-- What every run leaves of an image whose block 0 it does not write. -/
structure Keeps (img img' : MemDevice) : Prop where
  size : img'.blockSize = img.blockSize
  count : img'.blockCount = img.blockCount
  header : img'.block 0 = img.block 0

theorem keeps_refl (img : MemDevice) : Keeps img img := ⟨rfl, rfl, rfl⟩

theorem Keeps.trans {first second third : MemDevice} (here : Keeps first second)
    (there : Keeps second third) : Keeps first third :=
  ⟨there.size.trans here.size, there.count.trans here.count, there.header.trans here.header⟩

theorem keeps_apply {writes : List (Nat × Bytes)} (away : 0 ∉ writes.map Prod.fst) :
    Keeps img (img.apply writes) :=
  ⟨MemDevice.blockSize_apply .., MemDevice.blockCount_apply .., img.block_apply_other writes 0 away⟩

theorem ended_keeps {acts : List Act} (ended : Ended acts img index result img' index')
    (away : 0 ∉ (writesOf acts).map Prod.fst) : Keeps img img' := by
  cases ended with
  | done => exact keeps_apply away
  | failed before act rest split device applied =>
      apply keeps_apply
      intro touched
      apply away
      rw [split, writesOf_append, List.map_append, List.mem_append]
      cases applied with
      | false => exact .inl touched
      | true =>
          simp only [if_true] at touched
          rw [writesOf_append, List.map_append, List.mem_append] at touched
          rcases touched with earlier | here
          · exact .inl earlier
          · right
            rw [← List.singleton_append, writesOf_append, List.map_append, List.mem_append]
            exact .inl here

end

/-! ## Put -/

/-- The record a put adds. -/
structure Added (img : MemDevice) (key value : Bytes) (generation : Nat) (new : CompleteRecord) :
    Prop where
  first : (freeBlocks img).head? = some new.descriptorBlock
  generation_eq : new.generation = generation % 2 ^ 32
  contents : key.length ≤ 65535 → new.key = key ∧ new.value = value.take (asU32 value.length)
  total : new.header.totalSize.toNat = asU32 new.value.length
  counted : new.blocks.length = blocksFor img.blockSize key.length (asU32 value.length)

theorem Added.free {img : MemDevice} {key value : Bytes} {generation : Nat}
    {new : CompleteRecord} (added : Added img key value generation new) :
    new.descriptorBlock ∈ freeBlocks img := List.mem_of_mem_head? added.first

/-- A free block is no record. -/
theorem Added.fresh {img : MemDevice} {key value : Bytes} {generation : Nat}
    {new : CompleteRecord} (added : Added img key value generation new) :
    recordAt img new.descriptorBlock = none := by
  rw [recordAt_eq_none]
  intro rec record
  apply record_not_free record _ (mem_freeBlocks.mp added.free).2
  rw [record.blocks_eq]
  exact List.mem_cons_self

/-- Take away the record at a descriptor block, if one is named. -/
def release (old : Option Nat) (recs : Nat → Option CompleteRecord) : Nat → Option CompleteRecord :=
  match old with
  | none => recs
  | some d => Function.update recs d none

/-- Where a put can end: before its record is complete, before it is indexed,
before the old record is destroyed, before the last flush, or at its end. -/
inductive PutEnd (recs : Nat → Option CompleteRecord) (index : MemIndex) (entry : IndexEntry)
    (new : CompleteRecord) (old : Option Nat) :
    Except Failure Unit → (Nat → Option CompleteRecord) → MemIndex → Prop
  | unwritten : PutEnd recs index entry new old (.error (.err .io)) recs index
  | unindexed : PutEnd recs index entry new old (.error (.err .io))
      (Function.update recs new.descriptorBlock (some new)) index
  | unreleased : PutEnd recs index entry new old (.error (.err .io))
      (Function.update recs new.descriptorBlock (some new)) (index.put entry)
  | unflushed : PutEnd recs index entry new old (.error (.err .io))
      (release old (Function.update recs new.descriptorBlock (some new))) (index.put entry)
  | finished : PutEnd recs index entry new old (.ok ())
      (release old (Function.update recs new.descriptorBlock (some new))) (index.put entry)

section
variable {recs recs' : Nat → Option CompleteRecord} {index index' : MemIndex} {entry : IndexEntry}
  {new : CompleteRecord} {old : Option Nat} {result : Except Failure Unit}

theorem release_eq_some {d : Nat} {rec : CompleteRecord} (present : release old recs d = some rec) :
    recs d = some rec := by
  cases old with
  | none => exact present
  | some b =>
      by_cases same : d = b
      · subst same
        rw [release, Function.update_self] at present
        cases present
      · rwa [release, Function.update_of_ne same] at present

theorem release_other {d : Nat} (different : old ≠ some d) : release old recs d = recs d := by
  cases old with
  | none => rfl
  | some b =>
      exact Function.update_of_ne (fun same => different (by rw [same])) _ _

theorem update_eq_some {d : Nat} {rec : CompleteRecord}
    (present : Function.update recs new.descriptorBlock (some new) d = some rec) :
    recs d = some rec ∨ d = new.descriptorBlock ∧ rec = new := by
  by_cases same : d = new.descriptorBlock
  · subst same
    rw [Function.update_self] at present
    cases present
    exact .inr ⟨rfl, rfl⟩
  · rw [Function.update_of_ne same] at present
    exact .inl present

/-- A put that reports success did all three. -/
theorem PutEnd.ok (ended : PutEnd recs index entry new old (.ok ()) recs' index') :
    recs' = release old (Function.update recs new.descriptorBlock (some new)) ∧
      index' = index.put entry := by
  cases ended
  exact ⟨rfl, rfl⟩

/-- A put brings no record but its own. -/
theorem PutEnd.origin (ended : PutEnd recs index entry new old result recs' index') {d : Nat}
    {rec : CompleteRecord} (present : recs' d = some rec) :
    recs d = some rec ∨ d = new.descriptorBlock ∧ rec = new := by
  cases ended with
  | unwritten => exact .inl present
  | unindexed => exact update_eq_some present
  | unreleased => exact update_eq_some present
  | unflushed => exact update_eq_some (release_eq_some present)
  | finished => exact update_eq_some (release_eq_some present)

/-- A put takes no record away but the one it replaces. -/
theorem PutEnd.kept (ended : PutEnd recs index entry new old result recs' index')
    (fresh : recs new.descriptorBlock = none) {d : Nat} {rec : CompleteRecord}
    (present : recs d = some rec) (different : old ≠ some d) : recs' d = some rec := by
  have apart : d ≠ new.descriptorBlock := by
    intro same
    rw [same, fresh] at present
    cases present
  cases ended with
  | unwritten => exact present
  | unindexed => rwa [Function.update_of_ne apart]
  | unreleased => rwa [Function.update_of_ne apart]
  | unflushed => rwa [release_other different, Function.update_of_ne apart]
  | finished => rwa [release_other different, Function.update_of_ne apart]

end

theorem record_not_header {img : MemDevice} {d : Nat} {rec : CompleteRecord}
    (record : RecordAt img d rec) (mounted : u8At (img.block 0) 0 = blockTypeStorageHeader) :
    0 ∉ rec.blocks := by
  intro member
  rcases record.block_type member with descriptor | chunk
  · rw [mounted] at descriptor
    exact absurd descriptor (by decide)
  · rw [mounted] at chunk
    exact absurd chunk (by decide)

/-- The ends of the acts that erase a record. -/
theorem erase_ended {img img' : MemDevice} {index index' : MemIndex} {result : Except Failure Unit}
    {d : Nat} {rec : CompleteRecord} {free : Bytes} {rest : List Act}
    (record : RecordAt img d rec) (inert : Inert free) (sized : free.length = img.blockSize)
    (ended : Ended (writeActs (erasures rec.blocks free) ++ rest) img index result img' index') :
    (result = .error (.err .io) ∧ index' = index ∧
        (recordAt img' = recordAt img ∨ recordAt img' = Function.update (recordAt img) d none)) ∨
      ∃ erased, recordAt erased = Function.update (recordAt img) d none ∧
        Ended rest erased index result img' index' := by
  rcases ended_writes ended with ⟨failed, same, part, among, rfl⟩ | later
  · exact .inl ⟨failed, same, recordAt_damage record (erasures_damage inert among)⟩
  · exact .inr ⟨_, recordAt_erased record inert sized, later⟩

section
variable {img img' : MemDevice} {index index' : MemIndex} {entry : IndexEntry} {key value : Bytes}
  {d generation : Nat} {chunks : List Nat} {userFlags : UInt32} {pattern : UInt8}

/-- The ends of the acts of a put, on blocks that were free. -/
theorem store_ended {result : Except Failure Unit} {new : CompleteRecord}
    (sound : Indexed img index) (fits : Fits img d chunks key value)
    (among : ∀ c ∈ d :: chunks, c ∈ freeBlocks img)
    (record : RecordAt (img.apply (recordWrites img.blockSize d chunks key generation value
      userFlags)) d new)
    (ended : Ended (storeActs img entry (indexedBlocks img index entry.key) d chunks key
      generation value userFlags pattern) img index result img' index') :
    PutEnd (recordAt img) index entry new
      ((index.get entry.key).map IndexEntry.descriptorBlock) result (recordAt img') index' := by
  have inert : ∀ c ∈ d :: chunks, Inert (img.block c) := fun c member =>
    inert_of_free (mem_freeBlocks.mp (among c member)).2
  have added : recordAt (img.apply (recordWrites img.blockSize d chunks key generation value
      userFlags)) = Function.update (recordAt img) new.descriptorBlock (some new) := by
    rw [record.descriptorBlock_eq]
    exact recordAt_written fits inert record
  -- First the writes, then the flush that makes them durable.
  rcases ended_writes ended with ⟨rfl, rfl, part, among', rfl⟩ | later
  · rcases recordAt_blend fits inert ((Blend.refl _ img).apply among') with full | same
    · rw [full, added]
      exact .unindexed
    · rw [same]
      exact .unwritten
  rcases ended_flush later with ⟨rfl, rfl, rfl⟩ | later
  · rw [added]
    exact .unindexed
  have released := ended_enter later
  cases existing : index.get entry.key with
  | none =>
      simp only [indexedBlocks, existing, Option.bind_none, releaseActs] at released
      obtain ⟨rfl, rfl, rfl⟩ := ended_nil released
      rw [added]
      exact .finished
  | some e =>
      obtain ⟨rec, old⟩ := sound.complete _ e existing
      have still : RecordAt (img.apply (recordWrites img.blockSize d chunks key generation value
          userFlags)) e.descriptorBlock rec := record_after_writes old among generation userFlags
      have large := sound.large
      rw [indexedBlocks_of_record existing old] at released
      rcases erase_ended still (inert_makeFreeBuf (by omega) pattern)
        (by rw [MemDevice.blockSize_apply]; exact List.length_replicate) released with
        ⟨rfl, rfl, same | gone⟩ | ⟨erased, gone, later⟩
      · rw [same, added]
        exact .unreleased
      · rw [gone, added]
        exact .unflushed
      · rcases ended_flush later with ⟨rfl, rfl, rfl⟩ | later
        · rw [gone, added]
          exact .unflushed
        · obtain ⟨rfl, rfl, rfl⟩ := ended_nil later
          rw [gone, added]
          exact .finished

theorem put_ended {result : Except Failure Unit} {new : CompleteRecord} (sound : Indexed img index)
    (fits : Fits img d chunks key value) (among : ∀ c ∈ d :: chunks, c ∈ freeBlocks img)
    (record : RecordAt (img.apply (recordWrites img.blockSize d chunks key generation value
      userFlags)) d new)
    (ended : Ended (putActs img (indexedBlocks img index (fromUtf8Lossy key)) d chunks key
      generation value userFlags pattern) img index result img' index') :
    PutEnd (recordAt img) index (newEntry key generation d value) new
      ((index.get (fromUtf8Lossy key)).map IndexEntry.descriptorBlock) result (recordAt img')
      index' := store_ended sound fits among record ended

/-- A put writes its record and then erases the one it replaces. -/
theorem writesOf_storeActs (old : Option (List Nat)) :
    writesOf (storeActs img entry old d chunks key generation value userFlags pattern) =
      recordWrites img.blockSize d chunks key generation value userFlags ++
        erasures (old.getD []) (makeFreeBuf img.blockSize pattern) := by
  rw [storeActs, writesOf_append, writesOf_writeActs]
  congr 1
  cases old with
  | none => rfl
  | some blocks =>
      change writesOf (writeActs _ ++ [.flush]) = _
      rw [writesOf_append, writesOf_writeActs]
      exact List.append_nil _

/-- The blocks of an indexed record are those of a complete record. -/
theorem indexedBlocks_mem (sound : Indexed img index) {s : Bytes} {c : Nat}
    (member : c ∈ (indexedBlocks img index s).getD []) :
    ∃ e rec, index.lookup s = some e ∧ RecordAt img e.descriptorBlock rec ∧ c ∈ rec.blocks := by
  rcases Option.eq_none_or_eq_some (index.lookup s) with absent | ⟨e, found⟩
  · have got : index.get s = none := absent
    rw [indexedBlocks, got] at member
    cases member
  · rcases sound.complete s e found with ⟨rec, record⟩
    rw [indexedBlocks_of_record found record] at member
    exact ⟨e, rec, found, record, member⟩

theorem store_writes (sound : Indexed img index) (fits : Fits img d chunks key value) {s : Bytes} :
    ValidActs img (storeActs img entry (indexedBlocks img index s) d chunks key generation value
      userFlags pattern) := by
  intro write member
  rw [writesOf_storeActs, List.mem_append] at member
  rcases member with new | old
  · exact recordWrites_valid fits.placed new
  · apply erasures_valid _ old
    intro c inside
    rcases indexedBlocks_mem sound inside with ⟨e, rec, _, record, here⟩
    exact record.blocks_inside here

theorem store_keeps_header (sound : Indexed img index)
    (among : ∀ c ∈ d :: chunks, c ∈ freeBlocks img) {s : Bytes} :
    0 ∉ (writesOf (storeActs img entry (indexedBlocks img index s) d chunks key generation value
      userFlags pattern)).map Prod.fst := by
  intro member
  rw [writesOf_storeActs, List.map_append, recordWrites_blocks, erasures_blocks,
    List.mem_append] at member
  rcases member with new | old
  · exact absurd (mem_freeBlocks.mp (among 0 new)).1.1 (by decide)
  · rcases indexedBlocks_mem sound old with ⟨e, rec, _, record, here⟩
    exact record_not_header record sound.mounted here

theorem put_writes (sound : Indexed img index) (fits : Fits img d chunks key value) :
    ValidActs img (putActs img (indexedBlocks img index (fromUtf8Lossy key)) d chunks key
      generation value userFlags pattern) := store_writes sound fits

theorem put_keeps_header (sound : Indexed img index)
    (among : ∀ c ∈ d :: chunks, c ∈ freeBlocks img) :
    0 ∉ (writesOf (putActs img (indexedBlocks img index (fromUtf8Lossy key)) d chunks key
      generation value userFlags pattern)).map Prod.fst := store_keeps_header sound among

end

theorem writesOf_deleteActs (img : MemDevice) (rec : CompleteRecord) (s : Bytes) (pattern : UInt8) :
    writesOf (deleteActs img s rec.blocks pattern) =
      erasures rec.blocks (makeFreeBuf img.blockSize pattern) := by
  rw [deleteActs, writesOf_append, writesOf_writeActs]
  exact List.append_nil _

theorem delete_writes {img : MemDevice} {d : Nat} {rec : CompleteRecord}
    (record : RecordAt img d rec) (s : Bytes) (pattern : UInt8) :
    ValidActs img (deleteActs img s rec.blocks pattern) := by
  intro write member
  rw [writesOf_deleteActs] at member
  exact erasures_valid (fun c inside => record.blocks_inside inside) member

theorem delete_keeps_header {img : MemDevice} {d : Nat} {rec : CompleteRecord}
    (record : RecordAt img d rec) (mounted : u8At (img.block 0) 0 = blockTypeStorageHeader)
    (s : Bytes) (pattern : UInt8) :
    0 ∉ (writesOf (deleteActs img s rec.blocks pattern)).map Prod.fst := by
  rw [writesOf_deleteActs, erasures_blocks]
  exact record_not_header record mounted

/-- The allocation of a put with room, and the record it is about to write. -/
theorem put_allocates {img : MemDevice} {key value : Bytes}
    (keyFits : key.length + 36 ≤ img.blockSize)
    (room : blocksFor img.blockSize key.length (asU32 value.length) ≤ (freeBlocks img).length)
    (generation : Nat) (userFlags : UInt32) :
    ∃ d chunks new, (freeBlocks img).take
        (blocksFor img.blockSize key.length (asU32 value.length)) = d :: chunks ∧
      Fits img d chunks key value ∧ (∀ c ∈ d :: chunks, c ∈ freeBlocks img) ∧
      new.descriptorBlock = d ∧ Added img key value generation new ∧
      RecordAt (img.apply (recordWrites img.blockSize d chunks key generation value userFlags)) d
        new := by
  have positive := blocksFor_pos img.blockSize key.length (asU32 value.length)
  have length : ((freeBlocks img).take (blocksFor img.blockSize key.length
      (asU32 value.length))).length = blocksFor img.blockSize key.length (asU32 value.length) := by
    rw [List.length_take]
    omega
  cases taken : (freeBlocks img).take (blocksFor img.blockSize key.length
    (asU32 value.length)) with
  | nil =>
      rw [taken, List.length_nil] at length
      omega
  | cons d chunks =>
      obtain ⟨fits, among⟩ := allocated keyFits room taken
      obtain ⟨new, record, chained, generations, contents⟩ :=
        record_written fits generation userFlags
      have place := record.descriptorBlock_eq
      refine ⟨d, chunks, new, rfl, fits, among, place,
        ⟨?_, generations, contents, record.total, ?_⟩, record⟩
      · have first := congrArg List.head? taken
        rw [List.head?_take, if_neg (by omega)] at first
        rw [first, place]
        rfl
      · rw [record.blocks_eq, chained, fits.counted]

section
variable {D : Type} [BlockDevice D] [LawfulBlockDevice D]

/-- Where a put on one replica can end. -/
theorem storeAs_outcome {r r' : Replica D} {s key value : Bytes} {generation : Nat}
    {userFlags : UInt32} {pattern : UInt8} {result : Except Failure Unit}
    (sound : Indexed (image r.dev) r.index) (keyFits : key.length + 36 ≤ (image r.dev).blockSize)
    (ran : storeAs s key value generation userFlags pattern r = (result, r')) :
    (result = .error (.err .storageFull) ∧ r' = r ∧ (freeBlocks (image r.dev)).length <
        blocksFor (image r.dev).blockSize key.length (asU32 value.length)) ∨
      ∃ new, Added (image r.dev) key value generation new ∧
        PutEnd (recordAt (image r.dev)) r.index (entryAs s generation new.descriptorBlock value)
          new ((r.index.get s).map IndexEntry.descriptorBlock) result (recordAt (image r'.dev))
          r'.index ∧
        Keeps (image r.dev) (image r'.dev) ∧ r'.header = r.header := by
  by_cases room : blocksFor (image r.dev).blockSize key.length (asU32 value.length) ≤
      (freeBlocks (image r.dev)).length
  · right
    obtain ⟨d, chunks, new, taken, fits, among, rfl, added, record⟩ :=
      put_allocates keyFits room generation userFlags
    rw [storeAs_performs sound keyFits room taken] at ran
    obtain ⟨ended, header⟩ := performAll_ended (store_writes sound fits) ran
    have named : (entryAs s generation new.descriptorBlock value).key = s := rfl
    exact ⟨new, added, store_ended sound fits among record (by rw [named]; exact ended),
      ended_keeps ended (store_keeps_header sound among), header⟩
  · left
    rw [storeAs_full sound.large (by omega)] at ran
    cases ran
    exact ⟨rfl, rfl, by omega⟩

theorem replicaPut_outcome {build : Rust.Build} {r r' : Replica D} {key value : Bytes}
    {generation : Nat} {userFlags : UInt32} {pattern : UInt8} {result : Except Failure Unit}
    (sound : Indexed (image r.dev) r.index) (keyFits : key.length + 36 ≤ (image r.dev).blockSize)
    (ran : Rust.replicaPut build key value generation userFlags pattern r = (result, r')) :
    (result = .error (.err .storageFull) ∧ r' = r ∧ (freeBlocks (image r.dev)).length <
        blocksFor (image r.dev).blockSize key.length (asU32 value.length)) ∨
      ∃ new, Added (image r.dev) key value generation new ∧
        PutEnd (recordAt (image r.dev)) r.index (newEntry key generation new.descriptorBlock value)
          new ((r.index.get (fromUtf8Lossy key)).map IndexEntry.descriptorBlock) result
          (recordAt (image r'.dev)) r'.index ∧
        Keeps (image r.dev) (image r'.dev) ∧ r'.header = r.header := by
  rw [rust_replicaPut_storeAs build keyFits] at ran
  exact storeAs_outcome sound keyFits ran

/-- Where a delete of an indexed record can end. -/
theorem deleteReplica_outcome {r r' : Replica D} {s : Bytes} {e : IndexEntry} {pattern : UInt8}
    {seen : Bool} {result : Except Failure Bool} (sound : Indexed (image r.dev) r.index)
    (found : r.index.lookup s = some e)
    (ran : Rust.deleteReplica s pattern seen r = (result, r')) :
    (result = .error (.err .io) ∧ r'.index = r.index ∧
          (recordAt (image r'.dev) = recordAt (image r.dev) ∨ recordAt (image r'.dev) =
            Function.update (recordAt (image r.dev)) e.descriptorBlock none) ∨
        result = .ok true ∧ r'.index = r.index.delete s ∧ recordAt (image r'.dev) =
          Function.update (recordAt (image r.dev)) e.descriptorBlock none) ∧
      Keeps (image r.dev) (image r'.dev) ∧ r'.header = r.header := by
  obtain ⟨rec, record⟩ := sound.complete s e found
  have large := sound.large
  rw [rust_deleteReplica sound found record] at ran
  rcases performed : performAll (deleteActs (image r.dev) s rec.blocks pattern) r with
    ⟨outcome, after⟩
  obtain ⟨ended, header⟩ := performAll_ended (delete_writes record s pattern) performed
  have kept := ended_keeps ended (delete_keeps_header record sound.mounted s pattern)
  have inert := inert_makeFreeBuf (show 2 ≤ (image r.dev).blockSize by omega) pattern
  cases outcome with
  | error failure =>
      rw [Proc.bind_error performed] at ran
      cases ran
      refine ⟨.inl ?_, kept, header⟩
      rcases erase_ended record inert List.length_replicate ended with
        ⟨failed, same, effect⟩ | ⟨erased, gone, later⟩
      · exact ⟨congrArg _ (Except.error.inj failed), same, effect⟩
      · rcases ended_flush later with ⟨failed, same, left⟩ | later
        · rw [left]
          exact ⟨congrArg _ (Except.error.inj failed), same, .inr gone⟩
        · cases (ended_nil (ended_forget later)).1
  | ok =>
      rw [Proc.bind_ok performed] at ran
      cases ran
      refine ⟨.inr ?_, kept, header⟩
      rcases erase_ended record inert List.length_replicate ended with
        ⟨failed, _⟩ | ⟨erased, gone, later⟩
      · cases failed
      · rcases ended_flush later with ⟨failed, _⟩ | later
        · cases failed
        · obtain ⟨_, left, forgotten⟩ := ended_nil (ended_forget later)
          rw [left]
          exact ⟨rfl, forgotten, gone⟩

end

end Embedkv.Outcome
