import Embedkv.Session

/-!
# What an operation writes

A put writes the blocks of its record, all of them free before, and then the
blocks of the record it replaces; a delete writes the blocks of the record it
removes; a recovery writes blocks outside every selected record. Nothing else on
the device changes. The records of `Outcome` say what becomes of the records,
these say what becomes of every block.
-/

namespace Embedkv.Frame

open Embedkv.Lib Embedkv.Format Embedkv.Device Embedkv.State Embedkv.Record Embedkv.Erase
open Embedkv.Layout Embedkv.Effects Embedkv.Plan Embedkv.Transition Embedkv.Outcome Embedkv.Session

set_option autoImplicit false

/-- `after` is `before` with some blocks overwritten by the free pattern. -/
structure EraseBlocks (before after : MemDevice) (old : List Nat) (pattern : UInt8) : Prop where
  keeps : Keeps before after
  erased : ∀ c ∈ old, after.block c = makeFreeBuf before.blockSize pattern
  other : ∀ c, c ∉ old → after.block c = before.block c

/-- `after` is `before` with a record written to free blocks and some blocks
overwritten by the free pattern. -/
structure PutBlocks (before after : MemDevice) (new : CompleteRecord) (old : List Nat)
    (pattern : UInt8) : Prop where
  keeps : Keeps before after
  written : RecordAt after new.descriptorBlock new
  fresh : ∀ c ∈ new.blocks, c ∈ freeBlocks before
  erased : ∀ c ∈ old, after.block c = makeFreeBuf before.blockSize pattern
  other : ∀ c, c ∉ new.blocks → c ∉ old → after.block c = before.block c

section
variable {img : MemDevice} {index : MemIndex} {s key value : Bytes} {d generation : Nat}
  {chunks : List Nat} {userFlags : UInt32} {pattern : UInt8}

/-- Erasing the blocks the index names for a string, whether it names any or not. -/
theorem eraseBlocks_indexed (sound : Indexed img index) (s : Bytes) (pattern : UInt8) :
    EraseBlocks img (img.apply (erasures ((indexedBlocks img index s).getD [])
      (makeFreeBuf img.blockSize pattern))) ((indexedBlocks img index s).getD []) pattern where
  keeps := by
    apply keeps_apply
    rw [erasures_blocks]
    intro member
    rcases indexedBlocks_mem sound member with ⟨e, rec, _, record, inside⟩
    exact record_not_header record sound.mounted inside
  erased c member := by
    rcases indexedBlocks_mem sound member with ⟨e, rec, found, record, _⟩
    rw [indexedBlocks_of_record found record] at member ⊢
    exact block_erased record List.length_replicate member
  other c outside := by
    apply MemDevice.block_apply_other
    rwa [erasures_blocks]

/-- Writing a record to free blocks does not touch block 0. -/
theorem keeps_written (among : ∀ c ∈ d :: chunks, c ∈ freeBlocks img) (key value : Bytes)
    (generation : Nat) (userFlags : UInt32) :
    Keeps img (img.apply (recordWrites img.blockSize d chunks key generation value userFlags)) := by
  apply keeps_apply
  rw [recordWrites_blocks]
  intro member
  exact absurd (mem_freeBlocks.mp (among 0 member)).1.1 (by decide)

/-- Writing a record to free blocks leaves the indexed records to be erased. -/
theorem indexed_written (sound : Indexed img index)
    (among : ∀ c ∈ d :: chunks, c ∈ freeBlocks img) (s key value : Bytes) (generation : Nat)
    (userFlags : UInt32) :
    Indexed (img.apply (recordWrites img.blockSize d chunks key generation value userFlags))
        index ∧
      indexedBlocks (img.apply (recordWrites img.blockSize d chunks key generation value
        userFlags)) index s = indexedBlocks img index s := by
  have kept := keeps_written among key value generation userFlags
  constructor
  · refine ⟨?_, ?_, ?_, sound.distinct⟩
    · rw [kept.size]
      exact sound.large
    · rw [kept.header]
      exact sound.mounted
    · intro name e found
      rcases sound.complete name e found with ⟨rec, record⟩
      exact ⟨rec, record_after_writes record among generation userFlags⟩
  · rcases Option.eq_none_or_eq_some (index.lookup s) with absent | ⟨e, found⟩
    · have got : index.get s = none := absent
      rw [indexedBlocks, indexedBlocks, got]
      rfl
    · rcases sound.complete s e found with ⟨rec, record⟩
      rw [indexedBlocks_of_record found record, indexedBlocks_of_record found
        (record_after_writes record among generation userFlags)]

/-- No block of an indexed record is free. -/
theorem indexedBlocks_not_free (sound : Indexed img index) {c : Nat}
    (member : c ∈ (indexedBlocks img index s).getD []) : c ∉ freeBlocks img := by
  rcases indexedBlocks_mem sound member with ⟨e, rec, _, record, inside⟩
  intro free
  exact record_not_free record inside (mem_freeBlocks.mp free).2

/-- The blocks after all the writes of a put. -/
theorem putBlocks_written (sound : Indexed img index) {new : CompleteRecord}
    (among : ∀ c ∈ d :: chunks, c ∈ freeBlocks img) (blocks : new.blocks = d :: chunks)
    (record : RecordAt (img.apply (recordWrites img.blockSize d chunks key generation value
      userFlags)) d new) :
    PutBlocks img (img.apply (recordWrites img.blockSize d chunks key generation value userFlags ++
      erasures ((indexedBlocks img index s).getD []) (makeFreeBuf img.blockSize pattern))) new
      ((indexedBlocks img index s).getD []) pattern := by
  have place := record.descriptorBlock_eq
  rcases indexed_written sound among s key value generation userFlags with ⟨sound', same⟩
  have kept := keeps_written among key value generation userFlags
  have erase := eraseBlocks_indexed sound' s pattern
  rw [same, kept.size] at erase
  rw [MemDevice.apply_append]
  refine ⟨kept.trans erase.keeps, ?_, ?_, ?_, ?_⟩
  · rw [place]
    apply record.congr erase.keeps.count
    intro c member
    apply erase.other
    intro old
    rw [blocks] at member
    exact indexedBlocks_not_free sound old (among c member)
  · rwa [blocks]
  · intro c member
    have erased := erase.erased c member
    rwa [kept.size] at erased
  · intro c outside released
    rw [erase.other c released]
    apply MemDevice.block_apply_other
    rwa [recordWrites_blocks, ← blocks]

end

section
variable {D : Type} [BlockDevice D] [LawfulBlockDevice D]

/-- What a put that reports success has done to its replica. -/
structure PutDone (s key value : Bytes) (generation : Nat) (pattern : UInt8) (new : CompleteRecord)
    (r r' : Replica D) : Prop where
  keyFits : key.length + 36 ≤ (image r.dev).blockSize
  added : Added (image r.dev) key value generation new
  blocks : PutBlocks (image r.dev) (image r'.dev) new
    ((indexedBlocks (image r.dev) r.index s).getD []) pattern
  records : recordAt (image r'.dev) = release ((r.index.get s).map IndexEntry.descriptorBlock)
    (Function.update (recordAt (image r.dev)) new.descriptorBlock (some new))
  index : r'.index = r.index.put (entryAs s generation new.descriptorBlock value)

/-- What a delete that found its key has done to its replica. -/
structure DeleteDone (s : Bytes) (e : IndexEntry) (pattern : UInt8) (rec : CompleteRecord)
    (r r' : Replica D) : Prop where
  found : r.index.lookup s = some e
  record : RecordAt (image r.dev) e.descriptorBlock rec
  blocks : EraseBlocks (image r.dev) (image r'.dev) rec.blocks pattern
  records : recordAt (image r'.dev) =
    Function.update (recordAt (image r.dev)) e.descriptorBlock none
  index : r'.index = r.index.delete s

theorem storeAs_done {r r' : Replica D} {s key value : Bytes} {generation : Nat}
    {userFlags : UInt32} {pattern : UInt8} (sound : Indexed (image r.dev) r.index)
    (keyFits : key.length + 36 ≤ (image r.dev).blockSize)
    (ran : storeAs s key value generation userFlags pattern r = (.ok (), r')) :
    ∃ new, PutDone s key value generation pattern new r r' := by
  by_cases room : blocksFor (image r.dev).blockSize key.length (asU32 value.length) ≤
      (freeBlocks (image r.dev)).length
  · obtain ⟨d, chunks, new, taken, fits, among, rfl, added, record⟩ :=
      put_allocates keyFits room generation userFlags
    rw [storeAs_performs sound keyFits room taken] at ran
    obtain ⟨ended, _⟩ := performAll_ended (store_writes sound fits) ran
    obtain ⟨image', _⟩ := performAll_ok (store_writes sound fits) ran
    have named : (entryAs s generation new.descriptorBlock value).key = s := rfl
    have finished := (store_ended sound fits among record (by rw [named]; exact ended)).ok
    have blocks : new.blocks = new.descriptorBlock :: chunks := by
      obtain ⟨written, wrote, chained, _⟩ := record_written fits generation userFlags
      rw [recordAt_unique record wrote, wrote.blocks_eq, chained, wrote.descriptorBlock_eq]
    rw [writesOf_storeActs] at image'
    refine ⟨new, keyFits, added, ?_, finished.1, finished.2⟩
    rw [image']
    exact putBlocks_written sound among blocks record
  · rw [storeAs_full sound.large (by omega)] at ran
    cases ran

theorem deleteReplica_done {r r' : Replica D} {s : Bytes} {e : IndexEntry} {pattern : UInt8}
    {seen : Bool} (sound : Indexed (image r.dev) r.index) (found : r.index.lookup s = some e)
    (ran : Rust.deleteReplica s pattern seen r = (.ok true, r')) :
    ∃ rec, DeleteDone s e pattern rec r r' := by
  obtain ⟨rec, record⟩ := sound.complete s e found
  rcases deleteReplica_outcome sound found ran with ⟨⟨failed, _⟩ | ⟨_, index, gone⟩, _⟩
  · cases failed
  · rw [rust_deleteReplica sound found record] at ran
    rcases performed : performAll (deleteActs (image r.dev) s rec.blocks pattern) r with
      ⟨outcome, after⟩
    cases outcome with
    | error failure =>
        rw [Proc.bind_error performed] at ran
        cases ran
    | ok =>
        rw [Proc.bind_ok performed] at ran
        cases ran
        obtain ⟨image', _⟩ := performAll_ok (delete_writes record s pattern) performed
        have erase := eraseBlocks_indexed sound s pattern
        rw [indexedBlocks_of_record found record, Option.getD_some] at erase
        rw [writesOf_deleteActs] at image'
        rw [← image'] at erase
        exact ⟨rec, found, record, erase, gone, index⟩

variable {matching : Bytes → IndexEntry → CompleteRecord → Prop} {r r' : Replica D} {s : Bytes}
  {pattern : UInt8}

theorem PutDone.sound {key value : Bytes} {generation : Nat} {new : CompleteRecord}
    (done : PutDone s key value generation pattern new r r') (sound : Sound matching r)
    (matched : matching s (entryAs s generation new.descriptorBlock value) new) :
    Sound matching r' := by
  apply sound.of_keeps done.blocks.keeps
  let entry := entryAs s generation new.descriptorBlock value
  have ended : PutEnd (recordAt (image r.dev)) r.index entry new
      ((r.index.get entry.key).map IndexEntry.descriptorBlock) (.ok ()) _ _ := .finished
  rw [done.records, done.index]
  exact sound.index.putEnd done.added.fresh rfl matched ended

theorem DeleteDone.sound {e : IndexEntry} {rec : CompleteRecord}
    (done : DeleteDone s e pattern rec r r') (sound : Sound matching r) : Sound matching r' := by
  apply sound.of_keeps done.blocks.keeps
  rw [done.records, done.index]
  exact sound.index.delete done.found

end

section
variable {D : Type} [BlockDevice D] [ReliableBlockDevice D]

/-- Without device errors a put is refused for want of room or done. -/
theorem storeAs_reliable {r : Replica D} {s key value : Bytes} (generation : Nat)
    (userFlags : UInt32) (pattern : UInt8) (sound : Indexed (image r.dev) r.index)
    (keyFits : key.length + 36 ≤ (image r.dev).blockSize) :
    (storeAs s key value generation userFlags pattern r = (.error (.err .storageFull), r) ∧
        (freeBlocks (image r.dev)).length <
          blocksFor (image r.dev).blockSize key.length (asU32 value.length)) ∨
      blocksFor (image r.dev).blockSize key.length (asU32 value.length) ≤
          (freeBlocks (image r.dev)).length ∧
        ∃ r' new, storeAs s key value generation userFlags pattern r = (.ok (), r') ∧
          PutDone s key value generation pattern new r r' := by
  by_cases room : blocksFor (image r.dev).blockSize key.length (asU32 value.length) ≤
      (freeBlocks (image r.dev)).length
  · right
    obtain ⟨d, chunks, new, taken, fits, _⟩ := put_allocates keyFits room generation userFlags
    obtain ⟨r', performed, _⟩ := performAll_reliable (r := r) (store_writes sound fits)
    rw [← storeAs_performs sound keyFits room taken] at performed
    obtain ⟨new, done⟩ := storeAs_done sound keyFits performed
    exact ⟨room, r', new, performed, done⟩
  · left
    exact ⟨storeAs_full sound.large (by omega) s generation userFlags pattern, by omega⟩

/-- Without device errors a delete of an indexed key is done. -/
theorem deleteReplica_reliable {r : Replica D} {s : Bytes} {e : IndexEntry} (pattern : UInt8)
    (sound : Indexed (image r.dev) r.index) (found : r.index.lookup s = some e) :
    ∃ r' rec, (∀ seen, Rust.deleteReplica s pattern seen r = (.ok true, r')) ∧
      DeleteDone s e pattern rec r r' := by
  obtain ⟨rec, record⟩ := sound.complete s e found
  obtain ⟨r', performed, _⟩ := performAll_reliable (r := r) (delete_writes record s pattern)
  have ran : ∀ seen, Rust.deleteReplica s pattern seen r = (.ok true, r') := by
    intro seen
    rw [rust_deleteReplica sound found record, Proc.bind_ok performed]
    rfl
  obtain ⟨rec', done⟩ := deleteReplica_done sound found (ran false)
  exact ⟨r', rec', ran, done⟩

end

end Embedkv.Frame
