import Embedkv.Cache
import Embedkv.Steady

/-!
# One replica when the power goes

What a medium reads as after a reopening is its table: the generation and the
value of the best record of every key. A put or a delete moves the table of its
replica from one state to the next. Cut at any point, with any of its unflushed
writes lost, kept or torn, it leaves a medium with the one table or the other,
and with the next one as soon as a flush of it has completed. A recovery leaves
the table as it is, finished or cut.
-/

namespace Embedkv.Cut

open Embedkv.Lib Embedkv.Format Embedkv.Device Embedkv.State Embedkv.Image Embedkv.Record
open Embedkv.Erase Embedkv.Layout Embedkv.Effects Embedkv.Plan Embedkv.Transition Embedkv.Outcome
open Embedkv.Session Embedkv.Exact Embedkv.Steady Embedkv.Cache

set_option autoImplicit false

/-! ## Tables -/

/-- Generation and value by decoded key. -/
abbrev Table := Bytes → Option (Nat × Bytes)

def copyOf (rec : CompleteRecord) : Nat × Bytes := (rec.generation, rec.value)

def table (img : MemDevice) : Table := fun s =>
  ((Scan.bestOf fromUtf8Lossy img).lookup s).map copyOf

section
variable {img img' : MemDevice} {index : MemIndex}

theorem table_of_selected (same : ∀ s rec, Scan.Selected fromUtf8Lossy img' s rec ↔
    Scan.Selected fromUtf8Lossy img s rec) : table img' = table img := by
  funext s
  have lookups : (Scan.bestOf fromUtf8Lossy img').lookup s =
      (Scan.bestOf fromUtf8Lossy img).lookup s := by
    apply Option.ext
    intro rec
    rw [Scan.lookup_bestOf, Scan.lookup_bestOf]
    exact same s rec
  rw [table, table, lookups]

/-- The table depends on the records only. -/
theorem table_congr (header : recordAt img 0 = none) (same : recordAt img' = recordAt img) :
    table img' = table img := by
  apply table_of_selected
  intro s rec
  rw [selected_iff_leads header, selected_iff_leads (by rw [same]; exact header), same]

/-- Where the index names every record, it gives the table. -/
theorem table_whole (whole : Whole (recordAt img) index) (header : recordAt img 0 = none) :
    table img = contents copyOf (recordAt img) index := by
  funext s
  rw [whole.scan header, contents_scan]
  rfl

theorem table_present (whole : Whole (recordAt img) index) (header : recordAt img 0 = none)
    {d : Nat} {rec : CompleteRecord} (present : recordAt img d = some rec) :
    table img (fromUtf8Lossy rec.key) = some (copyOf rec) := by
  have best := Scan.lookup_bestOf.mpr ((selected_iff_leads header).mpr (whole.leads present))
  rw [table, best, Option.map_some]

/-- A new record of a higher generation takes over its key, the old one still
being there. -/
theorem table_added (whole : Whole (recordAt img) index) (header : recordAt img 0 = none)
    (header' : recordAt img' 0 = none) {new : CompleteRecord}
    (newer : ∀ copy, table img (fromUtf8Lossy new.key) = some copy → copy.1 < new.generation)
    (fresh : recordAt img new.descriptorBlock = none)
    (added : recordAt img' = Function.update (recordAt img) new.descriptorBlock (some new)) :
    table img' = Function.update (table img) (fromUtf8Lossy new.key) (some (copyOf new)) := by
  have here : recordAt img' new.descriptorBlock = some new := by
    rw [added, Function.update_self]
  have others : ∀ d rec, fromUtf8Lossy rec.key ≠ fromUtf8Lossy new.key →
      (recordAt img' d = some rec ↔ recordAt img d = some rec) := by
    intro d rec different
    rw [added]
    by_cases same : d = new.descriptorBlock
    · subst same
      rw [Function.update_self, fresh]
      constructor
      · intro mine
        cases mine
        exact absurd rfl different
      · intro nothing
        cases nothing
    · rw [Function.update_of_ne same]
  funext s
  by_cases mine : s = fromUtf8Lossy new.key
  · subst mine
    rw [Function.update_self]
    have leads : Leads fromUtf8Lossy (recordAt img') (fromUtf8Lossy new.key) new := by
      refine ⟨here, rfl, ?_⟩
      intro d other present named
      rw [added] at present
      rcases update_eq_some present with before | ⟨rfl, rfl⟩
      · left
        apply newer (copyOf other)
        rw [← named]
        exact table_present whole header before
      · exact .inr ⟨rfl, Nat.le_refl _⟩
    have best := Scan.lookup_bestOf.mpr ((selected_iff_leads header').mpr leads)
    rw [table, best, Option.map_some]
  · rw [Function.update_of_ne mine]
    have lookups : (Scan.bestOf fromUtf8Lossy img').lookup s =
        (Scan.bestOf fromUtf8Lossy img).lookup s := by
      apply Option.ext
      intro rec
      rw [Scan.lookup_bestOf, Scan.lookup_bestOf, selected_iff_leads header,
        selected_iff_leads header']
      constructor
      · intro leads
        apply leads.transfer
        intro d other named
        exact (others d other (by rw [named]; exact mine)).symm
      · intro leads
        apply leads.transfer
        intro d other named
        exact others d other (by rw [named]; exact mine)
    rw [table, table, lookups]

end

/-! ## Media a cut operation leaves -/

section
variable {img img' : MemDevice} {index : MemIndex} {part : List (Nat × Bytes)}

theorem erasures_away {blocks : List Nat} {free : Bytes}
    (within : ∀ write ∈ part, write ∈ erasures blocks free) (away : 0 ∉ blocks) :
    0 ∉ part.map Prod.fst := by
  intro touched
  rcases List.mem_map.mp touched with ⟨write, member, zero⟩
  rcases List.mem_map.mp (within write member) with ⟨c, block, rfl⟩
  exact away (zero ▸ block)

/-- A medium that lost no block but those of one record holds it or not. -/
theorem leaves_erasing (mountable : Mount.Mountable img) {d : Nat} {rec : CompleteRecord}
    {free : Bytes} (record : RecordAt img d rec) (inert : Inert free)
    (within : ∀ write ∈ part, write ∈ erasures rec.blocks free) (settles : Settles img part img') :
    Keeps img img' ∧
      (recordAt img' = recordAt img ∨ recordAt img' = Function.update (recordAt img) d none) := by
  refine ⟨settles.keeps (erasures_away within ?_),
    recordAt_damage record (settles.damage inert within)⟩
  exact record_not_header record mountable.type

/-- A medium that lost garbage only reads as before. -/
theorem leaves_sweeping {free : Bytes} (inert : Inert free)
    (within : ∀ write ∈ part, write ∈ erasures (Recovery.garbage fromUtf8Lossy img) free)
    (settles : Settles img part img') : Keeps img img' ∧ table img' = table img := by
  refine ⟨settles.keeps (erasures_away within ?_), ?_⟩
  · intro block
    exact absurd (Recovery.mem_garbage.mp block).1.1 (by decide)
  · apply table_of_selected
    apply Recovery.selected_of_damage (settles.damage inert within)
    intro s rec selected c member
    exact Recovery.garbage_not_selected selected member

variable {key value : Bytes} {d generation : Nat} {chunks : List Nat} {userFlags : UInt32}
  {new : CompleteRecord} (mountable : Mount.Mountable img) (whole : Whole (recordAt img) index)
  (fits : Fits img d chunks key value) (among : ∀ c ∈ d :: chunks, c ∈ freeBlocks img)
  (record : RecordAt (img.apply (recordWrites img.blockSize d chunks key generation value
    userFlags)) d new)
  (newer : ∀ copy, table img (fromUtf8Lossy new.key) = some copy → copy.1 < new.generation)

include among in
theorem keeps_written (within : ∀ write ∈ part,
      write ∈ recordWrites img.blockSize d chunks key generation value userFlags) :
    0 ∉ part.map Prod.fst := by
  intro touched
  rcases List.mem_map.mp touched with ⟨write, member, zero⟩
  have place : write.1 ∈ (recordWrites img.blockSize d chunks key generation value
      userFlags).map Prod.fst := List.mem_map_of_mem (within write member)
  rw [recordWrites_blocks, zero] at place
  exact absurd (mem_freeBlocks.mp (among 0 place)).1.1 (by decide)

include mountable whole fits among record newer

/-- The medium once the record of a put is complete. -/
theorem table_written :
    table (img.apply (recordWrites img.blockSize d chunks key generation value userFlags)) =
      Function.update (table img) (fromUtf8Lossy new.key) (some (copyOf new)) := by
  have inert : ∀ c ∈ d :: chunks, Inert (img.block c) := fun c member =>
    inert_of_free (mem_freeBlocks.mp (among c member)).2
  have place := record.descriptorBlock_eq
  have kept : Keeps img (img.apply (recordWrites img.blockSize d chunks key generation value
      userFlags)) := keeps_apply (keeps_written among fun _ member => member)
  apply table_added whole (recordAt_zero mountable)
    (recordAt_zero (mountable.congr kept.size kept.count kept.header)) newer
  · rw [place, recordAt_eq_none]
    intro rec before
    apply record_not_inert before _ (inert d List.mem_cons_self)
    rw [before.blocks_eq]
    exact List.mem_cons_self
  · rw [place]
    exact recordAt_written fits inert record

/-- A put cut before its first flush has stored its record or nothing. -/
theorem leaves_unflushed (settles : Settles img part img') (within : ∀ write ∈ part,
      write ∈ recordWrites img.blockSize d chunks key generation value userFlags) :
    Keeps img img' ∧ (table img' = Function.update (table img) (fromUtf8Lossy new.key)
      (some (copyOf new)) ∨ table img' = table img) := by
  refine ⟨settles.keeps (keeps_written among within), ?_⟩
  have inert : ∀ c ∈ d :: chunks, Inert (img.block c) := fun c member =>
    inert_of_free (mem_freeBlocks.mp (among c member)).2
  rcases recordAt_blend fits inert (settles.blend within) with full | same
  · left
    rw [full]
    exact table_written mountable whole fits among record newer
  · right
    exact table_congr (recordAt_zero mountable) same

/-- A put cut after its first flush has stored its record, whatever became of
the old one: the old one no longer leads. -/
theorem leaves_unreleased {d' : Nat} {rec : CompleteRecord} {free : Bytes}
    (old : RecordAt img d' rec) (named : fromUtf8Lossy rec.key = fromUtf8Lossy new.key)
    (inertFree : Inert free) (within : ∀ write ∈ part, write ∈ erasures rec.blocks free)
    (settles : Settles (img.apply (recordWrites img.blockSize d chunks key generation value
      userFlags)) part img') :
    Keeps img img' ∧ table img' =
      Function.update (table img) (fromUtf8Lossy new.key) (some (copyOf new)) := by
  have kept : Keeps img (img.apply (recordWrites img.blockSize d chunks key generation value
      userFlags)) := keeps_apply (keeps_written among fun _ member => member)
  have mountable' := mountable.congr kept.size kept.count kept.header
  have still : RecordAt (img.apply (recordWrites img.blockSize d chunks key generation value
      userFlags)) d' rec := record_after_writes old among generation userFlags
  refine ⟨kept.trans (leaves_erasing mountable' still inertFree within settles).1, ?_⟩
  rw [← table_written mountable whole fits among record newer]
  apply table_of_selected
  apply Recovery.selected_of_damage (settles.damage inertFree within)
  intro s best selected c member inside
  have place : best.descriptorBlock = d' := by
    by_contra apart
    exact records_disjoint selected.record still apart member inside
  have same : best = rec := by
    have there := selected.record
    rw [place] at there
    exact recordAt_unique there still
  subst same
  -- The new record outranks the old one, so the old one is not selected.
  have ranked : best.generation < new.generation := by
    apply newer (copyOf best)
    rw [← named]
    exact table_present whole (recordAt_zero mountable) (recordAt_eq_some.mpr old)
  have leads := (selected_iff_leads (recordAt_zero mountable')).mp selected
  rcases leads.leads d new (recordAt_eq_some.mpr record) (by rw [← named]; exact leads.named) with
    below | ⟨level, _⟩
  · omega
  · omega

/-- A put runs through, or stops at a point whose media read as before it or
after it. -/
theorem put_stops (large : 36 ≤ img.blockSize) (keyed : new.key = key) {pattern : UInt8}
    {done : List Act} {result : Except Failure Unit}
    (stops : Stops (putActs img (indexedBlocks img index (fromUtf8Lossy key)) d chunks key
      generation value userFlags pattern) done result)
    {dev : CachedDevice} (durable : dev.durable = img) (idle : dev.pending = []) :
    result = .ok () ∧ (cacheAfter done dev).pending = [] ∨
      result = .error (.err .io) ∧ ∀ img', Leaves (cacheAfter done dev) img' → Keeps img img' ∧
        (table img' = Function.update (table img) (fromUtf8Lossy new.key) (some (copyOf new)) ∨
          table img' = table img ∧ (cacheAfter done dev).flushes = dev.flushes) := by
  have mem : dev.mem = img := by rw [mem_idle idle, durable]
  rcases stops_flushed stops dev idle with ⟨failed, part, within, cached⟩ | ⟨later, onward, cached⟩
  · right
    refine ⟨failed, ?_⟩
    intro left leaves
    rw [cached] at leaves ⊢
    rw [Leaves, durable] at leaves
    rcases leaves_unflushed mountable whole fits among record newer leaves within with
      ⟨kept, stored | same⟩
    · exact ⟨kept, .inl stored⟩
    · exact ⟨kept, .inr ⟨same, rfl⟩⟩
  rcases stops_enter onward with ⟨last, rfl, ending⟩
  rw [mem] at cached
  cases existing : index.get (fromUtf8Lossy key) with
  | none =>
      rw [indexedBlocks, existing, Option.bind_none] at ending
      rcases stops_nil ending with ⟨finished, rfl⟩
      rw [cached]
      exact .inl ⟨finished, rfl⟩
  | some e =>
      rcases whole.entry existing with ⟨rec, present, named, _⟩
      have old := recordAt_eq_some.mp present
      rw [indexedBlocks_of_record existing old, releaseActs, eraseActs] at ending
      rcases stops_flushed ending { durable := img.apply (recordWrites img.blockSize d chunks key
          generation value userFlags), pending := [], flushes := dev.flushes + 1 } rfl with
        ⟨failed, part, within, erasing⟩ | ⟨rest, ended, erased⟩
      · right
        refine ⟨failed, ?_⟩
        intro left leaves
        rw [cached, cacheAfter, erasing, Leaves] at leaves
        simp only [] at leaves
        have inert := inert_makeFreeBuf (show 2 ≤ img.blockSize by omega) pattern
        have mine : fromUtf8Lossy rec.key = fromUtf8Lossy new.key := by rw [named, keyed]
        rcases leaves_unreleased mountable whole fits among record newer old mine inert within
          leaves with ⟨kept, stored⟩
        exact ⟨kept, .inl stored⟩
      · left
        rcases stops_nil ended with ⟨finished, rfl⟩
        refine ⟨finished, ?_⟩
        rw [cached, cacheAfter, erased]
        rfl

end

/-! ## Turns -/

section
variable {D : Type} [BlockDevice D] [BufferedDevice D]

/-- A settled replica with nothing left to flush. -/
structure Flushed (r : Replica D) : Prop where
  settled : Settled r
  idle : (cache r.dev).pending = []

/-- The replica has moved to a table, and nothing of it is left to flush. -/
structure Moved (target : Table) (r r' : Replica D) : Prop where
  flushed : Flushed r'
  kept : Keeps (image r.dev) (image r'.dev)
  reached : table (image r'.dev) = target

/-- How one replica's turn in an operation can end. The operation moves the
table to `target`; a turn that is cut leaves a medium with that table or, when
none of its flushes completed, possibly with the table from before. -/
inductive Turn {α : Type} (target : Table) (r : Replica D) : Except Failure α → Replica D → Prop
  | finished {value : α} {r' : Replica D} (moved : Moved target r r') : Turn target r (.ok value) r'
  | cut {r' : Replica D} (unserved : Unserved D)
      (leaves : ∀ img, Leaves (cache r'.dev) img → Keeps (image r.dev) img ∧
      (table img = target ∨
        table img = table (image r.dev) ∧ (cache r'.dev).flushes = (cache r.dev).flushes)) :
      Turn target r (.error (.err .io)) r'
  | refused {failure : Failure} (other : failure ≠ .err .io) : Turn target r (.error failure) r

variable {r r' : Replica D}

theorem Turn.of_error {α β : Type} {target : Table} {failure : Failure}
    (turn : Turn target r (.error failure : Except Failure α) r') :
    Turn target r (.error failure : Except Failure β) r' := by
  cases turn with
  | cut unserved leaves => exact .cut unserved leaves
  | refused other => exact .refused other

theorem Turn.of_ok {α : Type} {target : Table} {value : α}
    (turn : Turn target r (.ok value) r') : Moved target r r' := by
  cases turn with
  | finished moved => exact moved

theorem Flushed.durable (flushed : Flushed r) : image r.dev = (cache r.dev).durable := by
  rw [BufferedDevice.image_cache, mem_idle flushed.idle]

theorem Flushed.header (flushed : Flushed r) : recordAt (image r.dev) 0 = none :=
  recordAt_zero flushed.settled.mountable

theorem Flushed.table_eq (flushed : Flushed r) :
    table (image r.dev) = contents copyOf (recordAt (image r.dev)) r.index :=
  table_whole flushed.settled.whole flushed.header

/-- A put on one replica. -/
theorem put_turn {build : Rust.Build} {key value : Bytes} {generation : Nat} {userFlags : UInt32}
    {pattern : UInt8} {result : Except Failure Unit} (flushed : Flushed r)
    (allowed : Run.KeyAllowed key) (keyFits : key.length + 36 ≤ (image r.dev).blockSize)
    (bounded : value.length + (image r.dev).blockSize < 2 ^ 32) (small : generation < 2 ^ 32)
    (newer : ∀ copy, table (image r.dev) key = some copy → copy.1 < generation)
    (ran : Rust.replicaPut build key value generation userFlags pattern r = (result, r')) :
    Turn (Function.update (table (image r.dev)) key (some (generation, value))) r result r' := by
  have sound := flushed.settled.sound.indexed
  have large := flushed.settled.large
  have durable := flushed.durable
  by_cases room : blocksFor (image r.dev).blockSize key.length (asU32 value.length) ≤
      (freeBlocks (image r.dev)).length
  case neg =>
    rw [rust_replicaPut_full build large keyFits (by omega)] at ran
    cases ran
    exact .refused (by decide)
  rcases put_allocates keyFits room generation userFlags with
    ⟨d, chunks, new, taken, fits, among, rfl, added, record⟩
  rw [rust_replicaPut build sound keyFits room taken] at ran
  have valid : ValidActs (image r.dev) (putActs (image r.dev)
      (indexedBlocks (image r.dev) r.index (fromUtf8Lossy key)) new.descriptorBlock chunks key
      generation value userFlags pattern) := put_writes sound fits
  rcases Run.added_contents allowed bounded added with ⟨keyed, valued⟩
  have named : fromUtf8Lossy new.key = key := by rw [keyed, allowed.lossy]
  have numbered : new.generation = generation := by
    rw [added.generation_eq, Nat.mod_eq_of_lt small]
  have copied : (generation, value) = copyOf new := by rw [copyOf, numbered, valued]
  have ranked : ∀ copy, table (image r.dev) (fromUtf8Lossy new.key) = some copy →
      copy.1 < new.generation := by
    rw [named, numbered]
    exact newer
  rcases performAll_stops valid ran with ⟨done, stops, reached, failing⟩
  rcases put_stops flushed.settled.mountable flushed.settled.whole fits among record ranked large
    keyed stops durable.symm flushed.idle with ⟨rfl, idle⟩ | ⟨rfl, leaves⟩
  · rcases performAll_ended valid ran with ⟨ended, _⟩
    have kept := ended_keeps ended (put_keeps_header sound among)
    rcases (put_ended sound fits among record ended).ok with ⟨records, index⟩
    let entry := newEntry key generation new.descriptorBlock value
    have listed : Listed entry.key entry new := listed_added allowed.2 small added
    have settled : Settled r' := by
      apply flushed.settled.of_keeps kept
      rw [records, index]
      exact flushed.settled.whole.put added.fresh listed
    have after : Flushed r' := ⟨settled, by rw [reached]; exact idle⟩
    refine .finished ⟨after, kept, ?_⟩
    have entered : entry.key = key := allowed.lossy
    have moved := contents_put copyOf flushed.settled.whole added.fresh listed
    rw [entered, ← flushed.table_eq] at moved
    rw [after.table_eq, records, index, copied, allowed.lossy]
    exact moved
  · apply Turn.cut (failing fun ok => by cases ok)
    intro img left
    rw [reached] at left ⊢
    rw [copied, ← named]
    exact leaves img left

/-- A delete on one replica; a key that is not there is deleted already. -/
theorem delete_turn {s : Bytes} {pattern : UInt8} {seen : Bool} {result : Except Failure Bool}
    (flushed : Flushed r) (ran : Rust.deleteReplica s pattern seen r = (result, r')) :
    Turn (Function.update (table (image r.dev)) s none) r result r' := by
  rcases Option.eq_none_or_eq_some (r.index.lookup s) with absent | ⟨e, found⟩
  · rw [rust_deleteReplica_absent absent] at ran
    cases ran
    refine .finished ⟨flushed, keeps_refl _, ?_⟩
    rw [eq_comm, Function.update_eq_self_iff, flushed.table_eq, contents_absent absent]
  have sound := flushed.settled.sound.indexed
  have large := flushed.settled.large
  have header := flushed.header
  rcases sound.complete s e found with ⟨rec, record⟩
  have inert := inert_makeFreeBuf (show 2 ≤ (image r.dev).blockSize by omega) pattern
  rcases performed : performAll (deleteActs (image r.dev) s rec.blocks pattern) r with
    ⟨outcome, after⟩
  have outcomes := deleteReplica_outcome sound found ran
  rw [rust_deleteReplica sound found record] at ran
  rcases performAll_stops (delete_writes record s pattern) performed with
    ⟨done, stops, reached, failing⟩
  rcases stops_flushed stops (cache r.dev) flushed.idle with
    ⟨rfl, part, within, cached⟩ | ⟨later, onward, cached⟩
  · rw [Proc.bind_error performed] at ran
    cases ran
    apply Turn.cut (failing fun ok => by cases ok)
    intro img left
    rw [reached, cached] at left ⊢
    rw [Leaves, ← flushed.durable] at left
    rcases leaves_erasing flushed.settled.mountable record inert within left with
      ⟨kept, same | gone⟩
    · exact ⟨kept, .inr ⟨table_congr header same, rfl⟩⟩
    · refine ⟨kept, .inl ?_⟩
      have whole : Whole (recordAt img) (r.index.delete s) := by
        rw [gone]
        exact flushed.settled.whole.delete found
      have header' := recordAt_zero
        (flushed.settled.mountable.congr kept.size kept.count kept.header)
      rw [table_whole whole header', gone, flushed.table_eq]
      exact contents_delete copyOf flushed.settled.whole found
  · rcases stops_forget onward with ⟨last, rfl, ending⟩
    rcases stops_nil ending with ⟨rfl, rfl⟩
    rw [Proc.bind_ok performed] at ran
    cases ran
    rcases outcomes with ⟨⟨failed, _⟩ | ⟨_, index, gone⟩, kept, _⟩
    · cases failed
    have settled : Settled r' := by
      apply flushed.settled.of_keeps kept
      rw [gone, index]
      exact flushed.settled.whole.delete found
    have flushed' : Flushed r' := ⟨settled, by rw [reached, cached]; rfl⟩
    refine .finished ⟨flushed', kept, ?_⟩
    rw [flushed'.table_eq, gone, index, flushed.table_eq]
    exact contents_delete copyOf flushed.settled.whole found

/-! ## Recovery -/

/-- The acts of a recovery: it flushes only if it erased something. -/
def sweepActs (img : MemDevice) (pattern : UInt8) : List Act :=
  if Recovery.garbage fromUtf8Lossy img = [] then []
  else eraseActs (Recovery.garbage fromUtf8Lossy img) (makeFreeBuf img.blockSize pattern)

theorem recover_performs (build : Rust.Build) (pattern : UInt8)
    (large : 36 ≤ (image r.dev).blockSize) :
    Replica.onDevice (Rust.replicaRecover build pattern) r =
      performAll (sweepActs (image r.dev) pattern) r := by
  have swept : Replica.onDevice (Rust.replicaRecover build pattern) r =
      Replica.onDevice (Recovery.sweep fromUtf8Lossy pattern (image r.dev)) r := by
    rw [Replica.onDevice, Proc.zoom_apply, Proc.zoom_apply,
      Recovery.rust_replicaRecover build r.dev pattern large]
  rw [swept, sweepActs]
  by_cases clean : Recovery.garbage fromUtf8Lossy (image r.dev) = []
  · rw [if_pos clean, Replica.onDevice, Proc.zoom_apply,
      Recovery.sweep_clean fromUtf8Lossy pattern clean]
    rfl
  · rw [if_neg clean, Recovery.sweep, onDevice_bind, Proc.bind_first_congr (onDevice_writeAll _ r),
      eraseActs, performAll_append, if_neg (by rw [List.isEmpty_iff]; exact clean)]
    exact Proc.bind_congr_ok fun _ r' _ => (performAll_singleton .flush r').symm

theorem writesOf_sweepActs (img : MemDevice) (pattern : UInt8) :
    writesOf (sweepActs img pattern) =
      erasures (Recovery.garbage fromUtf8Lossy img) (makeFreeBuf img.blockSize pattern) := by
  rw [sweepActs]
  by_cases clean : Recovery.garbage fromUtf8Lossy img = []
  · rw [if_pos clean, clean]
    rfl
  · rw [if_neg clean, eraseActs, writesOf_append, writesOf_writeActs]
    exact List.append_nil _

theorem indexAfter_sweepActs (img : MemDevice) (pattern : UInt8) (index : MemIndex) :
    indexAfter (sweepActs img pattern) index = index := by
  rw [sweepActs]
  by_cases clean : Recovery.garbage fromUtf8Lossy img = []
  · rw [if_pos clean]
    rfl
  · rw [if_neg clean, eraseActs, indexAfter_append, indexAfter_writeActs]
    rfl

/-- A recovery runs through, or stops at a point whose media read as before. -/
theorem recover_ends {build : Rust.Build} {pattern : UInt8} {result : Except Failure Unit}
    (large : 36 ≤ (image r.dev).blockSize) (idle : (cache r.dev).pending = [])
    (ran : Replica.onDevice (Rust.replicaRecover build pattern) r = (result, r')) :
    (result = .ok () ∧ image r'.dev = Recovery.recovered fromUtf8Lossy (image r.dev) pattern ∧
        (cache r'.dev).pending = [] ∧ r'.index = r.index) ∨
      result = .error (.err .io) ∧ Unserved D ∧ ∀ img, Leaves (cache r'.dev) img →
        Keeps (image r.dev) img ∧ table img = table (image r.dev) := by
  have durable : image r.dev = (cache r.dev).durable := by
    rw [BufferedDevice.image_cache, mem_idle idle]
  have inert := inert_makeFreeBuf (show 2 ≤ (image r.dev).blockSize by omega) pattern
  rw [recover_performs build pattern large] at ran
  have valid : ValidActs (image r.dev) (sweepActs (image r.dev) pattern) := by
    intro write member
    rw [writesOf_sweepActs] at member
    exact erasures_valid (fun c block => (Recovery.mem_garbage.mp block).1.2) member
  rcases performAll_stops valid ran with ⟨done, stops, reached, failing⟩
  have ends : result = .ok () ∧ (cacheAfter done (cache r.dev)).pending = [] ∨
      result = .error (.err .io) ∧ ∃ part, (∀ write ∈ part, write ∈
        erasures (Recovery.garbage fromUtf8Lossy (image r.dev))
          (makeFreeBuf (image r.dev).blockSize pattern)) ∧
        cacheAfter done (cache r.dev) = { cache r.dev with pending := part } := by
    by_cases clean : Recovery.garbage fromUtf8Lossy (image r.dev) = []
    · rw [sweepActs, if_pos clean] at stops
      rcases stops_nil stops with ⟨finished, rfl⟩
      exact .inl ⟨finished, idle⟩
    · rw [sweepActs, if_neg clean, eraseActs] at stops
      rcases stops_flushed stops (cache r.dev) idle with cut | ⟨later, ending, cached⟩
      · exact .inr cut
      · rcases stops_nil ending with ⟨finished, rfl⟩
        exact .inl ⟨finished, by rw [cached]; rfl⟩
  rcases ends with ⟨rfl, flushed⟩ | ⟨rfl, part, within, cached⟩
  · left
    rcases performAll_ok valid ran with ⟨written, index, _⟩
    rw [indexAfter_sweepActs] at index
    rw [writesOf_sweepActs] at written
    exact ⟨rfl, written, by rw [reached]; exact flushed, index⟩
  · right
    refine ⟨rfl, failing (fun ok => by cases ok), ?_⟩
    intro img left
    rw [reached, cached, Leaves, ← durable] at left
    exact leaves_sweeping inert within left

theorem table_recovered {img : MemDevice} (large : 36 ≤ img.blockSize) (pattern : UInt8) :
    table (Recovery.recovered fromUtf8Lossy img pattern) = table img := by
  funext s
  rw [table, table, bestOf_recovered fromUtf8Lossy large pattern]

/-- A recovery on one replica in the middle of a session. -/
theorem recover_turn {build : Rust.Build} {pattern : UInt8} {result : Except Failure Unit}
    (flushed : Flushed r)
    (ran : Replica.onDevice (Rust.replicaRecover build pattern) r = (result, r')) :
    Turn (table (image r.dev)) r result r' := by
  have large := flushed.settled.large
  rcases recover_ends large flushed.idle ran with
    ⟨rfl, recovered, idle, index⟩ | ⟨rfl, unserved, leaves⟩
  · have kept : Keeps (image r.dev) (image r'.dev) := by
      rw [recovered]
      exact recovered_keeps fromUtf8Lossy (image r.dev) pattern
    refine .finished ⟨⟨flushed.settled.of_keeps kept ?_, idle⟩, kept, ?_⟩
    · rw [index, recovered, flushed.settled.whole.recovered flushed.header large pattern]
      exact flushed.settled.whole
    · rw [recovered, table_recovered large pattern]
  · apply Turn.cut unserved
    intro img left
    rcases leaves img left with ⟨kept, same⟩
    exact ⟨kept, .inl same⟩

end

end Embedkv.Cut
