import Embedkv.Run

/-!
# Indexes that name every record

Between operations the index names every complete record of the image, each
under its own key, so that a new scan would build the same index and recovery
would find no record to drop. What the store holds is then one value for each
indexed string, and the operations act on that as on a finite map.
-/

namespace Embedkv.Exact

open Embedkv.Lib Embedkv.Format Embedkv.Device Embedkv.State Embedkv.Record Embedkv.Erase
open Embedkv.Effects Embedkv.Plan Embedkv.Outcome Embedkv.Session

set_option autoImplicit false

/-- Entries and records are in bijection. -/
structure Whole (recs : Records) (index : MemIndex) : Prop extends IndexedBy Listed recs index where
  placed : ∀ d rec, recs d = some rec → rec.descriptorBlock = d
  covered : ∀ d rec, recs d = some rec →
    index.lookup (fromUtf8Lossy rec.key) = some (Scan.entryOf fromUtf8Lossy rec)

/-- What a view of the records shows under a string: the value, say. -/
def contents {α : Type} (view : CompleteRecord → α) (recs : Records) (index : MemIndex)
    (s : Bytes) : Option α :=
  (index.lookup s).bind fun e => (recs e.descriptorBlock).map view

section
variable {α : Type} {view : CompleteRecord → α} {recs : Records} {index : MemIndex}

theorem contents_absent {s : Bytes} (absent : index.lookup s = none) :
    contents view recs index s = none := by
  rw [contents, absent, Option.bind_none]

theorem contents_present {s : Bytes} {e : IndexEntry} {rec : CompleteRecord}
    (found : index.lookup s = some e) (present : recs e.descriptorBlock = some rec) :
    contents view recs index s = some (view rec) := by
  rw [contents, found, Option.bind_some, present, Option.map_some]

theorem Whole.entry (whole : Whole recs index) {s : Bytes} {e : IndexEntry}
    (found : index.lookup s = some e) : ∃ rec, recs e.descriptorBlock = some rec ∧
      fromUtf8Lossy rec.key = s ∧ e = Scan.entryOf fromUtf8Lossy rec :=
  whole.complete s e found

/-- The new record and its entry in, the old record out. -/
theorem Whole.put (whole : Whole recs index) {new : CompleteRecord} {entry : IndexEntry}
    (fresh : recs new.descriptorBlock = none) (listed : Listed entry.key entry new) :
    Whole (release ((index.get entry.key).map IndexEntry.descriptorBlock)
      (Function.update recs new.descriptorBlock (some new))) (index.put entry) := by
  have place : entry.descriptorBlock = new.descriptorBlock := by
    rw [listed.2]
    rfl
  have sound := whole.toIndexedBy.putEnd fresh place listed .finished
  refine ⟨sound, ?_, ?_⟩
  · intro d rec present
    rcases update_eq_some (release_eq_some present) with before | ⟨rfl, rfl⟩
    · exact whole.placed d rec before
    · rfl
  · intro d rec present
    rcases update_eq_some (release_eq_some present) with before | ⟨rfl, rfl⟩
    · by_cases mine : fromUtf8Lossy rec.key = entry.key
      · -- A record of this key was the indexed one, and that one is gone.
        have old : index.get entry.key = some (Scan.entryOf fromUtf8Lossy rec) := by
          rw [← mine]
          exact whole.covered d rec before
        have where_ : (Scan.entryOf fromUtf8Lossy rec).descriptorBlock = d :=
          whole.placed d rec before
        rw [old, Option.map_some, where_, release, Function.update_self] at present
        cases present
      · rw [lookup_put_other mine]
        exact whole.covered d rec before
    · rw [listed.1, lookup_put_self, ← listed.2]

theorem Whole.delete (whole : Whole recs index) {s : Bytes} {e : IndexEntry}
    (found : index.lookup s = some e) :
    Whole (Function.update recs e.descriptorBlock none) (index.delete s) := by
  refine ⟨whole.toIndexedBy.delete found, ?_, ?_⟩
  · intro d rec present
    by_cases same : d = e.descriptorBlock
    · rw [same, Function.update_self] at present
      cases present
    · rw [Function.update_of_ne same] at present
      exact whole.placed d rec present
  · intro d rec present
    by_cases same : d = e.descriptorBlock
    · rw [same, Function.update_self] at present
      cases present
    · rw [Function.update_of_ne same] at present
      have entered := whole.covered d rec present
      have different : fromUtf8Lossy rec.key ≠ s := by
        intro mine
        rw [mine, found] at entered
        apply same
        rw [Option.some.inj entered]
        exact (whole.placed d rec present).symm
      rw [lookup_delete_other different]
      exact entered

variable (view) in
/-- A put sets its key and leaves the others. -/
theorem contents_put (whole : Whole recs index) {new : CompleteRecord} {entry : IndexEntry}
    (fresh : recs new.descriptorBlock = none) (listed : Listed entry.key entry new) :
    contents view (release ((index.get entry.key).map IndexEntry.descriptorBlock)
        (Function.update recs new.descriptorBlock (some new))) (index.put entry) =
      Function.update (contents view recs index) entry.key (some (view new)) := by
  have after := whole.put fresh listed
  have place : entry.descriptorBlock = new.descriptorBlock := by
    rw [listed.2]
    rfl
  funext s
  by_cases mine : s = entry.key
  · subst mine
    have found : (index.put entry).lookup entry.key = some entry := lookup_put_self entry
    rcases after.entry found with ⟨rec, present, _, _⟩
    rw [contents_present found present, Function.update_self]
    rcases update_eq_some (release_eq_some present) with before | ⟨_, rfl⟩
    · rw [place, fresh] at before
      cases before
    · rfl
  · rw [Function.update_of_ne mine]
    cases found : index.lookup s with
    | none =>
        rw [contents_absent found, contents_absent (by rw [lookup_put_other mine]; exact found)]
    | some e =>
        have foundAfter : (index.put entry).lookup s = some e := by
          rw [lookup_put_other mine]
          exact found
        rcases whole.entry found with ⟨rec, present, _, _⟩
        rcases after.entry foundAfter with ⟨rec', present', _, _⟩
        rw [contents_present found present, contents_present foundAfter present']
        rcases update_eq_some (release_eq_some present') with before | ⟨here, _⟩
        · rw [present] at before
          cases before
          rfl
        · rw [here, fresh] at present
          cases present

variable (view) in
/-- A delete removes its key and leaves the others. -/
theorem contents_delete (whole : Whole recs index) {s : Bytes} {e : IndexEntry}
    (found : index.lookup s = some e) :
    contents view (Function.update recs e.descriptorBlock none) (index.delete s) =
      Function.update (contents view recs index) s none := by
  funext other
  by_cases mine : other = s
  · subst mine
    rw [Function.update_self, contents_absent (lookup_delete_self other)]
  · rw [Function.update_of_ne mine, contents, contents, lookup_delete_other mine]
    cases there : index.lookup other with
    | none => rfl
    | some e' =>
        have apart : e'.descriptorBlock ≠ e.descriptorBlock :=
          fun same => mine (whole.distinct other s e' e there found same)
        rw [Option.bind_some, Option.bind_some, Function.update_of_ne apart]

end

/-! ## Scans and recovery -/

/-- Where every record is indexed, every record is selected. -/
theorem Whole.leads {recs : Records} {index : MemIndex} (whole : Whole recs index) {d : Nat}
    {rec : CompleteRecord} (present : recs d = some rec) :
    Leads fromUtf8Lossy recs (fromUtf8Lossy rec.key) rec := by
  have place := whole.placed d rec present
  refine ⟨by rw [place]; exact present, rfl, ?_⟩
  intro d' other there named
  have entered := whole.covered d' other there
  rw [named, whole.covered d rec present] at entered
  have same : rec.descriptorBlock = other.descriptorBlock :=
    congrArg IndexEntry.descriptorBlock (Option.some.inj entered)
  rw [whole.placed d' other there, place] at same
  subst same
  rw [present] at there
  cases there
  exact .inr ⟨rfl, Nat.le_of_eq place⟩

section
variable {img : MemDevice} {index : MemIndex}

/-- A new scan builds the index that is there. -/
theorem Whole.scan (whole : Whole (recordAt img) index) (header : recordAt img 0 = none) :
    index = Scan.indexOf fromUtf8Lossy img := by
  apply Finmap.ext_lookup
  intro s
  apply Option.ext
  intro e
  rw [Scan.lookup_indexOf]
  constructor
  · intro found
    rcases whole.entry found with ⟨rec, present, named, entered⟩
    refine ⟨rec, ?_, entered⟩
    rw [selected_iff_leads header, ← named]
    exact whole.leads present
  · intro selected
    rcases selected with ⟨rec, chosen, rfl⟩
    rw [← chosen.named]
    exact whole.covered _ rec (recordAt_eq_some.mpr chosen.record)

/-- Recovery finds no record to drop. -/
theorem Whole.recovered (whole : Whole (recordAt img) index) (header : recordAt img 0 = none)
    (large : 36 ≤ img.blockSize) (pattern : UInt8) :
    recordAt (Recovery.recovered fromUtf8Lossy img pattern) = recordAt img := by
  have damage : Damage (· ∈ Recovery.garbage fromUtf8Lossy img) img
      (Recovery.recovered fromUtf8Lossy img pattern) := Recovery.recovered_damage large pattern
  funext d
  apply Transition.recordAt_congr
  intro rec
  constructor
  · intro after
    exact (damage.survivor after).1
  · intro before
    apply damage.spared before
    intro c member
    have selected := (selected_iff_leads header).mpr (whole.leads (recordAt_eq_some.mpr before))
    exact Recovery.garbage_not_selected selected member

/-- After recovery a scan indexes every record that is left. -/
theorem whole_recovered (mountable : Mount.Mountable img) (large : 36 ≤ img.blockSize)
    (pattern : UInt8) :
    Whole (recordAt (Recovery.recovered fromUtf8Lossy img pattern))
      (Scan.indexOf fromUtf8Lossy (Recovery.recovered fromUtf8Lossy img pattern)) := by
  have damage : Damage (· ∈ Recovery.garbage fromUtf8Lossy img) img
      (Recovery.recovered fromUtf8Lossy img pattern) := Recovery.recovered_damage large pattern
  refine ⟨indexedBy_scan, ?_, ?_⟩
  · intro d rec present
    exact (recordAt_eq_some.mp present).descriptorBlock_eq
  · intro d rec present
    have after := recordAt_eq_some.mp present
    have before := (damage.survivor after).1
    have place := before.descriptorBlock_eq
    have positive : 1 ≤ d := by
      by_contra zero
      have none := recordAt_zero mountable
      rw [recordAt_eq_none] at none
      exact none rec (by rw [show d = 0 by omega] at before; exact before)
    have stored : rec ∈ Scan.records img := by
      rw [Scan.mem_records, place]
      exact ⟨positive, before⟩
    rcases Recovery.selected_exists fromUtf8Lossy stored with ⟨best, selected⟩
    -- A record that was not selected had its descriptor block erased.
    have chosen : best = rec := by
      by_contra different
      have apart : best.descriptorBlock ≠ d := by
        intro same
        have record := selected.record
        rw [same] at record
        exact different (recordAt_unique record before)
      have erased : d ∈ Recovery.garbage fromUtf8Lossy img := by
        rw [Recovery.mem_garbage]
        have mine : d ∈ rec.blocks := by
          rw [before.blocks_eq]
          exact List.mem_cons_self
        refine ⟨⟨positive, before.inside⟩, ?_, record_not_free before mine⟩
        intro kept
        rcases kept with header | ⟨s, other, chosen, member⟩
        · omega
        · by_cases same : other.descriptorBlock = d
          · have record := chosen.record
            rw [same] at record
            have sameRecord := recordAt_unique record before
            rw [sameRecord] at chosen
            have named := chosen.named
            rw [← named] at chosen
            exact different (selected.unique chosen)
          · exact records_disjoint chosen.record before same member mine
      have block := Recovery.block_recovered_garbage pattern erased
      have mine : d ∈ rec.blocks := by
        rw [after.blocks_eq]
        exact List.mem_cons_self
      apply record_not_inert after mine
      rw [block]
      exact inert_makeFreeBuf (by omega) pattern
    rw [chosen] at selected
    rw [Scan.lookup_indexOf]
    exact ⟨rec, (Recovery.selected_recovered large pattern _ _).mpr selected, rfl⟩

/-- What a scanned image holds is the selection. -/
theorem contents_scan {α : Type} (view : CompleteRecord → α) (s : Bytes) :
    contents view (recordAt img) (Scan.indexOf fromUtf8Lossy img) s =
      ((Scan.bestOf fromUtf8Lossy img).lookup s).map view := by
  cases best : (Scan.bestOf fromUtf8Lossy img).lookup s with
  | none =>
      rw [Option.map_none]
      apply contents_absent
      rw [Scan.lookup_indexOf_none]
      exact Scan.lookup_bestOf_none.mp best
  | some rec =>
      have selected := Scan.lookup_bestOf.mp best
      have found : (Scan.indexOf fromUtf8Lossy img).lookup s =
          some (Scan.entryOf fromUtf8Lossy rec) := Scan.lookup_indexOf.mpr ⟨rec, selected, rfl⟩
      rw [contents_present found (recordAt_eq_some.mpr selected.record), Option.map_some]

end

/-! ## What the store answers -/

/-- Values by key. -/
abbrev Map := Finmap fun _ : Bytes => Bytes

/-- The answer of a get for a key that holds the given value or none. -/
def answer : Option Bytes → Except Failure Bytes
  | some value => .ok value
  | none => .error (.err .keyNotFound)

/-- What a replica holds. -/
def held {D : Type} [BlockDevice D] [LawfulBlockDevice D] (r : Replica D) : Bytes → Option Bytes :=
  contents CompleteRecord.value (recordAt (image r.dev)) r.index

section
variable {D : Type} [BlockDevice D] [LawfulBlockDevice D]
  {matching : Bytes → IndexEntry → CompleteRecord → Prop} {r : Replica D}

theorem get_held (sound : Sound matching r) (build : Rust.Build) (key : Bytes) (opts : Options) :
    (Rust.get build key (single r opts)).1 = answer (held r (fromUtf8Lossy key)) := by
  rcases Option.eq_none_or_eq_some (r.index.lookup (fromUtf8Lossy key)) with absent | ⟨e, found⟩
  · rw [get_single_absent build opts absent, held, contents_absent absent]
    rfl
  · rcases get_single sound build opts found with ⟨rec, present, _, read⟩
    rw [read, held, contents_present found present]
    rfl

end

end Embedkv.Exact
