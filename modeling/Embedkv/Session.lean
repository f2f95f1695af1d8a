import Mathlib.Data.List.Fold
import Mathlib.Data.List.MinMax
import Embedkv.Mount
import Embedkv.Outcome

/-!
# Indexes and the records they name

The invariant of a session: every index entry names a record of the image, no
two entries name the same one, and entry and record match in a way the caller
chooses. A put keeps it wherever it ends. A delete keeps it when it reaches its
end or changes nothing; a delete that fails after the erasure does not.
-/

namespace Embedkv.Session

open Embedkv.Lib Embedkv.Format Embedkv.Device Embedkv.State Embedkv.Codec Embedkv.Image
open Embedkv.Record Embedkv.Layout Embedkv.Effects Embedkv.Plan Embedkv.Outcome

set_option autoImplicit false

/-- The records of an image by descriptor block. -/
abbrev Records := Nat → Option CompleteRecord

structure IndexedBy (matching : Bytes → IndexEntry → CompleteRecord → Prop) (recs : Records)
    (index : MemIndex) : Prop where
  complete : ∀ s e, index.lookup s = some e →
    ∃ rec, recs e.descriptorBlock = some rec ∧ matching s e rec
  distinct : ∀ s s' e e', index.lookup s = some e → index.lookup s' = some e' →
    e.descriptorBlock = e'.descriptorBlock → s = s'

section
variable {matching : Bytes → IndexEntry → CompleteRecord → Prop} {recs recs' : Records}
  {index index' : MemIndex}

theorem IndexedBy.mono {weaker : Bytes → IndexEntry → CompleteRecord → Prop}
    (sound : IndexedBy matching recs index)
    (weaken : ∀ s e rec, matching s e rec → weaker s e rec) : IndexedBy weaker recs index where
  complete s e found := by
    obtain ⟨rec, present, matched⟩ := sound.complete s e found
    exact ⟨rec, present, weaken s e rec matched⟩
  distinct := sound.distinct

/-- A record added at a block no entry names disturbs no entry. -/
theorem IndexedBy.add (sound : IndexedBy matching recs index) {new : CompleteRecord}
    (fresh : recs new.descriptorBlock = none) :
    IndexedBy matching (Function.update recs new.descriptorBlock (some new)) index where
  complete s e found := by
    obtain ⟨rec, present, matched⟩ := sound.complete s e found
    refine ⟨rec, ?_, matched⟩
    rw [Function.update_of_ne, present]
    intro same
    rw [same, fresh] at present
    cases present
  distinct := sound.distinct

theorem lookup_put_self (entry : IndexEntry) : (index.put entry).lookup entry.key = some entry :=
  Finmap.lookup_insert _

theorem lookup_put_other {entry : IndexEntry} {s : Bytes} (different : s ≠ entry.key) :
    (index.put entry).lookup s = index.lookup s := Finmap.lookup_insert_of_ne _ different

/-- What is found after a put was entered by it or stood there before. -/
theorem lookup_put_cases {entry e : IndexEntry} {s : Bytes}
    (found : (index.put entry).lookup s = some e) :
    s = entry.key ∧ e = entry ∨ s ≠ entry.key ∧ index.lookup s = some e := by
  by_cases mine : s = entry.key
  · rw [mine, lookup_put_self] at found
    exact .inl ⟨mine, (Option.some.inj found).symm⟩
  · rw [lookup_put_other mine] at found
    exact .inr ⟨mine, found⟩

theorem lookup_delete_self (s : Bytes) : (index.delete s).lookup s = none :=
  Finmap.lookup_erase _ _

theorem lookup_delete_other {s s' : Bytes} (different : s' ≠ s) :
    (index.delete s).lookup s' = index.lookup s' := Finmap.lookup_erase_ne different

theorem mem_entryKeys {index : MemIndex} {name : Bytes} :
    name ∈ index.entryKeys ↔ ∃ s e, index.lookup s = some e ∧ e.key = name := by
  rw [MemIndex.entryKeys, Multiset.mem_toFinset, Multiset.mem_map]
  constructor
  · intro member
    rcases member with ⟨⟨s, e⟩, entry, rfl⟩
    exact ⟨s, e, Finmap.lookup_eq_some_iff.mpr entry, rfl⟩
  · intro found
    rcases found with ⟨s, e, entry, rfl⟩
    exact ⟨⟨s, e⟩, Finmap.lookup_eq_some_iff.mp entry, rfl⟩

/-- Indexing the added record, with the old one still there. -/
theorem IndexedBy.enter (sound : IndexedBy matching recs index) {new : CompleteRecord}
    {entry : IndexEntry} (fresh : recs new.descriptorBlock = none)
    (place : entry.descriptorBlock = new.descriptorBlock) (matched : matching entry.key entry new) :
    IndexedBy matching (Function.update recs new.descriptorBlock (some new)) (index.put entry) where
  complete s e found := by
    by_cases mine : s = entry.key
    · subst mine
      rw [lookup_put_self] at found
      cases found
      exact ⟨new, by rw [place, Function.update_self], matched⟩
    · rw [lookup_put_other mine] at found
      exact (sound.add fresh).complete s e found
  distinct := by
    -- No older entry names the block of the new record.
    have apart : ∀ s e, index.lookup s = some e → e.descriptorBlock ≠ new.descriptorBlock := by
      intro s e found same
      obtain ⟨rec, present, _⟩ := sound.complete s e found
      rw [same, fresh] at present
      cases present
    intro s s' e e' found found' same
    by_cases mine : s = entry.key
    · by_cases mine' : s' = entry.key
      · rw [mine, mine']
      · subst mine
        rw [lookup_put_self] at found
        rw [lookup_put_other mine'] at found'
        cases found
        exact absurd (same.symm.trans place) (apart s' e' found')
    · by_cases mine' : s' = entry.key
      · subst mine'
        rw [lookup_put_self] at found'
        rw [lookup_put_other mine] at found
        cases found'
        exact absurd (same.trans place) (apart s e found)
      · rw [lookup_put_other mine] at found
        rw [lookup_put_other mine'] at found'
        exact sound.distinct s s' e e' found found' same

/-- Taking away a record that no entry names. -/
theorem IndexedBy.drop (sound : IndexedBy matching recs index) {d : Nat}
    (unnamed : ∀ s e, index.lookup s = some e → e.descriptorBlock ≠ d) :
    IndexedBy matching (Function.update recs d none) index where
  complete s e found := by
    obtain ⟨rec, present, matched⟩ := sound.complete s e found
    exact ⟨rec, by rw [Function.update_of_ne (unnamed s e found), present], matched⟩
  distinct := sound.distinct

/-- After a put has indexed its record, no entry names the old one. -/
theorem old_unnamed (sound : IndexedBy matching recs index) {new : CompleteRecord}
    {entry old : IndexEntry} (fresh : recs new.descriptorBlock = none)
    (place : entry.descriptorBlock = new.descriptorBlock)
    (replaced : index.lookup entry.key = some old) (s : Bytes) (e : IndexEntry)
    (found : (index.put entry).lookup s = some e) : e.descriptorBlock ≠ old.descriptorBlock := by
  intro same
  by_cases mine : s = entry.key
  · subst mine
    rw [lookup_put_self] at found
    cases found
    obtain ⟨rec, present, _⟩ := sound.complete _ old replaced
    rw [← same, place, fresh] at present
    cases present
  · rw [lookup_put_other mine] at found
    exact mine (sound.distinct s entry.key e old found replaced same)

/-- A put keeps the invariant wherever it ends. -/
theorem IndexedBy.putEnd (sound : IndexedBy matching recs index) {new : CompleteRecord}
    {entry : IndexEntry} {result : Except Failure Unit}
    (fresh : recs new.descriptorBlock = none)
    (place : entry.descriptorBlock = new.descriptorBlock) (matched : matching entry.key entry new)
    (ended : PutEnd recs index entry new
      ((index.get entry.key).map IndexEntry.descriptorBlock) result recs' index') :
    IndexedBy matching recs' index' := by
  have released : IndexedBy matching (release
      ((index.get entry.key).map IndexEntry.descriptorBlock)
      (Function.update recs new.descriptorBlock (some new))) (index.put entry) := by
    cases replaced : index.get entry.key with
    | none => exact sound.enter fresh place matched
    | some old =>
        exact (sound.enter fresh place matched).drop (old_unnamed sound fresh place replaced)
  cases ended with
  | unwritten => exact sound
  | unindexed => exact sound.add fresh
  | unreleased => exact sound.enter fresh place matched
  | unflushed => exact released
  | finished => exact released

/-- A put that reports success has indexed its record, and the record is there. -/
theorem putEnd_ok {new : CompleteRecord} {entry : IndexEntry}
    (ended : PutEnd recs index entry new
      ((index.get entry.key).map IndexEntry.descriptorBlock) (.ok ()) recs' index')
    (sound : IndexedBy matching recs index) (fresh : recs new.descriptorBlock = none) :
    index'.lookup entry.key = some entry ∧ recs' new.descriptorBlock = some new := by
  obtain ⟨rfl, rfl⟩ := ended.ok
  refine ⟨lookup_put_self entry, ?_⟩
  rw [release_other, Function.update_self]
  intro same
  obtain ⟨old, replaced, place⟩ := Option.map_eq_some_iff.mp same
  obtain ⟨rec, present, _⟩ := sound.complete _ old replaced
  rw [place, fresh] at present
  cases present

/-- A delete that reaches its end keeps the invariant. -/
theorem IndexedBy.delete (sound : IndexedBy matching recs index) {s : Bytes} {e : IndexEntry}
    (found : index.lookup s = some e) :
    IndexedBy matching (Function.update recs e.descriptorBlock none) (index.delete s) := by
  have rest : IndexedBy matching recs (index.delete s) := by
    constructor
    · intro s' e' found'
      by_cases mine : s' = s
      · rw [mine, lookup_delete_self] at found'
        cases found'
      · rw [lookup_delete_other mine] at found'
        exact sound.complete s' e' found'
    · intro s1 s2 e1 e2 found1 found2 same
      by_cases mine1 : s1 = s
      · rw [mine1, lookup_delete_self] at found1
        cases found1
      · by_cases mine2 : s2 = s
        · rw [mine2, lookup_delete_self] at found2
          cases found2
        · rw [lookup_delete_other mine1] at found1
          rw [lookup_delete_other mine2] at found2
          exact sound.distinct s1 s2 e1 e2 found1 found2 same
  apply rest.drop
  intro s' e' found' same
  by_cases mine : s' = s
  · rw [mine, lookup_delete_self] at found'
    cases found'
  · rw [lookup_delete_other mine] at found'
    exact mine (sound.distinct s' s e' e found' found same)

end

/-- `rec` is the record a scan selects among all those of its name. -/
structure Leads (name : Bytes → Bytes) (recs : Records) (s : Bytes) (rec : CompleteRecord) :
    Prop where
  present : recs rec.descriptorBlock = some rec
  named : name rec.key = s
  leads : ∀ d other, recs d = some other → name other.key = s →
    other.generation < rec.generation ∨
      other.generation = rec.generation ∧ rec.descriptorBlock ≤ d

/-- The lead depends on the records of that name only. -/
theorem Leads.transfer {name : Bytes → Bytes} {recs recs' : Records} {s : Bytes}
    {rec : CompleteRecord} (leads : Leads name recs s rec)
    (same : ∀ d other, name other.key = s → (recs' d = some other ↔ recs d = some other)) :
    Leads name recs' s rec where
  present := (same _ rec leads.named).mpr leads.present
  named := leads.named
  leads d other present named := leads.leads d other ((same d other named).mp present) named

/-- The selection told by descriptor blocks. -/
theorem selected_iff_leads {name : Bytes → Bytes} {img : MemDevice} (header : recordAt img 0 = none)
    {s : Bytes} {rec : CompleteRecord} :
    Scan.Selected name img s rec ↔ Leads name (recordAt img) s rec := by
  constructor
  · intro selected
    refine ⟨recordAt_eq_some.mpr selected.record, selected.named, ?_⟩
    intro d other present named
    have record := recordAt_eq_some.mp present
    have place := record.descriptorBlock_eq
    have stored : other ∈ Scan.records img := by
      rw [Scan.mem_records, place]
      refine ⟨?_, record⟩
      by_contra zero
      rw [show d = 0 by omega, header] at present
      cases present
    have order := selected.leads stored named
    rwa [place] at order
  · rintro ⟨present, named, leads⟩
    refine ⟨?_, named, ?_⟩
    · rw [Scan.mem_records]
      refine ⟨?_, recordAt_eq_some.mp present⟩
      by_contra zero
      rw [show rec.descriptorBlock = 0 by omega, header] at present
      cases present
    · intro other stored sameName
      exact leads _ other (recordAt_eq_some.mpr (Scan.mem_records.mp stored).2) sameName

/-! ## One replica -/

/-- A replica in a session: its image can be opened again and its index is sound. -/
structure Sound {D : Type} [BlockDevice D] [LawfulBlockDevice D]
    (matching : Bytes → IndexEntry → CompleteRecord → Prop) (r : Replica D) : Prop where
  large : 36 ≤ (image r.dev).blockSize
  mountable : Mount.Mountable (image r.dev)
  index : IndexedBy matching (recordAt (image r.dev)) r.index

section
variable {D : Type} [BlockDevice D] [LawfulBlockDevice D]
  {matching : Bytes → IndexEntry → CompleteRecord → Prop} {r r' : Replica D}

theorem Sound.indexed (sound : Sound matching r) : Indexed (image r.dev) r.index where
  large := sound.large
  mounted := sound.mountable.type
  complete s e found := by
    obtain ⟨rec, present, _⟩ := sound.index.complete s e found
    exact ⟨rec, recordAt_eq_some.mp present⟩
  distinct := sound.index.distinct

theorem Sound.of_keeps (sound : Sound matching r) (kept : Keeps (image r.dev) (image r'.dev))
    {weaker : Bytes → IndexEntry → CompleteRecord → Prop}
    (index : IndexedBy weaker (recordAt (image r'.dev)) r'.index) : Sound weaker r' where
  large := by rw [kept.size]; exact sound.large
  mountable := sound.mountable.congr kept.size kept.count kept.header
  index := index

/-- Block 0 of a mounted image is no record. -/
theorem recordAt_zero {img : MemDevice} (mountable : Mount.Mountable img) : recordAt img 0 = none := by
  apply Scan.recordAt_of_type
  rw [mountable.type]
  decide

omit [BlockDevice D] [LawfulBlockDevice D] in
/-- The scan meets every record of a mounted image. -/
theorem records_of_present {img : MemDevice} (mountable : Mount.Mountable img) {d : Nat}
    {rec : CompleteRecord} (present : recordAt img d = some rec) : rec ∈ Scan.records img := by
  have record := recordAt_eq_some.mp present
  have place := record.descriptorBlock_eq
  rw [Scan.mem_records, place]
  refine ⟨?_, record⟩
  by_contra zero
  have first : d = 0 := by omega
  rw [first, recordAt_zero mountable] at present
  cases present

omit [BlockDevice D] [LawfulBlockDevice D] in
theorem present_of_records {img : MemDevice} {rec : CompleteRecord}
    (stored : rec ∈ Scan.records img) : recordAt img rec.descriptorBlock = some rec :=
  recordAt_eq_some.mpr (Scan.mem_records.mp stored).2

/-- What a get reads on a sound replica. -/
theorem Sound.get (sound : Sound matching r) (build : Rust.Build) {key : Bytes} {e : IndexEntry}
    (found : r.index.lookup (fromUtf8Lossy key) = some e) :
    ∃ rec, recordAt (image r.dev) e.descriptorBlock = some rec ∧
      matching (fromUtf8Lossy key) e rec ∧
      Rust.getWithGeneration build key r = (.ok (some (.ok (e.generation, rec.value))), r) := by
  obtain ⟨rec, present, matched⟩ := sound.index.complete _ e found
  exact ⟨rec, present, matched,
    rust_getWithGeneration build sound.large found (recordAt_eq_some.mp present)⟩

/-- A store with one replica. -/
def single (r : Replica D) (opts : Options) : Store D := { replicas := [r], opts := opts }

omit [LawfulBlockDevice D] in
theorem get_single_absent (build : Rust.Build) {key : Bytes} (opts : Options)
    (absent : r.index.lookup (fromUtf8Lossy key) = none) :
    Rust.get build key (single r opts) = (.error (.err .keyNotFound), single r opts) := by
  have turn : Rust.getReplica build key none r = (.ok none, r) := by
    rw [Rust.getReplica, Proc.bind_ok (rust_getWithGeneration_absent build absent)]
    rfl
  have each : Store.onReplicas (Proc.each (Rust.getReplica build key) none) (single r opts) =
      (.ok none, single r opts) := by
    rw [Store.onReplicas, Proc.zoom_apply, single, Proc.each_singleton, turn]
  rw [Rust.get, Proc.bind_ok each]
  rfl

theorem get_single (sound : Sound matching r) (build : Rust.Build) {key : Bytes} {e : IndexEntry}
    (opts : Options) (found : r.index.lookup (fromUtf8Lossy key) = some e) :
    ∃ rec, recordAt (image r.dev) e.descriptorBlock = some rec ∧
      matching (fromUtf8Lossy key) e rec ∧
      Rust.get build key (single r opts) = (.ok rec.value, single r opts) := by
  obtain ⟨rec, present, matched, read⟩ := sound.get build found
  refine ⟨rec, present, matched, ?_⟩
  have turn : Rust.getReplica build key none r = (.ok (some (e.generation, rec.value)), r) := by
    rw [Rust.getReplica, Proc.bind_ok read]
    rfl
  have each : Store.onReplicas (Proc.each (Rust.getReplica build key) none) (single r opts) =
      (.ok (some (e.generation, rec.value)), single r opts) := by
    rw [Store.onReplicas, Proc.zoom_apply, single, Proc.each_singleton, turn]
  rw [Rust.get, Proc.bind_ok each]
  rfl

/-- A get changes nothing. -/
theorem get_single_state (sound : Sound matching r) (build : Rust.Build) (key : Bytes)
    (opts : Options) : (Rust.get build key (single r opts)).2 = single r opts := by
  rcases Option.eq_none_or_eq_some (r.index.lookup (fromUtf8Lossy key)) with absent | ⟨e, found⟩
  · rw [get_single_absent build opts absent]
  · obtain ⟨rec, _, _, read⟩ := get_single sound build opts found
    rw [read]

/-- The generation the next put of a key writes on top of. -/
def generationOf (index : MemIndex) (s : Bytes) : Nat :=
  match index.get s with
  | some e => e.generation
  | none => 0

theorem generationOf_absent {index : MemIndex} {s : Bytes} (absent : index.get s = none) :
    generationOf index s = 0 := by
  simp only [generationOf, absent]

theorem generationOf_held {index : MemIndex} {s : Bytes} {e : IndexEntry}
    (held : index.get s = some e) : generationOf index s = e.generation := by
  simp only [generationOf, held]

omit [BlockDevice D] [LawfulBlockDevice D] in
theorem indexedGeneration_single (r : Replica D) (s : Bytes) :
    Rust.indexedGeneration s [r] = generationOf r.index s := by
  simp only [Rust.indexedGeneration, List.foldl_cons, List.foldl_nil, generationOf]
  cases r.index.get s with
  | none => rfl
  | some e =>
      simp only []
      split
      next => rfl
      next zero => omega

omit [BlockDevice D] [LawfulBlockDevice D] in
theorem indexedGeneration_max (name : Bytes) (replicas : List (Replica D)) :
    Rust.indexedGeneration name replicas =
      (replicas.map fun r => generationOf r.index name).foldr max ⊥ := by
  rw [← List.foldl_eq_foldr, List.foldl_map, Rust.indexedGeneration]
  congr 1
  funext generation r
  rw [generationOf]
  cases r.index.get name with
  | none => exact (Nat.max_zero generation).symm
  | some e =>
      change (if e.generation > generation then e.generation else generation) =
        max generation e.generation
      split <;> omega

omit [BlockDevice D] [LawfulBlockDevice D] in
theorem generationOf_le {replicas : List (Replica D)} {r : Replica D} (member : r ∈ replicas)
    (name : Bytes) : generationOf r.index name ≤ Rust.indexedGeneration name replicas := by
  rw [indexedGeneration_max]
  exact List.le_max_of_le (List.mem_map_of_mem member) (Nat.le_refl _)

omit [BlockDevice D] [LawfulBlockDevice D] in
theorem indexedGeneration_le {replicas : List (Replica D)} {name : Bytes} {bound : Nat}
    (bounded : ∀ r ∈ replicas, generationOf r.index name ≤ bound) :
    Rust.indexedGeneration name replicas ≤ bound := by
  rw [indexedGeneration_max]
  apply List.max_le_of_forall_le
  intro generation among
  obtain ⟨r, member, rfl⟩ := List.mem_map.mp among
  exact bounded r member

/-- A put: the key check, the generation, the replicas' turns. -/
theorem putFlagged_eq (build : Rust.Build) {s : Store D} {blockSize : Nat}
    (nonempty : s.replicas ≠ []) (size : ∀ r ∈ s.replicas, (image r.dev).blockSize = blockSize)
    (large : 36 ≤ blockSize) (key value : Bytes) (userFlags : UInt32) :
    Rust.putFlagged build key value userFlags s =
      if blockSize - 36 < asU32 key.length then (.error (.err .keyTooLong), s)
      else
        match Rust.u32Add build (Rust.indexedGeneration (fromUtf8Lossy key) s.replicas) 1 with
        | .error failure => (.error failure, s)
        | .ok generation => Store.onReplicas (Proc.each (fun _ =>
            Rust.replicaPut build key value generation userFlags s.opts.freePattern) ()) s := by
  cases replicas : s.replicas with
  | nil => exact absurd replicas nonempty
  | cons first rest =>
      have sized : BlockDevice.blockSize first.dev = blockSize := by
        rw [LawfulBlockDevice.blockSize_eq]
        exact size first (by rw [replicas]; exact List.mem_cons_self)
      rw [Rust.putFlagged, Proc.get_bind_apply, replicas]
      simp only [sized, rust_keyRoom build large, Proc.ofExcept_ok_bind_apply]
      split
      next => rfl
      next =>
        cases Rust.u32Add build (Rust.indexedGeneration (fromUtf8Lossy key) (first :: rest)) 1 with
        | error failure => rfl
        | ok generation => rfl

/-- A put on a one-replica store. -/
theorem putFlagged_single (build : Rust.Build) (r : Replica D) (opts : Options)
    (large : 36 ≤ (image r.dev).blockSize) (key value : Bytes) (userFlags : UInt32) :
    Rust.putFlagged build key value userFlags (single r opts) =
      if (image r.dev).blockSize - 36 < asU32 key.length then
        (.error (.err .keyTooLong), single r opts)
      else
        match Rust.u32Add build (generationOf r.index (fromUtf8Lossy key)) 1 with
        | .error failure => (.error failure, single r opts)
        | .ok generation =>
          let (result, r') := Rust.replicaPut build key value generation userFlags
            opts.freePattern r
          (result, single r' opts) := by
  have replicas : (single r opts).replicas = [r] := rfl
  have size : ∀ q ∈ (single r opts).replicas, (image q.dev).blockSize = (image r.dev).blockSize := by
    intro q member
    rw [List.mem_singleton.mp member]
  rw [putFlagged_eq build (List.cons_ne_nil r []) size large, replicas, indexedGeneration_single]
  split
  next => rfl
  next =>
    cases Rust.u32Add build (generationOf r.index (fromUtf8Lossy key)) 1 with
    | error failure => rfl
    | ok generation =>
        simp only [Store.onReplicas, Proc.zoom_apply, replicas, Proc.each_singleton]
        rfl

omit [LawfulBlockDevice D] [BlockDevice D] in
/-- A key that passes the check without fitting does so because its length was
cut to 32 bits; it is longer than a block. -/
theorem overlong_of_cut {img : MemDevice} {key : Bytes} (large : 36 ≤ img.blockSize)
    (passes : ¬img.blockSize - 36 < asU32 key.length) (misfit : ¬key.length + 36 ≤ img.blockSize) :
    img.blockSize < key.length := by
  have size := img.size_lt
  by_contra short
  rw [asU32, Nat.mod_eq_of_lt (by omega)] at passes
  omega

/-- Where a put on a one-replica store can end: it is refused and changes
nothing, or it starts to write its record. -/
theorem putFlagged_outcome {build : Rust.Build} {key value : Bytes} {userFlags : UInt32}
    {opts : Options} {result : Except Failure Unit} {s' : Store D} (sound : Sound matching r)
    (ran : Rust.putFlagged build key value userFlags (single r opts) = (result, s')) :
    (s' = single r opts ∧ ∃ failure, result = .error failure) ∨
      ∃ generation new r',
        Rust.u32Add build (generationOf r.index (fromUtf8Lossy key)) 1 = .ok generation ∧
        s' = single r' opts ∧ Added (image r.dev) key value generation new ∧
        PutEnd (recordAt (image r.dev)) r.index (newEntry key generation new.descriptorBlock value)
          new ((r.index.get (fromUtf8Lossy key)).map IndexEntry.descriptorBlock) result
          (recordAt (image r'.dev)) r'.index ∧
        Keeps (image r.dev) (image r'.dev) := by
  rw [putFlagged_single build r opts sound.large] at ran
  split at ran
  next =>
    cases ran
    exact .inl ⟨rfl, _, rfl⟩
  next fits =>
    cases added : Rust.u32Add build (generationOf r.index (fromUtf8Lossy key)) 1 with
    | error failure =>
        rw [added] at ran
        cases ran
        exact .inl ⟨rfl, _, rfl⟩
    | ok generation =>
        rw [added] at ran
        rcases turn : Rust.replicaPut build key value generation userFlags opts.freePattern r with
          ⟨outcome, r'⟩
        simp only [turn] at ran
        cases ran
        by_cases keyFits : key.length + 36 ≤ (image r.dev).blockSize
        · rcases replicaPut_outcome sound.indexed keyFits turn with
            ⟨full, same, _⟩ | ⟨new, written, ended, kept, _⟩
          · exact .inl ⟨by rw [same], _, full⟩
          · exact .inr ⟨generation, new, r', rfl, rfl, written, ended, kept⟩
        · have large := sound.large
          have refused := rust_replicaPut_cut build (by omega)
            (overlong_of_cut large fits keyFits) value generation userFlags opts.freePattern
          rw [turn] at refused
          obtain ⟨failed, same⟩ := Prod.mk.inj refused
          exact .inl ⟨by rw [same], _, failed⟩

/-- The delete of both implementations. They differ in the string the index
knows the key by. -/
def deleteAs (name : Bytes) : Proc Failure (Store D) Unit := do
  let s ← Proc.get
  let found ← Store.onReplicas (Proc.each (Rust.deleteReplica name s.opts.freePattern) false)
  if found then pure () else Proc.fail (.err .keyNotFound)

omit [LawfulBlockDevice D] in
/-- A delete: the replicas' turns, and whether one of them had the key. -/
theorem deleteAs_eq (name : Bytes) (s : Store D) :
    deleteAs name s =
      match Proc.each (Rust.deleteReplica name s.opts.freePattern) false s.replicas with
      | (.ok found, replicas) =>
        (if found then .ok () else .error (.err .keyNotFound), { s with replicas := replicas })
      | (.error failure, replicas) => (.error failure, { s with replicas := replicas }) := by
  rcases turns : Proc.each (Rust.deleteReplica name s.opts.freePattern) false s.replicas with
    ⟨result, replicas⟩
  have each : Store.onReplicas (Proc.each (Rust.deleteReplica name s.opts.freePattern) false) s =
      (result, { s with replicas := replicas }) := by
    rw [Store.onReplicas, Proc.zoom_apply, turns]
  rw [deleteAs, Proc.get_bind_apply]
  cases result with
  | error failure => rw [Proc.bind_error each]
  | ok found =>
      rw [Proc.bind_ok each]
      cases found <;> rfl

omit [LawfulBlockDevice D] in
theorem delete_eq (key : Bytes) (s : Store D) :
    Rust.delete key s =
      match Proc.each (Rust.deleteReplica (fromUtf8Lossy key) s.opts.freePattern) false
        s.replicas with
      | (.ok found, replicas) =>
        (if found then .ok () else .error (.err .keyNotFound), { s with replicas := replicas })
      | (.error failure, replicas) => (.error failure, { s with replicas := replicas }) :=
  deleteAs_eq (fromUtf8Lossy key) s

omit [LawfulBlockDevice D] in
/-- A delete on a one-replica store. -/
theorem delete_single (r : Replica D) (opts : Options) (key : Bytes) :
    Rust.delete key (single r opts) =
      match Rust.deleteReplica (fromUtf8Lossy key) opts.freePattern false r with
      | (.ok found, r') =>
        (if found then .ok () else .error (.err .keyNotFound), single r' opts)
      | (.error failure, r') => (.error failure, single r' opts) := by
  have replicas : (single r opts).replicas = [r] := rfl
  have pattern : (single r opts).opts = opts := rfl
  rw [delete_eq, replicas, pattern, Proc.each_singleton]
  rcases Rust.deleteReplica (fromUtf8Lossy key) opts.freePattern false r with ⟨result, r'⟩
  cases result with
  | error failure => rfl
  | ok found => rfl

/-- A delete that reports success took the indexed record away. -/
theorem delete_ok {key : Bytes} {opts : Options} {s' : Store D} (sound : Sound matching r)
    (deleted : Rust.delete key (single r opts) = (.ok (), s')) :
    ∃ e r', r.index.lookup (fromUtf8Lossy key) = some e ∧ s' = single r' opts ∧
      r'.index = r.index.delete (fromUtf8Lossy key) ∧
      recordAt (image r'.dev) = Function.update (recordAt (image r.dev)) e.descriptorBlock none ∧
      Keeps (image r.dev) (image r'.dev) := by
  rw [delete_single] at deleted
  rcases Option.eq_none_or_eq_some (r.index.lookup (fromUtf8Lossy key)) with absent | ⟨e, found⟩
  · rw [rust_deleteReplica_absent absent] at deleted
    cases deleted
  rcases ran : Rust.deleteReplica (fromUtf8Lossy key) opts.freePattern false r with ⟨result, r'⟩
  rw [ran] at deleted
  obtain ⟨⟨rfl, _⟩ | ⟨rfl, index, gone⟩, kept, _⟩ := deleteReplica_outcome sound.indexed found ran
  · cases deleted
  · cases deleted
    exact ⟨e, r', found, rfl, index, gone, kept⟩

/-! ## Opening again -/

/-- The index of a replica is the one a scan of its image builds. -/
def Scanned (r : Replica D) : Prop := r.index = Scan.indexOf fromUtf8Lossy (image r.dev)

/-- The entry a scan makes of a record. -/
def Listed (s : Bytes) (e : IndexEntry) (rec : CompleteRecord) : Prop :=
  fromUtf8Lossy rec.key = s ∧ e = Scan.entryOf fromUtf8Lossy rec

/-- The entry a put makes is the one a scan makes of its record. -/
theorem listed_added {img : MemDevice} {key value : Bytes} {generation : Nat}
    {new : CompleteRecord} (short : key.length ≤ 65535) (bounded : generation < 2 ^ 32)
    (added : Added img key value generation new) :
    Listed (fromUtf8Lossy key) (newEntry key generation new.descriptorBlock value) new := by
  rcases added.contents short with ⟨keyed, valued⟩
  have length : asU32 new.value.length = asU32 value.length := by
    have within := Nat.mod_le value.length (2 ^ 32)
    rw [valued, List.length_take]
    simp only [asU32, Nat.min_eq_left within, Nat.mod_mod]
  refine ⟨by rw [keyed], ?_⟩
  rw [newEntry, Scan.entryOf, keyed, added.generation_eq, Nat.mod_eq_of_lt bounded, added.total,
    length]

theorem indexedBy_scanAs (name : Bytes → Bytes) {img : MemDevice} :
    IndexedBy (fun s e rec => name rec.key = s ∧ e = Scan.entryOf name rec) (recordAt img)
      (Scan.indexOf name img) where
  complete s e found := by
    obtain ⟨rec, selected, rfl⟩ := Scan.lookup_indexOf.mp found
    exact ⟨rec, recordAt_eq_some.mpr selected.record, selected.named, rfl⟩
  distinct s s' e e' found found' same := by
    obtain ⟨rec, selected, rfl⟩ := Scan.lookup_indexOf.mp found
    obtain ⟨rec', selected', rfl⟩ := Scan.lookup_indexOf.mp found'
    have place : rec.descriptorBlock = rec'.descriptorBlock := same
    have record := selected.record
    rw [place] at record
    rw [← selected.named, ← selected'.named, recordAt_unique record selected'.record]

theorem indexedBy_scan {img : MemDevice} :
    IndexedBy Listed (recordAt img) (Scan.indexOf fromUtf8Lossy img) :=
  indexedBy_scanAs fromUtf8Lossy

theorem Scanned.sound (scanned : Scanned r) (large : 36 ≤ (image r.dev).blockSize)
    (mountable : Mount.Mountable (image r.dev)) : Sound Listed r where
  large := large
  mountable := mountable
  index := by
    rw [scanned]
    exact indexedBy_scan

/-- A freshly scanned replica reads the selected records. -/
theorem get_scanned (scanned : Scanned r) (large : 36 ≤ (image r.dev).blockSize)
    (build : Rust.Build) (key : Bytes) (opts : Options) :
    Rust.get build key (single r opts) =
      (match (Scan.bestOf fromUtf8Lossy (image r.dev)).lookup (fromUtf8Lossy key) with
        | some rec => .ok rec.value
        | none => .error (.err .keyNotFound), single r opts) := by
  cases best : (Scan.bestOf fromUtf8Lossy (image r.dev)).lookup (fromUtf8Lossy key) with
  | none =>
      apply get_single_absent
      rw [scanned, Scan.lookup_indexOf_none]
      exact Scan.lookup_bestOf_none.mp best
  | some rec =>
      have selected := Scan.lookup_bestOf.mp best
      have found : r.index.lookup (fromUtf8Lossy key) =
          some (Scan.entryOf fromUtf8Lossy rec) := by
        rw [scanned, Scan.lookup_indexOf]
        exact ⟨rec, selected, rfl⟩
      have turn : Rust.getReplica build key none r =
          (.ok (some (rec.generation, rec.value)), r) := by
        rw [Rust.getReplica, Proc.bind_ok (rust_getWithGeneration build large found
          selected.record)]
        rfl
      have each : Store.onReplicas (Proc.each (Rust.getReplica build key) none) (single r opts) =
          (.ok (some (rec.generation, rec.value)), single r opts) := by
        rw [Store.onReplicas, Proc.zoom_apply, single, Proc.each_singleton, turn]
      rw [Rust.get, Proc.bind_ok each]
      rfl

/-- The documented open sequence without its optional step: `open`, `build_index`. -/
def mount (build : Rust.Build) (devs : List D) (opts : Options) : Except Failure (Store D) := do
  let s ← Rust.openStore devs opts
  match Rust.buildIndex build s with
  | (.ok (), s') => return s'
  | (.error failure, _) => .error failure

/-- The open sequence after a crash: `open`, `recover`, `build_index`. -/
def mountRecovered (build : Rust.Build) (devs : List D) (opts : Options) :
    Except Failure (Store D) := do
  let s ← Rust.openStore devs opts
  match Rust.recover build s with
  | (.ok (), recovered) =>
    match Rust.buildIndex build recovered with
    | (.ok (), s') => return s'
    | (.error failure, _) => .error failure
  | (.error failure, _) => .error failure

/-- A replica as it stands after `open` and `build_index`. -/
def scannedReplica (dev : D) : Replica D :=
  { Mount.mounted dev with index := Scan.indexOf fromUtf8Lossy (image dev) }

theorem mount_eq (build : Rust.Build) {devs : List D} {blockSize blockCount : Nat}
    (nonempty : devs ≠ []) (large : 36 ≤ blockSize)
    (mountable : ∀ dev ∈ devs, Mount.Mountable (image dev) ∧ (image dev).blockSize = blockSize ∧
      (image dev).blockCount = blockCount) (opts : Options) :
    mount build devs opts = .ok { replicas := devs.map scannedReplica, opts := opts } := by
  have opened := Mount.rust_openStore nonempty mountable opts
  have indexed : Rust.buildIndex build { replicas := devs.map Mount.mounted, opts := opts } = _ :=
    Mount.rust_buildIndex build (by
      intro r member
      obtain ⟨dev, inside, rfl⟩ := List.mem_map.mp member
      have size := (mountable dev inside).2.1
      show 36 ≤ (image dev).blockSize
      omega)
  simp only [mount, opened, bind, Except.bind, indexed, pure, Except.pure, List.map_map]
  rfl

/-- A store that was opened consists of the scanned devices. -/
theorem mount_inv {build : Rust.Build} {devs : List D} {opts : Options} {s : Store D}
    (large : ∀ dev ∈ devs, 36 ≤ (image dev).blockSize) (opened : mount build devs opts = .ok s) :
    ∃ blockSize blockCount, Mount.Accepted devs blockSize blockCount ∧ 36 ≤ blockSize ∧
      s = { replicas := devs.map scannedReplica, opts := opts } := by
  cases accepted : Rust.openStore devs opts with
  | error failure =>
      rw [mount, accepted] at opened
      cases opened
  | ok mounted =>
      rcases Mount.openStore_accepts accepted with ⟨blockSize, blockCount, accepts⟩
      have enough := accepts.le_size large
      rw [mount_eq build accepts.nonempty enough accepts.mountable opts] at opened
      cases opened
      exact ⟨blockSize, blockCount, accepts, enough, rfl⟩

theorem mount_single (build : Rust.Build) {dev : D} (large : 36 ≤ (image dev).blockSize)
    (mountable : Mount.Mountable (image dev)) (opts : Options) :
    mount build [dev] opts = .ok (single (scannedReplica dev) opts) := by
  rw [mount_eq build (by simp) large]
  · rfl
  · intro other member
    rw [List.mem_singleton.mp member]
    exact ⟨mountable, rfl, rfl⟩

theorem mount_single_inv {build : Rust.Build} {dev : D} {opts : Options} {s : Store D}
    (large : 36 ≤ (image dev).blockSize) (opened : mount build [dev] opts = .ok s) :
    Mount.Mountable (image dev) ∧ s = single (scannedReplica dev) opts := by
  rcases mount_inv (by simpa using large) opened with ⟨_, _, accepted, _, same⟩
  exact ⟨(accepted.mountable dev List.mem_cons_self).1, same⟩

end

section
variable {D : Type} [BlockDevice D] [ReliableBlockDevice D]

theorem recovered_keeps (name : Bytes → Bytes) (img : MemDevice) (pattern : UInt8) :
    Keeps img (Recovery.recovered name img pattern) := by
  apply keeps_apply
  rw [Erase.erasures_blocks]
  intro erased
  exact absurd (Recovery.mem_garbage.mp erased).1.1 (by decide)

theorem replicaRecover_reliable (build : Rust.Build) (pattern : UInt8) {dev : D}
    (large : 36 ≤ (image dev).blockSize) :
    (Rust.replicaRecover build pattern dev).1 = .ok () ∧
      image (Rust.replicaRecover build pattern dev).2 =
        Recovery.recovered fromUtf8Lossy (image dev) pattern := by
  obtain ⟨dev', swept, recovered⟩ := Recovery.sweep_reliable fromUtf8Lossy pattern dev
  rw [Recovery.rust_replicaRecover build dev pattern large, swept]
  exact ⟨rfl, recovered⟩

/-- A replica after recovery, its index not yet rebuilt. -/
def recoveredReplica (build : Rust.Build) (pattern : UInt8) (r : Replica D) : Replica D :=
  { r with dev := (Rust.replicaRecover build pattern r.dev).2 }

/-- `recover` treats every replica on its own. -/
theorem rust_recover (build : Rust.Build) {s : Store D}
    (large : ∀ r ∈ s.replicas, 36 ≤ (image r.dev).blockSize) :
    Rust.recover build s = (.ok (), { s with
      replicas := s.replicas.map (recoveredReplica build s.opts.freePattern) }) := by
  have each : Proc.each (fun _ => Replica.onDevice
      (Rust.replicaRecover build s.opts.freePattern)) () s.replicas =
        (.ok (), s.replicas.map (recoveredReplica build s.opts.freePattern)) := by
    apply Proc.each_map
    intro r member
    obtain ⟨ok, _⟩ := replicaRecover_reliable build s.opts.freePattern (large r member)
    rw [Replica.onDevice, Proc.zoom_apply, ok]
    rfl
  rw [Rust.recover, Proc.get_bind_apply, Store.onReplicas, Proc.zoom_apply, each]

/-- A replica as it stands after `open`, `recover` and `build_index`. -/
def remountedReplica (build : Rust.Build) (pattern : UInt8) (dev : D) : Replica D :=
  { recoveredReplica build pattern (Mount.mounted dev) with
    index := Scan.indexOf fromUtf8Lossy (image (Rust.replicaRecover build pattern dev).2) }

theorem remounted_scanned (build : Rust.Build) (pattern : UInt8) (dev : D) :
    Scanned (remountedReplica build pattern dev) := rfl

theorem image_remounted (build : Rust.Build) (pattern : UInt8) {dev : D}
    (large : 36 ≤ (image dev).blockSize) :
    image (remountedReplica build pattern dev).dev =
      Recovery.recovered fromUtf8Lossy (image dev) pattern :=
  (replicaRecover_reliable build pattern large).2

theorem mountRecovered_eq (build : Rust.Build) {devs : List D} {blockSize blockCount : Nat}
    (nonempty : devs ≠ []) (large : 36 ≤ blockSize)
    (mountable : ∀ dev ∈ devs, Mount.Mountable (image dev) ∧ (image dev).blockSize = blockSize ∧
      (image dev).blockCount = blockCount) (opts : Options) :
    mountRecovered build devs opts = .ok
      { replicas := devs.map (remountedReplica build opts.freePattern), opts := opts } := by
  have opened := Mount.rust_openStore nonempty mountable opts
  have sizes : ∀ dev ∈ devs, 36 ≤ (image dev).blockSize := by
    intro dev member
    rw [(mountable dev member).2.1]
    exact large
  have recovered : Rust.recover build { replicas := devs.map Mount.mounted, opts := opts } = _ :=
    rust_recover build (by
      intro r member
      obtain ⟨dev, inside, rfl⟩ := List.mem_map.mp member
      exact sizes dev inside)
  let found := (devs.map Mount.mounted).map (recoveredReplica build opts.freePattern)
  have indexed : Rust.buildIndex build { replicas := found, opts := opts } = _ :=
    Mount.rust_buildIndex build (by
      intro r member
      obtain ⟨mounted, inMounted, rfl⟩ := List.mem_map.mp member
      obtain ⟨dev, inside, rfl⟩ := List.mem_map.mp inMounted
      have image := (replicaRecover_reliable build opts.freePattern (sizes dev inside)).2
      show 36 ≤ (LawfulBlockDevice.image (Rust.replicaRecover build opts.freePattern dev).2).blockSize
      rw [image, (recovered_keeps ..).size]
      exact sizes dev inside)
  simp only [mountRecovered, opened, bind, Except.bind, recovered, pure, Except.pure]
  change (match Rust.buildIndex build { replicas := found, opts := opts } with
    | (.ok (), s') => Except.ok s'
    | (.error failure, _) => Except.error failure) = _
  rw [indexed]
  simp only [found, List.map_map]
  rfl

/-- A store that was opened after recovery consists of the remounted devices. -/
theorem mountRecovered_inv {build : Rust.Build} {devs : List D} {opts : Options} {s : Store D}
    (large : ∀ dev ∈ devs, 36 ≤ (image dev).blockSize)
    (opened : mountRecovered build devs opts = .ok s) :
    ∃ blockSize blockCount, Mount.Accepted devs blockSize blockCount ∧ 36 ≤ blockSize ∧
      s = { replicas := devs.map (remountedReplica build opts.freePattern), opts := opts } := by
  cases accepted : Rust.openStore devs opts with
  | error failure =>
      rw [mountRecovered, accepted] at opened
      cases opened
  | ok mounted =>
      rcases Mount.openStore_accepts accepted with ⟨blockSize, blockCount, accepts⟩
      have enough := accepts.le_size large
      rw [mountRecovered_eq build accepts.nonempty enough accepts.mountable opts] at opened
      cases opened
      exact ⟨blockSize, blockCount, accepts, enough, rfl⟩

theorem mountRecovered_single (build : Rust.Build) {dev : D}
    (large : 36 ≤ (image dev).blockSize) (mountable : Mount.Mountable (image dev))
    (opts : Options) :
    mountRecovered build [dev] opts =
      .ok (single (remountedReplica build opts.freePattern dev) opts) := by
  rw [mountRecovered_eq build (by simp) large]
  · rfl
  · intro other member
    rw [List.mem_singleton.mp member]
    exact ⟨mountable, rfl, rfl⟩

theorem mountRecovered_single_inv {build : Rust.Build} {dev : D} {opts : Options} {s : Store D}
    (large : 36 ≤ (image dev).blockSize) (opened : mountRecovered build [dev] opts = .ok s) :
    Mount.Mountable (image dev) ∧
      s = single (remountedReplica build opts.freePattern dev) opts := by
  rcases mountRecovered_inv (by simpa using large) opened with ⟨_, _, accepted, _, same⟩
  exact ⟨(accepted.mountable dev List.mem_cons_self).1, same⟩

/-- Recovery does not change what the selection reads. -/
theorem bestOf_recovered (name : Bytes → Bytes) {img : MemDevice} (large : 36 ≤ img.blockSize)
    (pattern : UInt8) :
    Scan.bestOf name (Recovery.recovered name img pattern) = Scan.bestOf name img := by
  apply Finmap.ext_lookup
  intro s
  apply Option.ext
  intro rec
  rw [Scan.lookup_bestOf, Scan.lookup_bestOf, Recovery.selected_recovered large]

/-- What a device reads as after the open sequence that follows a crash. -/
theorem get_mountRecovered (build : Rust.Build) {dev : D} (large : 36 ≤ (image dev).blockSize)
    (mountable : Mount.Mountable (image dev)) (opts : Options) :
    ∃ s, mountRecovered build [dev] opts = .ok s ∧ ∀ key, (Rust.get build key s).1 =
      match (Scan.bestOf fromUtf8Lossy (image dev)).lookup (fromUtf8Lossy key) with
      | some rec => .ok rec.value
      | none => .error (.err .keyNotFound) := by
  refine ⟨_, mountRecovered_single build large mountable opts, ?_⟩
  intro key
  have image := image_remounted build opts.freePattern large
  have size : 36 ≤ (LawfulBlockDevice.image
      (remountedReplica build opts.freePattern dev).dev).blockSize := by
    rw [image, (recovered_keeps ..).size]
    exact large
  rw [get_scanned (remounted_scanned build opts.freePattern dev) size, image,
    bestOf_recovered fromUtf8Lossy large]

end

end Embedkv.Session
