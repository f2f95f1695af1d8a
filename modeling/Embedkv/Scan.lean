import Embedkv.Lib.Select
import Embedkv.Effects

/-!
# Index scans

`build_index` and the first pass of `recover` select, for every key, the
complete record of highest generation, the one in the lowest block on a tie.
The two implementations differ only in the name they give a key: Rust looks at
the lossy string, Go at the bytes. Both scans are one selection over the
complete records of the image, taken at that naming.
-/

namespace Embedkv.Scan

open Embedkv.Lib Embedkv.Format Embedkv.Device Embedkv.State Embedkv.Codec Embedkv.Image
open Embedkv.Record Embedkv.Erase Embedkv.Effects

set_option autoImplicit false

/-- The complete records of an image, in scan order. -/
def records (img : MemDevice) : List CompleteRecord :=
  (dataBlocks img.blockCount).filterMap (recordAt img)

theorem mem_records {img : MemDevice} {rec : CompleteRecord} :
    rec ∈ records img ↔ 1 ≤ rec.descriptorBlock ∧ RecordAt img rec.descriptorBlock rec := by
  rw [records, List.mem_filterMap]
  constructor
  · rintro ⟨d, scanned, found⟩
    have record := recordAt_eq_some.mp found
    rw [record.descriptorBlock_eq]
    exact ⟨(mem_dataBlocks.mp scanned).1, record⟩
  · rintro ⟨positive, record⟩
    exact ⟨rec.descriptorBlock, mem_dataBlocks.mpr ⟨positive, record.inside⟩,
      recordAt_eq_some.mpr record⟩

theorem records_sorted (img : MemDevice) :
    ((records img).map CompleteRecord.descriptorBlock).Pairwise (· < ·) := by
  rw [List.pairwise_map, records, List.pairwise_filterMap]
  apply (dataBlocks_pairwise img.blockCount).imp
  intro d d' below rec found rec' found'
  rw [(recordAt_eq_some.mp found).descriptorBlock_eq, (recordAt_eq_some.mp found').descriptorBlock_eq]
  exact below

section
variable (name : Bytes → Bytes)

def entryOf (rec : CompleteRecord) : IndexEntry where
  key := name rec.key
  generation := rec.generation
  descriptorBlock := rec.descriptorBlock
  totalSize := rec.header.totalSize.toNat

/-- The best record of every name. -/
def bestOf (img : MemDevice) : BestMap :=
  select (fun rec => name rec.key) CompleteRecord.generation (records img)

/-- The index a scan builds. -/
def indexOf (img : MemDevice) : MemIndex :=
  select IndexEntry.key IndexEntry.generation ((records img).map (entryOf name))

/-- `rec` is the record selected for `s`. -/
def Selected (img : MemDevice) (s : Bytes) (rec : CompleteRecord) : Prop :=
  Preferred (fun rec => name rec.key) CompleteRecord.generation CompleteRecord.descriptorBlock
    (records img) s rec

variable {name}

theorem lookup_bestOf {img : MemDevice} {s : Bytes} {rec : CompleteRecord} :
    (bestOf name img).lookup s = some rec ↔ Selected name img s rec :=
  lookup_select_eq_some (records_sorted img)

theorem lookup_bestOf_none {img : MemDevice} {s : Bytes} :
    (bestOf name img).lookup s = none ↔ ∀ rec ∈ records img, name rec.key ≠ s :=
  lookup_select_eq_none (records_sorted img)

theorem Selected.stored {img : MemDevice} {s : Bytes} {rec : CompleteRecord}
    (selected : Selected name img s rec) : rec ∈ records img := selected.1

theorem Selected.named {img : MemDevice} {s : Bytes} {rec : CompleteRecord}
    (selected : Selected name img s rec) : name rec.key = s := selected.2.1

theorem Selected.leads {img : MemDevice} {s : Bytes} {rec : CompleteRecord}
    (selected : Selected name img s rec) {other : CompleteRecord} (stored : other ∈ records img)
    (named : name other.key = s) :
    other.generation < rec.generation ∨ other.generation = rec.generation ∧
      rec.descriptorBlock ≤ other.descriptorBlock := selected.2.2 other stored named

theorem Selected.record {img : MemDevice} {s : Bytes} {rec : CompleteRecord}
    (selected : Selected name img s rec) : RecordAt img rec.descriptorBlock rec :=
  (mem_records.mp selected.stored).2

theorem Selected.unique {img : MemDevice} {s : Bytes} {rec rec' : CompleteRecord}
    (here : Selected name img s rec) (there : Selected name img s rec') : rec = rec' :=
  Preferred.unique (records_sorted img) here there

theorem entries_sorted (img : MemDevice) :
    (((records img).map (entryOf name)).map IndexEntry.descriptorBlock).Pairwise (· < ·) := by
  rw [List.map_map]
  exact records_sorted img

/-- The index holds the entry of every selected record, and nothing else. -/
theorem lookup_indexOf {img : MemDevice} {s : Bytes} {e : IndexEntry} :
    (indexOf name img).lookup s = some e ↔ ∃ rec, Selected name img s rec ∧ e = entryOf name rec := by
  rw [indexOf, lookup_select_eq_some (entries_sorted img), preferred_map]
  rfl

theorem lookup_indexOf_none {img : MemDevice} {s : Bytes} :
    (indexOf name img).lookup s = none ↔ ∀ rec ∈ records img, name rec.key ≠ s := by
  rw [indexOf, lookup_select_eq_none (entries_sorted img)]
  exact List.forall_mem_map

end

/-! ## The scans compute the selection -/

/-- A block of another type is no complete record. -/
theorem recordAt_of_type {img : MemDevice} {d : Nat}
    (other : u8At (img.block d) 0 ≠ blockTypeRecordDescriptor) : recordAt img d = none := by
  rw [recordAt_eq_none]
  intro rec record
  exact other record.descriptor_type

section
variable {D : Type} [BlockDevice D] [LawfulBlockDevice D]

/-- One turn of a scan: nothing, or the record of this block is considered. -/
def consider (name : Bytes → Bytes) (img : MemDevice) (best : BestMap) (i : Nat) : BestMap :=
  match recordAt img i with
  | none => best
  | some rec => improve (fun rec => name rec.key) CompleteRecord.generation best rec

theorem rust_bestBlock (build : Rust.Build) (dev : D) (large : 36 ≤ (image dev).blockSize)
    (best : BestMap) {i : Nat} (inside : i < (image dev).blockCount) :
    Rust.bestBlock build best i dev = (.ok (consider fromUtf8Lossy (image dev) best i), dev) := by
  rw [Rust.bestBlock, Proc.bind_ok (LawfulBlockDevice.readBlock_eq dev i inside)]
  by_cases descriptor : u8At ((image dev).block i) 0 ≠ blockTypeRecordDescriptor
  · rw [if_pos descriptor, consider, recordAt_of_type descriptor]
    rfl
  · rw [if_neg descriptor, Proc.bind_ok (rust_verifyAndReadRecord build dev i large inside),
      consider]
    cases recordAt (image dev) i with
    | none => rfl
    | some rec =>
        simp only [improve]
        cases kept : best.lookup (fromUtf8Lossy rec.key) with
        | none => simp only [if_true]; rfl
        | some ex => simp only [decide_eq_true_eq]; rfl

theorem go_bestBlock (dev : D) (large : 36 ≤ (image dev).blockSize)
    (best : BestMap) {i : Nat} (inside : i < (image dev).blockCount) :
    Go.bestBlock best i dev = (.ok (consider id (image dev) best i), dev) := by
  rw [Go.bestBlock, Proc.bind_ok (LawfulBlockDevice.readBlock_eq dev i inside)]
  by_cases descriptor : u8At ((image dev).block i) 0 ≠ blockTypeRecordDescriptor
  · rw [if_pos descriptor, consider, recordAt_of_type descriptor]
    rfl
  · rw [if_neg descriptor, Proc.bind_ok (go_verifyAndReadRecord dev i large inside), consider]
    cases recordAt (image dev) i with
    | none => rfl
    | some rec =>
        simp only [improve, id_eq]
        cases kept : best.lookup rec.key with
        | none => rfl
        | some ex => rfl

theorem bestOf_eq_foldl (name : Bytes → Bytes) (img : MemDevice) :
    bestOf name img = (dataBlocks img.blockCount).foldl (consider name img) ∅ := by
  rw [bestOf, select, records, List.foldl_filterMap]
  congr 1
  funext best i
  unfold consider
  cases recordAt img i <;> rfl

/-- One turn of an index scan. -/
def note (name : Bytes → Bytes) (img : MemDevice) (index : MemIndex) (i : Nat) : MemIndex :=
  match recordAt img i with
  | none => index
  | some rec => improve IndexEntry.key IndexEntry.generation index (entryOf name rec)

/-- What a block was verified as joins the index. -/
def enter (name : Bytes → Bytes) (index : MemIndex) : Option CompleteRecord → MemIndex
  | none => index
  | some rec => improve IndexEntry.key IndexEntry.generation index (entryOf name rec)

theorem note_eq (name : Bytes → Bytes) (img : MemDevice) (index : MemIndex) (i : Nat) :
    note name img index i = enter name index (recordAt img i) := by
  unfold note
  cases recordAt img i <;> rfl

theorem select_entries (name : Bytes → Bytes) (verified : Nat → Option CompleteRecord)
    (scan : List Nat) :
    select IndexEntry.key IndexEntry.generation ((scan.filterMap verified).map (entryOf name)) =
      scan.foldl (fun index i => enter name index (verified i)) ∅ := by
  rw [select, List.foldl_map, List.foldl_filterMap]
  congr 1
  funext index i
  cases verified i <;> rfl

theorem indexOf_eq_foldl (name : Bytes → Bytes) (img : MemDevice) :
    indexOf name img = (dataBlocks img.blockCount).foldl (note name img) ∅ := by
  have turns : note name img = fun index i => enter name index (recordAt img i) := by
    funext index i
    exact note_eq name img index i
  rw [indexOf, records, select_entries, turns]

omit [LawfulBlockDevice D] in
/-- A turn of the scan that met no failure. -/
theorem rust_indexBlock_enters {build : Rust.Build} {r : Replica D} {i : Nat} {buf : Bytes}
    {outcome : Option CompleteRecord}
    (read : Replica.onDevice (BlockDevice.readBlock i) r = (.ok buf, r))
    (verified : Replica.onDevice (Rust.verifyAndReadRecord build i) r = (.ok outcome, r))
    (typed : u8At buf 0 ≠ blockTypeRecordDescriptor → outcome = none)
    (placed : ∀ rec, outcome = some rec → rec.descriptorBlock = i) :
    Rust.indexBlock build i r =
      (.ok (), { r with index := enter fromUtf8Lossy r.index outcome }) := by
  rw [Rust.indexBlock, Proc.bind_ok read]
  by_cases descriptor : u8At buf 0 ≠ blockTypeRecordDescriptor
  · rw [if_pos descriptor, typed descriptor]
    rfl
  rw [if_neg descriptor, Proc.bind_ok verified]
  cases outcome with
  | none => rfl
  | some rec =>
      have entry : entryOf fromUtf8Lossy rec = ⟨fromUtf8Lossy rec.key, rec.generation, i,
          rec.header.totalSize.toNat⟩ := by rw [entryOf, placed rec rfl]
      simp only [Proc.get_bind_apply, enter, entry]
      rcases Option.eq_none_or_eq_some (r.index.get (fromUtf8Lossy rec.key)) with
        kept | ⟨ex, kept⟩
      · have unseen : r.index.lookup (fromUtf8Lossy rec.key) = none := kept
        rw [improve_unseen unseen]
        simp only [kept, if_true]
        rfl
      · have seen : r.index.lookup (fromUtf8Lossy rec.key) = some ex := kept
        rw [improve_seen seen]
        simp only [kept, decide_eq_true_eq]
        split <;> rfl

theorem rust_indexBlock (build : Rust.Build) (r : Replica D) (large : 36 ≤ (image r.dev).blockSize)
    {i : Nat} (inside : i < (image r.dev).blockCount) :
    Rust.indexBlock build i r =
      (.ok (), { r with index := note fromUtf8Lossy (image r.dev) r.index i }) := by
  have read : Replica.onDevice (BlockDevice.readBlock i) r = (.ok ((image r.dev).block i), r) := by
    rw [Replica.onDevice, Proc.zoom_apply, LawfulBlockDevice.readBlock_eq r.dev i inside]
  have verified : Replica.onDevice (Rust.verifyAndReadRecord build i) r =
      (.ok (recordAt (image r.dev) i), r) := by
    rw [Replica.onDevice, Proc.zoom_apply, rust_verifyAndReadRecord build r.dev i large inside]
  rw [note_eq]
  refine rust_indexBlock_enters read verified recordAt_of_type ?_
  intro rec found
  exact (recordAt_eq_some.mp found).descriptorBlock_eq

theorem go_indexBlock (r : Replica D) (large : 36 ≤ (image r.dev).blockSize)
    {i : Nat} (inside : i < (image r.dev).blockCount) :
    Go.indexBlock i r = (.ok (), { r with index := note id (image r.dev) r.index i }) := by
  have read : Replica.onDevice (BlockDevice.readBlock i) r = (.ok ((image r.dev).block i), r) := by
    rw [Replica.onDevice, Proc.zoom_apply, LawfulBlockDevice.readBlock_eq r.dev i inside]
  have verified : Replica.onDevice (Go.verifyAndReadRecord i) r =
      (.ok (recordAt (image r.dev) i), r) := by
    rw [Replica.onDevice, Proc.zoom_apply, go_verifyAndReadRecord r.dev i large inside]
  rw [Go.indexBlock, Proc.bind_ok read]
  by_cases descriptor : u8At ((image r.dev).block i) 0 ≠ blockTypeRecordDescriptor
  · rw [if_pos descriptor, note, recordAt_of_type descriptor]
    rfl
  · rw [if_neg descriptor, Proc.bind_ok verified, note]
    cases found : recordAt (image r.dev) i with
    | none => rfl
    | some rec =>
        have place := (recordAt_eq_some.mp found).descriptorBlock_eq
        have entry : entryOf id rec = ⟨rec.key, rec.generation, i,
            rec.header.totalSize.toNat⟩ := by rw [entryOf, place, id]
        simp only [Proc.get_bind_apply, entry, MemIndex.get]
        cases kept : r.index.lookup rec.key with
        | none =>
            rw [improve_unseen kept]
            rfl
        | some ex =>
            rw [improve_seen kept]
            simp only []
            split <;> rfl

omit [BlockDevice D] in
theorem foldl_index (turn : MemIndex → Nat → MemIndex) (scan : List Nat) (r : Replica D) :
    scan.foldl (fun r i => { r with index := turn r.index i }) r =
      { r with index := scan.foldl turn r.index } := by
  induction scan generalizing r with
  | nil => rfl
  | cons i rest ih => rw [List.foldl_cons, List.foldl_cons, ih]

/-- The index after a scan is the selection, whatever it was before. -/
theorem rust_replicaBuildIndex (build : Rust.Build) (r : Replica D)
    (large : 36 ≤ (image r.dev).blockSize) :
    Rust.replicaBuildIndex build r =
      (.ok (), { r with index := indexOf fromUtf8Lossy (image r.dev) }) := by
  have count : Replica.onDevice blockCountOf { r with index := ∅ } =
      (.ok (image r.dev).blockCount, { r with index := ∅ }) := by
    rw [Replica.onDevice, Proc.zoom_apply, blockCountOf, LawfulBlockDevice.blockCount_eq]
  rw [Rust.replicaBuildIndex, Replica.setIndex, Proc.modify_bind_apply, Proc.bind_ok count]
  have scanned := foldl_index (note fromUtf8Lossy (image r.dev))
    (dataBlocks (image r.dev).blockCount) { r with index := ∅ }
  rw [← indexOf_eq_foldl] at scanned
  rw [← scanned]
  refine Proc.foldlM_state (fun r' (same : r'.dev = r.dev) i member => ?_) rfl
  have inside := (mem_dataBlocks.mp member).2
  rw [← same] at large inside ⊢
  exact ⟨rust_indexBlock build r' large inside, rfl⟩

theorem go_replicaBuildIndex (r : Replica D) (large : 36 ≤ (image r.dev).blockSize) :
    Go.replicaBuildIndex r = (.ok (), { r with index := indexOf id (image r.dev) }) := by
  have count : Replica.onDevice blockCountOf { r with index := ∅ } =
      (.ok (image r.dev).blockCount, { r with index := ∅ }) := by
    rw [Replica.onDevice, Proc.zoom_apply, blockCountOf, LawfulBlockDevice.blockCount_eq]
  rw [Go.replicaBuildIndex, Replica.setIndex, Proc.modify_bind_apply, Proc.bind_ok count]
  have scanned := foldl_index (note id (image r.dev))
    (dataBlocks (image r.dev).blockCount) { r with index := ∅ }
  rw [← indexOf_eq_foldl] at scanned
  rw [← scanned]
  refine Proc.foldlM_state (fun r' (same : r'.dev = r.dev) i member => ?_) rfl
  have inside := (mem_dataBlocks.mp member).2
  rw [← same] at large inside ⊢
  exact ⟨go_indexBlock r' large inside, rfl⟩

end

end Embedkv.Scan
