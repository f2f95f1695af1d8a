import Embedkv.Scan

/-!
# Recovery

`recover` keeps block 0 and the blocks of the selected records, and erases what
is left of the rest. Erasing is damage outside the selected records, so the
selection does not change: neither when recovery runs to its end nor when a
crash leaves only part of it behind.
-/

namespace Embedkv.Recovery

open Embedkv.Lib Embedkv.Format Embedkv.Device Embedkv.State Embedkv.Codec Embedkv.Image
open Embedkv.Record Embedkv.Erase Embedkv.Effects Embedkv.Scan

set_option autoImplicit false

theorem mem_validBlocks {best : BestMap} {b : Nat} :
    b ∈ validBlocks best ↔ b = 0 ∨ ∃ s rec, best.lookup s = some rec ∧ b ∈ rec.blocks := by
  rw [validBlocks, Finset.mem_insert, Multiset.mem_toFinset, Multiset.mem_bind]
  apply or_congr Iff.rfl
  constructor
  · rintro ⟨⟨s, rec⟩, entry, member⟩
    exact ⟨s, rec, Finmap.lookup_eq_some_iff.mpr entry, Multiset.mem_coe.mp member⟩
  · rintro ⟨s, rec, found, member⟩
    exact ⟨⟨s, rec⟩, Finmap.lookup_eq_some_iff.mp found, Multiset.mem_coe.mpr member⟩

/-- The blocks recovery keeps. -/
def Kept (name : Bytes → Bytes) (img : MemDevice) (b : Nat) : Prop :=
  b = 0 ∨ ∃ s rec, Selected name img s rec ∧ b ∈ rec.blocks

theorem mem_validBlocks_bestOf {name : Bytes → Bytes} {img : MemDevice} {b : Nat} :
    b ∈ validBlocks (bestOf name img) ↔ Kept name img b := by
  simp only [mem_validBlocks, Kept, lookup_bestOf]

/-- The blocks recovery erases, in scan order. -/
def garbage (name : Bytes → Bytes) (img : MemDevice) : List Nat :=
  (dataBlocks img.blockCount).filter fun b =>
    b ∉ validBlocks (bestOf name img) ∧ ¬IsFree (img.block b)

theorem mem_garbage {name : Bytes → Bytes} {img : MemDevice} {b : Nat} :
    b ∈ garbage name img ↔ (1 ≤ b ∧ b < img.blockCount) ∧ ¬Kept name img b ∧
      ¬IsFree (img.block b) := by
  rw [garbage, List.mem_filter, mem_dataBlocks, decide_eq_true_iff, mem_validBlocks_bestOf]

theorem garbage_nodup (name : Bytes → Bytes) (img : MemDevice) : (garbage name img).Nodup :=
  ((dataBlocks_pairwise _).imp Nat.ne_of_lt).filter _

section
variable {D : Type} [BlockDevice D] [LawfulBlockDevice D]

/-- The erasing scan writes the free pattern to the garbage, block by block. -/
theorem eraseBlock_scan (valid : Finset Nat) (free : Bytes) {scan : List Nat} (dev : D)
    (sized : free.length = (image dev).blockSize) (distinct : scan.Nodup)
    (inside : ∀ b ∈ scan, b < (image dev).blockCount) (found : Bool) :
    (scan.foldlM (eraseBlock valid free) found : Proc Failure D Bool) dev =
      (do writeAll (erasures (scan.filter fun b => b ∉ valid ∧ ¬IsFree ((image dev).block b)) free)
          pure (found || !(scan.filter fun b =>
            b ∉ valid ∧ ¬IsFree ((image dev).block b)).isEmpty)) dev := by
  induction scan generalizing dev found with
  | nil => simp [erasures, writeAll]
  | cons b rest ih =>
      have here : b < (image dev).blockCount := inside b List.mem_cons_self
      have insideRest : ∀ other ∈ rest, other < (image dev).blockCount := fun other member =>
        inside other (List.mem_cons_of_mem _ member)
      obtain ⟨fresh, distinctRest⟩ := List.nodup_cons.mp distinct
      by_cases dirty : b ∉ valid ∧ ¬IsFree ((image dev).block b)
      · have turn : eraseBlock valid free found b dev =
            (do BlockDevice.writeBlock b free; pure true) dev := by
          have taken : ¬(u8At ((image dev).block b) 0 = 0x00 ∨
            u8At ((image dev).block b) 0 = 0xFF) := dirty.2
          rw [eraseBlock, if_neg dirty.1,
            Proc.bind_ok (LawfulBlockDevice.readBlock_eq dev b here), if_neg taken]
        rw [List.foldlM_cons, Proc.bind_first_congr turn, Proc.bind_assoc_apply,
          List.filter_cons_of_pos (by simpa using dirty)]
        change _ = ((do
          BlockDevice.writeBlock b free
          writeAll (erasures (rest.filter fun b => b ∉ valid ∧ ¬IsFree ((image dev).block b))
            free)) >>= fun _ => _) dev
        rw [Proc.bind_assoc_apply]
        apply Proc.bind_congr_ok
        intro _ dev' ran
        have written := LawfulBlockDevice.writeBlock_ok dev dev' b free here sized ran
        have same : (rest.filter fun b => b ∉ valid ∧ ¬IsFree ((image dev').block b)) =
            rest.filter fun b => b ∉ valid ∧ ¬IsFree ((image dev).block b) := by
          apply List.filter_congr
          intro other member
          have unchanged : (image dev').block other = (image dev).block other := by
            rw [written]
            apply MemDevice.block_set_other
            rintro rfl
            exact fresh member
          rw [unchanged]
        rw [Proc.pure_bind_apply, ih dev' (by rw [written, MemDevice.blockSize_set]; exact sized)
          distinctRest (by rw [written, MemDevice.blockCount_set]; exact insideRest), same]
        simp
      · have turn : eraseBlock valid free found b dev = (.ok found, dev) := by
          rw [eraseBlock]
          by_cases kept : b ∈ valid
          · rw [if_pos kept]
            rfl
          · have clean : u8At ((image dev).block b) 0 = 0x00 ∨
                u8At ((image dev).block b) 0 = 0xFF := by
              by_contra taken
              exact dirty ⟨kept, taken⟩
            rw [if_neg kept, Proc.bind_ok (LawfulBlockDevice.readBlock_eq dev b here),
              if_pos clean]
            rfl
        rw [List.foldlM_cons, Proc.bind_ok turn, ih dev sized distinctRest insideRest,
          List.filter_cons_of_neg (by simpa using dirty)]

/-- What a recovery does to its device. -/
def sweep (name : Bytes → Bytes) (pattern : UInt8) (img : MemDevice) : Proc Failure D Unit := do
  writeAll (erasures (garbage name img) (makeFreeBuf img.blockSize pattern))
  if (garbage name img).isEmpty then pure () else BlockDevice.flush

theorem rust_replicaRecover (build : Rust.Build) (dev : D) (pattern : UInt8)
    (large : 36 ≤ (image dev).blockSize) :
    Rust.replicaRecover build pattern dev = sweep fromUtf8Lossy pattern (image dev) dev := by
  have scanned : ((dataBlocks (image dev).blockCount).foldlM (Rust.bestBlock build) ∅ :
      Proc Failure D BestMap) dev = (.ok (bestOf fromUtf8Lossy (image dev)), dev) := by
    rw [bestOf_eq_foldl]
    exact Proc.foldlM_pure (fun best i member =>
      rust_bestBlock build dev large best (mem_dataBlocks.mp member).2) ∅
  have erased := eraseBlock_scan (validBlocks (bestOf fromUtf8Lossy (image dev)))
    (makeFreeBuf (image dev).blockSize pattern) dev List.length_replicate
    ((dataBlocks_pairwise (image dev).blockCount).imp Nat.ne_of_lt)
    (fun b member => (mem_dataBlocks.mp member).2) false
  rw [Rust.replicaRecover, Proc.bind_ok (blockSizeOf_eq dev), Proc.bind_ok (blockCountOf_eq dev),
    Proc.bind_ok scanned, Proc.bind_first_congr erased, Proc.bind_assoc_apply]
  apply Proc.bind_congr_ok
  intro _ dev' _
  change (if (false || !(garbage fromUtf8Lossy (image dev)).isEmpty) = true then
    BlockDevice.flush else pure () : Proc Failure D Unit) dev' = _
  cases (garbage fromUtf8Lossy (image dev)).isEmpty <;> rfl

theorem go_replicaRecover (dev : D) (pattern : UInt8) (large : 36 ≤ (image dev).blockSize) :
    Go.replicaRecover pattern dev = sweep id pattern (image dev) dev := by
  have scanned : ((dataBlocks (image dev).blockCount).foldlM Go.bestBlock ∅ :
      Proc Failure D BestMap) dev = (.ok (bestOf id (image dev)), dev) := by
    rw [bestOf_eq_foldl]
    exact Proc.foldlM_pure (fun best i member =>
      go_bestBlock dev large best (mem_dataBlocks.mp member).2) ∅
  have erased := eraseBlock_scan (validBlocks (bestOf id (image dev)))
    (makeFreeBuf (image dev).blockSize pattern) dev List.length_replicate
    ((dataBlocks_pairwise (image dev).blockCount).imp Nat.ne_of_lt)
    (fun b member => (mem_dataBlocks.mp member).2) false
  rw [Go.replicaRecover, Proc.bind_ok (blockSizeOf_eq dev), Proc.bind_ok (blockCountOf_eq dev),
    Proc.bind_ok scanned, Proc.bind_first_congr erased, Proc.bind_assoc_apply]
  apply Proc.bind_congr_ok
  intro _ dev' _
  change (if (false || !(garbage id (image dev)).isEmpty) = true then
    BlockDevice.flush else pure () : Proc Failure D Unit) dev' = _
  cases (garbage id (image dev)).isEmpty <;> rfl

end

/-! ## The selection survives -/

section
variable {name : Bytes → Bytes} {img : MemDevice}

variable (name) in
theorem selected_exists {rec : CompleteRecord} (stored : rec ∈ records img) :
    ∃ best, Selected name img (name rec.key) best := by
  cases found : (bestOf name img).lookup (name rec.key) with
  | none => exact absurd rfl (lookup_bestOf_none.mp found rec stored)
  | some best => exact ⟨best, lookup_bestOf.mp found⟩

theorem damage_records {area : Nat → Prop} {after : MemDevice} (damage : Damage area img after)
    {rec : CompleteRecord} (stored : rec ∈ records after) : rec ∈ records img := by
  obtain ⟨positive, record⟩ := mem_records.mp stored
  exact mem_records.mpr ⟨positive, (damage.survivor record).1⟩

/-- Damage that spares the selected records leaves the selection as it was. -/
theorem selected_of_damage {area : Nat → Prop} {after : MemDevice} (damage : Damage area img after)
    (spares : ∀ s rec, Selected name img s rec → ∀ c ∈ rec.blocks, ¬area c) (s : Bytes)
    (rec : CompleteRecord) : Selected name after s rec ↔ Selected name img s rec := by
  have stays : ∀ best, Selected name img s best → Selected name after s best := by
    rintro best ⟨stored, named, leads⟩
    obtain ⟨positive, record⟩ := mem_records.mp stored
    refine ⟨mem_records.mpr ⟨positive, ?_⟩, named, ?_⟩
    · exact damage.spared record (spares s best ⟨stored, named, leads⟩)
    · intro other found same
      exact leads other (damage_records damage found) same
  constructor
  · intro selected
    obtain ⟨best, before⟩ := selected_exists name (damage_records damage selected.stored)
    rw [selected.named] at before
    rw [selected.unique (stays best before)]
    exact before
  · exact stays rec

variable (name img) in
/-- The image a complete recovery leaves. -/
def recovered (pattern : UInt8) : MemDevice :=
  img.apply (erasures (garbage name img) (makeFreeBuf img.blockSize pattern))

theorem garbage_not_selected {s : Bytes} {rec : CompleteRecord} (selected : Selected name img s rec)
    {c : Nat} (member : c ∈ rec.blocks) : c ∉ garbage name img := by
  intro erased
  exact (mem_garbage.mp erased).2.1 (.inr ⟨s, rec, selected, member⟩)

theorem recovered_damage (large : 36 ≤ img.blockSize) (pattern : UInt8) :
    Damage (· ∈ garbage name img) img (recovered name img pattern) := by
  apply (Damage.refl _ img).apply
  intro write member
  obtain ⟨c, erased, rfl⟩ := List.mem_map.mp member
  exact ⟨erased, inert_makeFreeBuf (by omega) pattern⟩

theorem selected_recovered (large : 36 ≤ img.blockSize) (pattern : UInt8) (s : Bytes)
    (rec : CompleteRecord) :
    Selected name (recovered name img pattern) s rec ↔ Selected name img s rec :=
  selected_of_damage (recovered_damage large pattern)
    (fun _ _ selected _ member => garbage_not_selected selected member) s rec

theorem kept_recovered (large : 36 ≤ img.blockSize) (pattern : UInt8) (b : Nat) :
    Kept name (recovered name img pattern) b ↔ Kept name img b := by
  simp only [Kept, selected_recovered large]

theorem block_recovered_other (pattern : UInt8) {b : Nat} (spared : b ∉ garbage name img) :
    (recovered name img pattern).block b = img.block b := by
  apply MemDevice.block_apply_other
  rw [erasures_blocks]
  exact spared

theorem block_recovered_garbage (pattern : UInt8) {b : Nat} (erased : b ∈ garbage name img) :
    (recovered name img pattern).block b = makeFreeBuf img.blockSize pattern := by
  apply MemDevice.block_apply_mem
  · rw [erasures_blocks]
    exact garbage_nodup name img
  · exact List.mem_map_of_mem erased
  · exact (mem_garbage.mp erased).1.2
  · exact List.length_replicate

/-- A free pattern the allocator recognises. -/
def FreePattern (pattern : UInt8) : Prop := pattern = 0x00 ∨ pattern = 0xFF

theorem isFree_makeFreeBuf {blockSize : Nat} (large : 0 < blockSize) {pattern : UInt8}
    (free : FreePattern pattern) : IsFree (makeFreeBuf blockSize pattern) := by
  obtain ⟨rest, rfl⟩ : ∃ rest, blockSize = rest + 1 := ⟨blockSize - 1, by omega⟩
  exact free

/-- After recovery every data block is kept or free. -/
theorem recovered_free (large : 36 ≤ img.blockSize) {pattern : UInt8} (free : FreePattern pattern)
    {b : Nat} (data : 1 ≤ b ∧ b < img.blockCount) (loose : ¬Kept name img b) :
    IsFree ((recovered name img pattern).block b) := by
  by_cases clean : IsFree (img.block b)
  · rw [block_recovered_other pattern fun erased => (mem_garbage.mp erased).2.2 clean]
    exact clean
  · rw [block_recovered_garbage pattern (mem_garbage.mpr ⟨data, loose, clean⟩)]
    exact isFree_makeFreeBuf (by omega) free

theorem garbage_recovered (large : 36 ≤ img.blockSize) {pattern : UInt8}
    (free : FreePattern pattern) : garbage name (recovered name img pattern) = [] := by
  rw [List.eq_nil_iff_forall_not_mem]
  intro b erased
  obtain ⟨data, loose, taken⟩ := mem_garbage.mp erased
  rw [recovered, MemDevice.blockCount_apply] at data
  rw [kept_recovered large] at loose
  exact taken (recovered_free large free data loose)

/-- The index built after recovery is the index built before it. -/
theorem indexOf_recovered (large : 36 ≤ img.blockSize) (pattern : UInt8) :
    indexOf name (recovered name img pattern) = indexOf name img := by
  apply Finmap.ext_lookup
  intro s
  apply Option.ext
  intro e
  rw [lookup_indexOf, lookup_indexOf]
  simp only [selected_recovered large]

end

section
variable {D : Type} [BlockDevice D] [ReliableBlockDevice D]

theorem sweep_reliable (name : Bytes → Bytes) (pattern : UInt8) (dev : D) :
    ∃ dev', sweep name pattern (image dev) dev = (.ok (), dev') ∧
      image dev' = recovered name (image dev) pattern := by
  obtain ⟨swept, wrote, written⟩ := writeAll_reliable
    (erasures (garbage name (image dev)) (makeFreeBuf (image dev).blockSize pattern)) dev (by
      intro write member
      obtain ⟨c, erased, rfl⟩ := List.mem_map.mp member
      exact ⟨(mem_garbage.mp erased).1.2, List.length_replicate⟩)
  rw [sweep, Proc.bind_ok wrote]
  cases (garbage name (image dev)).isEmpty with
  | true => exact ⟨swept, rfl, written⟩
  | false =>
      refine ⟨(BlockDevice.flush swept).2, ?_, ?_⟩
      · exact Prod.ext (ReliableBlockDevice.flush_total swept) rfl
      · rw [LawfulBlockDevice.flush_image, written]
        rfl

omit [ReliableBlockDevice D] in
/-- With nothing to erase a recovery makes no device call that changes anything. -/
theorem sweep_clean (name : Bytes → Bytes) (pattern : UInt8) {img : MemDevice}
    (clean : garbage name img = []) (dev : D) : sweep name pattern img dev = (.ok (), dev) := by
  rw [sweep, clean]
  rfl

end

end Embedkv.Recovery
