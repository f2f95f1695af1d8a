import Embedkv.Stores

/-!
# Laws of recovery

Go recovery is exact on every image: it keeps the selected records byte for
byte, frees every other data block, and neither the index nor a second run sees
a difference. The two implementations recover alike exactly when no two keys on
the image decode to one lossy string. Either of them may be cut off and started
again: whatever part of its writes reached the medium, the next run ends in the
same image.
-/

namespace Embedkv.RecoveryLaws

open Embedkv.Lib Embedkv.Format Embedkv.Device Embedkv.State
open Embedkv.Record Embedkv.Erase Embedkv.Effects Embedkv.Scan Embedkv.Recovery

set_option autoImplicit false

/-- A data block is spared exactly if a selected record has it. -/
theorem outside_selected_iff {name : Bytes → Bytes} {img : MemDevice} {b : Nat} (data : 1 ≤ b) :
    (∀ key rec, Selected name img key rec → b ∉ rec.blocks) ↔ ¬Kept name img b := by
  unfold Kept
  constructor
  · rintro outside (zero | ⟨key, rec, selected, member⟩)
    · omega
    · exact outside key rec selected member
  · intro unkept key rec selected member
    exact unkept (.inr ⟨key, rec, selected, member⟩)

section
variable {D : Type} [BlockDevice D] [ReliableBlockDevice D]

/-- On a device without errors, whatever its data blocks hold, Go recovery
writes the free pattern to the blocks that are neither free nor part of a
selected record, and that is all it does. -/
theorem go_recover_exact (dev : D) (pattern : UInt8) (large : 36 ≤ (image dev).blockSize)
    (free : pattern = 0x00 ∨ pattern = 0xFF) :
    ∃ (dev' : D) (erased : List Nat), Go.replicaRecover pattern dev = (.ok (), dev') ∧
      Go.replicaRecover pattern dev = (do
        writeAll (erasures erased (makeFreeBuf (image dev).blockSize pattern))
        if erased.isEmpty then pure () else BlockDevice.flush) dev ∧
      -- the blocks written are the data blocks that were not free and belong to no selected record
      (∀ b, b ∈ erased ↔ (1 ≤ b ∧ b < (image dev).blockCount) ∧
        (∀ key rec, Selected id (image dev) key rec → b ∉ rec.blocks) ∧
          ¬IsFree ((image dev).block b)) ∧
      -- (a) the header and the selected records are untouched
      (image dev').block 0 = (image dev).block 0 ∧
      (∀ key rec, Selected id (image dev) key rec →
        ∀ b ∈ rec.blocks, (image dev').block b = (image dev).block b) ∧
      -- (b) every other data block is free, the free ones as they were
      (∀ b, 1 ≤ b → b < (image dev).blockCount →
        (∀ key rec, Selected id (image dev) key rec → b ∉ rec.blocks) →
          IsFree ((image dev').block b) ∧
            (IsFree ((image dev).block b) → (image dev').block b = (image dev).block b)) ∧
      -- (c) the index built afterwards is the one built before
      (∀ header index header' index',
        (Go.replicaBuildIndex { dev := dev', header := header', index := index' }).2.index =
          (Go.replicaBuildIndex { dev := dev, header := header, index := index }).2.index) ∧
      -- (d) a second recovery makes no write and no flush
      Go.replicaRecover pattern dev' = (.ok (), dev') := by
  obtain ⟨dev', swept, after⟩ := sweep_reliable id pattern dev
  have size : (image dev').blockSize = (image dev).blockSize := by
    rw [after, recovered, MemDevice.blockSize_apply]
  refine ⟨dev', garbage id (image dev), ?_, go_replicaRecover dev pattern large, ?_, ?_, ?_, ?_,
    ?_, ?_⟩
  · rw [go_replicaRecover dev pattern large, swept]
  · intro b
    rw [mem_garbage]
    constructor
    · rintro ⟨data, unkept, taken⟩
      exact ⟨data, (outside_selected_iff data.1).mpr unkept, taken⟩
    · rintro ⟨data, outside, taken⟩
      exact ⟨data, (outside_selected_iff data.1).mp outside, taken⟩
  · rw [after]
    exact (Session.recovered_keeps ..).header
  · intro key rec selected b member
    rw [after]
    exact block_recovered_other pattern (garbage_not_selected selected member)
  · intro b positive inside outside
    have unkept := (outside_selected_iff positive).mp outside
    rw [after]
    refine ⟨recovered_free large free ⟨positive, inside⟩ unkept, ?_⟩
    intro isFree
    exact block_recovered_other pattern fun erased => (mem_garbage.mp erased).2.2 isFree
  · intro header index header' index'
    rw [go_replicaBuildIndex _ (by rw [size]; exact large), go_replicaBuildIndex _ large]
    show indexOf id (image dev') = indexOf id (image dev)
    rw [after]
    exact indexOf_recovered large pattern
  · rw [go_replicaRecover dev' pattern (by rw [size]; exact large)]
    apply sweep_clean
    rw [after]
    exact garbage_recovered large free

end

/-- A formatted device with two generations of 41 in blocks 1 and 2, a record of FF
in blocks 3 and 4, garbage in block 5 and a free last block. -/
def litteredDevice : MemDevice :=
  let blank := MemDevice.zeroed 40 7
  let formatted := (Rust.format .dev .default [blank]).2.headD blank
  let older := (Rust.writeRecord .dev 1 [] [0x41] 1 [1] 0 formatted).2
  let newer := (Rust.writeRecord .dev 2 [] [0x41] 2 [2] 0 older).2
  let other := (Rust.writeRecord .dev 3 [4] [0xFF] 1 [1, 2, 3, 4, 5] 0 newer).2
  other.set 5 (List.replicate 40 5)

/-- What a scan finds there, before and after block 5 was erased. -/
theorem littered_scan :
    (records litteredDevice).map CompleteRecord.key = [[0x41], [0x41], [0xFF]] ∧
      ((bestOf id litteredDevice).lookup [0x41]).any (fun rec => rec.blocks = [2]) = true ∧
      ((bestOf id litteredDevice).lookup [0xFF]).any (fun rec => rec.blocks = [3, 4]) = true ∧
      garbage id litteredDevice = [1, 5] ∧
      garbage id (litteredDevice.set 5 (makeFreeBuf 40 0xFF)) = [1] := by
  decide +kernel

/-- The older generation and the garbage are erased, the selected records stay. -/
theorem go_recover_exact_littered :
    ∃ dev' erased, Go.replicaRecover 0xFF litteredDevice = (.ok (), dev') ∧
      (∀ b, b ∈ erased ↔ b ∈ [1, 5]) ∧
      Go.replicaRecover 0xFF litteredDevice = (do
        writeAll (erasures erased (makeFreeBuf 40 0xFF))
        if erased.isEmpty then pure () else BlockDevice.flush) litteredDevice ∧
      dev'.block 0 = litteredDevice.block 0 ∧
      (∀ b ∈ [2, 3, 4], dev'.block b = litteredDevice.block b) ∧
      (∀ b ∈ [1, 5], IsFree (dev'.block b)) ∧
      Go.replicaRecover 0xFF dev' = (.ok (), dev') := by
  obtain ⟨_, newest, other, swept, _⟩ := littered_scan
  obtain ⟨dev', erased, ran, writes, which, header, kept, freed, _, again⟩ :=
    go_recover_exact litteredDevice 0xFF (by decide) (.inr rfl)
  have same : ∀ b, b ∈ erased ↔ b ∈ [1, 5] := by
    intro b
    rw [which, ← swept, mem_garbage]
    refine and_congr_right fun data => and_congr_left' ?_
    exact outside_selected_iff data.1
  obtain ⟨rec, picked, place⟩ := (Option.any_eq_true _ _).mp newest
  obtain ⟨rec', picked', place'⟩ := (Option.any_eq_true _ _).mp other
  have stays := kept [0x41] rec (lookup_bestOf.mp picked)
  have stays' := kept [0xFF] rec' (lookup_bestOf.mp picked')
  rw [decide_eq_true_eq.mp place] at stays
  rw [decide_eq_true_eq.mp place'] at stays'
  refine ⟨dev', erased, ran, same, writes, header, ?_, ?_, again⟩
  · intro b member
    rcases List.mem_cons.mp member with rfl | later
    · exact stays 2 List.mem_cons_self
    · exact stays' b later
  · intro b member
    obtain ⟨⟨positive, inside⟩, outside, _⟩ := (which b).mp ((same b).mpr member)
    exact (freed b positive inside outside).1

/-! ## The two implementations -/

/-- The descriptor blocks an index selects. -/
def selects (index : MemIndex) : Set Nat :=
  { d | ∃ s e, index.lookup s = some e ∧ e.descriptorBlock = d }

theorem selects_indexOf (name : Bytes → Bytes) (img : MemDevice) :
    selects (indexOf name img) = { d | ∃ s rec, Selected name img s rec ∧ rec.descriptorBlock = d } := by
  ext d
  constructor
  · rintro ⟨s, e, found, rfl⟩
    obtain ⟨rec, selected, rfl⟩ := lookup_indexOf.mp found
    exact ⟨s, rec, selected, rfl⟩
  · rintro ⟨s, rec, selected, rfl⟩
    exact ⟨s, entryOf name rec, lookup_indexOf.mpr ⟨rec, selected, rfl⟩, rfl⟩

/-- No two complete records of the image have different keys that decode to the
same lossy string. -/
def LossyInjective (img : MemDevice) : Prop :=
  ∀ rec ∈ records img, ∀ rec' ∈ records img,
    fromUtf8Lossy rec.key = fromUtf8Lossy rec'.key → rec.key = rec'.key

/-- Where lossy decoding separates the keys, both namings select the same records. -/
theorem selected_lossy {img : MemDevice} (injective : LossyInjective img) {rec : CompleteRecord} :
    Selected fromUtf8Lossy img (fromUtf8Lossy rec.key) rec ↔ Selected id img rec.key rec := by
  constructor
  · intro selected
    refine ⟨selected.stored, rfl, ?_⟩
    intro other stored same
    apply selected.leads stored
    have keys : other.key = rec.key := same
    rw [keys]
  · intro selected
    refine ⟨selected.stored, rfl, ?_⟩
    intro other stored same
    exact selected.leads stored (injective other stored rec selected.stored same)

theorem selected_descriptors {img : MemDevice} (injective : LossyInjective img)
    {rec : CompleteRecord} :
    (∃ s, Selected fromUtf8Lossy img s rec) ↔ ∃ key, Selected id img key rec := by
  constructor
  · rintro ⟨s, selected⟩
    have named := selected.named
    subst named
    exact ⟨rec.key, (selected_lossy injective).mp selected⟩
  · rintro ⟨key, selected⟩
    have named : rec.key = key := selected.named
    subst named
    exact ⟨_, (selected_lossy injective).mpr selected⟩

theorem garbage_lossy {img : MemDevice} (injective : LossyInjective img) :
    garbage fromUtf8Lossy img = garbage id img := by
  have kept : ∀ b, Kept fromUtf8Lossy img b ↔ Kept id img b := by
    intro b
    unfold Kept
    apply or_congr Iff.rfl
    constructor
    · rintro ⟨s, rec, selected, member⟩
      obtain ⟨key, selected'⟩ := (selected_descriptors injective).mp ⟨s, selected⟩
      exact ⟨key, rec, selected', member⟩
    · rintro ⟨key, rec, selected, member⟩
      obtain ⟨s, selected'⟩ := (selected_descriptors injective).mpr ⟨key, selected⟩
      exact ⟨s, rec, selected', member⟩
  apply List.filter_congr
  intro b _
  apply decide_eq_decide.mpr
  rw [mem_validBlocks_bestOf, mem_validBlocks_bestOf, kept]

/-- A record that Go keeps and that Rust leaves on the image is one Rust selects. -/
theorem selected_of_same_image {img : MemDevice} (large : 36 ≤ img.blockSize) {pattern : UInt8}
    (same : recovered id img pattern = recovered fromUtf8Lossy img pattern) {key : Bytes}
    {rec : CompleteRecord} (selected : Selected id img key rec) :
    Selected fromUtf8Lossy img (fromUtf8Lossy rec.key) rec := by
  obtain ⟨positive, record⟩ := mem_records.mp selected.stored
  have kept := ((selected_recovered large pattern key rec).mpr selected).record
  rw [same] at kept
  have descriptor : rec.descriptorBlock ∈ rec.blocks := List.mem_cons_self
  have spared : rec.descriptorBlock ∉ garbage fromUtf8Lossy img := by
    intro erased
    apply record_not_inert kept descriptor
    rw [block_recovered_garbage pattern erased]
    exact inert_makeFreeBuf (by omega) pattern
  have held : Kept fromUtf8Lossy img rec.descriptorBlock := by
    by_contra loose
    exact spared (mem_garbage.mpr ⟨⟨positive, record.inside⟩, loose,
      Plan.record_not_free record descriptor⟩)
  obtain zero | ⟨s, best, chosen, member⟩ := held
  · omega
  · have place : rec.descriptorBlock = best.descriptorBlock := by
      by_contra different
      exact records_disjoint record chosen.record different descriptor member
    have bestRecord := chosen.record
    rw [← place] at bestRecord
    have equal := recordAt_unique record bestRecord
    rw [← equal] at chosen
    rw [chosen.named]
    exact chosen

/-- Go and Rust recover alike exactly when lossy decoding separates the keys of
the complete records on the image. -/
theorem recover_alike_iff {D : Type} [BlockDevice D] [ReliableBlockDevice D] (build : Rust.Build)
    (dev : D) (pattern : UInt8) (large : 36 ≤ (image dev).blockSize) :
    ∃ goDev rustDev, Go.replicaRecover pattern dev = (.ok (), goDev) ∧
      Rust.replicaRecover build pattern dev = (.ok (), rustDev) ∧
      ((image goDev = image rustDev ∧
        selects (Go.replicaBuildIndex (Mount.mounted goDev)).2.index =
          selects (Rust.replicaBuildIndex build (Mount.mounted rustDev)).2.index) ↔
        LossyInjective (image dev)) := by
  obtain ⟨goDev, goSwept, goAfter⟩ := sweep_reliable id pattern dev
  obtain ⟨rustDev, rustSwept, rustAfter⟩ := sweep_reliable fromUtf8Lossy pattern dev
  refine ⟨goDev, rustDev, ?_, ?_, ?_⟩
  · rw [go_replicaRecover dev pattern large, goSwept]
  · rw [rust_replicaRecover build dev pattern large, rustSwept]
  constructor
  · rintro ⟨same, _⟩ rec stored rec' stored' collide
    rw [goAfter, rustAfter] at same
    -- The records Go keeps for the two keys are both what Rust selects for one string.
    obtain ⟨best, chosen⟩ := selected_exists id stored
    obtain ⟨best', chosen'⟩ := selected_exists id stored'
    have key : best.key = rec.key := chosen.named
    have key' : best'.key = rec'.key := chosen'.named
    have lossy := selected_of_same_image large same chosen
    have lossy' := selected_of_same_image large same chosen'
    rw [key] at lossy
    rw [key', ← collide] at lossy'
    rw [← key, ← key', lossy.unique lossy']
  · intro injective
    have same : image goDev = image rustDev := by
      rw [goAfter, rustAfter, recovered, recovered, garbage_lossy injective]
    refine ⟨same, ?_⟩
    have goLarge : 36 ≤ (image goDev).blockSize := by
      rw [goAfter, (Session.recovered_keeps ..).size]
      exact large
    have rustLarge : 36 ≤ (image rustDev).blockSize := by
      rw [← same]
      exact goLarge
    rw [go_replicaBuildIndex _ goLarge, rust_replicaBuildIndex build _ rustLarge]
    show selects (indexOf id (image goDev)) = selects (indexOf fromUtf8Lossy (image rustDev))
    rw [goAfter, rustAfter, indexOf_recovered large, indexOf_recovered large, selects_indexOf,
      selects_indexOf]
    ext d
    constructor
    · rintro ⟨key, rec, selected, place⟩
      obtain ⟨s, selected'⟩ := (selected_descriptors injective).mpr ⟨key, selected⟩
      exact ⟨s, rec, selected', place⟩
    · rintro ⟨s, rec, selected, place⟩
      obtain ⟨key, selected'⟩ := (selected_descriptors injective).mp ⟨s, selected⟩
      exact ⟨key, rec, selected', place⟩

/-- FF is not UTF-8, and it does not decode as 41 does. -/
theorem recover_alike_littered :
    (records litteredDevice).map CompleteRecord.key = [[0x41], [0x41], [0xFF]] ∧
      LossyInjective litteredDevice ∧ ∃ goDev rustDev,
        Go.replicaRecover 0x00 litteredDevice = (.ok (), goDev) ∧
          Rust.replicaRecover .dev 0x00 litteredDevice = (.ok (), rustDev) ∧ goDev = rustDev ∧
          selects (Go.replicaBuildIndex (Mount.mounted goDev)).2.index =
            selects (Rust.replicaBuildIndex .dev (Mount.mounted rustDev)).2.index := by
  have keys := littered_scan.1
  have apart : ∀ key ∈ ([[0x41], [0x41], [0xFF]] : List Bytes),
      ∀ key' ∈ ([[0x41], [0x41], [0xFF]] : List Bytes),
      fromUtf8Lossy key = fromUtf8Lossy key' → key = key' := by decide +kernel
  have injective : LossyInjective litteredDevice := by
    intro rec stored rec' stored'
    rw [← keys] at apart
    exact apart rec.key (List.mem_map_of_mem stored) rec'.key (List.mem_map_of_mem stored')
  obtain ⟨goDev, rustDev, goRan, rustRan, alike⟩ :=
    recover_alike_iff .dev litteredDevice 0x00 (by decide)
  exact ⟨keys, injective, goDev, rustDev, goRan, rustRan, alike.mpr injective⟩

/-- The device a Go store leaves behind after formatting it and putting the pairs. -/
def goWritten (dev : MemDevice) (opts : Options) (pairs : List (Bytes × Bytes)) :
    Option MemDevice :=
  match Go.openStore (Go.format opts [dev]).2 opts with
  | .error _ => none
  | .ok s =>
    (pairs.foldl (fun s pair => (Go.put pair.1 pair.2 0 s).2) s).replicas.head?.map Replica.dev

/-- A Go store that holds the keys FF and FE, neither of them UTF-8. -/
def collidingDevice : Option MemDevice :=
  goWritten (MemDevice.zeroed 40 3) .default [([0xFF], [1]), ([0xFE], [2])]

/-- Go keeps both records, Rust takes them for one key and erases the second. -/
theorem recover_differs_on_collision :
    ∃ dev, collidingDevice = some dev ∧ 36 ≤ dev.blockSize ∧
      (Rust.openStore [dev] .default).isOk = true ∧
      (Go.replicaRecover 0x00 dev).2.block 2 = dev.block 2 ∧
      (Rust.replicaRecover .dev 0x00 dev).2.block 2 = makeFreeBuf 40 0x00 ∧
      (Go.replicaRecover 0x00 dev).2 ≠ (Rust.replicaRecover .dev 0x00 dev).2 := by
  have checked : collidingDevice.any (fun dev => 36 ≤ dev.blockSize ∧
      (Rust.openStore [dev] .default).isOk = true ∧
      (Go.replicaRecover 0x00 dev).2.block 2 = dev.block 2 ∧
      (Rust.replicaRecover .dev 0x00 dev).2.block 2 = makeFreeBuf 40 0x00 ∧
      dev.block 2 ≠ makeFreeBuf 40 0x00) = true := by decide +kernel
  obtain ⟨dev, found, holds⟩ := (Option.any_eq_true _ _).mp checked
  obtain ⟨large, opened, kept, erased, different⟩ := decide_eq_true_eq.mp holds
  refine ⟨dev, found, large, opened, kept, erased, ?_⟩
  intro same
  rw [same, erased] at kept
  exact different kept.symm

/-! ## Interrupted recovery -/

/-- Writes of one content leave that content on every block they address. -/
theorem block_apply_filled {img : MemDevice} {writes : List (Nat × Bytes)} {free : Bytes} {b : Nat}
    (filled : ∀ write ∈ writes, write.2 = free) (member : b ∈ writes.map Prod.fst)
    (inside : b < img.blockCount) (sized : free.length = img.blockSize) :
    (img.apply writes).block b = free := by
  induction writes generalizing img with
  | nil => cases member
  | cons write rest ih =>
      rw [MemDevice.apply_cons]
      by_cases again : b ∈ rest.map Prod.fst
      · apply ih (fun other later => filled other (List.mem_cons_of_mem _ later)) again
        · rw [MemDevice.blockCount_set]
          exact inside
        · rw [MemDevice.blockSize_set]
          exact sized
      · have here : b = write.1 := (List.mem_cons.mp member).resolve_right again
        rw [MemDevice.block_apply_other _ _ _ again, filled write List.mem_cons_self, here]
        rw [here] at inside
        exact img.block_set_self inside sized

/-- Some of the writes of a recovery, in any order. -/
def Among (name : Bytes → Bytes) (pattern : UInt8) (img : MemDevice)
    (part : List (Nat × Bytes)) : Prop :=
  ∀ write ∈ part, write ∈ erasures (garbage name img) (makeFreeBuf img.blockSize pattern)

/-- The images that attempts cut off one after the other may leave. -/
inductive Attempts (name : Bytes → Bytes) (pattern : UInt8) (img : MemDevice) : MemDevice → Prop
  | none : Attempts name pattern img img
  | cut {left : MemDevice} {part : List (Nat × Bytes)} (before : Attempts name pattern img left)
      (among : Among name pattern left part) : Attempts name pattern img (left.apply part)

section
variable {name : Bytes → Bytes} {pattern : UInt8} {img : MemDevice} {part : List (Nat × Bytes)}

theorem Among.kept (among : Among name pattern img part) (large : 36 ≤ img.blockSize) (b : Nat) :
    Kept name (img.apply part) b ↔ Kept name img b := by
  have damage : Damage (· ∈ garbage name img) img (img.apply part) :=
    Transition.erasures_damage (inert_makeFreeBuf (by omega) pattern) among
  simp only [Kept, selected_of_damage damage
    (fun _ _ selected _ member => garbage_not_selected selected member)]

theorem Among.garbage (among : Among name pattern img part) {b : Nat}
    (written : b ∈ part.map Prod.fst) : b ∈ garbage name img := by
  obtain ⟨write, member, rfl⟩ := List.mem_map.mp written
  obtain ⟨c, erased, same⟩ := List.mem_map.mp (among write member)
  rw [← same]
  exact erased

theorem Among.filled (among : Among name pattern img part) :
    ∀ write ∈ part, write.2 = makeFreeBuf img.blockSize pattern := by
  intro write member
  obtain ⟨c, erased, same⟩ := List.mem_map.mp (among write member)
  rw [← same]

/-- What is still to erase: the garbage the writes did not reach. -/
theorem Among.left (among : Among name pattern img part) (large : 36 ≤ img.blockSize)
    (free : FreePattern pattern) (b : Nat) :
    b ∈ Recovery.garbage name (img.apply part) ↔
      b ∈ Recovery.garbage name img ∧ b ∉ part.map Prod.fst := by
  by_cases written : b ∈ part.map Prod.fst
  · have before := among.garbage written
    have after : (img.apply part).block b = makeFreeBuf img.blockSize pattern :=
      block_apply_filled among.filled written (mem_garbage.mp before).1.2 List.length_replicate
    constructor
    · intro still
      have taken := (mem_garbage.mp still).2.2
      rw [after] at taken
      exact absurd (isFree_makeFreeBuf (by omega) free) taken
    · intro still
      exact absurd written still.2
  · rw [mem_garbage, mem_garbage, among.kept large, MemDevice.blockCount_apply,
      MemDevice.block_apply_other _ _ _ written]
    exact (and_iff_left written).symm

/-- A recovery that was cut off leaves the next one the same result to reach. -/
theorem recovered_cut (among : Among name pattern img part) (large : 36 ≤ img.blockSize)
    (free : FreePattern pattern) :
    recovered name (img.apply part) pattern = recovered name img pattern := by
  apply MemDevice.ext_block
  · simp only [recovered, MemDevice.blockSize_apply]
  · simp only [recovered, MemDevice.blockCount_apply]
  · intro b inside
    by_cases written : b ∈ part.map Prod.fst
    · have erased := among.garbage written
      have spared : b ∉ garbage name (img.apply part) := by
        rw [among.left large free]
        exact fun still => still.2 written
      rw [block_recovered_garbage pattern erased, block_recovered_other pattern spared]
      exact block_apply_filled among.filled written (mem_garbage.mp erased).1.2
        List.length_replicate
    · have same := MemDevice.block_apply_other img part b written
      by_cases erased : b ∈ garbage name img
      · have still : b ∈ garbage name (img.apply part) :=
          (among.left large free b).mpr ⟨erased, written⟩
        rw [block_recovered_garbage pattern erased, block_recovered_garbage pattern still,
          MemDevice.blockSize_apply]
      · have spared : b ∉ garbage name (img.apply part) := by
          rw [among.left large free]
          exact fun still => erased still.1
        rw [block_recovered_other pattern erased, block_recovered_other pattern spared, same]

theorem Attempts.size {left : MemDevice} (attempts : Attempts name pattern img left) :
    left.blockSize = img.blockSize := by
  induction attempts with
  | none => rfl
  | cut _ _ ih => rw [MemDevice.blockSize_apply, ih]

theorem recovered_attempts {left : MemDevice} (attempts : Attempts name pattern img left)
    (large : 36 ≤ img.blockSize) (free : FreePattern pattern) :
    recovered name left pattern = recovered name img pattern := by
  induction attempts with
  | none => rfl
  | cut before among ih =>
      have enough := before.size
      rw [recovered_cut among (by omega) free, ih]

end

/-- Recovery erases block by block; wherever it is cut off, and however often, the
attempt that runs through ends in the image an undisturbed one leaves. -/
theorem recovery_resumes {D : Type} [BlockDevice D] [ReliableBlockDevice D] (impl : Stores.Impl)
    (dev : D) (pattern : UInt8) (large : 36 ≤ (image dev).blockSize)
    (free : pattern = 0x00 ∨ pattern = 0xFF) :
    ∃ done, impl.replicaRecover pattern dev = (.ok (), done) ∧
      ∀ dev' : D, Attempts impl.name pattern (image dev) (image dev') →
        impl.replicaRecover pattern dev' = (do
          writeAll (erasures (garbage impl.name (image dev'))
            (makeFreeBuf (image dev').blockSize pattern))
          if (garbage impl.name (image dev')).isEmpty then pure () else BlockDevice.flush) dev' ∧
        ∃ done', impl.replicaRecover pattern dev' = (.ok (), done') ∧ image done' = image done := by
  obtain ⟨done, ran, final⟩ := sweep_reliable impl.name pattern dev
  refine ⟨done, by rw [impl.replicaRecover_eq dev pattern large, ran], ?_⟩
  intro dev' attempts
  have enough : 36 ≤ (image dev').blockSize := by
    rw [attempts.size]
    exact large
  obtain ⟨done', ran', final'⟩ := sweep_reliable impl.name pattern dev'
  rw [impl.replicaRecover_eq dev' pattern enough]
  refine ⟨rfl, done', ran', ?_⟩
  rw [final, final', recovered_attempts attempts large free]

/-- The second of the two erasures had reached the medium and the first had not;
the next attempt wrote nothing. -/
theorem recovery_resumes_littered : ∃ done,
    Stores.Impl.replicaRecover .go 0xFF litteredDevice = (.ok (), done) ∧
      garbage id litteredDevice = [1, 5] ∧
      garbage id (litteredDevice.set 5 (makeFreeBuf 40 0xFF)) = [1] ∧
      ∃ done', Stores.Impl.replicaRecover .go 0xFF (litteredDevice.set 5 (makeFreeBuf 40 0xFF)) =
        (.ok (), done') ∧ done' = done := by
  obtain ⟨_, _, _, swept, left⟩ := littered_scan
  obtain ⟨done, ran, resumes⟩ :=
    recovery_resumes .go litteredDevice 0xFF (by decide) (.inr rfl)
  have among : Among id 0xFF litteredDevice [(5, makeFreeBuf 40 0xFF)] := by
    intro write member
    rw [List.mem_singleton.mp member, swept]
    exact List.mem_map_of_mem (List.mem_cons_of_mem 1 List.mem_cons_self)
  have idle : Among id 0xFF (litteredDevice.apply [(5, makeFreeBuf 40 0xFF)]) [] := nofun
  obtain ⟨_, done', again, same⟩ := resumes (litteredDevice.set 5 (makeFreeBuf 40 0xFF))
    (.cut (.cut .none among) idle)
  exact ⟨done, ran, swept, left, done', again, same⟩

end Embedkv.RecoveryLaws
