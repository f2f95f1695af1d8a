import Mathlib.Algebra.BigOperators.Group.Finset.Basic
import Embedkv.Lib.Runs
import Embedkv.Alone
import Embedkv.MapLaws

/-!
# Block ownership and free space

After recovery every data block is free or belongs to one indexed record, and
every operation keeps it so: a put takes free blocks and gives back those of the
record it replaces, a delete gives back its record's. The free blocks can then be
counted: they are what the records leave, and a put finds room exactly when
there are enough of them.
-/

namespace Embedkv.SpaceLaws

open Embedkv.Lib Embedkv.Format Embedkv.Device Embedkv.State Embedkv.Image Embedkv.Record
open Embedkv.Layout Embedkv.Effects Embedkv.Plan Embedkv.Recovery Embedkv.Outcome
open Embedkv.Session Embedkv.Exact Embedkv.Lockstep Embedkv.Run Embedkv.Steady Embedkv.MapLaws
open Embedkv.Frame Embedkv.Alone

set_option autoImplicit false

/-! ## Counting blocks -/

/-- Every data block that is not free lies in a complete record. -/
def Tight (img : MemDevice) : Prop :=
  ∀ b, 1 ≤ b → b < img.blockCount → ¬IsFree (img.block b) →
    ∃ d rec, recordAt img d = some rec ∧ b ∈ rec.blocks

section
variable {img : MemDevice}

theorem records_nodup (img : MemDevice) : (Scan.records img).Nodup := by
  have sorted := Scan.records_sorted img
  exact List.Nodup.of_map _ (sorted.imp Nat.ne_of_lt)

/-- The blocks of all records, each of them once. -/
theorem recordBlocks_nodup (img : MemDevice) :
    ((Scan.records img).flatMap CompleteRecord.blocks).Nodup := by
  rw [List.nodup_flatMap]
  constructor
  · intro rec stored
    exact (Scan.mem_records.mp stored).2.blocks_nodup
  · have sorted := List.pairwise_map.mp (Scan.records_sorted img)
    refine sorted.imp_of_mem ?_
    intro rec other stored present before
    exact records_disjoint (Scan.mem_records.mp stored).2 (Scan.mem_records.mp present).2
      (Nat.ne_of_lt before)

/-- Free blocks and record blocks are the data blocks. -/
theorem dataBlocks_perm (mountable : Mount.Mountable img) (tight : Tight img) :
    (freeBlocks img ++ (Scan.records img).flatMap CompleteRecord.blocks).Perm
      (dataBlocks img.blockCount) := by
  have apart : ((freeBlocks img) ++ (Scan.records img).flatMap CompleteRecord.blocks).Nodup := by
    rw [List.nodup_append]
    refine ⟨freeBlocks_nodup img, recordBlocks_nodup img, ?_⟩
    intro b free c taken same
    subst same
    rcases List.mem_flatMap.mp taken with ⟨rec, stored, member⟩
    exact record_not_free (Scan.mem_records.mp stored).2 member (mem_freeBlocks.mp free).2
  apply (List.perm_ext_iff_of_nodup apart ((dataBlocks_pairwise _).imp Nat.ne_of_lt)).mpr
  intro b
  rw [List.mem_append, mem_dataBlocks, mem_freeBlocks]
  constructor
  · rintro (⟨data, _⟩ | taken)
    · exact data
    · rcases List.mem_flatMap.mp taken with ⟨rec, stored, member⟩
      have record := (Scan.mem_records.mp stored).2
      have header := record_not_header record mountable.type
      refine ⟨?_, record.blocks_inside member⟩
      by_contra zero
      have same : b = 0 := by omega
      exact header (same ▸ member)
  · rintro ⟨positive, inside⟩
    by_cases free : IsFree (img.block b)
    · exact .inl ⟨⟨positive, inside⟩, free⟩
    · right
      rcases tight b positive inside free with ⟨d, rec, present, member⟩
      exact List.mem_flatMap.mpr ⟨rec, records_of_present mountable present, member⟩

/-- What the records leave is free. -/
theorem free_count (mountable : Mount.Mountable img) (tight : Tight img) :
    (freeBlocks img).length + ((Scan.records img).map fun rec => rec.blocks.length).sum =
      img.blockCount - 1 := by
  have same := (dataBlocks_perm mountable tight).length_eq
  rw [List.length_append, List.length_flatMap, dataBlocks, List.length_range'] at same
  exact same

/-- Recovery frees whatever it does not keep. -/
theorem tight_recovered (large : 36 ≤ img.blockSize) {pattern : UInt8}
    (free : FreePattern pattern) :
    Tight (recovered fromUtf8Lossy img pattern) := by
  intro b positive inside taken
  have count := (recovered_keeps fromUtf8Lossy img pattern).count
  rw [count] at inside
  by_cases kept : Kept fromUtf8Lossy img b
  · rcases kept with zero | ⟨s, rec, selected, member⟩
    · omega
    · have still := (selected_recovered large pattern s rec).mpr selected
      exact ⟨_, rec, recordAt_eq_some.mpr still.record, member⟩
  · exact absurd (recovered_free large free ⟨positive, inside⟩ kept) taken

end

/-! ## Every step keeps the blocks owned -/

section
variable {D : Type} [BlockDevice D] [LawfulBlockDevice D] {r r' : Replica D} {pattern : UInt8}

theorem tight_put {s key value : Bytes} {generation : Nat} {new : CompleteRecord}
    (large : 36 ≤ (image r.dev).blockSize) (free : FreePattern pattern)
    (tight : Tight (image r.dev))
    (done : PutDone s key value generation pattern new r r') : Tight (image r'.dev) := by
  intro b positive inside taken
  rw [done.blocks.keeps.count] at inside
  by_cases mine : b ∈ new.blocks
  · exact ⟨_, new, recordAt_eq_some.mpr done.blocks.written, mine⟩
  by_cases old : b ∈ (indexedBlocks (image r.dev) r.index s).getD []
  · rw [done.blocks.erased b old] at taken
    exact absurd (isFree_makeFreeBuf (by omega) free) taken
  rw [done.blocks.other b mine old] at taken
  rcases tight b positive inside taken with ⟨d, rec, present, member⟩
  have apart : d ≠ new.descriptorBlock := by
    intro same
    rw [same, done.added.fresh] at present
    cases present
  have stays : (r.index.get s).map IndexEntry.descriptorBlock ≠ some d := by
    intro named
    rcases Option.map_eq_some_iff.mp named with ⟨e, found, place⟩
    subst place
    rw [indexedBlocks_of_record found (recordAt_eq_some.mp present)] at old
    exact old member
  refine ⟨d, rec, ?_, member⟩
  rw [done.records, release_other stays, Function.update_of_ne apart, present]

theorem tight_delete {s : Bytes} {e : IndexEntry} {gone : CompleteRecord}
    (large : 36 ≤ (image r.dev).blockSize) (free : FreePattern pattern)
    (tight : Tight (image r.dev)) (done : DeleteDone s e pattern gone r r') :
    Tight (image r'.dev) := by
  intro b positive inside taken
  rw [done.blocks.keeps.count] at inside
  by_cases old : b ∈ gone.blocks
  · rw [done.blocks.erased b old] at taken
    exact absurd (isFree_makeFreeBuf (by omega) free) taken
  rw [done.blocks.other b old] at taken
  rcases tight b positive inside taken with ⟨d, rec, present, member⟩
  have apart : d ≠ e.descriptorBlock := by
    intro same
    subst same
    rw [recordAt_unique (recordAt_eq_some.mp present) done.record] at member
    exact old member
  refine ⟨d, rec, ?_, member⟩
  rw [done.records, Function.update_of_ne apart, present]

end

section
variable {D : Type} [BlockDevice D] [ReliableBlockDevice D] {build : Rust.Build} {opts : Options}
  {step : Step} {r r' : Replica D} {result : Except Failure (Option Bytes)}

theorem tight_effect (settled : Settled r) (free : FreePattern opts.freePattern)
    (tight : Tight (image r.dev)) (effect : Effect build opts r step result r') :
    Tight (image r'.dev) := by
  cases effect with
  | refused | missing | get => exact tight
  | put _ done => exact tight_put settled.large free tight done
  | delete done => exact tight_delete settled.large free tight done
  | recover =>
      rw [image_recoveredReplica settled.sound]
      exact tight_recovered settled.large free
  | reopen => exact tight

variable (build) in
/-- Every record takes the blocks that its key and value need, and its key is
the string it is indexed by. -/
def Fitted (img : MemDevice) : Prop :=
  ∀ d rec, recordAt img d = some rec → fromUtf8Lossy rec.key = rec.key ∧
    Rust.neededBlocks build rec.key rec.value img.blockSize = .ok rec.blocks.length

theorem fitted_effect (settled : Settled r) (fitted : Fitted build (image r.dev))
    (allowed : StepAllowed (image r.dev).blockSize step) (effect : Effect build opts r step result r') :
    Fitted build (image r'.dev) := by
  have kept := effect.keeps settled.sound
  intro d rec present
  rw [kept.size]
  cases effect with
  | refused | missing | get => exact fitted d rec present
  | @put key value _ generation new _ _ done =>
      rcases allowed with ⟨allowed, bounded⟩
      rw [done.records] at present
      rcases update_eq_some (release_eq_some present) with old | ⟨_, rfl⟩
      · exact fitted d rec old
      · rcases added_contents allowed bounded done.added with ⟨sameKey, sameValue⟩
        rw [sameKey, sameValue]
        refine ⟨allowed.lossy, ?_⟩
        rw [done.added.counted]
        exact rust_neededBlocks build done.keyFits (image r.dev).size_lt value
  | @delete _ e _ _ done =>
      rw [done.records] at present
      by_cases same : d = e.descriptorBlock
      · rw [same, Function.update_self] at present
        cases present
      · rw [Function.update_of_ne same] at present
        exact fitted d rec present
  | recover =>
      rw [image_recoveredReplica settled.sound] at present
      rw [settled.whole.recovered (recordAt_zero settled.mountable) settled.large] at present
      exact fitted d rec present
  | reopen => exact fitted d rec present

end

/-! ## Owners, room and space -/

section
variable {D : Type} [BlockDevice D] [LawfulBlockDevice D]

/-- `rec` is a complete record that the index names. -/
def IndexedRecord (r : Replica D) (rec : CompleteRecord) : Prop :=
  ∃ s e, r.index.get s = some e ∧ recordAt (image r.dev) e.descriptorBlock = some rec

/-- Every data block is free, or it belongs to one indexed record. -/
def Partitioned (r : Replica D) : Prop :=
  ∀ b, 1 ≤ b → b < (image r.dev).blockCount →
    (IsFree ((image r.dev).block b) ∧ ∀ rec, IndexedRecord r rec → b ∉ rec.blocks) ∨
      (¬IsFree ((image r.dev).block b) ∧ ∃! rec, IndexedRecord r rec ∧ b ∈ rec.blocks)

/-- A put whose key fits finds the storage full exactly when the blocks it needs
are more than the free ones. -/
def PutsByRoom (build : Rust.Build) (s : Store D) : Prop :=
  ∀ r ∈ s.replicas, ∀ key value userFlags, key.length + 36 ≤ (image r.dev).blockSize →
    Rust.indexedGeneration (fromUtf8Lossy key) s.replicas < 2 ^ 32 - 1 →
    ∃ needed, Rust.neededBlocks build key value (image r.dev).blockSize = .ok needed ∧
      ((Rust.putFlagged build key value userFlags s).1 = .error (.err .storageFull) ↔
        (freeBlocks (image r.dev)).length < needed)

/-- The keys are those that a get finds, and what their values do not need is free. -/
def SpaceExact (build : Rust.Build) (s : Store D) : Prop :=
  (∀ key, KeyAllowed key → (key ∈ Rust.keys s ↔ ∃ value, (Rust.get build key s).1 = .ok value)) ∧
    ∀ r ∈ s.replicas, ∃ needed : Bytes → Nat,
      (∀ key ∈ Rust.keys s, ∃ value, (Rust.get build key s).1 = .ok value ∧
        Rust.neededBlocks build key value (image r.dev).blockSize = .ok (needed key)) ∧
      (freeBlocks (image r.dev)).length + ∑ key ∈ Rust.keys s, needed key =
        (image r.dev).blockCount - 1

variable {r : Replica D}

theorem partitioned_of_tight (settled : Settled r) (tight : Tight (image r.dev)) :
    Partitioned r := by
  intro b positive inside
  by_cases free : IsFree ((image r.dev).block b)
  · left
    refine ⟨free, ?_⟩
    rintro rec ⟨s, e, _, present⟩ member
    exact record_not_free (recordAt_eq_some.mp present) member free
  · right
    refine ⟨free, ?_⟩
    rcases tight b positive inside free with ⟨d, rec, present, member⟩
    have record := recordAt_eq_some.mp present
    refine ⟨rec, ⟨⟨_, _, settled.whole.covered d rec present, ?_⟩, member⟩, ?_⟩
    · change recordAt (image r.dev) rec.descriptorBlock = some rec
      rw [record.descriptorBlock_eq, present]
    · rintro other ⟨⟨s, e, _, there⟩, shared⟩
      have record' := recordAt_eq_some.mp there
      by_contra different
      have apart : e.descriptorBlock ≠ d := by
        intro same
        rw [same, present] at there
        exact different (Option.some.inj there).symm
      exact records_disjoint record' record apart shared member

end

section
variable {D : Type} [BlockDevice D] [ReliableBlockDevice D] {r : Replica D}

theorem putsByRoom_of_sound {matching : Bytes → IndexEntry → CompleteRecord → Prop}
    (sound : Sound matching r) (build : Rust.Build) (opts : Options) :
    PutsByRoom build (single r opts) := by
  intro q only key value userFlags keyFits below
  rw [List.mem_singleton.mp only] at keyFits ⊢
  have small := (image r.dev).size_lt
  refine ⟨_, rust_neededBlocks build keyFits small value, ?_⟩
  have passes : ¬(image r.dev).blockSize - 36 < asU32 key.length := by
    rw [asU32, Nat.mod_eq_of_lt (by omega)]
    omega
  have below : Rust.indexedGeneration (fromUtf8Lossy key) [r] < 2 ^ 32 - 1 := below
  rw [indexedGeneration_single] at below
  have advanced : Rust.u32Add build (generationOf r.index (fromUtf8Lossy key)) 1 =
      .ok (generationOf r.index (fromUtf8Lossy key) + 1) := rust_u32Add_ok (by omega)
  rw [putFlagged_single build r opts sound.large, if_neg passes, advanced]
  simp only [rust_replicaPut_storeAs build keyFits]
  rcases storeAs_reliable (generationOf r.index (fromUtf8Lossy key) + 1) userFlags
    opts.freePattern sound.indexed keyFits with ⟨full, crowded⟩ | ⟨room, r', new, ran, _⟩
  · rw [full]
    exact ⟨fun _ => crowded, fun _ => rfl⟩
  · rw [ran]
    constructor
    · intro failed
      cases failed
    · intro crowded
      omega

/-- Where every record is indexed, the entries' keys are the records' keys. -/
theorem entryKeys_eq (settled : Settled r) (named : ∀ d rec,
    recordAt (image r.dev) d = some rec → fromUtf8Lossy rec.key = rec.key) :
    r.index.entryKeys = ((Scan.records (image r.dev)).map CompleteRecord.key).toFinset := by
  ext name
  rw [mem_entryKeys, List.mem_toFinset, List.mem_map]
  constructor
  · rintro ⟨s, e, found, rfl⟩
    rcases settled.whole.entry found with ⟨rec, present, _, rfl⟩
    exact ⟨rec, records_of_present settled.mountable present, (named _ rec present).symm⟩
  · rintro ⟨rec, stored, rfl⟩
    have present := present_of_records stored
    exact ⟨_, _, settled.whole.covered _ rec present, named _ rec present⟩

/-- Where every record is indexed, no two records have one key. -/
theorem recordKeys_nodup (settled : Settled r) :
    ((Scan.records (image r.dev)).map CompleteRecord.key).Nodup := by
  apply (List.nodup_map_iff_inj_on (records_nodup _)).mpr
  intro rec stored other present same
  have here := settled.whole.covered _ rec (present_of_records stored)
  have there := settled.whole.covered _ other (present_of_records present)
  rw [same, there] at here
  have place : other.descriptorBlock = rec.descriptorBlock :=
    congrArg IndexEntry.descriptorBlock (Option.some.inj here)
  have record := (Scan.mem_records.mp present).2
  rw [place] at record
  exact recordAt_unique (Scan.mem_records.mp stored).2 record

theorem spaceExact_of_fitted {build : Rust.Build} (settled : Settled r)
    (tight : Tight (image r.dev)) (fitted : Fitted build (image r.dev)) (opts : Options) :
    SpaceExact build (single r opts) := by
  have lock := inStep_single settled.sound opts
  have keys : Rust.keys (single r opts) =
      ((Scan.records (image r.dev)).map CompleteRecord.key).toFinset := by
    rw [store_keys lock]
    exact entryKeys_eq settled fun d rec present => (fitted d rec present).1
  have reads : ∀ rec ∈ Scan.records (image r.dev),
      r.index.lookup rec.key = some (Scan.entryOf fromUtf8Lossy rec) ∧
      recordAt (image r.dev) rec.descriptorBlock = some rec ∧
      (Rust.get build rec.key (single r opts)).1 = .ok rec.value := by
    intro rec stored
    have present := present_of_records stored
    have found := settled.whole.covered _ rec present
    refine ⟨?_, present, ?_⟩
    · rw [← (fitted _ rec present).1]
      exact found
    · rw [get_held settled.sound, held, contents_present found present]
      rfl
  constructor
  · intro key allowed
    rw [get_held settled.sound, allowed.lossy, store_keys lock, mem_entryKeys]
    constructor
    · rintro ⟨s, e, found, rfl⟩
      rcases settled.whole.entry found with ⟨rec, present, rfl, rfl⟩
      refine ⟨rec.value, ?_⟩
      change answer (held r (fromUtf8Lossy rec.key)) = _
      rw [held, contents_present found present]
      rfl
    · rintro ⟨value, read⟩
      rcases Option.eq_none_or_eq_some (r.index.lookup key) with absent | ⟨e, found⟩
      · rw [held, contents_absent absent] at read
        cases read
      · rcases settled.whole.entry found with ⟨rec, _, name, rfl⟩
        exact ⟨key, _, found, name⟩
  · intro q only
    rw [List.mem_singleton.mp only]
    let needed := fun key => (contents (fun rec => rec.blocks.length) (recordAt (image r.dev))
      r.index key).getD 0
    have counts : ∀ rec ∈ Scan.records (image r.dev), needed rec.key = rec.blocks.length := by
      intro rec stored
      rcases reads rec stored with ⟨found, present, _⟩
      change (contents _ (recordAt (image r.dev)) r.index rec.key).getD 0 = _
      rw [contents_present found present]
      rfl
    refine ⟨needed, ?_, ?_⟩
    · intro key member
      rw [keys, List.mem_toFinset, List.mem_map] at member
      rcases member with ⟨rec, stored, rfl⟩
      rcases reads rec stored with ⟨_, present, read⟩
      refine ⟨rec.value, read, ?_⟩
      rw [counts rec stored]
      exact (fitted _ rec present).2
    · rw [keys, List.sum_toFinset needed (recordKeys_nodup settled), List.map_map,
        ← free_count settled.mountable tight]
      congr 2
      apply List.map_congr_left
      intro rec stored
      exact counts rec stored

theorem remounted_settled (build : Rust.Build) (pattern : UInt8) {dev : D}
    (large : 36 ≤ (image dev).blockSize) (mountable : Mount.Mountable (image dev)) :
    Settled (remountedReplica build pattern dev) := by
  have image' := image_remounted build pattern large
  have kept := recovered_keeps fromUtf8Lossy (image dev) pattern
  rw [← image'] at kept
  refine ⟨?_, mountable.congr kept.size kept.count kept.header, ?_⟩
  · rw [kept.size]
    exact large
  · have scanned := remounted_scanned build pattern dev
    rw [Scanned] at scanned
    rw [scanned, image']
    exact whole_recovered mountable large pattern

/-- Nothing is recovered on a blank device. -/
theorem fitted_blank {build : Rust.Build} {blockSize blockCount : Nat} {img : MemDevice}
    (large : 36 ≤ img.blockSize) (blank : Blank blockSize blockCount img) (pattern : UInt8) :
    Fitted build (recovered fromUtf8Lossy img pattern) := by
  intro d rec present
  have before := ((recovered_damage large pattern).survivor (recordAt_eq_some.mp present)).1
  rw [← recordAt_eq_some, blank.recordAt] at before
  cases before

end

/-- On every image that opens, after recovery and along every run of calls,
recoveries and reopenings without device errors, each data block is free or
belongs to one indexed record and a put finds room exactly when enough blocks
are free. From a formatted zeroed device the free blocks are those that the
stored values do not need. -/
theorem space_accounted {D : Type} [BlockDevice D] [ReliableBlockDevice D] {build : Rust.Build}
    {opts : Options} {dev : D} {s : Store D} (large : 36 ≤ (image dev).blockSize)
    (free : FreePattern opts.freePattern) (opened : mountRecovered build [dev] opts = .ok s)
    {steps : List Step} (allowed : ∀ step ∈ steps, StepAllowed (image dev).blockSize step) :
    Always (after build) (fun s => (∀ r ∈ s.replicas, Partitioned r) ∧ PutsByRoom build s) steps s ∧
      ((∃ initial blockSize blockCount size_lt count_lt,
          Rust.format build initial [MemDevice.new blockSize blockCount size_lt count_lt] =
            (.ok (), [image dev])) →
        Always (after build) (SpaceExact build) steps s) := by
  rcases mountRecovered_single_inv large opened with ⟨mountable, rfl⟩
  let r₀ := remountedReplica build opts.freePattern dev
  have image₀ : image r₀.dev = recovered fromUtf8Lossy (image dev) opts.freePattern :=
    image_remounted build opts.freePattern large
  have settled₀ : Settled r₀ := remounted_settled build opts.freePattern large mountable
  have tight₀ : Tight (image r₀.dev) := by
    rw [image₀]
    exact tight_recovered large free
  have size₀ : (image r₀.dev).blockSize = (image dev).blockSize := by
    rw [image₀]
    exact (recovered_keeps fromUtf8Lossy (image dev) opts.freePattern).size
  have each : Each (after build) (fun step _ => StepAllowed (image dev).blockSize step) steps
      (single r₀ opts) := each_of_forall fun step member _ => allowed step member
  -- The replica of the store, its blocks all owned, and what a step makes of it.
  let owned (s : Store D) (r : Replica D) := s = single r opts ∧ Settled r ∧
    Tight (image r.dev) ∧ (image r.dev).blockSize = (image dev).blockSize
  have moves : ∀ step s r, StepAllowed (image dev).blockSize step → owned s r →
      ∃ result r', owned (after build step s) r' ∧ Effect build opts r step result r' := by
    rintro step s r allowed ⟨rfl, settled, tight, size⟩
    rcases step_effect settled.sound build opts step with ⟨result, r', ran, effect⟩
    have short : ∀ op, step = .call op → op.key.length ≤ 65535 := by
      rintro op rfl
      exact (Op.Allowed.key allowed).2
    exact ⟨result, r', ⟨congrArg Prod.snd ran, effect.settled settled short,
      tight_effect settled free tight effect, (effect.keeps settled.sound).size.trans size⟩, effect⟩
  constructor
  · let inv (s : Store D) := ∃ r, owned s r
    have start : inv (single r₀ opts) := ⟨r₀, rfl, settled₀, tight₀, size₀⟩
    refine always_of_invariant ?_ ?_ start each
    · rintro s ⟨r, rfl, settled, tight, _⟩
      refine ⟨?_, putsByRoom_of_sound settled.sound build opts⟩
      intro q only
      rw [List.mem_singleton.mp only]
      exact partitioned_of_tight settled tight
    · rintro step s allowed ⟨r, here⟩
      rcases moves step s r allowed here with ⟨_, r', there, _⟩
      exact ⟨r', there⟩
  · rintro ⟨initial, blockSize, blockCount, size_lt, count_lt, formatted⟩
    have blank := (format_blank (n := 1) formatted).2.2 (image dev) List.mem_cons_self
    have fitted₀ : Fitted build (image r₀.dev) := by
      rw [image₀]
      exact fitted_blank large blank opts.freePattern
    let inv (s : Store D) := ∃ r, owned s r ∧ Fitted build (image r.dev)
    have start : inv (single r₀ opts) := ⟨r₀, ⟨rfl, settled₀, tight₀, size₀⟩, fitted₀⟩
    refine always_of_invariant ?_ ?_ start each
    · rintro s ⟨r, ⟨rfl, settled, tight, _⟩, fitted⟩
      exact spaceExact_of_fitted settled tight fitted opts
    · rintro step s allowed ⟨r, here, fitted⟩
      rcases moves step s r allowed here with ⟨_, r', there, effect⟩
      refine ⟨r', there, fitted_effect here.2.1 fitted ?_ effect⟩
      rw [here.2.2.2]
      exact allowed

/-- A device with two data blocks, filled by a value of two blocks that is then
deleted. -/
theorem space_accounted_small :
    ∃ dev s, Rust.format .dev .default [smallDevice] = (.ok (), [dev]) ∧
      mountRecovered .dev [dev] .default = .ok s ∧
      Always (after .dev) (fun s => (∀ r ∈ s.replicas, Partitioned r) ∧ PutsByRoom .dev s)
        [.call (.put [0x41] [1, 2, 3, 4] 0), .call (.put [0x42] [5] 0), .call (.delete [0x41]),
          .call (.get [0x41])] s ∧
      Always (after .dev) (SpaceExact .dev)
        [.call (.put [0x41] [1, 2, 3, 4] 0), .call (.put [0x42] [5] 0), .call (.delete [0x41]),
          .call (.get [0x41])] s := by
  have finished : (Rust.format .dev .default [smallDevice]).1 = .ok () := by decide +kernel
  rcases ran : Rust.format .dev .default [smallDevice] with ⟨result, devs⟩
  rw [ran] at finished
  subst finished
  rcases format_blank (n := 1) ran with ⟨_, one, blank⟩
  rcases List.length_eq_one_iff.mp one with ⟨dev, rfl⟩
  have here := blank dev List.mem_cons_self
  have large : 36 ≤ dev.blockSize := by
    rw [here.size]
    decide
  have opened := mountRecovered_single (D := MemDevice) .dev large here.mountable .default
  have allowed : ∀ step ∈ [Step.call (.put [0x41] [1, 2, 3, 4] 0), .call (.put [0x42] [5] 0),
      .call (.delete [0x41]), .call (.get [0x41])], StepAllowed dev.blockSize step := by
    rw [here.size]
    decide +kernel
  have both := space_accounted large (.inl rfl) opened allowed
  exact ⟨dev, _, rfl, opened, both.1, both.2 ⟨.default, 40, 3, by decide, by decide, ran⟩⟩

end Embedkv.SpaceLaws
