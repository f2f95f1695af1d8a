import Embedkv.Run

/-!
# Replicas in lockstep

Without device errors all replicas of a store stay twins: equal indexes and
equal data blocks, with headers that differ in the replica number only. Every
operation depends on the data blocks and the index alone, so a store of any
number of twins answers like a store with one of them.
-/

namespace Embedkv.Lockstep

open Embedkv.Lib Embedkv.Format Embedkv.Device Embedkv.State Embedkv.Image Embedkv.Record
open Embedkv.Erase Embedkv.Layout Embedkv.Effects Embedkv.Plan Embedkv.Outcome Embedkv.Session

set_option autoImplicit false

/-! ## Images with the same data -/

structure SameData (img img' : MemDevice) : Prop where
  size : img'.blockSize = img.blockSize
  count : img'.blockCount = img.blockCount
  data : ∀ b, 1 ≤ b → img'.block b = img.block b

section
variable {img img' : MemDevice}

theorem SameData.symm (same : SameData img img') : SameData img' img :=
  ⟨same.size.symm, same.count.symm, fun b data => (same.data b data).symm⟩

theorem block_set_congr {b c : Nat} (buf : Bytes) (size : img'.blockSize = img.blockSize)
    (count : img'.blockCount = img.blockCount) (same : img'.block c = img.block c) :
    (img'.set b buf).block c = (img.set b buf).block c := by
  by_cases fits : b < img.blockCount ∧ buf.length = img.blockSize
  · by_cases here : c = b
    · subst here
      rw [MemDevice.block_set_self img fits.1 fits.2,
        MemDevice.block_set_self img' (by rw [count]; exact fits.1) (by rw [size]; exact fits.2)]
    · rw [MemDevice.block_set_other img buf here, MemDevice.block_set_other img' buf here, same]
  · rw [MemDevice.set_misfit fits, MemDevice.set_misfit (by rw [size, count]; exact fits), same]

theorem SameData.apply (same : SameData img img') (writes : List (Nat × Bytes)) :
    SameData (img.apply writes) (img'.apply writes) := by
  induction writes generalizing img img' with
  | nil => exact same
  | cons write rest ih =>
      apply ih
      refine ⟨?_, ?_, ?_⟩
      · rw [MemDevice.blockSize_set, MemDevice.blockSize_set, same.size]
      · rw [MemDevice.blockCount_set, MemDevice.blockCount_set, same.count]
      · intro b data
        exact block_set_congr write.2 same.size same.count (same.data b data)

/-- A record of one image is a record of the other. -/
theorem SameData.record (same : SameData img img')
    (mounted : u8At (img.block 0) 0 = blockTypeStorageHeader) {d : Nat} {rec : CompleteRecord}
    (record : RecordAt img d rec) : RecordAt img' d rec := by
  apply record.congr same.count
  intro c member
  apply same.data
  by_contra zero
  have header : c = 0 := by omega
  subst header
  exact record_not_header record mounted member

theorem SameData.recordAt (same : SameData img img')
    (mounted : u8At (img.block 0) 0 = blockTypeStorageHeader)
    (mounted' : u8At (img'.block 0) 0 = blockTypeStorageHeader) :
    recordAt img' = recordAt img := by
  funext d
  apply Transition.recordAt_congr
  intro rec
  constructor
  · intro record
    exact same.symm.record mounted' record
  · intro record
    exact same.record mounted record

theorem SameData.freeBlocks (same : SameData img img') : freeBlocks img' = freeBlocks img := by
  rw [Effects.freeBlocks, Effects.freeBlocks, same.count]
  apply List.filter_congr
  intro b member
  rw [same.data b (mem_dataBlocks.mp member).1]

theorem SameData.records (same : SameData img img')
    (mounted : u8At (img.block 0) 0 = blockTypeStorageHeader)
    (mounted' : u8At (img'.block 0) 0 = blockTypeStorageHeader) :
    Scan.records img' = Scan.records img := by
  rw [Scan.records, Scan.records, same.count, same.recordAt mounted mounted']

theorem SameData.recovered (same : SameData img img') (name : Bytes → Bytes) (pattern : UInt8)
    (mounted : u8At (img.block 0) 0 = blockTypeStorageHeader)
    (mounted' : u8At (img'.block 0) 0 = blockTypeStorageHeader) :
    SameData (Recovery.recovered name img pattern) (Recovery.recovered name img' pattern) := by
  have garbage : Recovery.garbage name img' = Recovery.garbage name img := by
    rw [Recovery.garbage, Recovery.garbage, same.count, Scan.bestOf, Scan.bestOf,
      same.records mounted mounted']
    apply List.filter_congr
    intro b member
    rw [same.data b (mem_dataBlocks.mp member).1]
  rw [Recovery.recovered, Recovery.recovered, garbage, same.size]
  exact same.apply _

end

/-! ## Twins -/

section
variable {D : Type} [BlockDevice D] [LawfulBlockDevice D]

/-- `q` is a replica that holds what `r` holds. -/
structure Twin (r q : Replica D) : Prop where
  data : SameData (image r.dev) (image q.dev)
  index : q.index = r.index
  mountable : Mount.Mountable (image q.dev)

variable {matching : Bytes → IndexEntry → CompleteRecord → Prop} {r q : Replica D}

theorem twin_refl (sound : Sound matching r) : Twin r r :=
  ⟨⟨rfl, rfl, fun _ _ => rfl⟩, rfl, sound.mountable⟩

theorem Twin.recordAt (twin : Twin r q) (sound : Sound matching r) :
    recordAt (image q.dev) = recordAt (image r.dev) :=
  twin.data.recordAt sound.mountable.type twin.mountable.type

theorem Twin.sound (twin : Twin r q) (sound : Sound matching r) : Sound matching q where
  large := by
    rw [twin.data.size]
    exact sound.large
  mountable := twin.mountable
  index := by
    rw [twin.recordAt sound, twin.index]
    exact sound.index

/-- A store whose replicas are twins of `r`. -/
structure InStep (r : Replica D) (opts : Options) (s : Store D) : Prop where
  opts_eq : s.opts = opts
  nonempty : s.replicas ≠ []
  twins : ∀ q ∈ s.replicas, Twin r q

theorem inStep_single (sound : Sound matching r) (opts : Options) :
    InStep r opts (single r opts) where
  opts_eq := rfl
  nonempty := List.cons_ne_nil _ _
  twins q member := by
    rw [List.mem_singleton.mp member]
    exact twin_refl sound

/-! ## Reading -/

/-- A twin reads what `r` reads, whatever was read before it at that generation. -/
theorem twin_getReplica (twin : Twin r q) (sound : Sound matching r) (build : Rust.Build)
    {key : Bytes} {e : IndexEntry} {rec : CompleteRecord}
    (found : r.index.lookup (fromUtf8Lossy key) = some e)
    (present : Record.recordAt (image r.dev) e.descriptorBlock = some rec)
    {best : Option (Nat × Bytes)} (seen : best = none ∨ best = some (e.generation, rec.value)) :
    Rust.getReplica build key best q = (.ok (some (e.generation, rec.value)), q) := by
  have foundHere : q.index.lookup (fromUtf8Lossy key) = some e := by
    rw [twin.index]
    exact found
  have record : RecordAt (image q.dev) e.descriptorBlock rec := by
    rw [← recordAt_eq_some, twin.recordAt sound]
    exact present
  rw [Rust.getReplica, Proc.bind_ok (rust_getWithGeneration build (twin.sound sound).large foundHere
    record)]
  rcases seen with rfl | rfl
  · rfl
  · simp only [gt_iff_lt, Nat.lt_irrefl, if_false]
    rfl

/-- A store of twins reads what one of them reads. -/
theorem inStep_get {opts : Options} {s : Store D} (lock : InStep r opts s)
    (sound : Sound matching r) (build : Rust.Build) (key : Bytes) :
    Rust.get build key s = ((Rust.get build key (single r opts)).1, s) := by
  rcases Option.eq_none_or_eq_some (r.index.lookup (fromUtf8Lossy key)) with absent | ⟨e, found⟩
  · have turns : Proc.each (Rust.getReplica build key) none s.replicas =
        (.ok none, s.replicas.map id) := by
      apply Proc.each_map
      intro q member
      have absentHere : q.index.lookup (fromUtf8Lossy key) = none := by
        rw [(lock.twins q member).index]
        exact absent
      rw [Rust.getReplica, Proc.bind_ok (rust_getWithGeneration_absent build absentHere)]
      rfl
    have each : Store.onReplicas (Proc.each (Rust.getReplica build key) none) s = (.ok none, s) := by
      rw [Store.onReplicas, Proc.zoom_apply, turns, List.map_id]
    rw [get_single_absent build opts absent, Rust.get, Proc.bind_ok each]
    rfl
  · rcases get_single sound build opts found with ⟨rec, present, _, read⟩
    have turns : Proc.each (Rust.getReplica build key) none s.replicas =
        (.ok (some (e.generation, rec.value)), s.replicas.map id) := by
      apply Proc.each_settle lock.nonempty
      · intro q member
        exact twin_getReplica (lock.twins q member) sound build found present (.inl rfl)
      · intro q member
        exact twin_getReplica (lock.twins q member) sound build found present (.inr rfl)
    have each : Store.onReplicas (Proc.each (Rust.getReplica build key) none) s =
        (.ok (some (e.generation, rec.value)), s) := by
      rw [Store.onReplicas, Proc.zoom_apply, turns, List.map_id]
    rw [read, Rust.get, Proc.bind_ok each]
    rfl

omit [BlockDevice D] [LawfulBlockDevice D] in
/-- Replicas that agree on an entry agree on the generation of the next put. -/
theorem indexedGeneration_twins {index : MemIndex} (s : Bytes) {replicas : List (Replica D)}
    (nonempty : replicas ≠ []) (twins : ∀ q ∈ replicas, q.index = index) :
    Rust.indexedGeneration s replicas = generationOf index s := by
  have same : ∀ q ∈ replicas, generationOf q.index s = generationOf index s := by
    intro q member
    rw [twins q member]
  apply Nat.le_antisymm
  · apply indexedGeneration_le
    intro q member
    rw [same q member]
  · obtain ⟨q, member⟩ := List.exists_mem_of_ne_nil replicas nonempty
    rw [← same q member]
    exact generationOf_le member s

end

/-! ## Writing -/

section
variable {D : Type} [BlockDevice D] [ReliableBlockDevice D]
  {matching : Bytes → IndexEntry → CompleteRecord → Prop} {r q : Replica D}

/-- The same acts keep twins twins. -/
theorem twin_performAll {acts : List Act} (twin : Twin r q)
    (valid : ValidActs (image r.dev) acts) (away : 0 ∉ (writesOf acts).map Prod.fst) :
    ∃ r' q', performAll acts r = (.ok (), r') ∧ performAll acts q = (.ok (), q') ∧ Twin r' q' := by
  have validThere : ValidActs (image q.dev) acts := by
    intro write member
    rw [twin.data.size, twin.data.count]
    exact valid write member
  rcases performAll_reliable valid with ⟨r', ran, img, index⟩
  rcases performAll_reliable validThere with ⟨q', ran', img', index'⟩
  refine ⟨r', q', ran, ran', ?_, ?_, ?_⟩
  · rw [img, img']
    exact twin.data.apply _
  · rw [index, index', twin.index]
  · rw [img']
    have kept : Keeps (image q.dev) ((image q.dev).apply (writesOf acts)) := keeps_apply away
    exact twin.mountable.congr kept.size kept.count kept.header

/-- A put ends the same way on all twins: done, or refused for want of room. -/
theorem twin_replicaPut (sound : Sound matching r) (build : Rust.Build) {key : Bytes}
    (keyFits : key.length + 36 ≤ (image r.dev).blockSize) (value : Bytes) (generation : Nat)
    (userFlags : UInt32) (pattern : UInt8) :
    (∃ r', Rust.replicaPut build key value generation userFlags pattern r = (.ok (), r') ∧
        ∀ q, Twin r q → ∃ q', Rust.replicaPut build key value generation userFlags pattern q =
          (.ok (), q') ∧ Twin r' q') ∨
      ∀ q, Twin r q → Rust.replicaPut build key value generation userFlags pattern q =
        (.error (.err .storageFull), q) := by
  by_cases room : blocksFor (image r.dev).blockSize key.length (asU32 value.length) ≤
      (freeBlocks (image r.dev)).length
  · left
    rcases put_allocates keyFits room generation userFlags with
      ⟨d, chunks, new, taken, fits, among, _, _, _⟩
    have planned := rust_replicaPut build sound.indexed keyFits room taken generation userFlags
      pattern
    have valid : ValidActs (image r.dev) (putActs (image r.dev) (indexedBlocks (image r.dev) r.index
        (fromUtf8Lossy key)) d chunks key generation value userFlags pattern) :=
      put_writes sound.indexed fits
    have away : 0 ∉ (writesOf (putActs (image r.dev) (indexedBlocks (image r.dev) r.index
        (fromUtf8Lossy key)) d chunks key generation value userFlags pattern)).map Prod.fst :=
      put_keeps_header sound.indexed among
    rcases performAll_reliable valid with ⟨r', ran, _⟩
    refine ⟨r', planned.trans ran, ?_⟩
    intro q twin
    -- The twin computes the same acts from its own blocks and index.
    have plannedThere : Rust.replicaPut build key value generation userFlags pattern q =
        performAll (putActs (image r.dev) (indexedBlocks (image r.dev) r.index (fromUtf8Lossy key))
          d chunks key generation value userFlags pattern) q := by
      have free := twin.data.freeBlocks
      have size := twin.data.size
      have there := rust_replicaPut build (twin.sound sound).indexed
        (by rw [size]; exact keyFits) (by rw [size, free]; exact room)
        (by rw [size, free]; exact taken) generation userFlags pattern
      rw [there, putActs, putActs, indexedBlocks, indexedBlocks, twin.index, twin.recordAt sound,
        size]
    rcases twin_performAll twin valid away with ⟨r1, q', ran1, ran', twins⟩
    rw [ran] at ran1
    cases ran1
    exact ⟨q', plannedThere.trans ran', twins⟩
  · right
    intro q twin
    apply rust_replicaPut_full build (twin.sound sound).large
    · rw [twin.data.size]
      exact keyFits
    · rw [twin.data.size, twin.data.freeBlocks]
      omega

/-- A delete ends the same way on all twins that have the key. -/
theorem twin_deleteReplica (sound : Sound matching r) {s : Bytes} {e : IndexEntry}
    (found : r.index.lookup s = some e) (pattern : UInt8) :
    ∃ r', (∀ seen, Rust.deleteReplica s pattern seen r = (.ok true, r')) ∧
      ∀ q, Twin r q → ∃ q', (∀ seen, Rust.deleteReplica s pattern seen q = (.ok true, q')) ∧
        Twin r' q' := by
  rcases sound.index.complete s e found with ⟨rec, present, _⟩
  have record := recordAt_eq_some.mp present
  have valid := delete_writes record s pattern
  have away := delete_keeps_header record sound.mountable.type s pattern
  rcases performAll_reliable valid with ⟨r', ran, _⟩
  refine ⟨r', ?_, ?_⟩
  · intro seen
    rw [rust_deleteReplica sound.indexed found record, Proc.bind_ok ran]
    rfl
  · intro q twin
    have recordThere : RecordAt (image q.dev) e.descriptorBlock rec := by
      rw [← recordAt_eq_some, twin.recordAt sound]
      exact present
    have foundThere : q.index.lookup s = some e := by
      rw [twin.index]
      exact found
    rcases twin_performAll twin valid away with ⟨r1, q', ran1, ran', twins⟩
    rw [ran] at ran1
    cases ran1
    refine ⟨q', ?_, twins⟩
    intro seen
    have acts : deleteActs (image q.dev) s rec.blocks pattern =
        deleteActs (image r.dev) s rec.blocks pattern := by
      rw [deleteActs, deleteActs, twin.data.size]
    rw [rust_deleteReplica (twin.sound sound).indexed foundThere recordThere, acts,
      Proc.bind_ok ran']
    rfl

/-- A put answers alike on a store of twins and on one of them. -/
theorem inStep_put {opts : Options} {s : Store D} (lock : InStep r opts s)
    (sound : Sound matching r) (build : Rust.Build) {key : Bytes} (short : key.length ≤ 65535)
    (value : Bytes) (userFlags : UInt32) :
    ∃ r', (Rust.putFlagged build key value userFlags (single r opts)).2 = single r' opts ∧
      (Rust.putFlagged build key value userFlags s).1 =
        (Rust.putFlagged build key value userFlags (single r opts)).1 ∧
      InStep r' opts (Rust.putFlagged build key value userFlags s).2 := by
  have large := sound.large
  have next := indexedGeneration_twins (fromUtf8Lossy key) lock.nonempty
    fun q member => (lock.twins q member).index
  rw [putFlagged_single build r opts large]
  have sizes : ∀ q ∈ s.replicas, (image q.dev).blockSize = (image r.dev).blockSize :=
    fun q member => (lock.twins q member).data.size
  rw [putFlagged_eq build lock.nonempty sizes large, next, lock.opts_eq]
  split
  next => exact ⟨r, rfl, rfl, lock⟩
  next fits =>
    have keyFits : key.length + 36 ≤ (image r.dev).blockSize := by
      rw [asU32, Nat.mod_eq_of_lt (by omega)] at fits
      omega
    cases Rust.u32Add build (generationOf r.index (fromUtf8Lossy key)) 1 with
    | error failure => exact ⟨r, rfl, rfl, lock⟩
    | ok generation =>
      simp only [Store.onReplicas, Proc.zoom_apply]
      rcases twin_replicaPut sound build keyFits value generation userFlags opts.freePattern with
        ⟨r', ran, twins⟩ | refused
      · have each : Proc.each (fun _ => Rust.replicaPut build key value generation userFlags
            opts.freePattern) () s.replicas = (.ok (), s.replicas.map fun q =>
              (Rust.replicaPut build key value generation userFlags opts.freePattern q).2) := by
          apply Proc.each_map
          intro q member
          rcases twins q (lock.twins q member) with ⟨q', ranThere, _⟩
          rw [ranThere]
        rw [each, ran]
        refine ⟨r', rfl, rfl, lock.opts_eq, ?_, ?_⟩
        · simpa using lock.nonempty
        · intro q' member
          rcases List.mem_map.mp member with ⟨q, inside, rfl⟩
          rcases twins q (lock.twins q inside) with ⟨q1, ranThere, twin⟩
          rw [ranThere]
          exact twin
      · rw [Proc.each_refused lock.nonempty fun q member => refused q (lock.twins q member),
          refused r (twin_refl sound)]
        exact ⟨r, rfl, rfl, lock⟩

/-- A put that fails on a store of twins fails before it changes one of them. -/
theorem inStep_put_error {opts : Options} {s s' : Store D} (lock : InStep r opts s)
    (sound : Sound matching r) {build : Rust.Build} {key value : Bytes} (short : key.length ≤ 65535)
    {userFlags : UInt32} {failure : Failure}
    (ran : Rust.putFlagged build key value userFlags s = (.error failure, s')) : s' = s := by
  have sizes : ∀ q ∈ s.replicas, (image q.dev).blockSize = (image r.dev).blockSize :=
    fun q member => (lock.twins q member).data.size
  rw [putFlagged_eq build lock.nonempty sizes sound.large] at ran
  split at ran
  next =>
    cases ran
    rfl
  next fits =>
    have keyFits : key.length + 36 ≤ (image r.dev).blockSize := by
      have large := sound.large
      rw [asU32, Nat.mod_eq_of_lt (by omega)] at fits
      omega
    split at ran
    next =>
      cases ran
      rfl
    next generation _ =>
      rw [Store.onReplicas, Proc.zoom_apply] at ran
      rcases twin_replicaPut sound build keyFits value generation userFlags s.opts.freePattern with
        ⟨r', _, twins⟩ | refused
      · have each : Proc.each (fun _ => Rust.replicaPut build key value generation userFlags
            s.opts.freePattern) () s.replicas = (.ok (), s.replicas.map fun q =>
              (Rust.replicaPut build key value generation userFlags s.opts.freePattern q).2) := by
          apply Proc.each_map
          intro q member
          rcases twins q (lock.twins q member) with ⟨q', ranThere, _⟩
          rw [ranThere]
        rw [each] at ran
        cases ran
      · rw [Proc.each_refused lock.nonempty fun q member => refused q (lock.twins q member)] at ran
        cases ran
        rfl

/-- A delete answers alike on a store of twins and on one of them. -/
theorem inStep_delete {opts : Options} {s : Store D} (lock : InStep r opts s)
    (sound : Sound matching r) (key : Bytes) :
    ∃ r', (Rust.delete key (single r opts)).2 = single r' opts ∧
      (Rust.delete key s).1 = (Rust.delete key (single r opts)).1 ∧
      InStep r' opts (Rust.delete key s).2 := by
  rw [delete_eq key s, lock.opts_eq]
  rw [delete_single]
  rcases Option.eq_none_or_eq_some (r.index.lookup (fromUtf8Lossy key)) with absent | ⟨e, found⟩
  · have each : Proc.each (Rust.deleteReplica (fromUtf8Lossy key) opts.freePattern) false
        s.replicas = (.ok false, s.replicas.map id) := by
      apply Proc.each_map
      intro q member
      apply rust_deleteReplica_absent
      rw [(lock.twins q member).index]
      exact absent
    rw [each, rust_deleteReplica_absent absent, List.map_id]
    exact ⟨r, rfl, rfl, rfl, lock.nonempty, lock.twins⟩
  · rcases twin_deleteReplica sound found opts.freePattern with ⟨r', ran, twins⟩
    have each : Proc.each (Rust.deleteReplica (fromUtf8Lossy key) opts.freePattern) false
        s.replicas = (.ok true, s.replicas.map fun q =>
          (Rust.deleteReplica (fromUtf8Lossy key) opts.freePattern false q).2) := by
      apply Proc.each_settle lock.nonempty
      · intro q member
        rcases twins q (lock.twins q member) with ⟨q', ranThere, _⟩
        rw [ranThere]
      · intro q member
        rcases twins q (lock.twins q member) with ⟨q', ranThere, _⟩
        rw [ranThere, ranThere]
    rw [each, ran]
    refine ⟨r', rfl, rfl, rfl, ?_, ?_⟩
    · simpa using lock.nonempty
    · intro q' member
      rcases List.mem_map.mp member with ⟨q, inside, rfl⟩
      rcases twins q (lock.twins q inside) with ⟨q1, ranThere, twin⟩
      rw [ranThere]
      exact twin

/-- Recovery keeps twins twins. -/
theorem inStep_recover {opts : Options} {s : Store D} (lock : InStep r opts s)
    (sound : Sound matching r) (build : Rust.Build) :
    (Rust.recover build s).1 = .ok () ∧
      InStep (recoveredReplica build opts.freePattern r) opts (Rust.recover build s).2 := by
  have sizes : ∀ q ∈ s.replicas, 36 ≤ (image q.dev).blockSize :=
    fun q member => ((lock.twins q member).sound sound).large
  rw [rust_recover build sizes]
  refine ⟨rfl, lock.opts_eq, ?_, ?_⟩
  · simpa using lock.nonempty
  · intro q' member
    rcases List.mem_map.mp member with ⟨q, inside, rfl⟩
    have twin := lock.twins q inside
    have pattern : s.opts.freePattern = opts.freePattern := by rw [lock.opts_eq]
    have here := (replicaRecover_reliable build opts.freePattern sound.large).2
    have there := (replicaRecover_reliable build opts.freePattern (sizes q inside)).2
    rw [pattern]
    refine ⟨?_, twin.index, ?_⟩
    · change SameData (image (Rust.replicaRecover build opts.freePattern r.dev).2)
        (image (Rust.replicaRecover build opts.freePattern q.dev).2)
      rw [here, there]
      exact twin.data.recovered _ _ sound.mountable.type twin.mountable.type
    · change Mount.Mountable (image (Rust.replicaRecover build opts.freePattern q.dev).2)
      rw [there]
      have kept := recovered_keeps fromUtf8Lossy (image q.dev) opts.freePattern
      exact twin.mountable.congr kept.size kept.count kept.header

/-- Reopening keeps twins twins. -/
theorem inStep_mount {opts : Options} {s : Store D} (lock : InStep r opts s)
    (sound : Sound matching r) (build : Rust.Build) :
    ∃ s', mount build (Rust.intoDevices s) opts = .ok s' ∧
      InStep (scannedReplica r.dev) opts s' := by
  have opened := mount_eq build
    (show Rust.intoDevices s ≠ [] by simpa [Rust.intoDevices] using lock.nonempty) sound.large (by
      intro dev member
      rcases List.mem_map.mp member with ⟨q, inside, rfl⟩
      have twin := lock.twins q inside
      exact ⟨twin.mountable, twin.data.size, twin.data.count⟩) opts
  refine ⟨_, opened, rfl, ?_, ?_⟩
  · simpa [Rust.intoDevices] using lock.nonempty
  · intro q' member
    rcases List.mem_map.mp member with ⟨dev, among, rfl⟩
    rcases List.mem_map.mp among with ⟨q, inside, rfl⟩
    have twin := lock.twins q inside
    refine ⟨twin.data, ?_, twin.mountable⟩
    change Scan.indexOf fromUtf8Lossy (image q.dev) = Scan.indexOf fromUtf8Lossy (image r.dev)
    rw [Scan.indexOf, Scan.indexOf, twin.data.records sound.mountable.type twin.mountable.type]

end

end Embedkv.Lockstep
