import Embedkv.Plan
import Embedkv.Recovery

/-!
# Formatting and opening

`open` accepts an image by its block 0 and its geometry alone, in both
implementations and without changing the device. `format` writes such a block
and touches nothing else, so what a freshly formatted device holds is what its
data blocks held before.
-/

namespace Embedkv.Mount

open Embedkv.Lib Embedkv.Format Embedkv.Device Embedkv.State Embedkv.Codec Embedkv.Image
open Embedkv.Record Embedkv.Erase Embedkv.Layout

set_option autoImplicit false

/-- Block 0 is a storage header that names the geometry of the device. -/
structure Mountable (img : MemDevice) : Prop where
  size : 32 ≤ img.blockSize
  count : 1 ≤ img.blockCount
  type : u8At (img.block 0) 0 = blockTypeStorageHeader
  crc : Rust.verifyBlockCrc (img.block 0) = true
  magic_eq : (storageHeaderOf (img.block 0)).magic = magic
  size_eq : (storageHeaderOf (img.block 0)).blockSize.toNat = img.blockSize
  count_eq : (storageHeaderOf (img.block 0)).blockCount.toNat = img.blockCount

theorem Mountable.congr {img img' : MemDevice} (mountable : Mountable img)
    (size : img'.blockSize = img.blockSize) (count : img'.blockCount = img.blockCount)
    (header : img'.block 0 = img.block 0) : Mountable img' where
  size := by rw [size]; exact mountable.size
  count := by rw [count]; exact mountable.count
  type := by rw [header]; exact mountable.type
  crc := by rw [header]; exact mountable.crc
  magic_eq := by rw [header]; exact mountable.magic_eq
  size_eq := by rw [header, size]; exact mountable.size_eq
  count_eq := by rw [header, count]; exact mountable.count_eq

section
variable {D : Type} [BlockDevice D] [LawfulBlockDevice D]

theorem rust_openReplicaHeader {dev : D} (mountable : Mountable (image dev)) :
    Rust.openReplicaHeader dev = (.ok (storageHeaderOf ((image dev).block 0)), dev) := by
  have size := blockSizeOf_eq dev
  have count := blockCountOf_eq dev
  have length : ((image dev).block 0).length = (image dev).blockSize :=
    (image dev).block_length mountable.count
  have large : ¬(image dev).blockSize < storageHeaderSize + blockCrcSize :=
    Nat.not_lt.mpr mountable.size
  have sizes := mountable.size
  have counts := mountable.count
  rw [Rust.openReplicaHeader, Proc.bind_ok size, if_neg large,
    Proc.bind_ok (LawfulBlockDevice.readBlock_eq dev 0 mountable.count),
    if_neg (not_not.mpr mountable.type), rust_unmarshalStorageHeader _ (by omega),
    Proc.ofExcept_ok_bind_apply]
  dsimp only
  rw [Proc.bind_ok count]
  simp only [mountable.crc, mountable.magic_eq, mountable.size_eq, mountable.count_eq, ne_eq,
    not_true_eq_false, if_false, Bool.not_true, Bool.false_eq_true]
  rw [if_neg (by omega)]
  rfl

/-- What `open` accepts. -/
theorem mountable_of_open {dev dev' : D} {hdr : StorageHeader}
    (opened : Rust.openReplicaHeader dev = (.ok hdr, dev')) : Mountable (image dev) := by
  rw [Rust.openReplicaHeader, Proc.bind_ok (blockSizeOf_eq dev)] at opened
  by_cases small : (image dev).blockSize < storageHeaderSize + blockCrcSize
  · rw [if_pos small] at opened
    cases opened
  have sizes : 32 ≤ (image dev).blockSize := Nat.le_of_not_lt small
  rw [if_neg small] at opened
  by_cases empty : (image dev).blockCount ≤ 0
  · rw [Proc.bind_error (LawfulBlockDevice.readBlock_outside dev 0 empty)] at opened
    cases opened
  have counts : 1 ≤ (image dev).blockCount := by omega
  have length : ((image dev).block 0).length = (image dev).blockSize :=
    (image dev).block_length counts
  rw [Proc.bind_ok (LawfulBlockDevice.readBlock_eq dev 0 counts)] at opened
  by_cases type : u8At ((image dev).block 0) 0 ≠ blockTypeStorageHeader
  · rw [if_pos type] at opened
    cases opened
  rw [if_neg type, rust_unmarshalStorageHeader _ (by omega),
    Proc.ofExcept_ok_bind_apply] at opened
  dsimp only at opened
  rw [Proc.bind_ok (blockCountOf_eq dev)] at opened
  split at opened
  · cases opened
  next crc =>
    split at opened
    · cases opened
    next magicOk =>
      split at opened
      · cases opened
      next sizeOk =>
        split at opened
        · cases opened
        next countOk =>
          exact ⟨sizes, counts, not_not.mp type, by simpa using crc, not_not.mp magicOk,
            not_not.mp sizeOk, not_not.mp countOk⟩

/-- What formatting does to an image: block 0 becomes a header, the rest stays. -/
structure Formatted (before after : MemDevice) : Prop where
  mountable : Mountable after
  size : after.blockSize = before.blockSize
  count : after.blockCount = before.blockCount
  data : ∀ b, 1 ≤ b → after.block b = before.block b

theorem storageHeaderOf_type (buf : Bytes) : u8At buf 0 = (storageHeaderOf buf).blockType := rfl

/-- A header fits into one block. -/
theorem sealedHeader_length {blockSize : Nat} (large : 32 ≤ blockSize) (hdr : StorageHeader) :
    (sealed blockSize (storageHeaderBytes hdr)).length = blockSize :=
  sealed_length (by omega) (by rw [storageHeaderBytes_length]; omega)

theorem storageHeaderOf_sealed {blockSize : Nat} (large : 32 ≤ blockSize) (hdr : StorageHeader) :
    storageHeaderOf (sealed blockSize (storageHeaderBytes hdr)) = hdr := by
  have fits : (storageHeaderBytes hdr).length + 4 ≤ blockSize := by
    rw [storageHeaderBytes_length]
    omega
  obtain ⟨rest, shape⟩ := sealed_eq fits
  rw [shape, storageHeaderOf_append]

/-- A sealed header that names the geometry makes its device mountable. -/
theorem formatted_set {img : MemDevice} {hdr : StorageHeader} (size : 32 ≤ img.blockSize)
    (count : 1 ≤ img.blockCount) (type : hdr.blockType = blockTypeStorageHeader)
    (magic_eq : hdr.magic = magic) (size_eq : hdr.blockSize.toNat = img.blockSize)
    (count_eq : hdr.blockCount.toNat = img.blockCount) :
    Formatted img (img.set 0 (sealed img.blockSize (storageHeaderBytes hdr))) := by
  have length := storageHeaderBytes_length hdr
  have crc : Rust.verifyBlockCrc (sealed img.blockSize (storageHeaderBytes hdr)) = true :=
    sealed_crc (by omega) (by omega)
  have written := img.block_set_self count (sealedHeader_length size hdr)
  have header := storageHeaderOf_sealed size hdr
  refine ⟨⟨?_, ?_, ?_, ?_, ?_, ?_, ?_⟩, MemDevice.blockSize_set .., MemDevice.blockCount_set .., ?_⟩
  · rw [MemDevice.blockSize_set]
    exact size
  · rw [MemDevice.blockCount_set]
    exact count
  · rw [written, storageHeaderOf_type, header, type]
  · rw [written]
    exact crc
  · rw [written, header, magic_eq]
  · rw [written, header, MemDevice.blockSize_set, size_eq]
  · rw [written, header, MemDevice.blockCount_set, count_eq]
  · intro b data
    exact img.block_set_other _ (by omega)

/-- The header `format` writes. -/
def formatHeader (opts : Options) (blockSize blockCount replicaId : Nat) : StorageHeader where
  blockType := blockTypeStorageHeader
  magic := magic
  versionMajor := versionMajor
  versionMinor := versionMinor
  blockSize := UInt32.ofNat blockSize
  blockCount := UInt32.ofNat blockCount
  replicaId := UInt32.ofNat replicaId
  formatSeq := opts.formatSeq
  flags := 0

/-- Formatting a device is one write and a flush. -/
theorem rust_formatDevice_eq {build : Rust.Build} {opts : Options} {i replicaId : Nat} {dev : D}
    (large : 32 ≤ (image dev).blockSize)
    (added : Rust.u32Add build opts.replicaId.toNat (asU32 i) = .ok replicaId) :
    Rust.formatDevice build opts i dev =
      (do
        BlockDevice.writeBlock 0 (sealed (image dev).blockSize (storageHeaderBytes
          (formatHeader opts (image dev).blockSize (image dev).blockCount replicaId)))
        BlockDevice.flush : Proc Failure D Unit) dev := by
  have enough : ¬(image dev).blockSize < storageHeaderSize + blockCrcSize := Nat.not_lt.mpr large
  let hdr := formatHeader opts (image dev).blockSize (image dev).blockCount replicaId
  have marshalled : marshalStorageHeader hdr (zeros (image dev).blockSize) =
      .ok (storageHeaderBytes hdr ++
        (zeros (image dev).blockSize).drop (storageHeaderBytes hdr).length) := by
    rw [storageHeaderBytes_length]
    exact marshalStorageHeader_eq hdr _ (by simp only [zeros, List.length_replicate]; omega)
  rw [Rust.formatDevice, Proc.bind_ok (blockSizeOf_eq dev), if_neg enough,
    Proc.bind_ok (blockCountOf_eq dev), added, Proc.ofExcept_ok_bind_apply]
  change (do
    let buf ← Proc.ofExcept (marshalStorageHeader hdr (zeros (image dev).blockSize))
    BlockDevice.writeBlock 0 (Rust.writeBlockCrc buf)
    BlockDevice.flush : Proc Failure D Unit) dev = _
  rw [marshalled, Proc.ofExcept_ok_bind_apply, sealed_of_zeros]

/-- A device that `format` reports as formatted is. -/
theorem rust_formatDevice {build : Rust.Build} {opts : Options} {i : Nat} {dev dev' : D}
    (ran : Rust.formatDevice build opts i dev = (.ok (), dev')) :
    Formatted (image dev) (image dev') := by
  by_cases small : (image dev).blockSize < storageHeaderSize + blockCrcSize
  · rw [Rust.formatDevice, Proc.bind_ok (blockSizeOf_eq dev), if_pos small] at ran
    cases ran
  have sizes : 32 ≤ (image dev).blockSize := Nat.le_of_not_lt small
  cases added : Rust.u32Add build opts.replicaId.toNat (asU32 i) with
  | error failure =>
      rw [Rust.formatDevice, Proc.bind_ok (blockSizeOf_eq dev), if_neg small,
        Proc.bind_ok (blockCountOf_eq dev), added, Proc.ofExcept_error_bind_apply] at ran
      cases ran
  | ok replicaId =>
      rw [rust_formatDevice_eq sizes added] at ran
      by_cases empty : (image dev).blockCount ≤ 0
      · rw [Proc.bind_error (LawfulBlockDevice.writeBlock_outside dev 0 _ empty)] at ran
        cases ran
      have counts : 1 ≤ (image dev).blockCount := by omega
      rcases wrote : BlockDevice.writeBlock 0 (sealed (image dev).blockSize (storageHeaderBytes
        (formatHeader opts (image dev).blockSize (image dev).blockCount replicaId))) dev with
        ⟨result, written⟩
      cases result with
      | error failure =>
          rw [Proc.bind_error wrote] at ran
          cases ran
      | ok =>
          rw [Proc.bind_ok wrote] at ran
          have flushed := LawfulBlockDevice.flush_image written
          rw [ran] at flushed
          have stored := LawfulBlockDevice.writeBlock_ok dev written 0 _ counts
            (sealedHeader_length sizes _) wrote
          have final : image dev' = image written := flushed
          rw [final, stored]
          exact formatted_set sizes counts rfl rfl (u32_toNat_ofNat (image dev).size_lt)
            (u32_toNat_ofNat (image dev).count_lt)

theorem rust_format {build : Rust.Build} {opts : Options} {devs devs' : List D}
    (ran : Rust.format build opts devs = (.ok (), devs')) :
    devs ≠ [] ∧ List.Forall₂ (fun dev dev' => Formatted (image dev) (image dev')) devs devs' := by
  unfold Rust.format at ran
  by_cases empty : devs.isEmpty
  · rw [if_pos empty] at ran
    cases ran
  · rw [if_neg empty] at ran
    refine ⟨fun nil => empty (by rw [nil]; rfl), ?_⟩
    obtain ⟨finished, rfl⟩ := Prod.mk.inj ran
    rcases each : Proc.each (fun i => do
      Rust.formatDevice build opts i
      return i + 1) 0 devs with ⟨result, devs'⟩
    rw [each] at finished
    cases result with
    | error failure => cases finished
    | ok last =>
        refine Proc.each_forall₂ ?_ each
        intro i dev _ i' dev' turn
        rcases formatted : Rust.formatDevice build opts i dev with ⟨outcome, after⟩
        cases outcome with
        | error failure =>
            rw [Proc.bind_error formatted] at turn
            cases turn
        | ok =>
            rw [Proc.bind_ok formatted] at turn
            cases turn
            exact rust_formatDevice formatted

/-- A device as `open` takes it over: its header read, its index empty. -/
def mounted (dev : D) : Replica D where
  dev := dev
  header := storageHeaderOf ((image dev).block 0)
  index := ∅

theorem rust_openReplicas {geometry : Nat × Nat} {devs : List D}
    (mountable : ∀ dev ∈ devs, Mountable (image dev) ∧
      ((image dev).blockSize, (image dev).blockCount) = geometry) :
    Rust.openReplicas geometry devs = .ok (devs.map mounted) := by
  induction devs with
  | nil => rfl
  | cons dev rest ih =>
      obtain ⟨accepted, same⟩ := mountable dev List.mem_cons_self
      have rested := ih fun other member => mountable other (List.mem_cons_of_mem _ member)
      have level : ¬(BlockDevice.blockSize dev, BlockDevice.blockCount dev) ≠ geometry := by
        rw [LawfulBlockDevice.blockSize_eq, LawfulBlockDevice.blockCount_eq]
        exact not_not.mpr same
      rw [Rust.openReplicas, rust_openReplicaHeader accepted]
      simp only [if_neg level, rested, bind, Except.bind, pure, Except.pure]
      rfl

/-- `open` of mountable devices of one geometry. -/
theorem rust_openStore {devs : List D} {blockSize blockCount : Nat} (some : devs ≠ [])
    (mountable : ∀ dev ∈ devs, Mountable (image dev) ∧ (image dev).blockSize = blockSize ∧
      (image dev).blockCount = blockCount) (opts : Options) :
    Rust.openStore devs opts = .ok { replicas := devs.map mounted, opts := opts } := by
  cases devs with
  | nil => exact absurd rfl some
  | cons dev rest =>
      have geometry := (mountable dev List.mem_cons_self).2
      have replicas : Rust.openReplicas (BlockDevice.blockSize dev, BlockDevice.blockCount dev)
          (dev :: rest) = _ := rust_openReplicas (by
          intro other member
          have same := (mountable other member).2
          rw [LawfulBlockDevice.blockSize_eq, LawfulBlockDevice.blockCount_eq, geometry.1,
            geometry.2, same.1, same.2]
          exact ⟨(mountable other member).1, rfl⟩)
      rw [Rust.openStore, replicas]
      rfl

/-- Devices that `open` takes as the replicas of one store. -/
structure Accepted (devs : List D) (blockSize blockCount : Nat) : Prop where
  nonempty : devs ≠ []
  mountable : ∀ dev ∈ devs, Mountable (image dev) ∧ (image dev).blockSize = blockSize ∧
    (image dev).blockCount = blockCount

theorem Accepted.le_size {devs : List D} {blockSize blockCount bound : Nat}
    (accepted : Accepted devs blockSize blockCount)
    (large : ∀ dev ∈ devs, bound ≤ (image dev).blockSize) : bound ≤ blockSize := by
  obtain ⟨dev, member⟩ := List.exists_mem_of_ne_nil devs accepted.nonempty
  rw [← (accepted.mountable dev member).2.1]
  exact large dev member

theorem openReplicas_accepts {geometry : Nat × Nat} {devs : List D} {replicas : List (Replica D)}
    (opened : Rust.openReplicas geometry devs = .ok replicas) :
    ∀ dev ∈ devs, Mountable (image dev) ∧
      ((image dev).blockSize, (image dev).blockCount) = geometry := by
  induction devs generalizing replicas with
  | nil => simp
  | cons dev rest ih =>
      rcases header : Rust.openReplicaHeader dev with ⟨result, dev'⟩
      rw [Rust.openReplicas, header] at opened
      cases result with
      | error failure => cases opened
      | ok hdr =>
          have mountable := mountable_of_open header
          rw [rust_openReplicaHeader mountable] at header
          cases header
          by_cases level : (BlockDevice.blockSize dev, BlockDevice.blockCount dev) = geometry
          · simp only [if_neg (not_not.mpr level)] at opened
            rw [LawfulBlockDevice.blockSize_eq, LawfulBlockDevice.blockCount_eq] at level
            cases rested : Rust.openReplicas geometry rest with
            | error failure =>
                rw [rested] at opened
                cases opened
            | ok others =>
                intro other member
                rcases List.mem_cons.mp member with here | there
                · rw [here]
                  exact ⟨mountable, level⟩
                · exact ih rested other there
          · simp only [if_pos level] at opened
            cases opened

/-- What `open` accepts as a store. -/
theorem openStore_accepts {devs : List D} {opts : Options} {s : Store D}
    (opened : Rust.openStore devs opts = .ok s) :
    ∃ blockSize blockCount, Accepted devs blockSize blockCount := by
  cases devs with
  | nil => cases opened
  | cons dev rest =>
      cases replicas : Rust.openReplicas (BlockDevice.blockSize dev, BlockDevice.blockCount dev)
        (dev :: rest) with
      | error failure =>
          rw [Rust.openStore, replicas] at opened
          cases opened
      | ok found =>
          refine ⟨BlockDevice.blockSize dev, BlockDevice.blockCount dev,
            List.cons_ne_nil dev rest, ?_⟩
          intro other member
          rcases openReplicas_accepts replicas other member with ⟨mountable, same⟩
          exact ⟨mountable, congrArg Prod.fst same, congrArg Prod.snd same⟩

/-- `open` succeeds exactly on the accepted devices and takes them over as they are. -/
theorem openStore_iff {devs : List D} {opts : Options} {s : Store D} :
    Rust.openStore devs opts = .ok s ↔ (∃ blockSize blockCount, Accepted devs blockSize blockCount) ∧
      s = { replicas := devs.map mounted, opts := opts } := by
  constructor
  · intro opened
    obtain ⟨blockSize, blockCount, accepted⟩ := openStore_accepts opened
    refine ⟨⟨blockSize, blockCount, accepted⟩, ?_⟩
    rw [rust_openStore accepted.nonempty accepted.mountable] at opened
    exact (Except.ok.inj opened).symm
  · rintro ⟨⟨blockSize, blockCount, accepted⟩, rfl⟩
    exact rust_openStore accepted.nonempty accepted.mountable opts

/-- `build_index` gives every replica the selection of its own image. -/
theorem rust_buildIndex (build : Rust.Build) {s : Store D}
    (large : ∀ r ∈ s.replicas, 36 ≤ (image r.dev).blockSize) :
    Rust.buildIndex build s = (.ok (), { s with
      replicas := s.replicas.map fun r =>
        { r with index := Scan.indexOf fromUtf8Lossy (image r.dev) } }) := by
  have each : Proc.each (fun _ => Rust.replicaBuildIndex build) () s.replicas = _ :=
    Proc.each_map fun r member => Scan.rust_replicaBuildIndex build r (large r member)
  rw [Rust.buildIndex, Store.onReplicas, Proc.zoom_apply, each]

end

end Embedkv.Mount
