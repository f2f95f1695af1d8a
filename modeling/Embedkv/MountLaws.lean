import Embedkv.Stores
import Embedkv.Run

/-!
# What `open` accepts

`open` checks the geometry, the type, the magic and the CRC of every header. It
reads the version and never compares it: a storage of another major version is
opened like one of this version. Apart from that it accepts the valid storages
and no others, and it accepts what `format` wrote.
-/

namespace Embedkv.MountLaws

open Embedkv.Lib Embedkv.Format Embedkv.Device Embedkv.State Embedkv.Codec Embedkv.Image
open Embedkv.Layout Embedkv.Mount Embedkv.Stores

set_option autoImplicit false

/-! ## Formatting -/

/-- An image whose block 0 `format` wrote. -/
def stamped (opts : Options) (img : MemDevice) (replicaId : Nat) : MemDevice :=
  img.set 0 (sealed img.blockSize
    (storageHeaderBytes (formatHeader opts img.blockSize img.blockCount replicaId)))

theorem stamped_formatted {opts : Options} {img : MemDevice} {replicaId : Nat}
    (size : 32 ≤ img.blockSize) (count : 1 ≤ img.blockCount) :
    Formatted img (stamped opts img replicaId) :=
  formatted_set size count rfl rfl (u32_toNat_ofNat img.size_lt) (u32_toNat_ofNat img.count_lt)

theorem stamped_header {opts : Options} {img : MemDevice} {replicaId : Nat}
    (size : 32 ≤ img.blockSize) (count : 1 ≤ img.blockCount) :
    storageHeaderOf ((stamped opts img replicaId).block 0) =
      formatHeader opts img.blockSize img.blockCount replicaId := by
  rw [stamped, img.block_set_self count (sealedHeader_length size _), storageHeaderOf_sealed size]

section
variable {D : Type} [BlockDevice D] [ReliableBlockDevice D]

theorem formatDevice_stamps (build : Rust.Build) {opts : Options} {i : Nat} {dev : D}
    (size : 32 ≤ (image dev).blockSize) (count : 1 ≤ (image dev).blockCount)
    (numbered : opts.replicaId.toNat + i < 2 ^ 32) :
    ∃ dev', Rust.formatDevice build opts i dev = (.ok (), dev') ∧
      image dev' = stamped opts (image dev) (opts.replicaId.toNat + i) := by
  have index : asU32 i = i := Nat.mod_eq_of_lt (by omega)
  have added : Rust.u32Add build opts.replicaId.toNat (asU32 i) = .ok (opts.replicaId.toNat + i) := by
    rw [index, rust_u32Add_ok numbered]
  rw [rust_formatDevice_eq size added]
  have sized := sealedHeader_length size
    (formatHeader opts (image dev).blockSize (image dev).blockCount (opts.replicaId.toNat + i))
  rcases wrote : BlockDevice.writeBlock 0 (sealed (image dev).blockSize (storageHeaderBytes
    (formatHeader opts (image dev).blockSize (image dev).blockCount (opts.replicaId.toNat + i))))
    dev with ⟨result, written⟩
  have total := ReliableBlockDevice.writeBlock_total dev 0 _ count sized
  rw [wrote] at total
  cases total
  rcases flushed : BlockDevice.flush written with ⟨result, dev'⟩
  have settled := ReliableBlockDevice.flush_total written
  rw [flushed] at settled
  cases settled
  refine ⟨dev', by rw [Proc.bind_ok wrote, flushed], ?_⟩
  have kept := LawfulBlockDevice.flush_image written
  rw [flushed] at kept
  exact kept.trans (LawfulBlockDevice.writeBlock_ok dev written 0 _ count sized wrote)

/-- The loop of `format`, from device `i` on. -/
theorem formatting_stamps (build : Rust.Build) {opts : Options} {devs : List D} {i : Nat}
    (sizes : ∀ dev ∈ devs, 32 ≤ (image dev).blockSize ∧ 1 ≤ (image dev).blockCount)
    (numbered : opts.replicaId.toNat + i + devs.length < 2 ^ 32) :
    ∃ devs', Proc.each (fun i => do
        Rust.formatDevice build opts i
        return i + 1) i devs = (.ok (i + devs.length), devs') ∧
      devs'.map image = (devs.zipIdx i).map fun turn =>
        stamped opts (image turn.1) (opts.replicaId.toNat + turn.2) := by
  induction devs generalizing i with
  | nil => exact ⟨[], rfl, rfl⟩
  | cons dev rest ih =>
      rw [List.length_cons] at numbered
      obtain ⟨size, count⟩ := sizes dev List.mem_cons_self
      obtain ⟨dev', formatted, stamp⟩ := formatDevice_stamps build size count
        (show opts.replicaId.toNat + i < 2 ^ 32 by omega)
      obtain ⟨rest', rested, stamps⟩ :=
        ih (i := i + 1) (fun other member => sizes other (List.mem_cons_of_mem _ member)) (by omega)
      have turn : (do
          Rust.formatDevice build opts i
          return i + 1 : Proc Failure D Nat) dev = (.ok (i + 1), dev') := by
        rw [Proc.bind_ok formatted]
        rfl
      refine ⟨dev' :: rest', ?_, ?_⟩
      · rw [Proc.each_cons_ok turn, rested, List.length_cons]
        have total : i + 1 + rest.length = i + (rest.length + 1) := by omega
        rw [total]
      · rw [List.zipIdx_cons, List.map_cons, List.map_cons, stamp, stamps]

theorem format_stamps (impl : Impl) {opts : Options} {devs : List D} (some : devs ≠ [])
    (sizes : ∀ dev ∈ devs, 32 ≤ (image dev).blockSize ∧ 1 ≤ (image dev).blockCount)
    (numbered : opts.replicaId.toNat + devs.length < 2 ^ 32) :
    ∃ devs', impl.format opts devs = (.ok (), devs') ∧
      devs'.map image = devs.zipIdx.map fun turn =>
        stamped opts (image turn.1) (opts.replicaId.toNat + turn.2) := by
  have rust (build : Rust.Build) : ∃ devs', Rust.format build opts devs = (.ok (), devs') ∧
      devs'.map image = devs.zipIdx.map fun turn =>
        stamped opts (image turn.1) (opts.replicaId.toNat + turn.2) := by
    obtain ⟨devs', formatted, stamps⟩ :=
      formatting_stamps build (i := 0) sizes (by omega)
    have several : ¬devs.isEmpty = true := fun empty => some (List.isEmpty_iff.mp empty)
    refine ⟨devs', ?_, stamps⟩
    unfold Rust.format
    rw [if_neg several, formatted]
    rfl
  cases impl with
  | rust build => exact rust build
  | go =>
      have same : Impl.format .go opts devs = Rust.format .release opts devs :=
        congrFun (Agree.go_format opts) devs
      rw [same]
      exact rust .release

/-! ## Opening -/

/-- The storages the format calls valid, this version among them. -/
structure Valid (devs : List D) : Prop where
  nonempty : devs ≠ []
  level : ∀ dev ∈ devs, ∀ other ∈ devs, (image dev).blockSize = (image other).blockSize ∧
    (image dev).blockCount = (image other).blockCount
  mountable : ∀ dev ∈ devs, Mountable (image dev)
  supported : ∀ dev ∈ devs, (storageHeaderOf ((image dev).block 0)).versionMajor = versionMajor

/-- The devices are those `open` accepts, whatever their version. -/
theorem accepted_iff {devs : List D} :
    (∃ blockSize blockCount, Accepted devs blockSize blockCount) ↔
      devs ≠ [] ∧ (∀ dev ∈ devs, ∀ other ∈ devs,
        (image dev).blockSize = (image other).blockSize ∧
          (image dev).blockCount = (image other).blockCount) ∧
      ∀ dev ∈ devs, Mountable (image dev) := by
  constructor
  · rintro ⟨blockSize, blockCount, accepted⟩
    refine ⟨accepted.nonempty, ?_, fun dev member => (accepted.mountable dev member).1⟩
    intro dev member other present
    obtain ⟨_, size, count⟩ := accepted.mountable dev member
    obtain ⟨_, size', count'⟩ := accepted.mountable other present
    exact ⟨size.trans size'.symm, count.trans count'.symm⟩
  · rintro ⟨nonempty, level, mountable⟩
    obtain ⟨first, present⟩ := List.exists_mem_of_ne_nil devs nonempty
    refine ⟨(image first).blockSize, (image first).blockCount, nonempty, ?_⟩
    intro dev member
    exact ⟨mountable dev member, level dev member first present⟩

theorem openStore_succeeds_iff (impl : Impl) (devs : List D) (opts : Options) :
    (∃ s, impl.openStore devs opts = .ok s) ↔
      ∃ blockSize blockCount, Accepted devs blockSize blockCount := by
  simp only [impl.openStore_eq, openStore_iff, exists_and_left, exists_eq, and_true]

/-- What formatting leaves is opened, and the headers read back. -/
theorem formatted_opens (impl : Impl) {opts : Options} {devs : List D} {blockSize blockCount : Nat}
    (nonempty : devs ≠ []) (size : 32 ≤ blockSize) (count : 1 ≤ blockCount)
    (level : ∀ dev ∈ devs, (image dev).blockSize = blockSize ∧ (image dev).blockCount = blockCount)
    (numbered : opts.replicaId.toNat + devs.length < 2 ^ 32) :
    ∃ devs' s, impl.format opts devs = (.ok (), devs') ∧ impl.openStore devs' opts = .ok s ∧
      s.replicas.map Replica.header = (List.range devs.length).map fun i =>
        formatHeader opts blockSize blockCount (opts.replicaId.toNat + i) := by
  have sizes : ∀ dev ∈ devs, 32 ≤ (image dev).blockSize ∧ 1 ≤ (image dev).blockCount := by
    intro dev member
    rw [(level dev member).1, (level dev member).2]
    exact ⟨size, count⟩
  obtain ⟨devs', formatted, stamps⟩ := format_stamps impl nonempty sizes numbered
  -- Every device is one of those given, with its header stamped.
  have origin (turn : D × Nat) (member : turn ∈ devs.zipIdx) : turn.1 ∈ devs :=
    List.fst_mem_of_mem_zipIdx member
  have mountable : ∀ dev ∈ devs', Mountable (image dev) ∧ (image dev).blockSize = blockSize ∧
      (image dev).blockCount = blockCount := by
    intro dev member
    have stamp : image dev ∈ devs.zipIdx.map fun turn =>
        stamped opts (image turn.1) (opts.replicaId.toNat + turn.2) := by
      rw [← stamps]
      exact List.mem_map_of_mem member
    obtain ⟨turn, present, same⟩ := List.mem_map.mp stamp
    have given := origin turn present
    obtain ⟨large, counted⟩ := sizes turn.1 given
    have header : Formatted (image turn.1) (image dev) := by
      rw [← same]
      exact stamped_formatted large counted
    exact ⟨header.mountable, header.size.trans (level turn.1 given).1,
      header.count.trans (level turn.1 given).2⟩
  have some : devs' ≠ [] := by
    intro empty
    rw [empty, List.map_nil, eq_comm, List.map_eq_nil_iff, List.zipIdx_eq_nil_iff] at stamps
    exact nonempty stamps
  refine ⟨devs', { replicas := devs'.map mounted, opts := opts }, formatted, ?_, ?_⟩
  · rw [impl.openStore_eq]
    exact rust_openStore some mountable opts
  · calc (devs'.map mounted).map Replica.header
        = (devs'.map image).map fun img => storageHeaderOf (img.block 0) := by
          rw [List.map_map, List.map_map]
          rfl
      _ = devs.zipIdx.map fun turn =>
            formatHeader opts blockSize blockCount (opts.replicaId.toNat + turn.2) := by
          rw [stamps, List.map_map]
          apply List.map_congr_left
          intro turn member
          have given := origin turn member
          rw [Function.comp_apply, stamped_header (sizes turn.1 given).1 (sizes turn.1 given).2,
            (level turn.1 given).1, (level turn.1 given).2]
      _ = (List.range devs.length).map fun i =>
            formatHeader opts blockSize blockCount (opts.replicaId.toNat + i) := by
          rw [List.range_eq_range', ← List.zipIdx_map_snd 0 devs, List.map_map]
          rfl

/-- `open` accepts exactly the valid storages as far as devices of one geometry
whose headers pass all other checks are of this major version, and it accepts what
`format` wrote. -/
theorem open_accepts_iff (impl : Impl) (devs : List D) (opts : Options) :
    ((∃ s, impl.openStore devs opts = .ok s) ↔
      devs ≠ [] ∧ (∀ dev ∈ devs, ∀ other ∈ devs,
        (image dev).blockSize = (image other).blockSize ∧
          (image dev).blockCount = (image other).blockCount) ∧
      ∀ dev ∈ devs, Mountable (image dev)) ∧
    (((∃ s, impl.openStore devs opts = .ok s) ↔ Valid devs) ↔
      (devs ≠ [] → (∀ dev ∈ devs, ∀ other ∈ devs,
          (image dev).blockSize = (image other).blockSize ∧
            (image dev).blockCount = (image other).blockCount) →
        (∀ dev ∈ devs, Mountable (image dev)) →
        ∀ dev ∈ devs, (storageHeaderOf ((image dev).block 0)).versionMajor = versionMajor)) ∧
    ∀ blockSize blockCount, devs ≠ [] → 32 ≤ blockSize → 1 ≤ blockCount →
      (∀ dev ∈ devs, (image dev).blockSize = blockSize ∧ (image dev).blockCount = blockCount) →
      opts.replicaId.toNat + devs.length < 2 ^ 32 →
      ∃ devs' s, impl.format opts devs = (.ok (), devs') ∧ impl.openStore devs' opts = .ok s ∧
        s.replicas.map Replica.header = (List.range devs.length).map fun i =>
          formatHeader opts blockSize blockCount (opts.replicaId.toNat + i) := by
  have succeeds := (openStore_succeeds_iff impl devs opts).trans accepted_iff
  refine ⟨succeeds, ⟨?_, ?_⟩, ?_⟩
  · intro exact nonempty level mountable
    exact (exact.mp (succeeds.mpr ⟨nonempty, level, mountable⟩)).supported
  · intro supported
    constructor
    · intro opened
      obtain ⟨nonempty, level, mountable⟩ := succeeds.mp opened
      exact ⟨nonempty, level, mountable, supported nonempty level mountable⟩
    · intro valid
      exact succeeds.mpr ⟨valid.nonempty, valid.level, valid.mountable⟩
  · intro blockSize blockCount nonempty size count level numbered
    exact formatted_opens impl nonempty size count level numbered

end

/-- The header of a later major version, of which this one cannot know the layout. -/
def laterHeader : StorageHeader := { formatHeader .default 40 3 0 with versionMajor := 2 }

def laterDevice : MemDevice := Run.smallDevice.set 0 (sealed 40 (storageHeaderBytes laterHeader))

theorem later_version_opened :
    (storageHeaderOf (laterDevice.block 0)).versionMajor = 2 ∧ ¬Valid [laterDevice] ∧
      (∃ s, Impl.openStore (.rust .dev) [laterDevice] .default = .ok s) ∧
      ∃ s, Impl.openStore .go [laterDevice] .default = .ok s := by
  have version : (storageHeaderOf (laterDevice.block 0)).versionMajor = 2 := by decide +kernel
  have formatted : Formatted Run.smallDevice laterDevice :=
    formatted_set (by decide) (by decide) rfl rfl rfl rfl
  have accepted : Accepted [laterDevice] 40 3 := by
    refine ⟨List.cons_ne_nil _ _, ?_⟩
    intro dev member
    rw [List.mem_singleton.mp member]
    exact ⟨formatted.mountable, formatted.size, formatted.count⟩
  refine ⟨version, ?_, (openStore_succeeds_iff _ _ _).mpr ⟨40, 3, accepted⟩,
    (openStore_succeeds_iff _ _ _).mpr ⟨40, 3, accepted⟩⟩
  intro valid
  have supported := valid.supported laterDevice List.mem_cons_self
  rw [image_memDevice, version] at supported
  exact absurd supported (by decide)

end Embedkv.MountLaws
