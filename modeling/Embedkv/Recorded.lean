import Embedkv.Faulty
import Embedkv.Parallel

/-!
# A device that keeps the requests it gets

A recorded device does what the device in it does and keeps a list of the
requests. Of that device little is asked: it may lose or change blocks and fail
as it likes, but its geometry stays and a block it reads has the block size.
From the opening on, whichever implementation serves, every request is for a
block of the device, and every buffer written has the block size.
-/

namespace Embedkv.Recorded

open Embedkv.Lib Embedkv.Lib.Script Embedkv.Format Embedkv.Device Embedkv.State Embedkv.Steady
open Embedkv.Stores Embedkv.Faulty Embedkv.RelayLaws Embedkv.Spelling Embedkv.Bounds
open Embedkv.Run Embedkv.Parallel

set_option autoImplicit false

/-- Requests within the device leave its geometry, and blocks that are read have
the block size. -/
class SteadyBlockDevice (D : Type) [BlockDevice D] : Prop where
  read : ∀ (dev : D) (index : Nat), index < BlockDevice.blockCount dev →
    geometry (BlockDevice.readBlock index dev).2 = geometry dev ∧
      OnSuccess (fun buf => buf.length = BlockDevice.blockSize dev)
        (BlockDevice.readBlock index dev).1
  write : ∀ (dev : D) (index : Nat) (buf : Bytes), index < BlockDevice.blockCount dev →
    buf.length = BlockDevice.blockSize dev →
    geometry (BlockDevice.writeBlock index buf dev).2 = geometry dev
  flush : ∀ dev : D, geometry (BlockDevice.flush dev).2 = geometry dev

theorem geometry_image {D : Type} [BlockDevice D] [LawfulBlockDevice D] (dev : D) :
    geometry dev = ((image dev).blockSize, (image dev).blockCount) :=
  Prod.ext (LawfulBlockDevice.blockSize_eq dev) (LawfulBlockDevice.blockCount_eq dev)

/-- A lawful device is steady, whichever of its calls fail. -/
instance {D : Type} [BlockDevice D] [LawfulBlockDevice D] : SteadyBlockDevice D where
  read dev index inside := by
    rw [LawfulBlockDevice.blockCount_eq] at inside
    rw [LawfulBlockDevice.readBlock_eq dev index inside, LawfulBlockDevice.blockSize_eq]
    refine ⟨rfl, fun buf shown => ?_⟩
    rw [← Except.ok.inj shown]
    exact (image dev).block_length inside
  write dev index buf inside sized := by
    rw [LawfulBlockDevice.blockCount_eq] at inside
    rw [LawfulBlockDevice.blockSize_eq] at sized
    rcases ran : BlockDevice.writeBlock index buf dev with ⟨result, dev'⟩
    have kept : image dev' = image dev ∨ image dev' = (image dev).set index buf := by
      cases result with
      | ok _ => exact .inr (LawfulBlockDevice.writeBlock_ok dev dev' index buf inside sized ran)
      | error failure =>
          exact (LawfulBlockDevice.writeBlock_error dev dev' index buf failure inside sized ran).2
    rw [geometry_image, geometry_image]
    rcases kept with same | written
    · rw [same]
    · rw [written, MemDevice.blockSize_set, MemDevice.blockCount_set]
  flush dev := by
    rw [geometry_image, geometry_image, LawfulBlockDevice.flush_image]

inductive Request where
  | read (index : Nat)
  | write (index : Nat) (buf : Bytes)
  | flush
  deriving DecidableEq, Repr

/-- The request is for a block of the device and comes with a whole block. -/
def Request.Within (blockSize blockCount : Nat) : Request → Prop
  | read index => index < blockCount
  | write index buf => index < blockCount ∧ buf.length = blockSize
  | flush => True

structure RecordedDevice (D : Type) where
  dev : D
  requests : List Request

namespace RecordedDevice

variable {D : Type} [BlockDevice D]

/-- Do what the device does and note the request. -/
def note {α : Type} (request : Request) (p : Proc Failure D α) :
    Proc Failure (RecordedDevice D) α := fun recorded =>
  ((p recorded.dev).1,
    { dev := (p recorded.dev).2, requests := recorded.requests ++ [request] })

instance : BlockDevice (RecordedDevice D) where
  blockSize recorded := BlockDevice.blockSize recorded.dev
  blockCount recorded := BlockDevice.blockCount recorded.dev
  readBlock index := note (.read index) (BlockDevice.readBlock index)
  writeBlock index buf := note (.write index buf) (BlockDevice.writeBlock index buf)
  flush := note .flush BlockDevice.flush

/-- Nothing is requested yet. -/
def start (dev : D) : RecordedDevice D := { dev := dev, requests := [] }

end RecordedDevice

section
variable {D : Type} [BlockDevice D] [SteadyBlockDevice D] {blockSize blockCount : Nat}

/-- The recorded device is the bare one, with requests within it only. -/
structure Records (blockSize blockCount : Nat) (dev : D) (recorded : RecordedDevice D) : Prop where
  bare : recorded.dev = dev
  shaped : geometry dev = (blockSize, blockCount)
  within : ∀ request ∈ recorded.requests, request.Within blockSize blockCount

omit [SteadyBlockDevice D] in
theorem Records.note {α : Type} {dev : D} {recorded : RecordedDevice D}
    (records : Records blockSize blockCount dev recorded) (request : Request)
    (within : request.Within blockSize blockCount) (p : Proc Failure D α)
    (kept : geometry (p dev).2 = geometry dev) :
    Records blockSize blockCount (p dev).2 (RecordedDevice.note request p recorded).2 := by
  refine ⟨congrArg (fun inner => (p inner).2) records.bare, kept.trans records.shaped, ?_⟩
  change ∀ noted ∈ recorded.requests ++ [request], noted.Within blockSize blockCount
  rw [List.forall_mem_append, List.forall_mem_singleton]
  exact ⟨records.within, within⟩

theorem records_match :
    Matching blockSize blockCount (Records (D := D) blockSize blockCount) := by
  intro query dev recorded asked records
  obtain rfl := records.bare
  obtain ⟨rfl, rfl⟩ := Prod.ext_iff.mp records.shaped
  cases query with
  | size => exact ⟨rfl, rfl, records⟩
  | count => exact ⟨rfl, rfl, records⟩
  | read index =>
      obtain ⟨kept, sized⟩ := SteadyBlockDevice.read recorded.dev index asked
      exact ⟨rfl, sized, records.note (.read index) asked _ kept⟩
  | write index buf =>
      exact ⟨rfl, trivial,
        records.note (.write index buf) asked _
          (SteadyBlockDevice.write recorded.dev index buf asked.1 asked.2)⟩
  | flush =>
      exact ⟨rfl, trivial, records.note .flush trivial _ (SteadyBlockDevice.flush recorded.dev)⟩

end

/-- From the opening on, over every session and whichever implementation serves,
recorded devices show what the bare devices show, and all they are asked for lies
within them. -/
theorem requests_within {D : Type} [BlockDevice D] [SteadyBlockDevice D] {opener : Impl}
    {opts : Options} {blockSize blockCount : Nat} {devs : List D} {s : Store (RecordedDevice D)}
    (inside : 0 < blockCount) (shaped : ∀ dev ∈ devs, geometry dev = (blockSize, blockCount))
    (opened : opener.mount (devs.map RecordedDevice.start) opts = .ok s)
    (steps : List (Impl × Step)) :
    ∃ bare : Store D, opener.mount devs opts = .ok bare ∧ watch steps s = watch steps bare ∧
      (Rust.intoDevices (settle steps s)).map RecordedDevice.dev =
        Rust.intoDevices (settle steps bare) ∧
      ∀ recorded ∈ Rust.intoDevices (settle steps s), ∀ request ∈ recorded.requests,
        request.Within blockSize blockCount := by
  have pairs : List.Forall₂ (Records blockSize blockCount) devs
      (devs.map RecordedDevice.start) := by
    rw [List.forall₂_map_right_iff, List.forall₂_same]
    exact fun dev member => ⟨rfl, shaped dev member, List.forall_mem_nil _⟩
  have both := mount_parallel records_match inside opener opts pairs
  rw [opened] at both
  generalize opener.mount devs opts = result at both
  cases both with
  | @ok bare _ parallel =>
      obtain ⟨watched, settled⟩ := watch_parallel records_match inside steps parallel
      have pairs := devices_parallel settled
      refine ⟨bare, rfl, watched.symm, ?_, ?_⟩
      · rw [← List.forall₂_eq_eq_eq, List.forall₂_map_left_iff]
        exact pairs.flip.imp fun _ _ records => records.bare
      · have noted := pairs.flip.imp fun _ _ records => And.intro records.within records
        exact ((List.forall₂_and_left _ _).mp noted).1

/-- Two formatted devices; the first write to each fails and is applied all the same. -/
def failingOnce : List FaultyDevice :=
  (Impl.go.format .default (List.replicate 2 smallDevice)).2.map fun mem =>
    { mem := mem, fates := [.fails true] }

theorem requests_within_failing :
    ∃ s : Store (RecordedDevice FaultyDevice),
      Impl.go.mount (failingOnce.map RecordedDevice.start) .default = .ok s ∧
        ∃ bare : Store FaultyDevice, Impl.go.mount failingOnce .default = .ok bare ∧
          watch handedOver s = watch handedOver bare ∧
          (Rust.intoDevices (settle handedOver s)).map RecordedDevice.dev =
            Rust.intoDevices (settle handedOver bare) ∧
          ∀ recorded ∈ Rust.intoDevices (settle handedOver s), ∀ request ∈ recorded.requests,
            request.Within 40 3 := by
  have checked : (Impl.go.mount (failingOnce.map RecordedDevice.start)
      .default).toOption.isSome := by decide +kernel
  obtain ⟨s, found⟩ := Option.isSome_iff_exists.mp checked
  have opened := toOption_eq_some found
  exact ⟨s, opened, requests_within (by decide) (by decide +kernel) opened handedOver⟩

end Embedkv.Recorded
