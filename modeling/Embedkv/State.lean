import Mathlib.Data.Finmap
import Mathlib.Data.Finset.Card
import Embedkv.Device

/-!
# Records, indexes, replicas and stores

The in-memory data of both implementations: `CompleteRecord` and
`completeRecord`, `MemIndex` and `memIndex`, `Replica` and `Store`. The two
languages declare the same fields, so the types are shared; the functions on
them are not. An index is a finite map keyed by the bytes of a string, since
neither implementation depends on the order of its hash map.
-/

namespace Embedkv.State

open Embedkv.Lib Embedkv.Format Embedkv.Device

set_option autoImplicit false

structure CompleteRecord where
  key : Bytes
  generation : Nat
  descriptorBlock : Nat
  header : RecordDescriptorHeader
  chunkBlocks : List Nat
  value : Bytes
  deriving DecidableEq, Repr

/-- The blocks a record occupies, the descriptor first. -/
def CompleteRecord.blocks (rec : CompleteRecord) : List Nat := rec.descriptorBlock :: rec.chunkBlocks

structure IndexEntry where
  key : Bytes
  generation : Nat
  descriptorBlock : Nat
  totalSize : Nat
  deriving DecidableEq, Repr

abbrev MemIndex := Finmap fun _ : Bytes => IndexEntry

namespace MemIndex

def put (index : MemIndex) (entry : IndexEntry) : MemIndex := index.insert entry.key entry

def get (index : MemIndex) (key : Bytes) : Option IndexEntry := index.lookup key

def delete (index : MemIndex) (key : Bytes) : MemIndex := index.erase key

/-- The keys recorded in the entries. -/
def entryKeys (index : MemIndex) : Finset Bytes :=
  (index.entries.map fun entry => entry.2.key).toFinset

end MemIndex

/-- The best complete record per key, as a recovery scan collects it. -/
abbrev BestMap := Finmap fun _ : Bytes => CompleteRecord

structure Options where
  freePattern : UInt8
  replicaId : UInt32
  formatSeq : UInt32
  deriving DecidableEq, Repr

/-- `Options::default` and `DefaultOptions`. -/
def Options.default : Options := { freePattern := 0x00, replicaId := 0, formatSeq := 0 }

structure Replica (D : Type) where
  dev : D
  header : StorageHeader
  index : MemIndex

structure Store (D : Type) where
  replicas : List (Replica D)
  opts : Options

/-- The data blocks of a device, in scan order. -/
def dataBlocks (blockCount : Nat) : List Nat := List.range' 1 (blockCount - 1)

/-- The link to the first of the blocks still to come. -/
def linkTo (chunkBlocks : List Nat) : Nat := chunkBlocks.headD nullBlockIndex

/-- Visiting a new block of the device leaves fewer blocks to visit. -/
theorem unvisited_decreases {blockCount next : Nat} {visited : Finset Nat}
    (fresh : ¬(next ≥ blockCount ∨ next ∈ visited)) :
    (Finset.range blockCount \ insert next visited).card <
      (Finset.range blockCount \ visited).card := by
  have inside : next < blockCount := by
    by_contra outside
    exact fresh (.inl (Nat.le_of_not_lt outside))
  have unseen : next ∉ visited := fun seen => fresh (.inr seen)
  apply Finset.card_lt_card
  rw [Finset.ssubset_iff_of_subset (Finset.sdiff_subset_sdiff (le_refl _)
    (Finset.subset_insert next visited))]
  refine ⟨next, ?_, ?_⟩
  · exact Finset.mem_sdiff.mpr ⟨Finset.mem_range.mpr inside, unseen⟩
  · intro member
    exact (Finset.mem_sdiff.mp member).2 (Finset.mem_insert_self next visited)

section
variable {D α : Type}

/-- Run a device procedure on the replica's device. -/
def Replica.onDevice : Proc Failure D α → Proc Failure (Replica D) α :=
  Proc.zoom Replica.dev fun r dev => { r with dev := dev }

def Replica.setIndex (index : MemIndex) : Proc Failure (Replica D) Unit :=
  Proc.modify fun r => { r with index := index }

def Replica.putIndex (entry : IndexEntry) : Proc Failure (Replica D) Unit :=
  Proc.modify fun r => { r with index := r.index.put entry }

def Replica.dropIndex (key : Bytes) : Proc Failure (Replica D) Unit :=
  Proc.modify fun r => { r with index := r.index.delete key }

/-- Run a procedure on the replicas of a store. -/
def Store.onReplicas : Proc Failure (List (Replica D)) α → Proc Failure (Store D) α :=
  Proc.zoom Store.replicas fun s replicas => { s with replicas := replicas }

end

def makeFreeBuf (blockSize : Nat) (pattern : UInt8) : Bytes := List.replicate blockSize pattern

/-- The blocks a recovery keeps: block 0 and every block of a best record. -/
def validBlocks (best : BestMap) : Finset Nat :=
  insert 0 (best.entries.bind fun entry =>
    (↑(entry.2.descriptorBlock :: entry.2.chunkBlocks) : Multiset Nat)).toFinset

/-- One turn of the erasing scan of a recovery; the accumulator says whether
garbage was found. -/
def eraseBlock {D : Type} [BlockDevice D] (valid : Finset Nat) (free : Bytes)
    (garbageFound : Bool) (i : Nat) : Proc Failure D Bool := do
  if i ∈ valid then return garbageFound
  else do
    let buf ← BlockDevice.readBlock i
    if u8At buf 0 = 0x00 ∨ u8At buf 0 = 0xFF then return garbageFound
    else do
      BlockDevice.writeBlock i free
      return true

end Embedkv.State
