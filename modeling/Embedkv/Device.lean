import Embedkv.Format

/-!
# Block devices

The `BlockDevice` interface of `device.rs` and `device.go`, and the in-memory
device behind it. A device answers every call with a result and the device it
becomes, so that a failing call may still have changed the medium. The data of a
`MemDevice` is kept as the list of its blocks; the fields state that every
block has the block size and that both dimensions fit the 32-bit words that
name them.
-/

namespace Embedkv.Device

open Embedkv.Lib Embedkv.Format

set_option autoImplicit false

class BlockDevice (D : Type) where
  blockSize : D → Nat
  blockCount : D → Nat
  readBlock : Nat → Proc Failure D Bytes
  writeBlock : Nat → Bytes → Proc Failure D Unit
  flush : Proc Failure D Unit

/-- `dev.block_size()`. -/
def blockSizeOf {D : Type} [BlockDevice D] : Proc Failure D Nat := fun dev =>
  (.ok (BlockDevice.blockSize dev), dev)

/-- `dev.block_count()`. -/
def blockCountOf {D : Type} [BlockDevice D] : Proc Failure D Nat := fun dev =>
  (.ok (BlockDevice.blockCount dev), dev)

@[ext]
structure MemDevice where
  blockSize : Nat
  blocks : List Bytes
  sized : ∀ block ∈ blocks, block.length = blockSize
  size_lt : blockSize < 2 ^ 32
  count_lt : blocks.length < 2 ^ 32

namespace MemDevice

def blockCount (dev : MemDevice) : Nat := dev.blocks.length

/-- The contents of one block; empty outside the device. -/
def block (dev : MemDevice) (index : Nat) : Bytes := dev.blocks.getD index []

/-- A zeroed device, `MemDevice::new`. -/
def new (blockSize blockCount : Nat) (size_lt : blockSize < 2 ^ 32) (count_lt : blockCount < 2 ^ 32) :
    MemDevice where
  blockSize := blockSize
  blocks := List.replicate blockCount (List.replicate blockSize 0)
  sized := by
    intro block member
    rw [List.eq_of_mem_replicate member, List.length_replicate]
  size_lt := size_lt
  count_lt := by rwa [List.length_replicate]

/-- The same of sizes that are 32-bit numbers, as the source has them. -/
def zeroed (blockSize blockCount : UInt32) : MemDevice :=
  new blockSize.toNat blockCount.toNat blockSize.toNat_lt blockCount.toNat_lt

/-- Replace one block. Outside the device, or with a buffer of another length,
nothing happens; the device calls below never get there. -/
def set (dev : MemDevice) (index : Nat) (block : Bytes) : MemDevice :=
  if sized : block.length = dev.blockSize then
    { blockSize := dev.blockSize
      blocks := dev.blocks.set index block
      sized := by
        intro other member
        rcases List.mem_or_eq_of_mem_set member with old | new
        · exact dev.sized other old
        · rw [new, sized]
      size_lt := dev.size_lt
      count_lt := by rw [List.length_set]; exact dev.count_lt }
  else dev

def readBlock (index : Nat) : Proc Failure MemDevice Bytes := fun dev =>
  if index < dev.blockCount then (.ok (dev.block index), dev)
  else (.error (.err .invalidBlock), dev)

def writeBlock (index : Nat) (buf : Bytes) : Proc Failure MemDevice Unit := fun dev =>
  if index < dev.blockCount then
    if dev.blockSize ≤ buf.length then (.ok (), dev.set index (buf.take dev.blockSize))
    else (.error .panic, dev)
  else (.error (.err .invalidBlock), dev)

instance : BlockDevice MemDevice where
  blockSize dev := dev.blockSize
  blockCount := blockCount
  readBlock := readBlock
  writeBlock := writeBlock
  flush := pure ()

end MemDevice

end Embedkv.Device
