import Mathlib.Data.List.GetD
import Embedkv.Device

/-!
# Devices and their images

The image of a device is what its blocks read as, a `MemDevice`. A device is
lawful when reads return the image and change nothing, a successful write
changes one block of it, a failed write either did so or did nothing, and a
flush leaves it alone. Every device used below is lawful: the in-memory one,
one whose writes and flushes may fail, and one that can lose power.
-/

namespace Embedkv.Device

open Embedkv.Lib Embedkv.Format

set_option autoImplicit false

namespace MemDevice

@[simp] theorem blockSize_set (dev : MemDevice) (index : Nat) (buf : Bytes) :
    (dev.set index buf).blockSize = dev.blockSize := by
  unfold set
  split <;> rfl

@[simp] theorem blockCount_set (dev : MemDevice) (index : Nat) (buf : Bytes) :
    (dev.set index buf).blockCount = dev.blockCount := by
  unfold set blockCount
  split
  · simp
  · rfl

theorem block_length (dev : MemDevice) {index : Nat} (inside : index < dev.blockCount) :
    (dev.block index).length = dev.blockSize := by
  unfold block
  rw [List.getD_eq_getElem _ _ inside]
  exact dev.sized _ (List.getElem_mem inside)

theorem block_set_self (dev : MemDevice) {index : Nat} {buf : Bytes}
    (inside : index < dev.blockCount) (sized : buf.length = dev.blockSize) :
    (dev.set index buf).block index = buf := by
  unfold set block
  have bound : index < (dev.blocks.set index buf).length := by
    rw [List.length_set]
    exact inside
  rw [dif_pos sized, List.getD_eq_getElem _ _ bound, List.getElem_set_self]

theorem block_set_other (dev : MemDevice) {index other : Nat} (buf : Bytes)
    (different : other ≠ index) : (dev.set index buf).block other = dev.block other := by
  unfold set block
  split
  · rw [List.getD_eq_getElem?_getD, List.getElem?_set_ne different.symm,
      ← List.getD_eq_getElem?_getD]
  · rfl

/-- A write that does not fit changes nothing. -/
theorem set_misfit {dev : MemDevice} {index : Nat} {buf : Bytes}
    (misfit : ¬(index < dev.blockCount ∧ buf.length = dev.blockSize)) : dev.set index buf = dev := by
  unfold set
  split
  next sized =>
    have outside : dev.blocks.length ≤ index := by
      by_contra inside
      exact misfit ⟨Nat.lt_of_not_le inside, sized⟩
    ext1
    · rfl
    · exact List.set_eq_of_length_le outside
  next => rfl

/-- Devices with the same geometry and the same blocks are equal. -/
theorem ext_block {left right : MemDevice} (size : left.blockSize = right.blockSize)
    (count : left.blockCount = right.blockCount)
    (same : ∀ index, index < left.blockCount → left.block index = right.block index) :
    left = right := by
  apply MemDevice.ext size
  apply List.ext_getElem count
  intro index inLeft inRight
  have blocks := same index inLeft
  unfold block at blocks
  rwa [List.getD_eq_getElem _ _ inLeft, List.getD_eq_getElem _ _ inRight] at blocks

/-- Apply a list of block writes, the first one first. -/
def apply (dev : MemDevice) (writes : List (Nat × Bytes)) : MemDevice :=
  writes.foldl (fun dev write => dev.set write.1 write.2) dev

@[simp] theorem apply_nil (dev : MemDevice) : dev.apply [] = dev := rfl

@[simp] theorem apply_cons (dev : MemDevice) (write : Nat × Bytes) (writes : List (Nat × Bytes)) :
    dev.apply (write :: writes) = (dev.set write.1 write.2).apply writes := rfl

theorem apply_append (dev : MemDevice) (first second : List (Nat × Bytes)) :
    dev.apply (first ++ second) = (dev.apply first).apply second := List.foldl_append

@[simp] theorem blockSize_apply (dev : MemDevice) (writes : List (Nat × Bytes)) :
    (dev.apply writes).blockSize = dev.blockSize := by
  induction writes generalizing dev with
  | nil => rfl
  | cons write rest ih => rw [apply_cons, ih, blockSize_set]

@[simp] theorem blockCount_apply (dev : MemDevice) (writes : List (Nat × Bytes)) :
    (dev.apply writes).blockCount = dev.blockCount := by
  induction writes generalizing dev with
  | nil => rfl
  | cons write rest ih => rw [apply_cons, ih, blockCount_set]

/-- A block that no write addresses keeps its contents. -/
theorem block_apply_other (dev : MemDevice) (writes : List (Nat × Bytes)) (index : Nat)
    (untouched : index ∉ writes.map Prod.fst) : (dev.apply writes).block index = dev.block index := by
  induction writes generalizing dev with
  | nil => rfl
  | cons write rest ih =>
      rw [List.map_cons, List.mem_cons, not_or] at untouched
      rw [apply_cons, ih _ untouched.2, block_set_other dev _ untouched.1]

/-- Of writes to pairwise different blocks, each one is what its block reads as. -/
theorem block_apply_mem (dev : MemDevice) (writes : List (Nat × Bytes)) (index : Nat) (buf : Bytes)
    (distinct : (writes.map Prod.fst).Nodup) (member : (index, buf) ∈ writes)
    (inside : index < dev.blockCount) (sized : buf.length = dev.blockSize) :
    (dev.apply writes).block index = buf := by
  induction writes generalizing dev with
  | nil => cases member
  | cons write rest ih =>
      rw [List.map_cons, List.nodup_cons] at distinct
      rw [apply_cons]
      rcases List.mem_cons.mp member with here | later
      · subst here
        rw [block_apply_other _ _ _ distinct.1, block_set_self dev inside sized]
      · exact ih _ distinct.2 later (by simpa using inside) (by simpa using sized)

end MemDevice

class LawfulBlockDevice (D : Type) [BlockDevice D] where
  image : D → MemDevice
  blockSize_eq : ∀ dev : D, BlockDevice.blockSize dev = (image dev).blockSize
  blockCount_eq : ∀ dev : D, BlockDevice.blockCount dev = (image dev).blockCount
  readBlock_eq : ∀ (dev : D) (index : Nat), index < (image dev).blockCount →
    BlockDevice.readBlock index dev = (.ok ((image dev).block index), dev)
  readBlock_outside : ∀ (dev : D) (index : Nat), (image dev).blockCount ≤ index →
    BlockDevice.readBlock index dev = (.error (.err .invalidBlock), dev)
  writeBlock_outside : ∀ (dev : D) (index : Nat) (buf : Bytes), (image dev).blockCount ≤ index →
    BlockDevice.writeBlock index buf dev = (.error (.err .invalidBlock), dev)
  writeBlock_ok : ∀ (dev dev' : D) (index : Nat) (buf : Bytes),
    index < (image dev).blockCount → buf.length = (image dev).blockSize →
    BlockDevice.writeBlock index buf dev = (.ok (), dev') → image dev' = (image dev).set index buf
  writeBlock_error : ∀ (dev dev' : D) (index : Nat) (buf : Bytes) (failure : Failure),
    index < (image dev).blockCount → buf.length = (image dev).blockSize →
    BlockDevice.writeBlock index buf dev = (.error failure, dev') →
    failure = .err .io ∧ (image dev' = image dev ∨ image dev' = (image dev).set index buf)
  flush_image : ∀ dev : D, image (BlockDevice.flush dev).2 = image dev
  flush_error : ∀ (dev dev' : D) (failure : Failure),
    BlockDevice.flush dev = (.error failure, dev') → failure = .err .io

export LawfulBlockDevice (image)

instance : LawfulBlockDevice MemDevice where
  image := id
  blockSize_eq _ := rfl
  blockCount_eq _ := rfl
  readBlock_eq dev index inside := by
    show MemDevice.readBlock index dev = _
    simp only [MemDevice.readBlock, id_eq] at inside ⊢
    rw [if_pos inside]
  readBlock_outside dev index outside := by
    show MemDevice.readBlock index dev = _
    simp only [MemDevice.readBlock, id_eq] at outside ⊢
    rw [if_neg (Nat.not_lt.mpr outside)]
  writeBlock_outside dev index buf outside := by
    show MemDevice.writeBlock index buf dev = _
    simp only [MemDevice.writeBlock, id_eq] at outside ⊢
    rw [if_neg (Nat.not_lt.mpr outside)]
  writeBlock_ok dev dev' index buf inside sized ran := by
    change MemDevice.writeBlock index buf dev = _ at ran
    simp only [MemDevice.writeBlock, id_eq] at inside sized ran ⊢
    rw [if_pos inside, if_pos (by omega), List.take_of_length_le (by omega)] at ran
    exact (Prod.ext_iff.mp ran).2.symm
  writeBlock_error dev dev' index buf failure inside sized ran := by
    change MemDevice.writeBlock index buf dev = _ at ran
    simp only [MemDevice.writeBlock, id_eq] at inside sized ran
    rw [if_pos inside, if_pos (by omega)] at ran
    cases (Prod.ext_iff.mp ran).1
  flush_image _ := rfl
  flush_error dev dev' failure ran := by cases (Prod.ext_iff.mp ran).1

theorem blockSizeOf_eq {D : Type} [BlockDevice D] [LawfulBlockDevice D] (dev : D) :
    blockSizeOf dev = (.ok (image dev).blockSize, dev) := by
  rw [blockSizeOf, LawfulBlockDevice.blockSize_eq]

theorem blockCountOf_eq {D : Type} [BlockDevice D] [LawfulBlockDevice D] (dev : D) :
    blockCountOf dev = (.ok (image dev).blockCount, dev) := by
  rw [blockCountOf, LawfulBlockDevice.blockCount_eq]

theorem readBlock_still {D : Type} [BlockDevice D] [LawfulBlockDevice D] (index : Nat) (dev : D) :
    (BlockDevice.readBlock index dev).2 = dev := by
  rcases Nat.lt_or_ge index (image dev).blockCount with inside | outside
  · rw [LawfulBlockDevice.readBlock_eq dev index inside]
  · rw [LawfulBlockDevice.readBlock_outside dev index outside]

/-- A lawful device whose calls meet no error. -/
class ReliableBlockDevice (D : Type) [BlockDevice D] extends LawfulBlockDevice D where
  writeBlock_total : ∀ (dev : D) (index : Nat) (buf : Bytes),
    index < (image dev).blockCount → buf.length = (image dev).blockSize →
    (BlockDevice.writeBlock index buf dev).1 = .ok ()
  flush_total : ∀ dev : D, (BlockDevice.flush dev).1 = .ok ()

instance : ReliableBlockDevice MemDevice where
  writeBlock_total dev index buf inside sized := by
    change (MemDevice.writeBlock index buf dev).1 = _
    change index < dev.blockCount at inside
    change buf.length = dev.blockSize at sized
    rw [MemDevice.writeBlock, if_pos inside, if_pos (by omega)]
  flush_total _ := rfl

/-- Write blocks in order; the first failure stops. -/
def writeAll {D : Type} [BlockDevice D] : List (Nat × Bytes) → Proc Failure D Unit
  | [] => pure ()
  | write :: rest => do
    BlockDevice.writeBlock write.1 write.2
    writeAll rest

/-- What a run of writes leaves on a device without errors. -/
theorem writeAll_reliable {D : Type} [BlockDevice D] [ReliableBlockDevice D]
    (writes : List (Nat × Bytes)) (dev : D)
    (valid : ∀ write ∈ writes, write.1 < (image dev).blockCount ∧
      write.2.length = (image dev).blockSize) :
    ∃ dev', writeAll writes dev = (.ok (), dev') ∧ image dev' = (image dev).apply writes := by
  induction writes generalizing dev with
  | nil => exact ⟨dev, rfl, rfl⟩
  | cons write rest ih =>
      obtain ⟨inside, sized⟩ := valid write List.mem_cons_self
      rcases ran : BlockDevice.writeBlock write.1 write.2 dev with ⟨result, next⟩
      have total := ReliableBlockDevice.writeBlock_total dev write.1 write.2 inside sized
      rw [ran] at total
      cases total
      have written := LawfulBlockDevice.writeBlock_ok dev next write.1 write.2 inside sized ran
      have validRest : ∀ other ∈ rest, other.1 < (image next).blockCount ∧
          other.2.length = (image next).blockSize := by
        intro other member
        rw [written, MemDevice.blockCount_set, MemDevice.blockSize_set]
        exact valid other (List.mem_cons_of_mem _ member)
      obtain ⟨dev', rested, final⟩ := ih next validRest
      refine ⟨dev', ?_, ?_⟩
      · rw [writeAll, Proc.bind_ok ran]
        exact rested
      · rw [final, written, MemDevice.apply_cons]

@[simp] theorem image_memDevice (dev : MemDevice) : image dev = dev := rfl

end Embedkv.Device
