import Embedkv.Lib.Blocks
import Embedkv.Parallel

/-!
# Devices over byte strings

The devices as `device.rs` and `device.go` declare them: a `MemDevice` keeps its
blocks in one byte string, a `FileDevice` in a file. The file of the Rust device
has a cursor that every access moves; the Go device reads and writes at an
offset. A file is what it holds: it can be shorter than the device takes it for,
and then a read fails and a write makes it longer. The system itself does not
fail here.
-/

namespace Embedkv.Files

open Embedkv.Lib Embedkv.Format Embedkv.Device

set_option autoImplicit false

/-- The bytes from an offset on, as many as there are. -/
def readAt (offset n : Nat) (bytes : Bytes) : Bytes := (bytes.drop offset).take n

/-- Bytes written at an offset. What lies between the end and the offset is zero. -/
def writeAt (offset : Nat) (data bytes : Bytes) : Bytes :=
  if data = [] then bytes
  else splice offset data (bytes ++ List.replicate (offset - bytes.length) 0)

/-- Offsets and lengths of files are signed 64-bit numbers. -/
def offsetLimit : Nat := 2 ^ 63

/-- The number of blocks in a file. -/
def countBlocks (blockSize : Nat) (bytes : Bytes) : Nat := asU32 (bytes.length / blockSize)

theorem countBlocks_le (blockSize : Nat) (bytes : Bytes) :
    countBlocks blockSize bytes * blockSize ≤ bytes.length :=
  calc countBlocks blockSize bytes * blockSize
      ≤ bytes.length / blockSize * blockSize := Nat.mul_le_mul_right _ (Nat.mod_le _ _)
    _ ≤ bytes.length := Nat.div_mul_le_self _ _

theorem length_writeAt {offset : Nat} {data bytes : Bytes}
    (inside : offset + data.length ≤ bytes.length) :
    (writeAt offset data bytes).length = bytes.length := by
  have padding : offset - bytes.length = 0 := by omega
  rw [writeAt]
  split
  next => rfl
  next =>
    rw [padding, List.replicate_zero, List.append_nil]
    exact splice_length _ _ _ inside

/-- The blocks of a device lie within its bytes. -/
theorem block_end (blockSize : Nat) {blockCount index : Nat} (inside : index < blockCount) :
    index * blockSize + blockSize ≤ blockCount * blockSize := by
  rw [← Nat.succ_mul]
  exact Nat.mul_le_mul_right _ inside

end Embedkv.Files

/-! ## Memory -/

namespace Embedkv.Device

open Embedkv.Lib Embedkv.Format Embedkv.Files

/-- The fields of `MemDevice` in both languages. -/
structure FlatDevice where
  blockSize : Nat
  blockCount : Nat
  data : Bytes
  long : blockCount * blockSize ≤ data.length

namespace FlatDevice

def readBlock (index : Nat) : Proc Failure FlatDevice Bytes := fun dev =>
  if index < dev.blockCount then (.ok (readAt (index * dev.blockSize) dev.blockSize dev.data), dev)
  else (.error (.err .invalidBlock), dev)

def writeBlock (index : Nat) (buf : Bytes) : Proc Failure FlatDevice Unit := fun dev =>
  if inside : index < dev.blockCount then
    if long : dev.blockSize ≤ buf.length then
      (.ok (), { dev with
        data := writeAt (index * dev.blockSize) (buf.take dev.blockSize) dev.data
        long := by
          have ends := block_end dev.blockSize inside
          have fits := dev.long
          rw [length_writeAt]
          · exact fits
          · rw [List.length_take]
            omega })
    else (.error .panic, dev)
  else (.error (.err .invalidBlock), dev)

instance : BlockDevice FlatDevice where
  blockSize := blockSize
  blockCount := blockCount
  readBlock := readBlock
  writeBlock := writeBlock
  flush := pure ()

/-- A device around bytes that are there. -/
def wrap (blockSize : Nat) (data : Bytes) : FlatDevice where
  blockSize := blockSize
  blockCount := countBlocks blockSize data
  data := data
  long := countBlocks_le blockSize data

end FlatDevice

end Embedkv.Device

namespace Embedkv.Rust

open Embedkv.Lib Embedkv.Format Embedkv.Device Embedkv.Files

/-- `MemDevice::from_bytes`. Nothing but no bytes is a multiple of zero, and then
the division panics. -/
def fromBytes (blockSize : Nat) (data : Bytes) : Except Failure FlatDevice :=
  if ¬blockSize ∣ data.length then .error (.err .sizeMismatch)
  else if blockSize = 0 then .error .panic
  else .ok (.wrap blockSize data)

/-! ## Files -/

/-- An open `std::fs::File`. -/
structure File where
  bytes : Bytes
  cursor : Nat
  deriving DecidableEq, Repr

namespace File

/-- `seek(SeekFrom::Start(offset))`. -/
def seek (offset : Nat) : Proc Failure File Unit := fun file =>
  if offset < offsetLimit then (.ok (), { file with cursor := offset })
  else (.error (.err .io), file)

/-- `read_exact`; a file that ends too early is read to its end. -/
def readExact (n : Nat) : Proc Failure File Bytes := fun file =>
  let data := readAt file.cursor n file.bytes
  let file' := { file with cursor := file.cursor + data.length }
  if data.length = n then (.ok data, file') else (.error (.err .io), file')

/-- `write_all`. -/
def writeAll (data : Bytes) : Proc Failure File Unit := fun file =>
  (.ok (), { bytes := writeAt file.cursor data file.bytes, cursor := file.cursor + data.length })

end File

structure FileDevice where
  file : File
  blockSize : Nat
  blockCount : Nat
  deriving DecidableEq, Repr

namespace FileDevice

/-- `FileDevice::open` on what the file holds. -/
def openFile (blockSize : Nat) (bytes : Bytes) : Except Failure FileDevice :=
  if blockSize = 0 then .error .panic
  else if bytes.length % blockSize ≠ 0 then .error (.err .sizeMismatch)
  else .ok
    { file := { bytes := bytes, cursor := 0 }
      blockSize := blockSize
      blockCount := countBlocks blockSize bytes }

/-- `FileDevice::create`. -/
def create (blockSize blockCount : Nat) : Except Failure FileDevice :=
  if blockSize * blockCount < offsetLimit then .ok
    { file := { bytes := List.replicate (blockSize * blockCount) 0, cursor := 0 }
      blockSize := blockSize
      blockCount := blockCount }
  else .error (.err .io)

def onFile {α : Type} : Proc Failure File α → Proc Failure FileDevice α :=
  Proc.zoom file fun dev file => { dev with file := file }

def readBlock (index : Nat) : Proc Failure FileDevice Bytes := fun dev =>
  onFile (do
    File.seek (index * dev.blockSize)
    File.readExact dev.blockSize) dev

def writeBlock (index : Nat) (buf : Bytes) : Proc Failure FileDevice Unit := fun dev =>
  onFile (do
    File.seek (index * dev.blockSize)
    let data ← Proc.ofExcept (slice buf 0 dev.blockSize)
    File.writeAll data) dev

instance : BlockDevice FileDevice where
  blockSize := blockSize
  blockCount := blockCount
  readBlock := readBlock
  writeBlock := writeBlock
  flush := pure ()

end FileDevice

end Embedkv.Rust

namespace Embedkv.Go

open Embedkv.Lib Embedkv.Format Embedkv.Device Embedkv.Files

/-- `NewMemDeviceFromBytes`. -/
def newMemDeviceFromBytes (blockSize : Nat) (data : Bytes) : Except Failure FlatDevice :=
  if blockSize = 0 then .error .panic
  else if data.length % blockSize ≠ 0 then .error (.err .sizeMismatch)
  else .ok (.wrap blockSize data)

structure FileDevice where
  file : Bytes
  blockSize : Nat
  blockCount : Nat
  deriving DecidableEq, Repr

namespace FileDevice

/-- `OpenFileDevice` on what the file holds. -/
def openFile (blockSize : Nat) (bytes : Bytes) : Except Failure FileDevice :=
  if blockSize = 0 then .error .panic
  else if bytes.length % blockSize ≠ 0 then .error (.err .sizeMismatch)
  else .ok { file := bytes, blockSize := blockSize, blockCount := countBlocks blockSize bytes }

/-- `CreateFileDevice`. A length that does not fit is negative, and is refused. -/
def create (blockSize blockCount : Nat) : Except Failure FileDevice :=
  if blockSize * blockCount < offsetLimit then .ok
    { file := List.replicate (blockSize * blockCount) 0
      blockSize := blockSize
      blockCount := blockCount }
  else .error (.err .io)

/-- `ReadBlock`, by `ReadAt`; an offset that does not fit is negative. -/
def readBlock (index : Nat) : Proc Failure FileDevice Bytes := fun dev =>
  let offset := index * dev.blockSize
  let data := readAt offset dev.blockSize dev.file
  if offset < offsetLimit ∧ data.length = dev.blockSize then (.ok data, dev)
  else (.error (.err .io), dev)

/-- `WriteBlock`, by `WriteAt`. -/
def writeBlock (index : Nat) (buf : Bytes) : Proc Failure FileDevice Unit := fun dev =>
  match slice buf 0 dev.blockSize with
  | .error failure => (.error failure, dev)
  | .ok data =>
    let offset := index * dev.blockSize
    if offset < offsetLimit then (.ok (), { dev with file := writeAt offset data dev.file })
    else (.error (.err .io), dev)

instance : BlockDevice FileDevice where
  blockSize := blockSize
  blockCount := blockCount
  readBlock := readBlock
  writeBlock := writeBlock
  flush := pure ()

end FileDevice

end Embedkv.Go
