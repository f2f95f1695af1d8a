import Embedkv.Lib.Bytes
import Embedkv.Lib.Proc

/-!
# The on-disk format

Constants, header records and field layouts of `format.rs`, `block.rs` and
`error.rs`; `format.go`, `block.go` and `errors.go` declare the same ones. A
header is written field by field at fixed offsets, little-endian; the CRC-32 of
the block lives in its last four bytes and is not part of any header. How the
CRC is computed differs between the two implementations and is left to them.
-/

namespace Embedkv.Format

open Embedkv.Lib

set_option autoImplicit false

def blockTypeStorageHeader : UInt8 := 0x01
def blockTypeRecordDescriptor : UInt8 := 0x02
def blockTypeValueChunk : UInt8 := 0x03

def storageHeaderSize : Nat := 28
def recordDescriptorHeaderSize : Nat := 32
def valueChunkHeaderSize : Nat := 20
def blockCrcSize : Nat := 4

/-- Sentinel meaning "no next chunk". -/
def nullBlockIndex : Nat := 0xFFFFFFFF

def versionMajor : UInt16 := 1
def versionMinor : UInt16 := 0

/-- The bytes of "EKV". -/
def magic : UInt8 × UInt8 × UInt8 := (0x45, 0x4B, 0x56)

inductive Error where
  | invalidHeader
  | invalidBlock
  | crcMismatch
  | keyNotFound
  | storageFull
  | corruptRecord
  | invalidBlockSize
  | sizeMismatch
  | keyTooLong
  | noReplicas
  | replicaMismatch
  | io
  deriving DecidableEq, Repr

/-- How a call can end other than by returning a value: with an error for its
caller, or by unwinding (an out-of-range slice, or an overflow in a build that
checks for it). -/
inductive Failure where
  | err (error : Error)
  | panic
  deriving DecidableEq, Repr

theorem err_ne_panic (error : Error) : Failure.err error ≠ .panic := by
  intro same
  cases same

structure StorageHeader where
  blockType : UInt8
  magic : UInt8 × UInt8 × UInt8
  versionMajor : UInt16
  versionMinor : UInt16
  blockSize : UInt32
  blockCount : UInt32
  replicaId : UInt32
  formatSeq : UInt32
  flags : UInt32
  deriving DecidableEq, Repr

structure RecordDescriptorHeader where
  blockType : UInt8
  headerSize : UInt8
  keySize : UInt16
  generation : UInt32
  totalSize : UInt32
  firstPayloadSize : UInt32
  chunkCount : UInt32
  nextChunk : UInt32
  flags : UInt32
  userFlags : UInt32
  deriving DecidableEq, Repr

structure ValueChunkHeader where
  blockType : UInt8
  headerSize : UInt8
  flags : UInt16
  ownerDescriptor : UInt32
  chunkIndex : UInt32
  payloadSize : UInt32
  nextChunk : UInt32
  deriving DecidableEq, Repr

def u16Bytes (word : UInt16) : Bytes := leBytes 2 word.toNat
def u32Bytes (word : UInt32) : Bytes := leBytes 4 word.toNat

def u8At (buf : Bytes) (offset : Nat) : UInt8 := buf.getD offset 0
def u16At (buf : Bytes) (offset : Nat) : UInt16 := UInt16.ofNat (leValue ((buf.drop offset).take 2))
def u32At (buf : Bytes) (offset : Nat) : UInt32 := UInt32.ofNat (leValue ((buf.drop offset).take 4))

/-- Indexing a buffer that is shorter than `size` unwinds. -/
def requireLength (buf : Bytes) (size : Nat) : Except Failure Unit :=
  if size ≤ buf.length then .ok () else .error .panic

def marshalStorageHeader (h : StorageHeader) (buf : Bytes) : Except Failure Bytes := do
  requireLength buf storageHeaderSize
  return buf
    |> splice 0 [h.blockType]
    |> splice 1 [h.magic.1]
    |> splice 2 [h.magic.2.1]
    |> splice 3 [h.magic.2.2]
    |> splice 4 (u16Bytes h.versionMajor)
    |> splice 6 (u16Bytes h.versionMinor)
    |> splice 8 (u32Bytes h.blockSize)
    |> splice 12 (u32Bytes h.blockCount)
    |> splice 16 (u32Bytes h.replicaId)
    |> splice 20 (u32Bytes h.formatSeq)
    |> splice 24 (u32Bytes h.flags)

def storageHeaderOf (buf : Bytes) : StorageHeader where
  blockType := u8At buf 0
  magic := (u8At buf 1, u8At buf 2, u8At buf 3)
  versionMajor := u16At buf 4
  versionMinor := u16At buf 6
  blockSize := u32At buf 8
  blockCount := u32At buf 12
  replicaId := u32At buf 16
  formatSeq := u32At buf 20
  flags := u32At buf 24

def marshalDescriptorHeader (h : RecordDescriptorHeader) (buf : Bytes) : Except Failure Bytes := do
  requireLength buf recordDescriptorHeaderSize
  return buf
    |> splice 0 [h.blockType]
    |> splice 1 [h.headerSize]
    |> splice 2 (u16Bytes h.keySize)
    |> splice 4 (u32Bytes h.generation)
    |> splice 8 (u32Bytes h.totalSize)
    |> splice 12 (u32Bytes h.firstPayloadSize)
    |> splice 16 (u32Bytes h.chunkCount)
    |> splice 20 (u32Bytes h.nextChunk)
    |> splice 24 (u32Bytes h.flags)
    |> splice 28 (u32Bytes h.userFlags)

def descriptorHeaderOf (buf : Bytes) : RecordDescriptorHeader where
  blockType := u8At buf 0
  headerSize := u8At buf 1
  keySize := u16At buf 2
  generation := u32At buf 4
  totalSize := u32At buf 8
  firstPayloadSize := u32At buf 12
  chunkCount := u32At buf 16
  nextChunk := u32At buf 20
  flags := u32At buf 24
  userFlags := u32At buf 28

def marshalChunkHeader (h : ValueChunkHeader) (buf : Bytes) : Except Failure Bytes := do
  requireLength buf valueChunkHeaderSize
  return buf
    |> splice 0 [h.blockType]
    |> splice 1 [h.headerSize]
    |> splice 2 (u16Bytes h.flags)
    |> splice 4 (u32Bytes h.ownerDescriptor)
    |> splice 8 (u32Bytes h.chunkIndex)
    |> splice 12 (u32Bytes h.payloadSize)
    |> splice 16 (u32Bytes h.nextChunk)

def chunkHeaderOf (buf : Bytes) : ValueChunkHeader where
  blockType := u8At buf 0
  headerSize := u8At buf 1
  flags := u16At buf 2
  ownerDescriptor := u32At buf 4
  chunkIndex := u32At buf 8
  payloadSize := u32At buf 12
  nextChunk := u32At buf 16

/-- The narrowing cast `as u32`. -/
def asU32 (n : Nat) : Nat := n % 2 ^ 32

/-- `buf[offset..offset + source.len()].copy_from_slice(source)`. -/
def copyFromSlice (offset : Nat) (source buf : Bytes) : Except Failure Bytes := do
  requireLength buf (offset + source.length)
  return splice offset source buf

/-- `buf[start..stop]`. -/
def slice (buf : Bytes) (start stop : Nat) : Except Failure Bytes :=
  if start ≤ stop ∧ stop ≤ buf.length then .ok ((buf.take stop).drop start) else .error .panic

end Embedkv.Format
