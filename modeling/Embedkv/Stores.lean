import Embedkv.Agree

/-!
# Two stores behind one interface

The Rust store, in either build, and the Go store as the calls of one
interface. What tells them apart in a session is the string the index knows a
key by, and what happens at the last generation. The lemmas say what a call
does in terms of that string, once for both.
-/

namespace Embedkv.Stores

open Embedkv.Lib Embedkv.Format Embedkv.Device Embedkv.State Embedkv.Image Embedkv.Record
open Embedkv.Codec Embedkv.Layout Embedkv.Effects Embedkv.Plan Embedkv.Agree

set_option autoImplicit false

inductive Impl where
  | rust (build : Rust.Build)
  | go
  deriving DecidableEq, Repr

/-- The string the index knows a key by. -/
def Impl.name : Impl → Bytes → Bytes
  | .rust _ => fromUtf8Lossy
  | .go => id

section
variable {D : Type} [BlockDevice D]

def Impl.format : Impl → Options → Proc Failure (List D) Unit
  | .rust build => Rust.format build
  | .go => Go.format

def Impl.openStore : Impl → List D → Options → Except Failure (Store D)
  | .rust _ => Rust.openStore
  | .go => Go.openStore

def Impl.buildIndex : Impl → Proc Failure (Store D) Unit
  | .rust build => Rust.buildIndex build
  | .go => Go.buildIndex

def Impl.recover : Impl → Proc Failure (Store D) Unit
  | .rust build => Rust.recover build
  | .go => Go.recover

def Impl.replicaRecover : Impl → UInt8 → Proc Failure D Unit
  | .rust build => Rust.replicaRecover build
  | .go => Go.replicaRecover

def Impl.put : Impl → Bytes → Bytes → UInt32 → Proc Failure (Store D) Unit
  | .rust build => Rust.putFlagged build
  | .go => Go.put

def Impl.delete : Impl → Bytes → Proc Failure (Store D) Unit
  | .rust _ => Rust.delete
  | .go => Go.delete

def Impl.get : Impl → Bytes → Proc Failure (Store D) Bytes
  | .rust build => Rust.get build
  | .go => Go.get

def Impl.verifyAndReadRecord : Impl → Nat → Proc Failure D (Option CompleteRecord)
  | .rust build => Rust.verifyAndReadRecord build
  | .go => Go.verifyAndReadRecord

def Impl.neededBlocks : Impl → Bytes → Bytes → Nat → Except Failure Nat
  | .rust build => Rust.neededBlocks build
  | .go => Go.neededBlocks

def Impl.writeRecord : Impl → Nat → List Nat → Bytes → Nat → Bytes → UInt32 → Proc Failure D Unit
  | .rust build => Rust.writeRecord build
  | .go => Go.writeRecord

def Impl.freeRecord : Impl → Nat → UInt8 → Proc Failure D Unit
  | .rust _ => Rust.freeRecord
  | .go => Go.freeRecord

def Impl.getReplica : Impl → Bytes → Option (Nat × Bytes) →
    Proc Failure (Replica D) (Option (Nat × Bytes))
  | .rust build => Rust.getReplica build
  | .go => Go.getReplica

def Impl.keys : Impl → Store D → Finset Bytes
  | .rust _ => Rust.keys
  | .go => Go.keys

/-- Open the devices and build the indexes. -/
def Impl.mount (impl : Impl) (devs : List D) (opts : Options) : Except Failure (Store D) := do
  let s ← impl.openStore devs opts
  match impl.buildIndex s with
  | (.ok (), s') => return s'
  | (.error failure, _) => .error failure

/-- The generation after `generation`. -/
def Impl.next : Impl → Nat → Except Failure Nat
  | .rust build, generation => Rust.u32Add build generation 1
  | .go, generation => .ok (Go.u32Add generation 1)

theorem Impl.next_below (impl : Impl) {generation : Nat} (below : generation + 1 < 2 ^ 32) :
    impl.next generation = .ok (generation + 1) := by
  cases impl with
  | rust build => exact rust_u32Add_ok below
  | go => rw [Impl.next, go_u32Add_eq below]

theorem Impl.openStore_eq (impl : Impl) (devs : List D) (opts : Options) :
    impl.openStore devs opts = Rust.openStore devs opts := by
  cases impl with
  | rust build => rfl
  | go => exact go_openStore devs opts

theorem Impl.freeRecord_eq (impl : Impl) (d : Nat) (pattern : UInt8) :
    (impl.freeRecord d pattern : Proc Failure D Unit) = Rust.freeRecord d pattern := by
  cases impl with
  | rust build => rfl
  | go => exact go_freeRecord d pattern

/-- A descriptor block that cannot be read. -/
theorem Impl.verify_unread (impl : Impl) {d : Nat} {dev dev' : D} {failure : Failure}
    (read : BlockDevice.readBlock d dev = (.error failure, dev')) :
    impl.verifyAndReadRecord d dev = (.error failure, dev') := by
  have size : blockSizeOf dev = (.ok (BlockDevice.blockSize dev), dev) := rfl
  cases impl with
  | rust build =>
      change Rust.verifyAndReadRecord build d dev = _
      rw [Rust.verifyAndReadRecord, Proc.bind_ok size, Proc.bind_error read]
  | go =>
      change Go.verifyAndReadRecord d dev = _
      rw [Go.verifyAndReadRecord, Proc.bind_ok size, Proc.bind_error read]

theorem Impl.delete_as (impl : Impl) (key : Bytes) :
    (impl.delete key : Proc Failure (Store D) Unit) = Session.deleteAs (impl.name key) := by
  cases impl with
  | rust build => rfl
  | go =>
      unfold Impl.delete Go.delete
      simp only [go_deleteReplica]
      rfl

end

section
variable {D : Type} [BlockDevice D] [LawfulBlockDevice D]

theorem Impl.verify_eq (impl : Impl) (dev : D) {d : Nat} (large : 36 ≤ (image dev).blockSize)
    (inside : d < (image dev).blockCount) :
    impl.verifyAndReadRecord d dev = (.ok (recordAt (image dev) d), dev) := by
  cases impl with
  | rust build => exact rust_verifyAndReadRecord build dev d large inside
  | go => exact go_verifyAndReadRecord dev d large inside

theorem Impl.writeRecord_eq (impl : Impl) (dev : D) {d : Nat} {chunks : List Nat} {key : Bytes}
    (placed : Placed (image dev) d chunks key) (generation : Nat) (value : Bytes)
    (userFlags : UInt32) :
    impl.writeRecord d chunks key generation value userFlags dev =
      writeAll (recordWrites (image dev).blockSize d chunks key generation value userFlags) dev := by
  cases impl with
  | rust build => exact rust_writeRecord build dev placed generation value userFlags
  | go =>
      change Go.writeRecord d chunks key generation value userFlags dev = _
      rw [go_writeRecord .dev dev placed generation value userFlags]
      exact rust_writeRecord .dev dev placed generation value userFlags

/-- The validator answers on the blocks of the device only. -/
theorem Impl.verify_iff (impl : Impl) {dev : D} (large : 36 ≤ (image dev).blockSize) {d : Nat}
    {outcome : Option CompleteRecord} :
    (impl.verifyAndReadRecord d dev).1 = .ok outcome ↔
      d < (image dev).blockCount ∧ recordAt (image dev) d = outcome := by
  by_cases inside : d < (image dev).blockCount
  · rw [impl.verify_eq dev large inside]
    exact ⟨fun same => ⟨inside, Except.ok.inj same⟩, fun found => congrArg Except.ok found.2⟩
  · have read := LawfulBlockDevice.readBlock_outside dev d (Nat.not_lt.mp inside)
    rw [impl.verify_unread read]
    constructor
    · intro same
      cases same
    · intro found
      exact absurd found.1 inside

theorem Impl.replicaRecover_eq (impl : Impl) (dev : D) (pattern : UInt8)
    (large : 36 ≤ (image dev).blockSize) :
    impl.replicaRecover pattern dev = Recovery.sweep impl.name pattern (image dev) dev := by
  cases impl with
  | rust build => exact Recovery.rust_replicaRecover build dev pattern large
  | go => exact Recovery.go_replicaRecover dev pattern large

theorem Impl.buildIndex_eq (impl : Impl) {s : Store D}
    (large : ∀ r ∈ s.replicas, 36 ≤ (image r.dev).blockSize) :
    impl.buildIndex s = (.ok (), { s with
      replicas := s.replicas.map fun r =>
        { r with index := Scan.indexOf impl.name (image r.dev) } }) := by
  cases impl with
  | rust build => exact Mount.rust_buildIndex build large
  | go =>
      have each : Proc.each (fun _ => Go.replicaBuildIndex) () s.replicas = _ :=
        Proc.each_map fun r member => Scan.go_replicaBuildIndex r (large r member)
      change Go.buildIndex s = _
      rw [Go.buildIndex, Store.onReplicas, Proc.zoom_apply, each]
      rfl

/-- A replica as it stands after opening. -/
def scannedAs (name : Bytes → Bytes) (dev : D) : Replica D :=
  { Mount.mounted dev with index := Scan.indexOf name (image dev) }

/-- A store that was opened consists of the scanned devices. -/
theorem Impl.mount_inv {impl : Impl} {devs : List D} {opts : Options} {s : Store D}
    (large : ∀ dev ∈ devs, 36 ≤ (image dev).blockSize) (opened : impl.mount devs opts = .ok s) :
    ∃ blockSize blockCount, Mount.Accepted devs blockSize blockCount ∧ 36 ≤ blockSize ∧
      s = { replicas := devs.map (scannedAs impl.name), opts := opts } := by
  rw [Impl.mount, impl.openStore_eq] at opened
  cases stores : Rust.openStore devs opts with
  | error failure =>
      rw [stores] at opened
      cases opened
  | ok mounted =>
      rcases Mount.openStore_accepts stores with ⟨blockSize, blockCount, accepted⟩
      have largeHere := accepted.le_size large
      rw [Mount.rust_openStore accepted.nonempty accepted.mountable opts] at opened
      have built : impl.buildIndex { replicas := devs.map Mount.mounted, opts := opts } = _ :=
        impl.buildIndex_eq (by
          intro r member
          obtain ⟨other, present, rfl⟩ := List.mem_map.mp member
          exact large other present)
      simp only [bind, Except.bind, built, pure, Except.pure] at opened
      refine ⟨blockSize, blockCount, accepted, largeHere, ?_⟩
      rw [← Except.ok.inj opened, List.map_map]
      rfl

/-- A put: the key check, the generation, the replicas' turns. -/
theorem Impl.put_eq (impl : Impl) {s : Store D} {blockSize : Nat} (nonempty : s.replicas ≠ [])
    (size : ∀ r ∈ s.replicas, (image r.dev).blockSize = blockSize) (large : 36 ≤ blockSize)
    {key value : Bytes} (short : key.length < 2 ^ 32) (small : value.length + blockSize < 2 ^ 32)
    (userFlags : UInt32) :
    impl.put key value userFlags s =
      if blockSize - 36 < key.length then (.error (.err .keyTooLong), s)
      else
        match impl.next (Rust.indexedGeneration (impl.name key) s.replicas) with
        | .error failure => (.error failure, s)
        | .ok generation => Store.onReplicas (Proc.each (fun _ =>
            storeAs (impl.name key) key value generation userFlags s.opts.freePattern) ()) s := by
  cases impl with
  | go => exact go_put_eq nonempty size large short small userFlags
  | rust build =>
      change Rust.putFlagged build key value userFlags s = _
      rw [Session.putFlagged_eq build nonempty size large, asU32_of_lt short]
      by_cases overlong : blockSize - 36 < key.length
      · rw [if_pos overlong, if_pos overlong]
      · rw [if_neg overlong, if_neg overlong]
        have turns (generation : Nat) : Proc.each (fun _ =>
            Rust.replicaPut build key value generation userFlags s.opts.freePattern) ()
              s.replicas =
            Proc.each (fun _ => storeAs (fromUtf8Lossy key) key value generation userFlags
              s.opts.freePattern) () s.replicas := by
          apply Proc.each_congr
          intro _ r member
          have here := size r member
          exact rust_replicaPut_storeAs build (by omega) value generation userFlags _
        simp only [Store.onReplicas, Proc.zoom_apply, turns]
        rfl

end

end Embedkv.Stores
