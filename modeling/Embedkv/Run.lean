import Embedkv.Lib.Runs
import Embedkv.Session

/-!
# Runs of a store

The calls a caller makes on an open store, what the caller promises about
their arguments, and the device a run starts from: zeroed, then formatted, so
that no block of it holds a record.
-/

namespace Embedkv.Run

open Embedkv.Lib Embedkv.Format Embedkv.Device Embedkv.State Embedkv.Record Embedkv.Erase
open Embedkv.Effects Embedkv.Outcome Embedkv.Session

set_option autoImplicit false

/-! ## Calls -/

inductive Op where
  | put (key value : Bytes) (userFlags : UInt32)
  | delete (key : Bytes)
  | get (key : Bytes)
  deriving DecidableEq, Repr

def Op.key : Op → Bytes
  | .put key _ _ => key
  | .delete key => key
  | .get key => key

/-- A key the callers may use: valid UTF-8 whose length fits the key size field. -/
def KeyAllowed (key : Bytes) : Prop := isUtf8 key = true ∧ key.length ≤ 65535

instance (key : Bytes) : Decidable (KeyAllowed key) := inferInstanceAs (Decidable (_ ∧ _))

/-- What the callers promise: an allowed key, and a value whose size arithmetic
stays within 32 bits. -/
def Op.Allowed (blockSize : Nat) : Op → Prop
  | .put key value _ => KeyAllowed key ∧ value.length + blockSize < 2 ^ 32
  | .delete key => KeyAllowed key
  | .get key => KeyAllowed key

instance (blockSize : Nat) : (op : Op) → Decidable (op.Allowed blockSize)
  | .put key value _ => inferInstanceAs (Decidable (KeyAllowed key ∧ value.length + blockSize < 2 ^ 32))
  | .delete key => inferInstanceAs (Decidable (KeyAllowed key))
  | .get key => inferInstanceAs (Decidable (KeyAllowed key))

/-- A call on the store; only a get returns bytes. -/
def Op.perform {D : Type} [BlockDevice D] (build : Rust.Build) :
    Op → Proc Failure (Store D) (Option Bytes)
  | .put key value userFlags => do
    Rust.putFlagged build key value userFlags
    return none
  | .delete key => do
    Rust.delete key
    return none
  | .get key => do
    return some (← Rust.get build key)

section
variable {D : Type} [BlockDevice D] (build : Rust.Build) (s : Store D)

theorem perform_put (key value : Bytes) (userFlags : UInt32) :
    (Op.put key value userFlags).perform build s =
      ((Rust.putFlagged build key value userFlags s).1.map fun _ => none,
        (Rust.putFlagged build key value userFlags s).2) :=
  Proc.bind_pure_apply ..

theorem perform_delete (key : Bytes) :
    (Op.delete key).perform build s =
      ((Rust.delete key s).1.map fun _ => none, (Rust.delete key s).2) :=
  Proc.bind_pure_apply ..

theorem perform_get (key : Bytes) :
    (Op.get key).perform build s =
      ((Rust.get build key s).1.map some, (Rust.get build key s).2) :=
  Proc.bind_pure_apply ..

end

theorem KeyAllowed.lossy {key : Bytes} (allowed : KeyAllowed key) : fromUtf8Lossy key = key :=
  fromUtf8Lossy_of_isUtf8 key allowed.1

theorem Op.Allowed.key {blockSize : Nat} {op : Op} (allowed : op.Allowed blockSize) :
    KeyAllowed op.key := by
  cases op with
  | put => exact allowed.1
  | delete => exact allowed
  | get => exact allowed

/-- The keys of all complete records are UTF-8. -/
def Utf8Keys (img : MemDevice) : Prop := ∀ rec ∈ Scan.records img, isUtf8 rec.key = true

instance (img : MemDevice) : Decidable (Utf8Keys img) :=
  inferInstanceAs (Decidable (∀ rec ∈ Scan.records img, isUtf8 rec.key = true))

theorem Utf8Keys.lossy {img : MemDevice} (utf8 : Utf8Keys img) (mountable : Mount.Mountable img)
    {d : Nat} {rec : CompleteRecord} (present : recordAt img d = some rec) :
    fromUtf8Lossy rec.key = rec.key :=
  fromUtf8Lossy_of_isUtf8 rec.key (utf8 rec (records_of_present mountable present))

/-- The record of an allowed put holds its key and its whole value. -/
theorem added_contents {img : MemDevice} {key value : Bytes} {generation : Nat}
    {new : CompleteRecord} (allowed : KeyAllowed key)
    (bounded : value.length + img.blockSize < 2 ^ 32)
    (added : Added img key value generation new) : new.key = key ∧ new.value = value := by
  obtain ⟨keyed, valued⟩ := added.contents allowed.2
  refine ⟨keyed, ?_⟩
  rw [valued, asU32, Nat.mod_eq_of_lt (by omega), List.take_length]

/-- The store after a list of calls. -/
def runOps {D : Type} [BlockDevice D] (build : Rust.Build) (ops : List Op) (s : Store D) : Store D :=
  runTo (fun op s => (op.perform build s).2) ops s

/-! ## The first state -/

/-- A formatted device whose data blocks are all zero. -/
structure Blank (blockSize blockCount : Nat) (img : MemDevice) : Prop where
  mountable : Mount.Mountable img
  size : img.blockSize = blockSize
  count : img.blockCount = blockCount
  data : ∀ b, 1 ≤ b → b < blockCount → img.block b = List.replicate blockSize 0

theorem Blank.recordAt {blockSize blockCount : Nat} {img : MemDevice}
    (blank : Blank blockSize blockCount img) : recordAt img = fun _ => none := by
  funext d
  by_cases inside : 1 ≤ d ∧ d < blockCount
  · apply Scan.recordAt_of_type
    rw [blank.data d inside.1 inside.2]
    cases blockSize with
    | zero => decide
    | succ n =>
        rw [List.replicate_succ]
        show (0 : UInt8) ≠ blockTypeRecordDescriptor
        decide
  · by_cases header : d = 0
    · rw [header]
      exact recordAt_zero blank.mountable
    · rw [recordAt_eq_none]
      intro rec record
      have bound := record.inside
      rw [blank.count] at bound
      omega

theorem blank_records {blockSize blockCount : Nat} {img : MemDevice}
    (blank : Blank blockSize blockCount img) : Scan.records img = [] := by
  rw [Scan.records, blank.recordAt]
  exact List.filterMap_eq_nil_iff.mpr fun _ _ => rfl

/-- Zeroed devices that `format` reports as formatted are blank. -/
theorem format_blank {build : Rust.Build} {opts : Options} {blockSize blockCount n : Nat}
    {size_lt : blockSize < 2 ^ 32} {count_lt : blockCount < 2 ^ 32} {devs : List MemDevice}
    (formatted : Rust.format build opts (List.replicate n
      (MemDevice.new blockSize blockCount size_lt count_lt)) = (.ok (), devs)) :
    devs ≠ [] ∧ devs.length = n ∧ ∀ dev ∈ devs, Blank blockSize blockCount dev := by
  obtain ⟨nonempty, paired⟩ := Mount.rust_format formatted
  have length := paired.length_eq
  rw [List.length_replicate] at length
  refine ⟨?_, length.symm, ?_⟩
  · rintro rfl
    rw [List.length_nil] at length
    exact nonempty (by rw [length, List.replicate_zero])
  · intro dev member
    obtain ⟨i, inside, rfl⟩ := List.mem_iff_getElem.mp member
    have before : i < (List.replicate n
        (MemDevice.new blockSize blockCount size_lt count_lt)).length := by
      rw [List.length_replicate, length]
      exact inside
    have done := paired.get before inside
    simp only [List.get_eq_getElem, List.getElem_replicate, image_memDevice] at done
    refine ⟨done.mountable, done.size, ?_, ?_⟩
    · rw [done.count]
      exact List.length_replicate
    · intro b data bound
      rw [done.data b data, MemDevice.block, MemDevice.new, List.getD_eq_getElem _ _ (by
        rw [List.length_replicate]
        exact bound), List.getElem_replicate]

/-- `format` on the given devices, then `open` and `build_index`; `attach` puts
the formatted blocks behind the device the run uses. -/
def freshStore {D : Type} [BlockDevice D] (build : Rust.Build) (opts : Options)
    (attach : MemDevice → D) (devs : List MemDevice) : Except Failure (Store D) :=
  match Rust.format build opts devs with
  | (.error failure, _) => .error failure
  | (.ok (), formatted) => mount build (formatted.map attach) opts

theorem toOption_eq_some {ε α : Type} {result : Except ε α} {value : α}
    (found : result.toOption = some value) : result = .ok value := by
  cases result with
  | ok other => exact congrArg _ (Option.some.inj found)
  | error failure => cases found

/-- A test of what a computation returned, passed: it returned something that passes. -/
theorem ok_of_any {ε α : Type} {result : Except ε α} {test : α → Bool}
    (passed : result.toOption.any test = true) : ∃ value, result = .ok value ∧ test value = true := by
  obtain ⟨value, found, holds⟩ := (Option.any_eq_true _ _).mp passed
  exact ⟨value, toOption_eq_some found, holds⟩

/-- The first state of every run. -/
theorem freshStore_eq {D : Type} [BlockDevice D] [LawfulBlockDevice D] {build : Rust.Build}
    {opts : Options} {attach : MemDevice → D} {blockSize blockCount n : Nat}
    {size_lt : blockSize < 2 ^ 32} {count_lt : blockCount < 2 ^ 32} {s : Store D}
    (large : 36 ≤ blockSize) (attached : ∀ dev, image (attach dev) = dev)
    (fresh : freshStore build opts attach (List.replicate n
      (MemDevice.new blockSize blockCount size_lt count_lt)) = .ok s) :
    ∃ devs : List MemDevice, devs ≠ [] ∧ devs.length = n ∧
      (∀ dev ∈ devs, Blank blockSize blockCount dev) ∧
      s = { replicas := devs.map fun dev => scannedReplica (attach dev), opts := opts } := by
  rw [freshStore] at fresh
  split at fresh
  next => cases fresh
  next devs formatted =>
    obtain ⟨nonempty, length, blank⟩ := format_blank formatted
    refine ⟨devs, nonempty, length, blank, ?_⟩
    rw [mount_eq build (by simpa using nonempty) large (by
      intro dev member
      obtain ⟨mem, inside, rfl⟩ := List.mem_map.mp member
      have here := blank mem inside
      rw [attached]
      exact ⟨here.mountable, here.size, here.count⟩), List.map_map] at fresh
    exact (Except.ok.inj fresh).symm

/-- A zeroed device of two data blocks, for runs on concrete inputs. -/
def smallDevice : MemDevice := MemDevice.new 40 3 (by decide) (by decide)

end Embedkv.Run
