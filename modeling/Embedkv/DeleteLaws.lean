import Embedkv.Run

/-!
# Deletes and what comes back

A delete erases the record the index names and no other. When an image holds
further complete records of the key, as interrupted updates leave them, and the
store is opened without recovery, one of them is selected once the first is
gone: the key comes back. Nothing else brings it back.
-/

namespace Embedkv.DeleteLaws

open Embedkv.Lib Embedkv.Format Embedkv.Device Embedkv.State Embedkv.Record
open Embedkv.Outcome Embedkv.Session Embedkv.Run

set_option autoImplicit false

/-- Any record may stand under any key. -/
def Anything (_ : Bytes) (_ : IndexEntry) (_ : CompleteRecord) : Prop := True

section
variable {D : Type} [BlockDevice D] [LawfulBlockDevice D]

/-- Puts and gets keep a replica sound, whatever their arguments. -/
theorem perform_sound (build : Rust.Build) (opts : Options) {r : Replica D} (sound : Sound Anything r)
    {op : Op} (keeps : ∀ key, op ≠ .delete key) :
    ∃ r', (op.perform build (single r opts)).2 = single r' opts ∧ Sound Anything r' := by
  cases op with
  | put key value userFlags =>
      rw [perform_put]
      rcases ran : Rust.putFlagged build key value userFlags (single r opts) with ⟨result, s'⟩
      rcases putFlagged_outcome sound ran with
        ⟨rfl, _⟩ | ⟨generation, new, r', _, rfl, added, ended, kept⟩
      · exact ⟨r, rfl, sound⟩
      · exact ⟨r', rfl, sound.of_keeps kept (sound.index.putEnd added.fresh rfl trivial ended)⟩
  | delete key => exact absurd rfl (keeps key)
  | get key =>
      rw [perform_get]
      exact ⟨r, get_single_state sound build key opts, sound⟩

theorem runOps_sound (build : Rust.Build) (opts : Options) {r : Replica D} (sound : Sound Anything r)
    {ops : List Op} (keeps : ∀ op ∈ ops, ∀ key, op ≠ .delete key) :
    ∃ r', runOps build ops (single r opts) = single r' opts ∧ Sound Anything r' := by
  let inv (s : Store D) := ∃ r', s = single r' opts ∧ Sound Anything r'
  have start : inv (single r opts) := ⟨r, rfl, sound⟩
  refine runTo_of_invariant ?_ start (each_of_forall fun op member _ => keeps op member)
  rintro op s kept ⟨r, rfl, sound⟩
  exact perform_sound build opts sound kept

/-- On every replica the only record of a key that decodes to the name is the one
the index names. -/
def NoOther (s : Store D) (name : Bytes) : Prop :=
  ∀ r ∈ s.replicas, ∀ rec ∈ Scan.records (image r.dev), fromUtf8Lossy rec.key = name →
    (r.index.get name).map IndexEntry.descriptorBlock = some rec.descriptorBlock

instance (s : Store D) (name : Bytes) : Decidable (NoOther s name) :=
  inferInstanceAs (Decidable (∀ r ∈ s.replicas, ∀ rec ∈ Scan.records (image r.dev),
    fromUtf8Lossy rec.key = name →
      (r.index.get name).map IndexEntry.descriptorBlock = some rec.descriptorBlock))

/-- On an image that opens, after any run of puts and gets, a delete that
reports success outlasts a reopening without recovery exactly when the device
held no other complete record of a key that decodes as this one does. -/
theorem delete_durable_iff {build : Rust.Build} {opts : Options} {dev : D} {s s' : Store D}
    (large : 36 ≤ (image dev).blockSize)
    (opened : mount build [dev] opts = .ok s) {ops : List Op}
    (keeps : ∀ op ∈ ops, ∀ key, op ≠ .delete key) {key : Bytes}
    (deleted : Rust.delete key (runOps build ops s) = (.ok (), s')) :
    (∃ reopened, mount build (Rust.intoDevices s') opts = .ok reopened ∧
        (Rust.get build key reopened).1 = .error (.err .keyNotFound)) ↔
      NoOther (runOps build ops s) (fromUtf8Lossy key) := by
  rcases mount_single_inv large opened with ⟨mountable, rfl⟩
  have start : Sound Anything (scannedReplica dev) :=
    ⟨large, mountable, indexedBy_scan.mono fun _ _ _ _ => trivial⟩
  obtain ⟨r, ran, sound⟩ := runOps_sound build opts start keeps
  rw [ran] at deleted ⊢
  obtain ⟨e, r', found, rfl, _, gone, kept⟩ := delete_ok sound deleted
  have got : r.index.get (fromUtf8Lossy key) = some e := found
  have largeAfter : 36 ≤ (image r'.dev).blockSize := by
    rw [kept.size]
    exact sound.large
  have mountableAfter := sound.mountable.congr kept.size kept.count kept.header
  have reopened : mount build (Rust.intoDevices (single r' opts)) opts =
      .ok (single (scannedReplica r'.dev) opts) := mount_single build largeAfter mountableAfter opts
  have scanned : Scanned (scannedReplica r'.dev) := rfl
  have read := get_scanned scanned largeAfter build key opts
  -- What the scan meets after the delete is what it met before, less the deleted record.
  have records : ∀ rec, rec ∈ Scan.records (image r'.dev) ↔
      rec ∈ Scan.records (image r.dev) ∧ rec.descriptorBlock ≠ e.descriptorBlock := by
    intro rec
    rw [Scan.mem_records, Scan.mem_records, ← recordAt_eq_some, ← recordAt_eq_some, gone]
    by_cases same : rec.descriptorBlock = e.descriptorBlock
    · rw [same, Function.update_self]
      simp
    · rw [Function.update_of_ne same]
      simp [same]
  have absent : (Rust.get build key (single (scannedReplica r'.dev) opts)).1 =
      .error (.err .keyNotFound) ↔
        ∀ rec ∈ Scan.records (image r'.dev), fromUtf8Lossy rec.key ≠ fromUtf8Lossy key := by
    have stays : (scannedReplica r'.dev).dev = r'.dev := rfl
    rw [← Scan.lookup_bestOf_none, read, stays]
    cases (Scan.bestOf fromUtf8Lossy (image r'.dev)).lookup (fromUtf8Lossy key) with
    | none => simp
    | some rec => simp
  constructor
  · rintro ⟨store, mounted, missing⟩ other member
    obtain rfl : other = r := List.mem_singleton.mp member
    rw [reopened] at mounted
    cases mounted
    intro rec stored named
    by_contra different
    refine absent.mp missing rec ((records rec).mpr ⟨stored, ?_⟩) named
    intro same
    exact different (by rw [got, Option.map_some, same])
  · intro alone
    refine ⟨_, reopened, absent.mpr ?_⟩
    intro rec stored named
    obtain ⟨before, different⟩ := (records rec).mp stored
    have only := alone r List.mem_cons_self rec before named
    rw [got, Option.map_some] at only
    exact different (Option.some.inj only).symm

end

/-- A formatted device with one record of a key, or with a second, newer one. -/
def storedDevice (doubled : Bool) : MemDevice :=
  let formatted := (Rust.format .dev .default [smallDevice]).2.headD smallDevice
  let once := (Rust.writeRecord .dev 1 [] [0x41] 1 [1] 0 formatted).2
  if doubled then (Rust.writeRecord .dev 2 [] [0x41] 2 [2] 0 once).2 else once

/-- Two replicas: a key at one generation on the first, that and a newer one on the
second, which has no block left. -/
def unevenDevices : List MemDevice := [storedDevice false, storedDevice true]

/-- One record: after a further put the delete takes the key away for good. -/
theorem delete_durable_once :
    ∃ s s', mount .dev [storedDevice false] .default = .ok s ∧
      Rust.delete [0x41] (runOps .dev [.put [0x41] [3] 0] s) = (.ok (), s') ∧
      NoOther (runOps .dev [.put [0x41] [3] 0] s) (fromUtf8Lossy [0x41]) ∧
      ∃ reopened, mount .dev (Rust.intoDevices s') .default = .ok reopened ∧
        (Rust.get .dev [0x41] reopened).1 = .error (.err .keyNotFound) := by
  have checked : (mount .dev [storedDevice false] .default).toOption.any (fun s =>
      (Rust.delete [0x41] (runOps .dev [.put [0x41] [3] 0] s)).1 = .ok () ∧
      NoOther (runOps .dev [.put [0x41] [3] 0] s) (fromUtf8Lossy [0x41])) = true := by
    decide +kernel
  obtain ⟨s, opened, holds⟩ := ok_of_any checked
  obtain ⟨finished, alone⟩ := decide_eq_true_eq.mp holds
  have deleted : Rust.delete [0x41] (runOps .dev [.put [0x41] [3] 0] s) = (.ok (), _) :=
    Prod.ext finished rfl
  refine ⟨s, _, opened, deleted, alone, ?_⟩
  refine (delete_durable_iff (by decide) opened ?_ deleted).mpr alone
  intro op member key same
  rw [List.mem_singleton.mp member] at same
  cases same

/-- Two records: the delete takes the newer one and the older one comes back. -/
theorem delete_undone_by_older :
    ∃ s s' reopened, 36 ≤ (storedDevice true).blockSize ∧
      mount .dev [storedDevice true] .default = .ok s ∧
      Rust.delete [0x41] s = (.ok (), s') ∧
      mount .dev (Rust.intoDevices s') .default = .ok reopened ∧
      (Rust.get .dev [0x41] reopened).1 = .ok [1] := by
  have checked : (mount .dev [storedDevice true] .default).toOption.any (fun s =>
      (Rust.delete [0x41] s).1 = .ok () ∧
      (mount .dev (Rust.intoDevices (Rust.delete [0x41] s).2) .default).toOption.any
        (fun reopened => (Rust.get .dev [0x41] reopened).1 = .ok [1])) = true := by
    decide +kernel
  obtain ⟨s, found, holds⟩ := ok_of_any checked
  obtain ⟨finished, mounted⟩ := decide_eq_true_eq.mp holds
  obtain ⟨reopened, opened, read⟩ := ok_of_any mounted
  exact ⟨s, _, reopened, by decide +kernel, found, Prod.ext finished rfl,
    opened, decide_eq_true_eq.mp read⟩

end Embedkv.DeleteLaws
