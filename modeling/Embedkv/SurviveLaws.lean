import Embedkv.ChainWalk
import Embedkv.Reading
import Embedkv.DeleteLaws

/-!
# Reads with failing replicas

Some replicas fail every read. A get of Rust passes over them and answers with
the leading copy of the others. A get of Go does so as long as each replica that
cannot be read comes after a replica whose copy is at least as new; otherwise
the first such replica ends the get with its error, though another holds the
value.
-/

namespace Embedkv.SurviveLaws

open Embedkv.Lib Embedkv.Format Embedkv.Device Embedkv.State Embedkv.Fanout Embedkv.Stores
open Embedkv.Reading Embedkv.Run Embedkv.ChainWalk

set_option autoImplicit false

section
variable {D : Type} [BlockDevice D]

def ReadsFail (dev : D) : Prop :=
  ∀ index, ∃ error dev', BlockDevice.readBlock index dev = (.error (.err error), dev')

/-- Nothing verifies on a device whose reads fail. -/
theorem verify_fails {dev : D} (fails : ReadsFail dev) (impl : Impl) (d : Nat) :
    ∃ error, (impl.verifyAndReadRecord d dev).1 = .error (.err error) := by
  obtain ⟨error, dev', read⟩ := fails d
  exact ⟨error, congrArg Prod.fst (impl.verify_unread read)⟩

theorem offered_fails {r : Replica D} (fails : ReadsFail r.dev) (impl : Impl) (key : Bytes) :
    offered impl key r = none := by
  unfold offered
  cases r.index.get (impl.name key) with
  | none => rfl
  | some e =>
      obtain ⟨error, failed⟩ := verify_fails fails impl e.descriptorBlock
      simp only [failed]

/-- Position `i` holds, of the replicas that do not fail, the lowest with the
highest generation among those whose record verifies. -/
def Chosen (impl : Impl) (key : Bytes) (failing : Replica D → Prop)
    (replicas : List (Replica D)) (i : Nat) (value : Bytes) : Prop :=
  ∃ r generation, replicas[i]? = some r ∧ ¬failing r ∧
    offered impl key r = some (generation, value) ∧
    ∀ j q copy, replicas[j]? = some q → ¬failing q → offered impl key q = some copy →
      copy.1 < generation ∨ copy.1 = generation ∧ i ≤ j

/-- What a get needs of the replicas whose record cannot be read: in Rust that no
check unwinds, in Go that each comes after a copy at least as new. -/
def Sheltered (key : Bytes) (replicas : List (Replica D)) : Impl → Prop
  | .rust build => ∀ r ∈ replicas, ∀ e, ¬Unread (.rust build) key r e .panic
  | .go => ∀ before r after e failure, replicas = before ++ r :: after →
      Unread .go key r e failure →
      ∃ q ∈ before, ∃ copy, offered .go key q = some copy ∧ e.generation ≤ copy.1

theorem spared_iff (impl : Impl) (key : Bytes) (replicas : List (Replica D)) :
    Spared impl key replicas ↔ Sheltered key replicas impl := by
  cases impl with
  | rust build =>
      constructor
      · intro spared r member e unread
        obtain ⟨before, after, split⟩ := List.append_of_mem member
        exact spared before r after split ⟨e, unread⟩
      · rintro sheltered before r after rfl ⟨e, unread⟩
        exact sheltered r (List.mem_append_right _ List.mem_cons_self) e unread
  | go =>
      have reaches (before : List (Replica D)) (bound : Nat) :
          (∃ copy, lead (offers .go key before) = some copy ∧ bound ≤ copy.1) ↔
            ∃ q ∈ before, ∃ copy, offered .go key q = some copy ∧ bound ≤ copy.1 := by
        rw [lead_reaches]
        constructor
        · rintro ⟨copy, member, le⟩
          obtain ⟨q, stands, same⟩ := List.mem_map.mp member
          exact ⟨q, stands, copy, same, le⟩
        · rintro ⟨q, stands, copy, same, le⟩
          exact ⟨copy, List.mem_map.mpr ⟨q, stands, same⟩, le⟩
      constructor
      · intro spared before r after e failure split unread
        by_contra alone
        refine spared before r after split ⟨e, failure, unread, ?_⟩
        rw [reaches]
        exact alone
      · rintro sheltered before r after split ⟨e, failure, unread, contends⟩
        rw [reaches] at contends
        exact contends (sheltered before r after e failure split unread)

/-- With some replicas failing every read, and a record that verifies on another,
a get answers with the copy chosen among the others exactly when the replicas
are sheltered. -/
theorem get_survives_iff (impl : Impl) {key : Bytes} {s : Store D} {failing : Replica D → Prop}
    (broken : ∀ r ∈ s.replicas, failing r → ReadsFail r.dev)
    (healthy : ∃ r ∈ s.replicas, ¬failing r ∧ offered impl key r ≠ none) :
    ∃ i value, Chosen impl key failing s.replicas i value ∧
      ((impl.get key s).1 = .ok value ↔ Sheltered key s.replicas impl) := by
  have intact : ∀ r ∈ s.replicas, ∀ copy, offered impl key r = some copy → ¬failing r := by
    intro r member copy copied fails
    rw [offered_fails (broken r member fails)] at copied
    cases copied
  cases found : lead (offers impl key s.replicas) with
  | none =>
      obtain ⟨r, member, _, some⟩ := healthy
      obtain ⟨copy, copied⟩ := Option.ne_none_iff_exists'.mp some
      exact absurd (List.mem_map.mpr ⟨r, member, copied⟩) (lead_none found copy)
  | some copy =>
      obtain ⟨generation, value⟩ := copy
      obtain ⟨i, here, leads⟩ := lead_some found
      refine ⟨i, value, ?_, ?_⟩
      · rw [offers, List.getElem?_map] at here
        obtain ⟨r, at_i, copied⟩ := Option.map_eq_some_iff.mp here
        have member := List.mem_of_getElem? at_i
        refine ⟨r, generation, at_i, intact r member _ copied, copied, ?_⟩
        intro j q other at_j _ copied'
        apply leads j other
        rw [offers, List.getElem?_map, at_j, Option.map_some, copied']
      · rw [get_eq_ok, spared_iff]
        constructor
        · exact And.left
        · intro sheltered
          exact ⟨sheltered, generation, found⟩

end

/-! ## Blocks of the usual size -/

/-- A device of which a read gives a whole block or an error. -/
class ReadableBlockDevice (D : Type) [BlockDevice D] : Prop where
  count_lt : ∀ dev : D, BlockDevice.blockCount dev < 2 ^ 32
  reads : ∀ (dev : D) (index : Nat),
    (∃ buf dev', BlockDevice.readBlock index dev = (.ok buf, dev') ∧
      buf.length = BlockDevice.blockSize dev ∧
      BlockDevice.blockSize dev' = BlockDevice.blockSize dev ∧
      BlockDevice.blockCount dev' = BlockDevice.blockCount dev) ∨
    ∃ error dev', BlockDevice.readBlock index dev = (.error (.err error), dev')

theorem ok_ne_panic {α : Type} (value : α) : (Except.ok value : Except Failure α) ≠ .error .panic := by
  intro same
  cases same

section
variable {D : Type} [BlockDevice D] [ReadableBlockDevice D]

theorem rust_chainLoop_unwinds (build : Rust.Build) {blockSize blockCount : Nat}
    (large : 36 ≤ blockSize) (count : blockCount < 2 ^ 32) (d next idx : Nat)
    (visited : Finset Nat) (rec : CompleteRecord) {dev : D}
    (size : BlockDevice.blockSize dev = blockSize) (counted : visited.card = idx)
    (inRange : visited ⊆ Finset.range blockCount) :
    (Rust.chainLoop build blockSize blockCount d next idx visited rec dev).1 ≠ .error .panic := by
  refine (chainLoop_solves build blockSize blockCount d).ends
    (chainTurn_visits build blockSize blockCount d).lowers
    (fun s dev => BlockDevice.blockSize dev = blockSize ∧ Tallied blockCount s)
    (fun ended => ended.1 ≠ .error .panic) ?_ ?_ ⟨next, idx, visited, rec⟩
    ⟨size, counted, inRange⟩
  · rintro s s' dev dev' ⟨size, tallied⟩ went
    obtain ⟨_, _, _, read, _⟩ := chainTurn_again went
    refine ⟨?_, (tallied.turn count went).2⟩
    rcases ReadableBlockDevice.reads dev s.next with
      ⟨_, _, whole, _, kept, _⟩ | ⟨_, _, unread⟩
    · rw [whole] at read
      cases read
      exact kept.trans size
    · rw [unread] at read
      cases read
  · rintro s dev ended ⟨size, tallied⟩ final
    cases final with
    | done ran => exact ok_ne_panic _
    | failed ran =>
        obtain ⟨fresh, failed⟩ := chainTurn_failed ran
        rcases ReadableBlockDevice.reads dev s.next with
          ⟨buf, _, whole, long, _, _⟩ | ⟨error, _, unread⟩
        · -- The block is whole, so neither the checks nor the counter fail.
          have checked := Image.rust_readChunk build d s.expectedIdx buf (by omega)
          rw [long, size] at checked
          rw [whole] at failed
          rcases failed with failed | ⟨_, read, unchecked | unbumped⟩
          · cases failed
          · cases read
            rw [checked] at unchecked
            cases unchecked
          · rw [tallied.bump fresh count build] at unbumped
            cases unbumped
        · rw [unread] at failed
          rcases failed with failed | ⟨_, read, _⟩
          · cases failed
            exact fun same => err_ne_panic _ (Except.error.inj same)
          · cases read

theorem rust_verify_unwinds (build : Rust.Build) {dev : D}
    (large : 36 ≤ BlockDevice.blockSize dev) {d : Nat}
    (inside : d < BlockDevice.blockCount dev) :
    (Rust.verifyAndReadRecord build d dev).1 ≠ .error .panic := by
  have size : blockSizeOf dev = (.ok (BlockDevice.blockSize dev), dev) := rfl
  rw [Rust.verifyAndReadRecord, Proc.bind_ok size]
  rcases ReadableBlockDevice.reads dev d with
    ⟨buf, dev', read, whole, kept, same⟩ | ⟨error, dev', read⟩
  · have checked := Image.rust_readDescriptor build d buf (by omega)
    rw [whole] at checked
    rw [Proc.bind_ok read, checked, Proc.ofExcept_ok_bind_apply]
    cases Image.descriptorView d buf with
    | none => exact ok_ne_panic _
    | some head =>
        by_cases one : head.header.chunkCount = 1
        · simp only [one, if_true]
          split <;> exact ok_ne_panic _
        by_cases ended : head.header.nextChunk.toNat = nullBlockIndex
        · simp only [one, ended, if_false, if_true]
          exact ok_ne_panic _
        simp only [one, ended, if_false]
        have count : blockCountOf dev' = (.ok (BlockDevice.blockCount dev), dev') := by
          rw [blockCountOf, same]
        have walked := rust_chainLoop_unwinds build large (ReadableBlockDevice.count_lt dev) d
          head.header.nextChunk.toNat 1 {d} head kept (Finset.card_singleton d)
          (Finset.singleton_subset_iff.mpr (Finset.mem_range.mpr inside))
        rw [Proc.bind_ok count]
        rcases ran : Rust.chainLoop build (BlockDevice.blockSize dev) (BlockDevice.blockCount dev)
          d head.header.nextChunk.toNat 1 {d} head dev' with ⟨result, dev''⟩
        rw [ran] at walked
        cases result with
        | error failure =>
            rw [Proc.bind_error ran]
            intro unwound
            cases unwound
            exact walked rfl
        | ok outcome =>
            rw [Proc.bind_ok ran]
            cases outcome with
            | none => exact ok_ne_panic _
            | some found =>
                simp only []
                split
                · exact ok_ne_panic _
                · split <;> exact ok_ne_panic _
  · rw [Proc.bind_error read]
    exact fun same => err_ne_panic _ (Except.error.inj same)

/-- At block sizes of 36 bytes and more, with indexes that name blocks of their
devices, Rust is always sheltered. -/
theorem rust_sheltered (build : Rust.Build) {key : Bytes} {replicas : List (Replica D)}
    (large : ∀ r ∈ replicas, 36 ≤ BlockDevice.blockSize r.dev)
    (inside : ∀ r ∈ replicas, ∀ e ∈ r.index.get (fromUtf8Lossy key),
      e.descriptorBlock < BlockDevice.blockCount r.dev) :
    Sheltered key replicas (.rust build) := by
  rintro r member e ⟨found, unwinds⟩
  exact rust_verify_unwinds build (large r member) (inside r member e found) unwinds

end

/-! ## A device that may have failed -/

structure FlakyDevice where
  mem : MemDevice
  failed : Bool

namespace FlakyDevice

/-- Run a call on the memory below, unless the device has failed. -/
def call {α : Type} (inner : Proc Failure MemDevice α) : Proc Failure FlakyDevice α := fun dev =>
  if dev.failed then (.error (.err .io), dev)
  else Proc.zoom mem (fun dev mem => { dev with mem := mem }) inner dev

instance : BlockDevice FlakyDevice where
  blockSize dev := dev.mem.blockSize
  blockCount dev := dev.mem.blockCount
  readBlock index := call (MemDevice.readBlock index)
  writeBlock index buf := call (MemDevice.writeBlock index buf)
  flush := call (pure ())

theorem failed_reads {dev : FlakyDevice} (failed : dev.failed = true) : ReadsFail dev := by
  intro index
  exact ⟨.io, dev, if_pos failed⟩

instance : ReadableBlockDevice FlakyDevice where
  count_lt dev := dev.mem.count_lt
  reads dev index := by
    change (∃ buf dev', call (MemDevice.readBlock index) dev = _ ∧ _) ∨
      ∃ error dev', call (MemDevice.readBlock index) dev = _
    by_cases failed : dev.failed = true
    · exact .inr ⟨.io, dev, if_pos failed⟩
    · rw [call, if_neg failed, Proc.zoom_apply, MemDevice.readBlock]
      by_cases inside : index < dev.mem.blockCount
      · rw [if_pos inside]
        exact .inl ⟨_, dev, rfl, dev.mem.block_length inside, rfl, rfl⟩
      · rw [if_neg inside]
        exact .inr ⟨_, dev, rfl⟩

end FlakyDevice

/-- Two healthy replicas with the same record. -/
def healthyDevices : List FlakyDevice :=
  [⟨DeleteLaws.storedDevice false, false⟩, ⟨DeleteLaws.storedDevice false, false⟩]

/-- The store after its first device has failed. -/
def failFirst (s : Store FlakyDevice) : Store FlakyDevice :=
  { s with
    replicas := s.replicas.modifyHead fun r => { r with dev := { r.dev with failed := true } } }

/-- Rust reads past the failed first replica. -/
theorem get_survives_first :
    ∃ s, (Impl.rust .dev).mount healthyDevices .default = .ok s ∧
      ∃ i value, Chosen (.rust .dev) [0x41] (fun r => r.dev.failed = true)
          (failFirst s).replicas i value ∧
        (Rust.get .dev [0x41] (failFirst s)).1 = .ok value := by
  have checked : ((Impl.rust .dev).mount healthyDevices .default).toOption.any (fun s =>
      (∃ r ∈ (failFirst s).replicas, r.dev.failed = false ∧
        offered (.rust .dev) [0x41] r = some (1, [1])) ∧
      (∀ r ∈ (failFirst s).replicas, 36 ≤ BlockDevice.blockSize r.dev ∧
        ∀ e ∈ r.index.get (fromUtf8Lossy [0x41]),
          e.descriptorBlock < BlockDevice.blockCount r.dev)) = true := by
    decide +kernel
  obtain ⟨s, found, holds⟩ := ok_of_any checked
  obtain ⟨⟨r, member, whole, copied⟩, fits⟩ := decide_eq_true_eq.mp holds
  have healthy : ∃ r ∈ (failFirst s).replicas, ¬r.dev.failed = true ∧
      offered (.rust .dev) [0x41] r ≠ none := by
    refine ⟨r, member, ?_, ?_⟩
    · rw [whole]
      exact Bool.false_ne_true
    · rw [copied]
      exact Option.some_ne_none _
  obtain ⟨i, value, chosen, answered⟩ := get_survives_iff (.rust .dev)
    (fun r _ failed => FlakyDevice.failed_reads failed) healthy
  refine ⟨s, found, i, value, chosen, answered.mpr ?_⟩
  exact rust_sheltered .dev (fun r member => (fits r member).1) fun r member =>
    (fits r member).2

/-- Go ends at the failed first replica, though the second one has the record. -/
theorem go_get_ends_at_failed :
    ∃ s, Impl.go.mount healthyDevices .default = .ok s ∧
      (∃ r ∈ (failFirst s).replicas, r.dev.failed = false ∧
        offered .go [0x41] r = some (1, [1])) ∧
      (Go.get [0x41] (failFirst s)).1 = .error (.err .io) ∧
      (Rust.get .dev [0x41] (failFirst s)).1 = .ok [1] := by
  have checked : (Impl.go.mount healthyDevices .default).toOption.any (fun s =>
      (∃ r ∈ (failFirst s).replicas, r.dev.failed = false ∧
        offered .go [0x41] r = some (1, [1])) ∧
      (Go.get [0x41] (failFirst s)).1 = .error (.err .io) ∧
      (Rust.get .dev [0x41] (failFirst s)).1 = .ok [1]) = true := by
    decide +kernel
  obtain ⟨s, found, holds⟩ := ok_of_any checked
  exact ⟨s, found, decide_eq_true_eq.mp holds⟩

end Embedkv.SurviveLaws
