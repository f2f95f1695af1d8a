import Embedkv.Trace
import Embedkv.RecordLaws

/-!
# Chain walks end

On every image with blocks of the usual size, and from every block taken for a
descriptor: the loops of `verify_and_read_record` and `free_record` end, the
calls read no block twice beside the descriptor, the counter does not overflow,
and the value is no longer than the device. `verify_and_read_record` holds the
descriptor for visited from the start; `free_record` does not, and reads it once
more when the chain leads back to it.
-/

namespace Embedkv.ChainLaws

open Embedkv.Lib Embedkv.Lib.Loop Embedkv.Format Embedkv.Device Embedkv.State Embedkv.ChainWalk
open Embedkv.Trace

set_option autoImplicit false

/-! ## What the calls read -/

/-- A call has read its descriptor, and then different blocks of the device
outside `start`. -/
def ReadsOnce {D : Type} (blockCount d : Nat) (start : Finset Nat) (t : Traced D) : Prop :=
  ∃ visited chunks, Logged blockCount start [d] visited t.reads chunks

theorem ReadsOnce.alone {D : Type} {blockCount d : Nat} {start : Finset Nat} {t : Traced D}
    (read : t.reads = [d]) : ReadsOnce blockCount d start t := by
  refine ⟨start, [], ?_⟩
  rw [read]
  exact .begin blockCount start [d]

section
variable {D : Type} [BlockDevice D]

theorem chainLoop_reads (build : Rust.Build) (blockSize blockCount d : Nat) (head : CompleteRecord)
    {t : Traced D} (read : t.reads = [d]) : ReadsOnce blockCount d {d}
      (chainLoopAt build blockSize blockCount d (chainStart d head) t).2 := by
  have logged := (chainTurn_logs build blockSize blockCount d).loop
    (chainLoop_solves build blockSize blockCount d) (chainStart d head) t
  rwa [read] at logged

theorem freeChain_reads (blockCount : Nat) (free : Bytes) (next : Nat) {d : Nat} {t : Traced D}
    (read : t.reads = [d]) :
    ReadsOnce blockCount d ∅ (freeChainAt blockCount free ⟨next, ∅⟩ t).2 := by
  have logged := (freeTurn_logs blockCount free).loop (freeChain_solves blockCount free)
    ⟨next, ∅⟩ t
  rwa [read] at logged

theorem freeRecord_reads (dev : D) (d : Nat) (pattern : UInt8) :
    ReadsOnce (BlockDevice.blockCount dev) d ∅
      (Rust.freeRecord d pattern (Traced.start dev)).2 := by
  have size : blockSizeOf (Traced.start dev) =
      (.ok (BlockDevice.blockSize dev), Traced.start dev) := rfl
  have count : blockCountOf (Traced.start dev) =
      (.ok (BlockDevice.blockCount dev), Traced.start dev) := rfl
  rw [Rust.freeRecord, Proc.bind_ok size, Proc.bind_ok count]
  rcases read : BlockDevice.readBlock d (Traced.start dev) with ⟨outcome, t⟩
  have logged : t.reads = [d] := by
    have reads := Traced.readBlock_reads d (Traced.start dev)
    rwa [read] at reads
  cases outcome with
  | error failure =>
      rw [Proc.bind_error read]
      exact .alone logged
  | ok buf =>
      rw [Proc.bind_ok read]
      cases Rust.unmarshalDescriptorHeader buf with
      | error failure => exact .alone logged
      | ok header =>
          rw [Proc.ofExcept_ok_bind_apply]
          simp only []
          split
          next => exact .alone logged
          next =>
            rcases wrote : BlockDevice.writeBlock d
              (makeFreeBuf (BlockDevice.blockSize dev) pattern) t with ⟨result, t'⟩
            have unread : t'.reads = [d] := by
              have reads := congrArg (fun ended => ended.2.reads) wrote
              exact reads.symm.trans logged
            cases result with
            | error failure =>
                rw [Proc.bind_error wrote]
                exact .alone unread
            | ok _ =>
                rw [Proc.bind_ok wrote]
                exact freeChain_reads _ _ _ unread

end

section
variable {D : Type} [BlockDevice D] [LawfulBlockDevice D]

theorem verify_reads (build : Rust.Build) (dev : D) (d : Nat) :
    ReadsOnce (image dev).blockCount d {d}
      (Rust.verifyAndReadRecord build d (Traced.start dev)).2 := by
  have count : BlockDevice.blockCount (BlockDevice.readBlock d (Traced.start dev)).2 =
      (image dev).blockCount := by
    rw [Traced.readBlock_start, ← LawfulBlockDevice.blockCount_eq]
    rfl
  rcases verify_store build d (Traced.start dev) with left | ⟨head, left⟩
  · rw [left]
    exact .alone rfl
  · rw [left, count]
    exact chainLoop_reads _ _ _ d head rfl

theorem readBlock_inside {dev dev' : D} {d : Nat} {buf : Bytes}
    (read : BlockDevice.readBlock d dev = (.ok buf, dev')) :
    d < (image dev).blockCount ∧ dev' = dev := by
  rcases Nat.lt_or_ge d (image dev).blockCount with inside | outside
  · rw [LawfulBlockDevice.readBlock_eq dev d inside] at read
    cases read
    exact ⟨inside, rfl⟩
  · rw [LawfulBlockDevice.readBlock_outside dev d outside] at read
    cases read

theorem verify_value {build : Rust.Build} {dev : D} {d : Nat} {rec : CompleteRecord}
    (large : 36 ≤ (image dev).blockSize)
    (answer : (Rust.verifyAndReadRecord build d dev).1 = .ok (some rec)) :
    rec.value.length ≤ (image dev).blockSize * (image dev).blockCount := by
  obtain ⟨buf, dev', head, read, described, made⟩ := verify_inv answer
  obtain ⟨inside, rfl⟩ := readBlock_inside read
  rw [LawfulBlockDevice.blockSize_eq] at described made
  rw [LawfulBlockDevice.blockCount_eq] at made
  have first := readDescriptor_value large described
  rcases made with same | ⟨idx, walked⟩
  · rw [same]
    exact first.trans (Nat.le_mul_of_pos_right _ (by omega))
  · exact chainLoop_value large (image _).count_lt inside first walked

theorem verify_answers (build : Rust.Build) (dev : D) (d : Nat)
    (large : 36 ≤ (image dev).blockSize) :
    (Rust.verifyAndReadRecord build d dev).1 ≠ .error .panic := by
  rcases Nat.lt_or_ge d (image dev).blockCount with inside | outside
  · rw [Record.rust_verifyAndReadRecord build dev d large inside]
    intro unwound
    cases unwound
  · have unread := LawfulBlockDevice.readBlock_outside dev d outside
    rw [Rust.verifyAndReadRecord, Proc.bind_ok (blockSizeOf_eq dev), Proc.bind_error unread]
    intro unwound
    cases unwound

/-! ## Both walks -/

/-- Of the loop in `verify_and_read_record`: from any loop variables it ends
within as many turns as there are blocks, and one to stop. In the states the
call's own loop comes through, the counter is the number of turns and one, the
value fits the device. The call reads the descriptor once and then each block
at most once, and nothing unwinds. -/
structure VerifyWalk (build : Rust.Build) (dev : D) (d : Nat) : Prop where
  ends : ∀ s, EndsWithin (chainTurn build (image dev).blockSize (image dev).blockCount d)
    (image dev).blockCount s dev
    (Rust.chainLoop build (image dev).blockSize (image dev).blockCount d s.next s.expectedIdx
      s.visited s.record dev)
  counts : ∀ buf head n s dev', BlockDevice.readBlock d dev = (.ok buf, dev) →
    Rust.readDescriptor build (image dev).blockSize d buf = .ok (some head) →
    Arrives (chainTurn build (image dev).blockSize (image dev).blockCount d) (chainStart d head) dev
      n s dev' →
    s.expectedIdx = n + 1 ∧ s.expectedIdx ≤ (image dev).blockCount ∧ s.expectedIdx < 2 ^ 32 ∧
      s.record.value.length ≤ (image dev).blockSize * (image dev).blockCount
  answers : (Rust.verifyAndReadRecord build d dev).1 ≠ .error .panic
  reads : ∃ chunks, Rust.verifyAndReadRecord build d (Traced.start dev) =
      ((Rust.verifyAndReadRecord build d dev).1,
        { dev := (Rust.verifyAndReadRecord build d dev).2, reads := d :: chunks }) ∧
    (d :: chunks).Nodup ∧ (∀ c ∈ chunks, c < (image dev).blockCount) ∧
    chunks.length ≤ (image dev).blockCount
  value : ∀ rec, (Rust.verifyAndReadRecord build d dev).1 = .ok (some rec) →
    rec.value.length ≤ (image dev).blockSize * (image dev).blockCount

/-- Of the loop in `free_record`, which starts with no block visited: it ends
within as many turns as there are blocks, and one to stop, and the call reads
each block at most once after the descriptor. -/
structure FreeWalk (dev : D) (d : Nat) (pattern : UInt8) : Prop where
  ends : ∀ (s : FreeState) (dev' : D), EndsWithin
    (freeTurn (image dev).blockCount (makeFreeBuf (image dev).blockSize pattern))
    (image dev).blockCount s dev'
    (Rust.freeChain (image dev).blockCount (makeFreeBuf (image dev).blockSize pattern) s.next
      s.visited dev')
  reads : ∃ chunks, Rust.freeRecord d pattern (Traced.start dev) =
      ((Rust.freeRecord d pattern dev).1,
        { dev := (Rust.freeRecord d pattern dev).2, reads := d :: chunks }) ∧
    chunks.Nodup ∧ (∀ c ∈ chunks, c < (image dev).blockCount) ∧
    chunks.length ≤ (image dev).blockCount

/-- The chain loops end on every image, whatever the links are. -/
theorem chain_walks_end (build : Rust.Build) (dev : D) (large : 36 ≤ (image dev).blockSize) (d : Nat)
    (pattern : UInt8) : VerifyWalk build dev d ∧ FreeWalk dev d pattern := by
  constructor
  · refine ⟨?_, ?_, ?_, ?_, ?_⟩
    · intro s
      exact chainLoop_endsWithin build _ _ d s dev
    · intro buf head n s dev' read checked arrives
      have small : (image dev).blockCount < 2 ^ 32 := (image dev).count_lt
      have count := chainLoop_counts large small (readBlock_inside read).1
        (readDescriptor_value large checked) arrives
      have bound := count.le_blockCount
      exact ⟨count.index, bound, by omega, count.value_le⟩
    · exact verify_answers build dev d large
    · obtain ⟨_, chunks, logged⟩ := verify_reads build dev d
      refine ⟨chunks, Traced.eq_of_mirrors (Traced.verifyAndReadRecord_mirrors build d) logged.reads,
        ?_, logged.inside, logged.length_le⟩
      refine List.nodup_cons.mpr ⟨?_, logged.distinct⟩
      intro again
      exact logged.apart d again (Finset.mem_singleton_self d)
    · intro rec answer
      exact verify_value large answer
  · constructor
    · intro s dev'
      exact freeChain_endsWithin _ _ s dev'
    · obtain ⟨_, chunks, logged⟩ := freeRecord_reads dev d pattern
      rw [LawfulBlockDevice.blockCount_eq] at logged
      exact ⟨chunks, Traced.eq_of_mirrors (Traced.freeRecord_mirrors d pattern) logged.reads,
        logged.distinct, logged.inside, logged.length_le⟩

end

/-- The record of two blocks, with the link of its chunk turned back to the descriptor. -/
def circular : MemDevice :=
  RecordLaws.twoBlocks.set 2 (Layout.chunkBuf 40 1 1 1 [4, 5])

theorem chain_walks_end_circular :
    (Rust.verifyAndReadRecord .dev 1 (Traced.start circular)).2.reads = [1, 2] ∧
      (Rust.freeRecord 1 0x00 (Traced.start circular)).2.reads = [1, 2, 1] ∧
      VerifyWalk .dev circular 1 ∧ FreeWalk circular 1 0x00 := by
  have walks := chain_walks_end .dev circular (by decide) 1 0x00
  refine ⟨by decide +kernel, by decide +kernel, walks⟩

end Embedkv.ChainLaws
