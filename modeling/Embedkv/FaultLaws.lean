import Embedkv.Faulty

/-!
# What device errors can do

Runs of puts, deletes and gets on one replica whose device calls may fail. As
long as no delete fails after it has erased something, the index names records
that were put for their keys: reads stay with their key and a put that reports
success is readable. A delete that fails later leaves an entry that names an
erased block, and the next put may take that block.
-/

namespace Embedkv.FaultLaws

open Embedkv.Lib Embedkv.Format Embedkv.Device Embedkv.State Embedkv.Record Embedkv.Effects
open Embedkv.Plan Embedkv.Outcome Embedkv.Session Embedkv.Run Embedkv.Faulty

set_option autoImplicit false

/-- The value of the record was passed by a put of that key. -/
def Passed (past : List Call) (s : Bytes) (_ : IndexEntry) (rec : CompleteRecord) : Prop :=
  ∃ call ∈ past, ∃ userFlags, call.op = .put s rec.value userFlags

theorem passed_mono {past later : List Call} {s : Bytes} {e : IndexEntry} {rec : CompleteRecord}
    (passed : Passed past s e rec) : Passed (past ++ later) s e rec := by
  obtain ⟨call, member, userFlags, put⟩ := passed
  exact ⟨call, List.mem_append_left _ member, userFlags, put⟩

/-- A run in good order: one sound replica whose records were put for their keys. -/
def Live (opts : Options) (blockSize : Nat) (past : List Call) (s : Store FaultyDevice) : Prop :=
  ∃ r, s = single r opts ∧ r.dev.mem.blockSize = blockSize ∧ Sound (Passed past) r

section
variable {build : Rust.Build} {opts : Options} {blockSize : Nat} {past calls : List Call}
  {s : Store FaultyDevice}

theorem sound_mono {r : Replica FaultyDevice} (sound : Sound (Passed past) r) (later : List Call) :
    Sound (Passed (past ++ later)) r :=
  ⟨sound.large, sound.mountable, sound.index.mono fun _ _ _ => passed_mono⟩

/-- A put keeps the run in good order wherever it ends. -/
theorem put_live {key value : Bytes} {userFlags : UInt32} {fates : List Fate}
    (live : Live opts blockSize past s) (allowed : (Op.put key value userFlags).Allowed blockSize) :
    Live opts blockSize (past ++ [⟨.put key value userFlags, fates⟩])
      (Call.run build ⟨.put key value userFlags, fates⟩ s).2 := by
  obtain ⟨r, rfl, size, sound⟩ := live
  let call : Call := ⟨.put key value userFlags, fates⟩
  have armedSound := sound_armed (sound_mono sound [call]) fates
  rw [Call.run, arm_single, perform_put]
  rcases ran : Rust.putFlagged build key value userFlags (single (armed fates r) opts) with
    ⟨result, s'⟩
  rcases putFlagged_outcome armedSound ran with
    ⟨rfl, _⟩ | ⟨generation, new, r', _, rfl, added, ended, kept⟩
  · exact ⟨armed fates r, rfl, size, armedSound⟩
  · refine ⟨r', rfl, kept.size.trans size, armedSound.of_keeps kept ?_⟩
    refine armedSound.index.putEnd added.fresh rfl ?_ ended
    have bounded : value.length + (image (armed fates r).dev).blockSize < 2 ^ 32 := by
      have bound := allowed.2
      rw [← size] at bound
      exact bound
    refine ⟨call, by simp, userFlags, ?_⟩
    rw [(added_contents allowed.1 bounded added).2]
    show call.op = .put (fromUtf8Lossy key) value userFlags
    rw [allowed.1.lossy]

/-- A spared delete keeps the run in good order. -/
theorem delete_live {key : Bytes} {fates : List Fate} (live : Live opts blockSize past s)
    (spared : ∀ r ∈ s.replicas, DeleteSpared r (fromUtf8Lossy key) fates) :
    Live opts blockSize (past ++ [⟨.delete key, fates⟩])
      (Call.run build ⟨.delete key, fates⟩ s).2 := by
  obtain ⟨r, rfl, size, sound⟩ := live
  have armedSound := sound_armed (sound_mono sound [⟨.delete key, fates⟩]) fates
  rw [Call.run, arm_single, perform_delete, delete_single]
  rcases ran : Rust.deleteReplica (fromUtf8Lossy key) opts.freePattern false (armed fates r) with
    ⟨result, r'⟩
  have after := deleteReplica_spared armedSound (spared r List.mem_cons_self) ran
  have kept : Keeps (image (armed fates r).dev) (image r'.dev) := by
    rcases Option.eq_none_or_eq_some ((armed fates r).index.lookup (fromUtf8Lossy key)) with
      absent | ⟨e, found⟩
    · rw [rust_deleteReplica_absent absent] at ran
      cases ran
      exact keeps_refl _
    · exact (deleteReplica_outcome armedSound.indexed found ran).2.1
  cases result with
  | ok found => exact ⟨r', rfl, kept.size.trans size, after⟩
  | error failure => exact ⟨r', rfl, kept.size.trans size, after⟩

theorem get_live {key : Bytes} {fates : List Fate} (live : Live opts blockSize past s) :
    Live opts blockSize (past ++ [⟨.get key, fates⟩]) (Call.run build ⟨.get key, fates⟩ s).2 := by
  obtain ⟨r, rfl, size, sound⟩ := live
  have armedSound := sound_armed (sound_mono sound [⟨.get key, fates⟩]) fates
  rw [Call.run, arm_single, perform_get]
  exact ⟨armed fates r, get_single_state armedSound build key opts, size, armedSound⟩

/-- A run whose deletes are spared stays in good order. -/
theorem run_live (live : Live opts blockSize past s)
    (allowed : ∀ call ∈ calls, call.op.Allowed blockSize) (spared : DeletesSpared build calls s) :
    Live opts blockSize (past ++ calls) (runAll build calls s) := by
  induction calls generalizing past s with
  | nil =>
      rw [List.append_nil]
      exact live
  | cons call rest ih =>
      obtain ⟨here, later⟩ := spared
      have allowedHere := allowed call List.mem_cons_self
      have step : Live opts blockSize (past ++ [call]) (call.run build s).2 := by
        rcases call with ⟨op, fates⟩
        cases op with
        | put key value userFlags => exact put_live live allowedHere
        | delete key => exact delete_live live here
        | get key => exact get_live live
      have rested := ih step (fun other member => allowed other (List.mem_cons_of_mem _ member)) later
      rwa [List.append_assoc, List.singleton_append] at rested

/-- A formatted store, opened and indexed, is in good order. -/
theorem fresh_live {blockCount : Nat} {size_lt : blockSize < 2 ^ 32} {count_lt : blockCount < 2 ^ 32}
    (large : 36 ≤ blockSize)
    (fresh : freshStore build opts FaultyDevice.steady
      [MemDevice.new blockSize blockCount size_lt count_lt] = .ok s) :
    ∃ dev, Blank blockSize blockCount dev ∧
      s = single (scannedReplica (FaultyDevice.steady dev)) opts ∧ Live opts blockSize [] s := by
  obtain ⟨devs, _, length, blank, rfl⟩ := freshStore_eq (n := 1) large (fun _ => rfl) fresh
  obtain ⟨dev, rfl⟩ := List.length_eq_one_iff.mp length
  have here := blank dev List.mem_cons_self
  refine ⟨dev, here, rfl, scannedReplica (FaultyDevice.steady dev), rfl, here.size, ?_,
    here.mountable, ?_, indexedBy_scan.distinct⟩
  · show 36 ≤ dev.blockSize
    rw [here.size]
    exact large
  · intro key e found
    obtain ⟨rec, selected, _⟩ := Scan.lookup_indexOf.mp found
    have stored : rec ∈ Scan.records dev := selected.stored
    rw [blank_records here] at stored
    cases stored

/-- Reads never cross keys, as long as no delete fails after its first write. -/
theorem get_reads_own_key {blockCount : Nat} {size_lt : blockSize < 2 ^ 32}
    {count_lt : blockCount < 2 ^ 32} (large : 36 ≤ blockSize)
    (fresh : freshStore build opts FaultyDevice.steady
      [MemDevice.new blockSize blockCount size_lt count_lt] = .ok s)
    (allowed : ∀ call ∈ calls, call.op.Allowed blockSize) (spared : DeletesSpared build calls s)
    {key value : Bytes} (keyAllowed : KeyAllowed key) {fates : List Fate}
    (read : (Call.run build ⟨.get key, fates⟩ (runAll build calls s)).1 = .ok (some value)) :
    ∃ call ∈ calls, ∃ userFlags, call.op = .put key value userFlags := by
  obtain ⟨_, _, _, start⟩ := fresh_live large fresh
  obtain ⟨r, state, _, sound⟩ := run_live start allowed spared
  rw [List.nil_append] at sound
  rw [Call.run, state, arm_single, perform_get] at read
  rcases Option.eq_none_or_eq_some ((armed fates r).index.lookup (fromUtf8Lossy key)) with
    absent | ⟨e, found⟩
  · rw [get_single_absent build opts absent] at read
    cases read
  · obtain ⟨rec, _, passed, got⟩ := get_single (sound_armed sound fates) build opts found
    rw [got] at read
    obtain rfl : rec.value = value := Option.some.inj (Except.ok.inj read)
    rwa [keyAllowed.lossy] at passed

/-- A put that reports success is readable, as long as no delete before it
failed after its first write. -/
theorem put_ok_readable {blockCount : Nat} {size_lt : blockSize < 2 ^ 32}
    {count_lt : blockCount < 2 ^ 32} (large : 36 ≤ blockSize)
    (fresh : freshStore build opts FaultyDevice.steady
      [MemDevice.new blockSize blockCount size_lt count_lt] = .ok s)
    (allowed : ∀ call ∈ calls, call.op.Allowed blockSize) (spared : DeletesSpared build calls s)
    {key value : Bytes} {userFlags : UInt32} {fates : List Fate}
    (putAllowed : (Op.put key value userFlags).Allowed blockSize) {s' : Store FaultyDevice}
    (finished : Call.run build ⟨.put key value userFlags, fates⟩ (runAll build calls s) =
      (.ok none, s')) : (Rust.get build key s').1 = .ok value := by
  obtain ⟨_, _, _, start⟩ := fresh_live large fresh
  obtain ⟨r, state, size, sound⟩ := run_live start allowed spared
  have armedSound := sound_armed sound fates
  rw [Call.run, state, arm_single, perform_put] at finished
  rcases ran : Rust.putFlagged build key value userFlags (single (armed fates r) opts) with
    ⟨result, after⟩
  rw [ran] at finished
  obtain ⟨succeeded, rfl⟩ := Prod.mk.inj finished
  cases result with
  | error failure => cases succeeded
  | ok =>
    rcases putFlagged_outcome armedSound ran with
      ⟨_, failure, failed⟩ | ⟨generation, new, r', _, rfl, added, ended, kept⟩
    · cases failed
    have bounded : value.length + (image (armed fates r).dev).blockSize < 2 ^ 32 := by
      have bound := putAllowed.2
      rw [← size] at bound
      exact bound
    have after : Sound (fun _ _ _ => True) r' := by
      apply armedSound.of_keeps kept
      exact (armedSound.index.mono fun _ _ _ _ => trivial).putEnd added.fresh rfl trivial ended
    -- The put ran to its end: the index names the new record and the record is there.
    obtain ⟨named, present⟩ := putEnd_ok ended armedSound.index added.fresh
    obtain ⟨rec, found, _, read⟩ := get_single after build opts named
    rw [read]
    have same : rec = new := Option.some.inj (found.symm.trans present)
    rw [same, (added_contents putAllowed.1 bounded added).2]

end

/-- A delete that fails at once leaves the key readable. -/
def sparedCalls : List Call :=
  [⟨.put [0x41] [1] 0, []⟩, ⟨.delete [0x41], [.fails false]⟩]

theorem get_reads_own_key_spared :
    ∃ s, freshStore .dev .default FaultyDevice.steady [smallDevice] = .ok s ∧
      DeletesSpared .dev sparedCalls s ∧
      ∃ call ∈ sparedCalls, ∃ userFlags, call.op = .put [0x41] [1] userFlags := by
  have checked : (freshStore .dev .default FaultyDevice.steady [smallDevice]).toOption.any (fun s =>
      DeletesSpared .dev sparedCalls s ∧
      (Call.run .dev ⟨.get [0x41], []⟩ (runAll .dev sparedCalls s)).1 = .ok (some [1])) = true := by
    decide +kernel
  obtain ⟨s, fresh, holds⟩ := ok_of_any checked
  obtain ⟨spared, read⟩ := decide_eq_true_eq.mp holds
  exact ⟨s, fresh, spared, get_reads_own_key (by decide) fresh (by decide +kernel) spared
    (by decide +kernel) read⟩

theorem put_ok_readable_spared :
    ∃ s, freshStore .dev .default FaultyDevice.steady [smallDevice] = .ok s ∧
      DeletesSpared .dev sparedCalls s ∧ ∃ s',
      Call.run .dev ⟨.put [0x41] [2] 0, []⟩ (runAll .dev sparedCalls s) = (.ok none, s') ∧
      (Rust.get .dev [0x41] s').1 = .ok [2] := by
  have checked : (freshStore .dev .default FaultyDevice.steady [smallDevice]).toOption.any (fun s =>
      DeletesSpared .dev sparedCalls s ∧
      (Call.run .dev ⟨.put [0x41] [2] 0, []⟩ (runAll .dev sparedCalls s)).1 = .ok none) = true := by
    decide +kernel
  obtain ⟨s, fresh, holds⟩ := ok_of_any checked
  obtain ⟨spared, finished⟩ := decide_eq_true_eq.mp holds
  have ran : Call.run .dev ⟨.put [0x41] [2] 0, []⟩ (runAll .dev sparedCalls s) = (.ok none, _) :=
    Prod.ext finished rfl
  exact ⟨s, fresh, spared, _, ran, put_ok_readable (by decide) fresh (by decide +kernel) spared
    (by decide +kernel) ran⟩

/-- A delete erases its block and fails at the flush; the next put takes the block. -/
def crossingCalls : List Call :=
  [⟨.put [0x41] [1] 0, []⟩, ⟨.delete [0x41], [.works, .fails false]⟩, ⟨.put [0x42] [2] 0, []⟩]

theorem get_reads_other_key :
    ∃ s, freshStore .dev .default FaultyDevice.steady [smallDevice] = .ok s ∧
      (∀ call ∈ crossingCalls, call.op.Allowed 40) ∧
      (Call.run .dev ⟨.get [0x41], []⟩ (runAll .dev crossingCalls s)).1 = .ok (some [2]) ∧
      ¬∃ call ∈ crossingCalls, ∃ userFlags, call.op = .put [0x41] [2] userFlags := by
  have checked : (freshStore .dev .default FaultyDevice.steady [smallDevice]).toOption.any (fun s =>
      (Call.run .dev ⟨.get [0x41], []⟩ (runAll .dev crossingCalls s)).1 = .ok (some [2])) = true := by
    decide +kernel
  obtain ⟨s, found, read⟩ := ok_of_any checked
  refine ⟨s, found, by decide +kernel, decide_eq_true_eq.mp read, ?_⟩
  rintro ⟨call, member, userFlags, put⟩
  simp only [crossingCalls, List.mem_cons, List.not_mem_nil, or_false] at member
  rcases member with rfl | rfl | rfl <;> cases put

/-- A put that takes the block its own stale entry names erases it again. -/
def stalePut : List Call :=
  [⟨.put [0x41] [1] 0, []⟩, ⟨.delete [0x41], [.works, .fails false]⟩]

theorem put_ok_unreadable :
    ∃ s, freshStore .dev .default FaultyDevice.steady [smallDevice] = .ok s ∧
      (∀ call ∈ stalePut, call.op.Allowed 40) ∧ (Op.put [0x41] [2] 0).Allowed 40 ∧ ∃ s',
      Call.run .dev ⟨.put [0x41] [2] 0, []⟩ (runAll .dev stalePut s) = (.ok none, s') ∧
      (Rust.get .dev [0x41] s').1 = .error (.err .keyNotFound) := by
  have checked : (freshStore .dev .default FaultyDevice.steady [smallDevice]).toOption.any (fun s =>
      (Call.run .dev ⟨.put [0x41] [2] 0, []⟩ (runAll .dev stalePut s)).1 = .ok none ∧
      (Rust.get .dev [0x41] (Call.run .dev ⟨.put [0x41] [2] 0, []⟩ (runAll .dev stalePut s)).2).1 =
        .error (.err .keyNotFound)) = true := by
    decide +kernel
  obtain ⟨s, found, holds⟩ := ok_of_any checked
  obtain ⟨finished, lost⟩ := decide_eq_true_eq.mp holds
  exact ⟨s, found, by decide +kernel, by decide +kernel, _, Prod.ext finished rfl, lost⟩

end Embedkv.FaultLaws
