import Embedkv.FaultLaws

/-!
# Puts after failed puts

A put that fails at its flush can leave a complete record that the index does
not name. The next put of the key takes its generation from the index alone, so
the two records may tie or the stale one may lead, and the scan that follows a
reopening decides between them by generation and block. A put survives exactly
by outranking what earlier failures left.
-/

namespace Embedkv.RetryLaws

open Embedkv.Lib Embedkv.Format Embedkv.Device Embedkv.State Embedkv.Record Embedkv.Effects
open Embedkv.Plan Embedkv.Outcome Embedkv.Session Embedkv.Run Embedkv.Faulty Embedkv.FaultLaws

set_option autoImplicit false

/-- The record was written for the key it is indexed under. -/
def Own (s : Bytes) (_ : IndexEntry) (rec : CompleteRecord) : Prop := rec.key = s

/-- A replica that was only put to, with allowed keys. -/
structure Written (r : Replica FaultyDevice) : Prop where
  sound : Sound Own r
  plain : ∀ d rec, recordAt r.dev.mem d = some rec → fromUtf8Lossy rec.key = rec.key

/-- Every complete record of the key that the index does not name ranks below
the record the next put writes: by its generation, or at the same generation by
a block after the first free one. -/
def Outranks (build : Rust.Build) (r : Replica FaultyDevice) (key : Bytes) : Prop :=
  match Rust.u32Add build (generationOf r.index key) 1 with
  | .error _ => True
  | .ok generation => ∀ stale ∈ Scan.records r.dev.mem, stale.key = key →
      (r.index.get key).map IndexEntry.descriptorBlock ≠ some stale.descriptorBlock →
      stale.generation < generation ∨
        stale.generation = generation ∧ (freeBlocks r.dev.mem).headD 0 < stale.descriptorBlock

section
variable {build : Rust.Build} {opts : Options} {blockSize : Nat}

/-- A put by allowed keys leaves the replica written and the selected records
of all other keys in place. -/
theorem put_written (build : Rust.Build) (opts : Options) (fates : List Fate)
    {r : Replica FaultyDevice} {key value : Bytes} {userFlags : UInt32} (written : Written r)
    (size : r.dev.mem.blockSize = blockSize)
    (allowed : (Op.put key value userFlags).Allowed blockSize) :
    ∃ r', (Call.run build ⟨.put key value userFlags, fates⟩ (single r opts)).2 = single r' opts ∧
      Written r' ∧ r'.dev.mem.blockSize = blockSize ∧
      ∀ other rec, other ≠ key → Leads fromUtf8Lossy (recordAt r.dev.mem) other rec →
        Leads fromUtf8Lossy (recordAt r'.dev.mem) other rec := by
  have armedSound := sound_armed written.sound fates
  rw [Call.run, arm_single, perform_put]
  rcases ran : Rust.putFlagged build key value userFlags (single (armed fates r) opts) with
    ⟨result, s'⟩
  rcases putFlagged_outcome armedSound ran with
    ⟨rfl, _⟩ | ⟨generation, new, r', _, rfl, added, ended, kept⟩
  · exact ⟨armed fates r, rfl, ⟨armedSound, written.plain⟩, size, fun _ _ _ leads => leads⟩
  have bounded : value.length + (image (armed fates r).dev).blockSize < 2 ^ 32 := by
    have bound := allowed.2
    rw [← size] at bound
    exact bound
  obtain ⟨keyed, _⟩ := added_contents allowed.1 bounded added
  have lossy := allowed.1.lossy
  refine ⟨r', rfl, ⟨armedSound.of_keeps kept ?_, ?_⟩, kept.size.trans size, ?_⟩
  · refine armedSound.index.putEnd added.fresh rfl ?_ ended
    show new.key = fromUtf8Lossy key
    rw [keyed, lossy]
  · intro d rec present
    rcases ended.origin present with before | ⟨_, rfl⟩
    · exact written.plain d rec before
    · rw [keyed, lossy]
  · intro other rec different leads
    refine ⟨ended.kept added.fresh leads.present ?_, leads.named, ?_⟩
    · -- The record the put releases belongs to its own key.
      intro released
      obtain ⟨e, replaced, place⟩ := Option.map_eq_some_iff.mp released
      obtain ⟨old, present, own⟩ := armedSound.index.complete _ e replaced
      have same : old = rec := by
        rw [place] at present
        exact Option.some.inj (present.symm.trans leads.present)
      apply different
      rw [← leads.named, ← same, own, lossy, lossy]
    · intro d rival present named
      rcases ended.origin present with before | ⟨_, rfl⟩
      · exact leads.leads d rival before named
      · rw [keyed, lossy] at named
        exact absurd named.symm different

/-- Puts of other keys leave the selected record of a key in place. -/
theorem puts_written (build : Rust.Build) (opts : Options) {r : Replica FaultyDevice}
    {calls : List Call} (written : Written r)
    (size : r.dev.mem.blockSize = blockSize)
    (puts : ∀ call ∈ calls, ∃ key value userFlags, call.op = .put key value userFlags)
    (allowed : ∀ call ∈ calls, call.op.Allowed blockSize) :
    ∃ r', runAll build calls (single r opts) = single r' opts ∧ Written r' ∧
      r'.dev.mem.blockSize = blockSize ∧
      ∀ key rec, (∀ call ∈ calls, call.op.key ≠ key) →
        Leads fromUtf8Lossy (recordAt r.dev.mem) key rec →
        Leads fromUtf8Lossy (recordAt r'.dev.mem) key rec := by
  induction calls generalizing r with
  | nil => exact ⟨r, rfl, written, size, fun _ _ _ leads => leads⟩
  | cons call rest ih =>
      rcases call with ⟨op, fates⟩
      obtain ⟨key, value, userFlags, rfl⟩ := puts _ List.mem_cons_self
      obtain ⟨r1, step, written1, size1, keep1⟩ :=
        put_written build opts fates written size (allowed _ List.mem_cons_self)
      obtain ⟨r2, run, written2, size2, keep2⟩ := ih written1 size1
        (fun call member => puts call (List.mem_cons_of_mem _ member))
        (fun call member => allowed call (List.mem_cons_of_mem _ member))
      refine ⟨r2, ?_, written2, size2, ?_⟩
      · rw [← run, ← step]
        rfl
      · intro other rec different leads
        apply keep2 other rec fun call member => different call (List.mem_cons_of_mem _ member)
        exact keep1 other rec (different _ List.mem_cons_self).symm leads

/-- A put that reports success and outranks what is left of its key is selected. -/
theorem put_leads {r : Replica FaultyDevice} {key value : Bytes} {userFlags : UInt32}
    {fates : List Fate} (written : Written r) (size : r.dev.mem.blockSize = blockSize)
    (allowed : (Op.put key value userFlags).Allowed blockSize) (outranks : Outranks build r key)
    (finished : (Call.run build ⟨.put key value userFlags, fates⟩ (single r opts)).1 = .ok none) :
    ∃ r' new, (Call.run build ⟨.put key value userFlags, fates⟩ (single r opts)).2 = single r' opts ∧
      Leads fromUtf8Lossy (recordAt r'.dev.mem) key new ∧ new.value = value := by
  have armedSound := sound_armed written.sound fates
  rw [Call.run, arm_single, perform_put] at finished ⊢
  rcases ran : Rust.putFlagged build key value userFlags (single (armed fates r) opts) with
    ⟨result, s'⟩
  rw [ran] at finished
  cases result with
  | error failure => cases finished
  | ok =>
    rcases putFlagged_outcome armedSound ran with
      ⟨_, failure, failed⟩ | ⟨generation, new, r', advanced, rfl, added, ended, kept⟩
    · cases failed
    have bounded : value.length + (image (armed fates r).dev).blockSize < 2 ^ 32 := by
      have bound := allowed.2
      rw [← size] at bound
      exact bound
    obtain ⟨keyed, valued⟩ := added_contents allowed.1 bounded added
    have lossy := allowed.1.lossy
    have advancedHere : Rust.u32Add build (generationOf r.index key) 1 = .ok generation := by
      rw [lossy] at advanced
      exact advanced
    have numbered : new.generation = generation := by
      rw [added.generation_eq, Nat.mod_eq_of_lt (Image.rust_u32Add_lt advancedHere)]
    have first : (freeBlocks r.dev.mem).head? = some new.descriptorBlock := added.first
    simp only [Outranks, advancedHere] at outranks
    obtain ⟨_, present⟩ := putEnd_ok ended armedSound.index added.fresh
    refine ⟨r', new, rfl, ⟨present, by rw [keyed, lossy], ?_⟩, valued⟩
    intro d rival held named
    rcases ended.origin held with before | ⟨rfl, rfl⟩
    · -- The released record is gone, so the rival is one the index did not name.
      have unnamed : ((armed fates r).index.get (fromUtf8Lossy key)).map
          IndexEntry.descriptorBlock ≠ some d := by
        intro released
        change recordAt (image r'.dev) d = _ at held
        rw [ended.ok.1, released, release, Function.update_self] at held
        cases held
      have place := (recordAt_eq_some.mp before).descriptorBlock_eq
      have stored : rival ∈ Scan.records r.dev.mem := by
        rw [Scan.mem_records, place]
        refine ⟨?_, recordAt_eq_some.mp before⟩
        by_contra zero
        rw [show d = 0 by omega, recordAt_zero armedSound.mountable] at before
        cases before
      have own : rival.key = key := by
        rw [← written.plain d rival before]
        exact named
      rw [lossy, ← place] at unnamed
      rcases outranks rival stored own unnamed with lower | ⟨tie, later⟩
      · left
        rw [numbered]
        exact lower
      · right
        rw [List.headD_eq_head?_getD, first, Option.getD_some, place] at later
        exact ⟨by rw [tie, numbered], Nat.le_of_lt later⟩
    · exact .inr ⟨rfl, Nat.le_refl _⟩

/-- The last put of a key, reported as done, survives the reopening when it
outranked the complete records of its key that the index did not name. -/
theorem put_survives_reopen {blockCount : Nat} {size_lt : blockSize < 2 ^ 32}
    {count_lt : blockCount < 2 ^ 32} {s : Store FaultyDevice} (large : 36 ≤ blockSize)
    (fresh : freshStore build opts FaultyDevice.steady
      [MemDevice.new blockSize blockCount size_lt count_lt] = .ok s)
    {before after : List Call} {key value : Bytes} {userFlags : UInt32} {fates : List Fate}
    (puts : ∀ call ∈ before ++ after, ∃ key value userFlags, call.op = .put key value userFlags)
    (allowed : ∀ call ∈ before ++ ⟨.put key value userFlags, fates⟩ :: after,
      call.op.Allowed blockSize)
    (last : ∀ call ∈ after, call.op.key ≠ key)
    (finished : (Call.run build ⟨.put key value userFlags, fates⟩
      (runAll build before s)).1 = .ok none)
    (outranks : ∀ r ∈ (runAll build before s).replicas, Outranks build r key) :
    ∃ s', mountRecovered build ((Rust.intoDevices (runAll build
        (before ++ ⟨.put key value userFlags, fates⟩ :: after) s)).map FaultyDevice.mem) opts = .ok s' ∧
      (Rust.get build key s').1 = .ok value := by
  obtain ⟨dev, blank, rfl, _⟩ := fresh_live large fresh
  have start : Written (scannedReplica (FaultyDevice.steady dev)) := by
    have none : ∀ d rec, recordAt dev d ≠ some rec := by
      intro d rec present
      rw [blank.recordAt] at present
      cases present
    refine ⟨⟨?_, blank.mountable, ?_, indexedBy_scan.distinct⟩, ?_⟩
    · show 36 ≤ dev.blockSize
      rw [blank.size]
      exact large
    · intro s e found
      obtain ⟨rec, present, _⟩ := indexedBy_scan.complete s e found
      exact absurd present (none _ _)
    · intro d rec present
      exact absurd present (none d rec)
  obtain ⟨r1, ran1, written1, size1, _⟩ := puts_written build opts start blank.size
    (fun call member => puts call (List.mem_append_left _ member))
    (fun call member => allowed call (List.mem_append_left _ member))
  rw [ran1] at finished outranks
  have allowedHere : (Op.put key value userFlags).Allowed blockSize :=
    allowed ⟨_, fates⟩ (List.mem_append_right _ List.mem_cons_self)
  obtain ⟨r2, new, ran2, leads, valued⟩ := put_leads written1 size1 allowedHere
    (outranks r1 List.mem_cons_self) finished
  obtain ⟨r2', ran2', written2, size2, _⟩ := put_written build opts fates written1 size1 allowedHere
  have same : r2' = r2 := by
    have stores := ran2'.symm.trans ran2
    exact List.head_eq_of_cons_eq (congrArg Store.replicas stores)
  rw [same] at written2 size2
  obtain ⟨r3, ran3, written3, size3, keep⟩ := puts_written build opts written2 size2
    (fun call member => puts call (List.mem_append_right _ member))
    (fun call member => allowed call (List.mem_append_right _ (List.mem_cons_of_mem _ member)))
  have whole : runAll build (before ++ ⟨.put key value userFlags, fates⟩ :: after)
      (single (scannedReplica (FaultyDevice.steady dev)) opts) = single r3 opts := by
    rw [runAll, runTo_append]
    change runAll build after (Call.run build ⟨.put key value userFlags, fates⟩
      (runAll build before _)).2 = _
    rw [ran1, ran2, ran3]
  rw [whole]
  show ∃ s', mountRecovered build [r3.dev.mem] opts = .ok s' ∧ _
  have final := keep key new last leads
  have sound3 := written3.sound
  obtain ⟨s', opened, reads⟩ := get_mountRecovered build
    (show 36 ≤ (image r3.dev.mem).blockSize from sound3.large) sound3.mountable opts
  refine ⟨s', opened, ?_⟩
  have selected : (Scan.bestOf fromUtf8Lossy r3.dev.mem).lookup key = some new :=
    Scan.lookup_bestOf.mpr ((selected_iff_leads (recordAt_zero sound3.mountable)).mpr final)
  rw [reads key, allowedHere.1.lossy]
  simp only [image_memDevice, selected, valued]

end

instance (build : Rust.Build) (r : Replica FaultyDevice) (key : Bytes) :
    Decidable (Outranks build r key) :=
  match h : Rust.u32Add build (generationOf r.index key) 1 with
  | .error _ => isTrue (by simp only [Outranks, h])
  | .ok generation =>
    decidable_of_iff (∀ stale ∈ Scan.records r.dev.mem, stale.key = key →
      (r.index.get key).map IndexEntry.descriptorBlock ≠ some stale.descriptorBlock →
      stale.generation < generation ∨
        stale.generation = generation ∧ (freeBlocks r.dev.mem).headD 0 < stale.descriptorBlock)
      (by simp only [Outranks, h])

/-- The put of 41 fails at its flush and leaves a record of generation 1 in block 2;
the update of 42 frees block 1 before it. -/
def overtaken : List Call :=
  [⟨.put [0x42] [7] 0, []⟩, ⟨.put [0x41] [1] 0, [.works, .fails false]⟩, ⟨.put [0x42] [8] 0, []⟩]

/-- The next put of 41 has generation 1 too, and its block comes first. -/
theorem put_survives_reopen_retried :
    ∃ s, freshStore .dev .default FaultyDevice.steady
        [MemDevice.new 40 5 (by decide) (by decide)] = .ok s ∧
      (∀ r ∈ (runAll .dev overtaken s).replicas, Outranks .dev r [0x41] ∧
        r.index.get [0x41] = none ∧ ∃ stale ∈ Scan.records r.dev.mem, stale.key = [0x41] ∧
          stale.generation = 1 ∧ stale.descriptorBlock = 2) ∧
      ∃ s', mountRecovered .dev ((Rust.intoDevices (runAll .dev
          (overtaken ++ ⟨.put [0x41] [2] 0, []⟩ ::
            [⟨.put [0x43] [3] 0, [.works, .fails false]⟩]) s)).map FaultyDevice.mem) .default =
          .ok s' ∧ (Rust.get .dev [0x41] s').1 = .ok [2] := by
  have checked : (freshStore .dev .default FaultyDevice.steady
      [MemDevice.new 40 5 (by decide) (by decide)]).toOption.any (fun s =>
      (∀ r ∈ (runAll .dev overtaken s).replicas, Outranks .dev r [0x41] ∧
        r.index.get [0x41] = none ∧ ∃ stale ∈ Scan.records r.dev.mem, stale.key = [0x41] ∧
          stale.generation = 1 ∧ stale.descriptorBlock = 2) ∧
      (Call.run .dev ⟨.put [0x41] [2] 0, []⟩ (runAll .dev overtaken s)).1 = .ok none) = true := by
    decide +kernel
  obtain ⟨s, fresh, holds⟩ := ok_of_any checked
  obtain ⟨outranks, finished⟩ := decide_eq_true_eq.mp holds
  refine ⟨s, fresh, outranks, put_survives_reopen (by decide) fresh ?_ (by decide +kernel)
    (by decide) finished fun r member => (outranks r member).1⟩
  intro call member
  simp only [overtaken, List.cons_append, List.nil_append, List.mem_cons, List.not_mem_nil,
    or_false] at member
  rcases member with rfl | rfl | rfl | rfl <;> exact ⟨_, _, _, rfl⟩

/-- The first put fails at its flush and leaves a complete record of generation
1; the second succeeds, and the reopening prefers the first. -/
theorem put_lost_after_failed_put :
    ∃ s s' : Store FaultyDevice, ∃ reopened,
      freshStore .dev .default FaultyDevice.steady [smallDevice] = .ok s ∧
      (Op.put [0x41] [1] 0).Allowed 40 ∧ (Op.put [0x41] [2] 0).Allowed 40 ∧
      Call.run .dev ⟨.put [0x41] [2] 0, []⟩
        (runAll .dev [⟨.put [0x41] [1] 0, [.works, .fails false]⟩] s) = (.ok none, s') ∧
      mountRecovered .dev ((Rust.intoDevices s').map FaultyDevice.mem) .default = .ok reopened ∧
      (Rust.get .dev [0x41] reopened).1 = .ok [1] := by
  have checked : (freshStore .dev .default FaultyDevice.steady [smallDevice]).toOption.any (fun s =>
      (Call.run .dev ⟨.put [0x41] [2] 0, []⟩
        (runAll .dev [⟨.put [0x41] [1] 0, [.works, .fails false]⟩] s)).1 = .ok none ∧
      (mountRecovered .dev ((Rust.intoDevices (Call.run .dev ⟨.put [0x41] [2] 0, []⟩
        (runAll .dev [⟨.put [0x41] [1] 0, [.works, .fails false]⟩] s)).2).map FaultyDevice.mem)
        .default).toOption.any (fun reopened => (Rust.get .dev [0x41] reopened).1 = .ok [1])) =
      true := by
    decide +kernel
  obtain ⟨s, found, holds⟩ := ok_of_any checked
  obtain ⟨finished, opened⟩ := decide_eq_true_eq.mp holds
  obtain ⟨reopened, mounted, read⟩ := ok_of_any opened
  exact ⟨s, _, reopened, found, by decide +kernel, by decide +kernel,
    Prod.ext finished rfl, mounted, decide_eq_true_eq.mp read⟩

end Embedkv.RetryLaws
