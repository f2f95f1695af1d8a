import Embedkv.Lib.Loop
import Embedkv.Record
import Embedkv.Rust.Store

/-!
# The chain loops, one turn at a time

The loops that follow a chain, in `verify_and_read_record` and in `free_record`,
as turns over their loop variables. The links come from the medium and may lead
anywhere: in a circle, back to the descriptor, to block 0. A turn that goes on
has read one block of the device that was not visited before, so a loop takes at
most as many turns as there are blocks, and one more to stop. The counter of the
chunks counts the visited blocks and stays within the block count; the value
grows by at most a block with each of them.
-/

namespace Embedkv.ChainWalk

open Embedkv.Lib Embedkv.Lib.Loop Embedkv.Format Embedkv.Device Embedkv.State

set_option autoImplicit false

/-! ## One turn of each loop -/

/-- The variables of the loop in `verify_and_read_record`. -/
structure ChainState where
  next : Nat
  expectedIdx : Nat
  visited : Finset Nat
  record : CompleteRecord

/-- The variables of the loop in `free_record`. -/
structure FreeState where
  next : Nat
  visited : Finset Nat

/-- A block of the device that is not visited yet. -/
def Fresh (blockCount next : Nat) (visited : Finset Nat) : Prop :=
  ¬(next ≥ blockCount ∨ next ∈ visited)

theorem Fresh.inside {blockCount next : Nat} {visited : Finset Nat}
    (fresh : Fresh blockCount next visited) : next < blockCount :=
  Nat.lt_of_not_le fun outside => fresh (.inl outside)

theorem Fresh.unseen {blockCount next : Nat} {visited : Finset Nat}
    (fresh : Fresh blockCount next visited) : next ∉ visited :=
  fun seen => fresh (.inr seen)

/-- The tests both turns begin with: whether the chain has ended, and whether the
next block may be visited. -/
def guarded {σ τ α : Type} (blockCount next : Nat) (visited : Finset Nat) (ended refused : α)
    (visit : Proc Failure τ (Turn σ α)) : Proc Failure τ (Turn σ α) :=
  if next = nullBlockIndex then pure (.done ended)
  else if next ≥ blockCount ∨ next ∈ visited then pure (.done refused)
  else visit

section
variable {σ τ α : Type} {blockCount next : Nat} {visited : Finset Nat} {ended refused : α}
  {visit : Proc Failure τ (Turn σ α)}

/-- Either the turn stops without touching the store, or it visits a fresh block. -/
theorem guarded_cases (blockCount next : Nat) (visited : Finset Nat) (ended refused : α) :
    (∃ result, ∀ {τ : Type} (visit : Proc Failure τ (Turn σ α)),
      guarded blockCount next visited ended refused visit = pure (.done result)) ∨
    Fresh blockCount next visited ∧ ∀ {τ : Type} (visit : Proc Failure τ (Turn σ α)),
      guarded blockCount next visited ended refused visit = visit := by
  unfold guarded
  by_cases last : next = nullBlockIndex
  · left
    exact ⟨ended, fun _ => if_pos last⟩
  by_cases stale : next ≥ blockCount ∨ next ∈ visited
  · left
    refine ⟨refused, fun _ => ?_⟩
    rw [if_neg last, if_pos stale]
  · right
    refine ⟨stale, fun _ => ?_⟩
    rw [if_neg last, if_neg stale]

theorem guarded_keeps {holds : τ → Prop} {store : τ} (stays : holds store)
    (after : holds (visit store).2) :
    holds (guarded blockCount next visited ended refused visit store).2 := by
  rcases guarded_cases (σ := σ) blockCount next visited ended refused with
    ⟨result, stops⟩ | ⟨_, visits⟩
  · rw [stops]
    exact stays
  · rw [visits]
    exact after

theorem guarded_again {s' : σ} {store after : τ}
    (went : guarded blockCount next visited ended refused visit store = (.ok (.again s'), after)) :
    Fresh blockCount next visited ∧ visit store = (.ok (.again s'), after) := by
  rcases guarded_cases (σ := σ) blockCount next visited ended refused with
    ⟨result, stops⟩ | ⟨fresh, visits⟩
  · rw [stops] at went
    cases went
  · rw [visits] at went
    exact ⟨fresh, went⟩

theorem guarded_failed {failure : Failure} {store after : τ}
    (ran : guarded blockCount next visited ended refused visit store = (.error failure, after)) :
    Fresh blockCount next visited ∧ visit store = (.error failure, after) := by
  rcases guarded_cases (σ := σ) blockCount next visited ended refused with
    ⟨result, stops⟩ | ⟨fresh, visits⟩
  · rw [stops] at ran
    cases ran
  · rw [visits] at ran
    exact ⟨fresh, ran⟩

theorem guarded_done {result : α} {store after : τ}
    (ran : guarded blockCount next visited ended refused visit store =
      (.ok (.done result), after)) :
    result = ended ∨ result = refused ∨ visit store = (.ok (.done result), after) := by
  unfold guarded at ran
  split at ran
  next =>
    cases ran
    exact .inl rfl
  next =>
    split at ran
    next =>
      cases ran
      exact .inr (.inl rfl)
    next => exact .inr (.inr ran)

end

section
variable {D : Type} [BlockDevice D]

def chainVisit (build : Rust.Build) (blockSize descriptorBlock : Nat) (s : ChainState) :
    Proc Failure D (Turn ChainState (Option (CompleteRecord × Nat))) := do
  let chunkBuf ← BlockDevice.readBlock s.next
  match ← Proc.ofExcept (Rust.readChunk build blockSize descriptorBlock s.expectedIdx chunkBuf) with
  | none => pure (.done none)
  | some (payload, nextChunk) =>
    let following ← Proc.ofExcept (Rust.u32Add build s.expectedIdx 1)
    pure (.again
      { next := nextChunk
        expectedIdx := following
        visited := insert s.next s.visited
        record := { s.record with
          value := s.record.value ++ payload
          chunkBlocks := s.record.chunkBlocks ++ [s.next] } })

/-- One turn of the loop in `verify_and_read_record`. -/
def chainTurn (build : Rust.Build) (blockSize blockCount descriptorBlock : Nat) (s : ChainState) :
    Proc Failure D (Turn ChainState (Option (CompleteRecord × Nat))) :=
  guarded blockCount s.next s.visited (some (s.record, s.expectedIdx)) none
    (chainVisit build blockSize descriptorBlock s)

def freeVisit (free : Bytes) (s : FreeState) : Proc Failure D (Turn FreeState Unit) := do
  let cbuf ← BlockDevice.readBlock s.next
  let (ch, ok) ← Proc.ofExcept (Rust.unmarshalChunkHeader cbuf)
  if !ok then pure (.done ())
  else do
    BlockDevice.writeBlock s.next free
    pure (.again { next := ch.nextChunk.toNat, visited := insert s.next s.visited })

/-- One turn of the loop in `free_record`. -/
def freeTurn (blockCount : Nat) (free : Bytes) (s : FreeState) :
    Proc Failure D (Turn FreeState Unit) :=
  guarded blockCount s.next s.visited () () (freeVisit free s)

/-- The validator's loop, from given loop variables. -/
def chainLoopAt (build : Rust.Build) (blockSize blockCount descriptorBlock : Nat) (s : ChainState) :
    Proc Failure D (Option (CompleteRecord × Nat)) :=
  Rust.chainLoop build blockSize blockCount descriptorBlock s.next s.expectedIdx s.visited s.record

/-- The erasing loop, from given loop variables. -/
def freeChainAt (blockCount : Nat) (free : Bytes) (s : FreeState) : Proc Failure D Unit :=
  Rust.freeChain blockCount free s.next s.visited

theorem chainLoop_solves (build : Rust.Build) (blockSize blockCount d : Nat) :
    Solves (chainTurn (D := D) build blockSize blockCount d)
      (chainLoopAt build blockSize blockCount d) := by
  apply Solves.of_unfold
  intro s dev
  unfold chainLoopAt chainTurn guarded
  rw [Rust.chainLoop]
  by_cases ended : s.next = nullBlockIndex
  · rw [if_pos ended, if_pos ended]
    rfl
  by_cases stale : s.next ≥ blockCount ∨ s.next ∈ s.visited
  · rw [if_neg ended, if_neg ended, dif_pos stale, if_pos stale]
    rfl
  rw [if_neg ended, if_neg ended, dif_neg stale, if_neg stale, chainVisit, Proc.bind_assoc_apply]
  apply Proc.bind_congr_ok
  intro buf after _
  rw [Proc.bind_assoc_apply]
  apply Proc.bind_congr_ok
  intro found after' _
  cases found with
  | none => rfl
  | some chunk =>
      obtain ⟨payload, nextChunk⟩ := chunk
      simp only []
      rw [Proc.bind_assoc_apply]
      rfl

theorem freeChain_solves (blockCount : Nat) (free : Bytes) :
    Solves (freeTurn (D := D) blockCount free) (freeChainAt blockCount free) := by
  apply Solves.of_unfold
  intro s dev
  unfold freeChainAt freeTurn guarded
  rw [Rust.freeChain]
  by_cases ended : s.next = nullBlockIndex
  · rw [if_pos ended, if_pos ended]
    rfl
  by_cases stale : s.next ≥ blockCount ∨ s.next ∈ s.visited
  · rw [if_neg ended, if_neg ended, dif_pos stale, if_pos stale]
    rfl
  rw [if_neg ended, if_neg ended, dif_neg stale, if_neg stale, freeVisit, Proc.bind_assoc_apply]
  apply Proc.bind_congr_ok
  intro buf after _
  rw [Proc.bind_assoc_apply]
  apply Proc.bind_congr_ok
  intro header after' _
  by_cases ok : header.2 = true
  · simp only [ok, Bool.not_true, Bool.false_eq_true, if_false]
    rw [Proc.bind_assoc_apply]
    rfl
  · simp only [ok, Bool.not_false, if_true]
    rfl

/-! ## What a turn that goes on has done -/

theorem chainTurn_again {build : Rust.Build} {blockSize blockCount d : Nat} {s s' : ChainState}
    {dev dev' : D} (went : chainTurn build blockSize blockCount d s dev = (.ok (.again s'), dev')) :
    Fresh blockCount s.next s.visited ∧ ∃ buf payload,
      BlockDevice.readBlock s.next dev = (.ok buf, dev') ∧
      Rust.readChunk build blockSize d s.expectedIdx buf = .ok (some (payload, s'.next)) ∧
      Rust.u32Add build s.expectedIdx 1 = .ok s'.expectedIdx ∧
      s'.visited = insert s.next s.visited ∧
      s'.record = { s.record with
        value := s.record.value ++ payload
        chunkBlocks := s.record.chunkBlocks ++ [s.next] } := by
  obtain ⟨fresh, visited⟩ := guarded_again went
  obtain ⟨buf, dev₁, read, rest⟩ := Proc.bind_ran visited
  obtain ⟨found, dev₂, check, rest⟩ := Proc.bind_ran rest
  obtain ⟨checked, rfl⟩ := Proc.ofExcept_ran check
  cases found with
  | none => cases rest
  | some chunk =>
      obtain ⟨following, dev₃, bump, rest⟩ := Proc.bind_ran rest
      obtain ⟨bumped, rfl⟩ := Proc.ofExcept_ran bump
      cases rest
      exact ⟨fresh, buf, chunk.1, read, checked, bumped, rfl, rfl⟩

/-- The record is handed out as the turns before have built it. -/
theorem chainTurn_done {build : Rust.Build} {blockSize blockCount d idx : Nat} {s : ChainState}
    {rec : CompleteRecord} {dev dev' : D}
    (ran : chainTurn build blockSize blockCount d s dev =
      (.ok (.done (some (rec, idx))), dev')) : rec = s.record := by
  rcases guarded_done ran with ended | refused | visited
  · cases ended
    rfl
  · cases refused
  · obtain ⟨buf, dev₁, _, rest⟩ := Proc.bind_ran visited
    obtain ⟨found, dev₂, _, rest⟩ := Proc.bind_ran rest
    cases found with
    | none => cases rest
    | some chunk =>
        obtain ⟨following, dev₃, _, rest⟩ := Proc.bind_ran rest
        cases rest

theorem chainTurn_failed {build : Rust.Build} {blockSize blockCount d : Nat} {s : ChainState}
    {failure : Failure} {dev dev' : D}
    (ran : chainTurn build blockSize blockCount d s dev = (.error failure, dev')) :
    Fresh blockCount s.next s.visited ∧
      (BlockDevice.readBlock s.next dev = (.error failure, dev') ∨
        ∃ buf, BlockDevice.readBlock s.next dev = (.ok buf, dev') ∧
          (Rust.readChunk build blockSize d s.expectedIdx buf = .error failure ∨
            Rust.u32Add build s.expectedIdx 1 = .error failure)) := by
  obtain ⟨fresh, visited⟩ := guarded_failed ran
  refine ⟨fresh, ?_⟩
  rcases Proc.bind_failed visited with unread | ⟨buf, dev₁, read, rest⟩
  · exact .inl unread
  right
  rcases Proc.bind_failed rest with check | ⟨found, dev₂, check, rest⟩
  · obtain ⟨unchecked, rfl⟩ := Prod.mk.inj check
    exact ⟨buf, read, .inl unchecked⟩
  obtain ⟨_, rfl⟩ := Proc.ofExcept_ran check
  cases found with
  | none => cases rest
  | some chunk =>
      rcases Proc.bind_failed rest with bump | ⟨_, _, _, rest⟩
      · obtain ⟨unbumped, rfl⟩ := Prod.mk.inj bump
        exact ⟨buf, read, .inr unbumped⟩
      · cases rest

/-- A turn does no more to the device than reading the next block does. -/
theorem chainTurn_store (build : Rust.Build) (blockSize blockCount d : Nat) (s : ChainState)
    (dev : D) : (chainTurn build blockSize blockCount d s dev).2 = dev ∨
      Fresh blockCount s.next s.visited ∧
        (chainTurn build blockSize blockCount d s dev).2 = (BlockDevice.readBlock s.next dev).2 := by
  unfold chainTurn
  rcases guarded_cases (σ := ChainState) blockCount s.next s.visited
    (some (s.record, s.expectedIdx)) none with ⟨result, stops⟩ | ⟨fresh, visits⟩
  · rw [stops]
    exact .inl rfl
  · rw [visits]
    refine .inr ⟨fresh, ?_⟩
    rcases read : BlockDevice.readBlock s.next dev with ⟨outcome, after⟩
    cases outcome with
    | error failure => rw [chainVisit, Proc.bind_error read]
    | ok buf =>
        rw [chainVisit, Proc.bind_ok read]
        cases Rust.readChunk build blockSize d s.expectedIdx buf with
        | error failure => rfl
        | ok found =>
            rw [Proc.ofExcept_ok_bind_apply]
            cases found with
            | none => rfl
            | some chunk =>
                cases Rust.u32Add build s.expectedIdx 1 with
                | error failure => rfl
                | ok following => rfl

theorem freeTurn_again {blockCount : Nat} {free : Bytes} {s s' : FreeState} {dev dev' : D}
    (went : freeTurn blockCount free s dev = (.ok (.again s'), dev')) :
    Fresh blockCount s.next s.visited ∧ s'.visited = insert s.next s.visited ∧
      ∃ buf middle, BlockDevice.readBlock s.next dev = (.ok buf, middle) ∧
        BlockDevice.writeBlock s.next free middle = (.ok (), dev') := by
  obtain ⟨fresh, visited⟩ := guarded_again went
  obtain ⟨buf, middle, read, rest⟩ := Proc.bind_ran visited
  obtain ⟨header, middle', unmarshalled, rest⟩ := Proc.bind_ran rest
  obtain ⟨_, rfl⟩ := Proc.ofExcept_ran unmarshalled
  by_cases ok : header.2 = true
  · simp only [ok, Bool.not_true, Bool.false_eq_true, if_false] at rest
    obtain ⟨_, dev'', wrote, rest⟩ := Proc.bind_ran rest
    cases rest
    exact ⟨fresh, rfl, buf, middle, read, wrote⟩
  · simp only [ok, Bool.not_false, if_true] at rest
    cases rest

/-- A loop that goes on has visited one more block of the device. -/
structure Visits {σ τ α : Type} (blockCount : Nat) (next : σ → Nat) (visited : σ → Finset Nat)
    (turn : σ → Proc Failure τ (Turn σ α)) : Prop where
  fresh : ∀ {s s' store after}, turn s store = (.ok (.again s'), after) →
    Fresh blockCount (next s) (visited s)
  grows : ∀ {s s' store after}, turn s store = (.ok (.again s'), after) →
    visited s' = insert (next s) (visited s)

theorem chainTurn_visits (build : Rust.Build) (blockSize blockCount d : Nat) :
    Visits blockCount ChainState.next ChainState.visited
      (chainTurn (D := D) build blockSize blockCount d) where
  fresh went := (chainTurn_again went).1
  grows went := by
    obtain ⟨_, _, _, _, _, _, grown, _⟩ := chainTurn_again went
    exact grown

theorem freeTurn_visits (blockCount : Nat) (free : Bytes) :
    Visits blockCount FreeState.next FreeState.visited (freeTurn (D := D) blockCount free) where
  fresh went := (freeTurn_again went).1
  grows went := (freeTurn_again went).2.1

/-- The blocks of the device that are not visited yet. -/
def unvisited (blockCount : Nat) (visited : Finset Nat) : Nat :=
  (Finset.range blockCount \ visited).card

theorem unvisited_le (blockCount : Nat) (visited : Finset Nat) :
    unvisited blockCount visited ≤ blockCount := by
  have bound := Finset.card_le_card (Finset.sdiff_subset : Finset.range blockCount \ visited ⊆ _)
  rwa [Finset.card_range] at bound

theorem Visits.lowers {σ τ α : Type} {blockCount : Nat} {next : σ → Nat} {visited : σ → Finset Nat}
    {turn : σ → Proc Failure τ (Turn σ α)} (visits : Visits blockCount next visited turn) :
    Lowers turn fun s => unvisited blockCount (visited s) := by
  intro s s' store after went
  have fewer := unvisited_decreases (visits.fresh went)
  rwa [← visits.grows went] at fewer

theorem chainLoop_endsWithin (build : Rust.Build) (blockSize blockCount d : Nat) (s : ChainState)
    (dev : D) : EndsWithin (chainTurn build blockSize blockCount d) blockCount s dev
      (chainLoopAt build blockSize blockCount d s dev) :=
  (chainLoop_solves build blockSize blockCount d).endsWithin
    (chainTurn_visits build blockSize blockCount d).lowers (unvisited_le _ _) dev

theorem freeChain_endsWithin (blockCount : Nat) (free : Bytes) (s : FreeState) (dev : D) :
    EndsWithin (freeTurn blockCount free) blockCount s dev (freeChainAt blockCount free s dev) :=
  (freeChain_solves blockCount free).endsWithin (freeTurn_visits blockCount free).lowers
    (unvisited_le _ _) dev

/-! ## The counter and the value -/

theorem slice_length_le {buf part : Bytes} {start stop : Nat}
    (cut : slice buf start stop = .ok part) : part.length ≤ stop - start := by
  unfold slice at cut
  split at cut
  next =>
    cases cut
    rw [List.length_drop, List.length_take]
    omega
  next => cases cut

theorem readChunk_payload {build : Rust.Build} {blockSize d idx link : Nat} {buf payload : Bytes}
    (large : 36 ≤ blockSize)
    (read : Rust.readChunk build blockSize d idx buf = .ok (some (payload, link))) :
    payload.length ≤ blockSize := by
  have capacity := Image.rust_chunkPayloadCapacity build blockSize (by omega)
  simp only [Rust.readChunk, capacity, bind, Except.bind, pure, Except.pure] at read
  -- Only the branch behind every check returns a payload.
  repeat' split at read
  all_goals cases read
  next fits _ cut =>
    have short := slice_length_le cut
    omega

theorem readDescriptor_value {build : Rust.Build} {blockSize d : Nat} {buf : Bytes}
    {head : CompleteRecord} (large : 36 ≤ blockSize)
    (read : Rust.readDescriptor build blockSize d buf = .ok (some head)) :
    head.value.length ≤ blockSize := by
  have room := Image.rust_keyRoom build large
  simp only [Rust.readDescriptor, room, bind, Except.bind, pure, Except.pure] at read
  repeat' split at read
  all_goals cases read
  next header _ _ _ keyFits _ cap found fits _ _ _ _ _ value cut =>
    have capacity := Image.rust_firstPayloadCapacity build blockSize header.1.keySize.toNat
      (by omega)
    rw [capacity] at found
    cases found
    have short := slice_length_le cut
    simp only
    omega

/-- The counter is the number of visited blocks, the descriptor among them. -/
structure Tallied (blockCount : Nat) (s : ChainState) : Prop where
  card : s.visited.card = s.expectedIdx
  inRange : s.visited ⊆ Finset.range blockCount

namespace Tallied

variable {blockCount : Nat} {s s' : ChainState}

theorem le_blockCount (tallied : Tallied blockCount s) : s.expectedIdx ≤ blockCount := by
  have bound := Finset.card_le_card tallied.inRange
  rwa [tallied.card, Finset.card_range] at bound

theorem visit (tallied : Tallied blockCount s) (fresh : Fresh blockCount s.next s.visited) :
    (insert s.next s.visited).card = s.expectedIdx + 1 ∧
      insert s.next s.visited ⊆ Finset.range blockCount := by
  constructor
  · rw [Finset.card_insert_of_notMem fresh.unseen, tallied.card]
  · exact Finset.insert_subset (Finset.mem_range.mpr fresh.inside) tallied.inRange

/-- Where a block is left to visit, no build wraps or unwinds at the counter. -/
theorem bump (tallied : Tallied blockCount s) (fresh : Fresh blockCount s.next s.visited)
    (count_lt : blockCount < 2 ^ 32) (build : Rust.Build) :
    Rust.u32Add build s.expectedIdx 1 = .ok (s.expectedIdx + 1) := by
  obtain ⟨card, inRange⟩ := tallied.visit fresh
  have bound := Finset.card_le_card inRange
  rw [card, Finset.card_range] at bound
  exact Image.rust_u32Add_ok (by omega)

theorem turn (tallied : Tallied blockCount s) {build : Rust.Build} {blockSize d : Nat}
    {dev dev' : D} (count_lt : blockCount < 2 ^ 32)
    (went : chainTurn build blockSize blockCount d s dev = (.ok (.again s'), dev')) :
    s'.expectedIdx = s.expectedIdx + 1 ∧ Tallied blockCount s' := by
  obtain ⟨fresh, _, _, _, _, bumped, grown, _⟩ := chainTurn_again went
  obtain ⟨card, inRange⟩ := tallied.visit fresh
  rw [tallied.bump fresh count_lt build] at bumped
  have index := (Except.ok.inj bumped).symm
  rw [← grown] at card inRange
  exact ⟨index, card.trans index.symm, inRange⟩

end Tallied

/-- After `n` turns the counter is one more than the turns, and each visited
block gave at most a block of the value. -/
structure ChainCount (blockSize blockCount n : Nat) (s : ChainState) : Prop
    extends Tallied blockCount s where
  index : s.expectedIdx = n + 1
  value : s.record.value.length ≤ (n + 1) * blockSize

theorem ChainCount.value_le {blockSize blockCount n : Nat} {s : ChainState}
    (count : ChainCount blockSize blockCount n s) :
    s.record.value.length ≤ blockSize * blockCount := by
  have bound := count.le_blockCount
  rw [count.index] at bound
  calc s.record.value.length
      ≤ (n + 1) * blockSize := count.value
    _ ≤ blockCount * blockSize := Nat.mul_le_mul_right _ bound
    _ = blockSize * blockCount := Nat.mul_comm _ _

/-- The loop variables when the loop is entered with the descriptor's record. -/
def chainStart (d : Nat) (head : CompleteRecord) : ChainState where
  next := head.header.nextChunk.toNat
  expectedIdx := 1
  visited := {d}
  record := head

theorem ChainCount.start {blockSize blockCount d : Nat} {head : CompleteRecord}
    (inside : d < blockCount) (first : head.value.length ≤ blockSize) :
    ChainCount blockSize blockCount 0 (chainStart d head) where
  card := Finset.card_singleton d
  inRange := Finset.singleton_subset_iff.mpr (Finset.mem_range.mpr inside)
  index := rfl
  value := by
    rw [Nat.zero_add, Nat.one_mul]
    exact first

theorem ChainCount.turn {build : Rust.Build} {blockSize blockCount d n : Nat} {s s' : ChainState}
    {dev dev' : D} (large : 36 ≤ blockSize) (count_lt : blockCount < 2 ^ 32)
    (count : ChainCount blockSize blockCount n s)
    (went : chainTurn build blockSize blockCount d s dev = (.ok (.again s'), dev')) :
    ChainCount blockSize blockCount (n + 1) s' := by
  obtain ⟨_, _, payload, _, read, _, _, grew⟩ := chainTurn_again went
  obtain ⟨index, tallied⟩ := count.toTallied.turn count_lt went
  refine ⟨tallied, index.trans (congrArg (· + 1) count.index), ?_⟩
  have short := readChunk_payload large read
  have before := count.value
  rw [grew, List.length_append, Nat.add_mul _ 1, Nat.one_mul]
  omega

theorem chainLoop_counts {build : Rust.Build} {blockSize blockCount d n : Nat}
    {head : CompleteRecord} {s : ChainState} {dev dev' : D} (large : 36 ≤ blockSize)
    (count_lt : blockCount < 2 ^ 32) (inside : d < blockCount)
    (first : head.value.length ≤ blockSize)
    (arrives : Arrives (chainTurn build blockSize blockCount d) (chainStart d head) dev n s dev') :
    ChainCount blockSize blockCount n s := by
  refine Arrives.invariant (fun n s _ => ChainCount blockSize blockCount n s) ?_ ?_ arrives
  · exact ChainCount.start inside first
  · intro n s s' store after count went
    exact count.turn large count_lt went

theorem chainLoop_value {build : Rust.Build} {blockSize blockCount d idx : Nat}
    {head rec : CompleteRecord} {dev : D} (large : 36 ≤ blockSize)
    (count_lt : blockCount < 2 ^ 32) (inside : d < blockCount)
    (first : head.value.length ≤ blockSize)
    (answer : (chainLoopAt build blockSize blockCount d (chainStart d head) dev).1 =
      .ok (some (rec, idx))) : rec.value.length ≤ blockSize * blockCount := by
  obtain ⟨n, s, store, arrives, final⟩ := (chainLoop_solves build blockSize blockCount d).final
    (chainTurn_visits build blockSize blockCount d).lowers (chainStart d head) dev
  rw [chainTurn_done (final.answered answer)]
  exact (chainLoop_counts large count_lt inside first arrives).value_le

/-! ## The validator around its loop -/

/-- An accepted record is the descriptor's own or what the loop made of it. -/
theorem verify_inv {build : Rust.Build} {d : Nat} {rec : CompleteRecord} {dev : D}
    (verified : (Rust.verifyAndReadRecord build d dev).1 = .ok (some rec)) :
    ∃ buf dev' head, BlockDevice.readBlock d dev = (.ok buf, dev') ∧
      Rust.readDescriptor build (BlockDevice.blockSize dev) d buf = .ok (some head) ∧
      (rec = head ∨ ∃ idx, (chainLoopAt build (BlockDevice.blockSize dev)
        (BlockDevice.blockCount dev') d (chainStart d head) dev').1 = .ok (some (rec, idx))) := by
  have size : blockSizeOf dev = (.ok (BlockDevice.blockSize dev), dev) := rfl
  rw [Rust.verifyAndReadRecord, Proc.bind_ok size] at verified
  obtain ⟨buf, dev', read, rest⟩ := Proc.bind_eq_ok verified
  obtain ⟨found, _, check, rest⟩ := Proc.bind_eq_ok rest
  obtain ⟨checked, rfl⟩ := Proc.ofExcept_ran check
  cases found with
  | none => cases rest
  | some head =>
      refine ⟨buf, dev', head, read, checked, ?_⟩
      simp only [] at rest
      split at rest
      next =>
        split at rest
        next => cases rest
        next =>
          cases rest
          exact .inl rfl
      next =>
        split at rest
        next => cases rest
        next =>
          have count : blockCountOf dev' = (.ok (BlockDevice.blockCount dev'), dev') := rfl
          rw [Proc.bind_ok count] at rest
          obtain ⟨walked, _, ran, rest⟩ := Proc.bind_eq_ok rest
          cases walked with
          | none => cases rest
          | some grown =>
              simp only [] at rest
              split at rest
              next => cases rest
              next =>
                split at rest
                next => cases rest
                next =>
                  cases rest
                  exact .inr ⟨grown.2, congrArg Prod.fst ran⟩

/-- The validator leaves the device as its first read or as its loop does. -/
theorem verify_store (build : Rust.Build) (d : Nat) (dev : D) :
    (Rust.verifyAndReadRecord build d dev).2 = (BlockDevice.readBlock d dev).2 ∨
      ∃ head, (Rust.verifyAndReadRecord build d dev).2 =
        (chainLoopAt build (BlockDevice.blockSize dev)
          (BlockDevice.blockCount (BlockDevice.readBlock d dev).2) d (chainStart d head)
          (BlockDevice.readBlock d dev).2).2 := by
  have size : blockSizeOf dev = (.ok (BlockDevice.blockSize dev), dev) := rfl
  rw [Rust.verifyAndReadRecord, Proc.bind_ok size]
  rcases read : BlockDevice.readBlock d dev with ⟨outcome, dev'⟩
  cases outcome with
  | error failure =>
      rw [Proc.bind_error read]
      exact .inl rfl
  | ok buf =>
      rw [Proc.bind_ok read]
      cases Rust.readDescriptor build (BlockDevice.blockSize dev) d buf with
      | error failure => exact .inl rfl
      | ok found =>
          rw [Proc.ofExcept_ok_bind_apply]
          cases found with
          | none => exact .inl rfl
          | some head =>
              simp only []
              split
              next => split <;> exact .inl rfl
              next =>
                split
                next => exact .inl rfl
                next =>
                  have count : blockCountOf dev' = (.ok (BlockDevice.blockCount dev'), dev') := rfl
                  rw [Proc.bind_ok count]
                  refine .inr ⟨head, Eq.symm ?_⟩
                  -- What comes behind the loop only looks at its answer.
                  apply Proc.bind_keeps rfl
                  intro walked after left
                  cases walked with
                  | none => exact left
                  | some grown =>
                      simp only []
                      split
                      next => exact left
                      next => split <;> exact left

end

end Embedkv.ChainWalk
