import Embedkv.ChainWalk

/-!
# A device that logs its reads

The device does what the device in it does, and keeps a list of the blocks that
were read. What the two calls do on it is what they do on the device in it, so
the list is what they read there. A walk reads blocks of the device, no block
twice, and none that it held for visited when it began.
-/

namespace Embedkv.Trace

open Embedkv.Lib Embedkv.Lib.Loop Embedkv.Format Embedkv.Device Embedkv.State Embedkv.ChainWalk

set_option autoImplicit false

/-- A device together with the blocks read from it so far. -/
structure Traced (D : Type) where
  dev : D
  reads : List Nat

namespace Traced

variable {D : Type} [BlockDevice D]

instance : BlockDevice (Traced D) where
  blockSize t := BlockDevice.blockSize t.dev
  blockCount t := BlockDevice.blockCount t.dev
  readBlock index := fun t =>
    ((BlockDevice.readBlock index t.dev).1,
      { dev := (BlockDevice.readBlock index t.dev).2, reads := t.reads ++ [index] })
  writeBlock index buf := Proc.zoom Traced.dev (fun t dev => { t with dev := dev })
    (BlockDevice.writeBlock index buf)
  flush := Proc.zoom Traced.dev (fun t dev => { t with dev := dev }) BlockDevice.flush

/-- Nothing is read yet. -/
def start (dev : D) : Traced D := { dev := dev, reads := [] }

/-- The blocks read so far are these. -/
def HasRead (reads : List Nat) (t : Traced D) : Prop := t.reads = reads

theorem readBlock_reads (index : Nat) (t : Traced D) :
    HasRead (t.reads ++ [index]) (BlockDevice.readBlock index t).2 := rfl

theorem readBlock_mirrors (index : Nat) :
    Mirrors Traced.dev (BlockDevice.readBlock index : Proc Failure (Traced D) Bytes)
      (BlockDevice.readBlock index) := fun _ => ⟨rfl, rfl⟩

theorem writeBlock_mirrors (index : Nat) (buf : Bytes) :
    Mirrors Traced.dev (BlockDevice.writeBlock index buf : Proc Failure (Traced D) Unit)
      (BlockDevice.writeBlock index buf) := fun _ => ⟨rfl, rfl⟩

theorem blockSizeOf_mirrors :
    Mirrors Traced.dev (blockSizeOf : Proc Failure (Traced D) Nat) blockSizeOf :=
  fun _ => ⟨rfl, rfl⟩

theorem blockCountOf_mirrors :
    Mirrors Traced.dev (blockCountOf : Proc Failure (Traced D) Nat) blockCountOf :=
  fun _ => ⟨rfl, rfl⟩

theorem guarded_mirrors {ω τ σ α : Type} {view : ω → τ} (blockCount next : Nat)
    (visited : Finset Nat) (ended refused : α) {outer : Proc Failure ω (Turn σ α)}
    {inner : Proc Failure τ (Turn σ α)} (visit : Mirrors view outer inner) :
    Mirrors view (guarded blockCount next visited ended refused outer)
      (guarded blockCount next visited ended refused inner) := by
  rcases guarded_cases (σ := σ) blockCount next visited ended refused with
    ⟨result, stops⟩ | ⟨_, visits⟩
  · rw [stops, stops]
    exact .pure _
  · rw [visits, visits]
    exact visit

theorem chainTurn_mirrors (build : Rust.Build) (blockSize blockCount d : Nat) (s : ChainState) :
    Mirrors Traced.dev (chainTurn (D := Traced D) build blockSize blockCount d s)
      (chainTurn build blockSize blockCount d s) := by
  apply guarded_mirrors
  apply (readBlock_mirrors s.next).bind
  intro buf
  apply Mirrors.bind (.ofExcept _)
  intro found
  cases found with
  | none => exact .pure _
  | some chunk =>
      apply Mirrors.bind (.ofExcept _)
      intro following
      exact .pure _

theorem freeTurn_mirrors (blockCount : Nat) (free : Bytes) (s : FreeState) :
    Mirrors Traced.dev (freeTurn (D := Traced D) blockCount free s) (freeTurn blockCount free s) := by
  apply guarded_mirrors
  apply (readBlock_mirrors s.next).bind
  intro buf
  apply Mirrors.bind (.ofExcept _)
  intro header
  by_cases ok : header.2 = true
  · simp only [ok, Bool.not_true, Bool.false_eq_true, if_false]
    apply (writeBlock_mirrors s.next free).bind
    intro _
    exact .pure _
  · simp only [ok, Bool.not_false, if_true]
    exact .pure _

theorem chainLoop_mirrors (build : Rust.Build) (blockSize blockCount d : Nat) (s : ChainState) :
    Mirrors Traced.dev (chainLoopAt (D := Traced D) build blockSize blockCount d s)
      (chainLoopAt build blockSize blockCount d s) :=
  .of_turns (chainLoop_solves build blockSize blockCount d)
    (chainLoop_solves build blockSize blockCount d)
    (chainTurn_visits build blockSize blockCount d).lowers
    (chainTurn_visits build blockSize blockCount d).lowers
    (chainTurn_mirrors build blockSize blockCount d) s

theorem freeChain_mirrors (blockCount : Nat) (free : Bytes) (s : FreeState) :
    Mirrors Traced.dev (freeChainAt (D := Traced D) blockCount free s)
      (freeChainAt blockCount free s) :=
  .of_turns (freeChain_solves blockCount free) (freeChain_solves blockCount free)
    (freeTurn_visits blockCount free).lowers (freeTurn_visits blockCount free).lowers
    (freeTurn_mirrors blockCount free) s

theorem verifyAndReadRecord_mirrors (build : Rust.Build) (d : Nat) :
    Mirrors Traced.dev (Rust.verifyAndReadRecord (D := Traced D) build d)
      (Rust.verifyAndReadRecord build d) := by
  unfold Rust.verifyAndReadRecord
  apply blockSizeOf_mirrors.bind
  intro blockSize
  apply (readBlock_mirrors d).bind
  intro buf
  apply Mirrors.bind (.ofExcept _)
  intro found
  cases found with
  | none => exact .pure _
  | some head =>
      simp only []
      split
      next =>
        split
        next => exact .pure _
        next => exact .pure _
      next =>
        split
        next => exact .pure _
        next =>
          apply blockCountOf_mirrors.bind
          intro blockCount
          apply (chainLoop_mirrors build blockSize blockCount d (chainStart d head)).bind
          intro walked
          cases walked with
          | none => exact .pure _
          | some grown =>
              simp only []
              split
              next => exact .pure _
              next =>
                split
                next => exact .pure _
                next => exact .pure _

theorem freeRecord_mirrors (d : Nat) (pattern : UInt8) :
    Mirrors Traced.dev (Rust.freeRecord (D := Traced D) d pattern) (Rust.freeRecord d pattern) := by
  unfold Rust.freeRecord
  apply blockSizeOf_mirrors.bind
  intro blockSize
  apply blockCountOf_mirrors.bind
  intro blockCount
  apply (readBlock_mirrors d).bind
  intro buf
  apply Mirrors.bind (.ofExcept _)
  intro header
  simp only []
  split
  next => exact .ofExcept (.error _)
  next =>
    apply (writeBlock_mirrors d _).bind
    intro _
    exact freeChain_mirrors blockCount _ ⟨header.1.nextChunk.toNat, ∅⟩

end Traced

/-- What the call does on the logging device, given what it has read. -/
theorem Traced.eq_of_mirrors {D α : Type} {outer : Proc Failure (Traced D) α}
    {inner : Proc Failure D α} (mirrors : Mirrors Traced.dev outer inner) {dev : D} {reads : List Nat}
    (read : (outer (Traced.start dev)).2.reads = reads) :
    outer (Traced.start dev) = ((inner dev).1, { dev := (inner dev).2, reads := reads }) := by
  obtain ⟨same, seen⟩ := mirrors (Traced.start dev)
  change _ = (inner dev).1 at same
  change _ = (inner dev).2 at seen
  rw [← same, ← seen, ← read]

theorem Traced.readBlock_start {D : Type} [BlockDevice D] [LawfulBlockDevice D] (index : Nat)
    (dev : D) :
    BlockDevice.readBlock index (Traced.start dev) =
      ((BlockDevice.readBlock index dev).1, { dev := dev, reads := [index] }) := by
  change ((BlockDevice.readBlock index dev).1,
    Traced.mk (BlockDevice.readBlock index dev).2 [index]) = _
  rw [readBlock_still]

/-! ## What a walk reads -/

/-- Since a walk began with some blocks visited, it has read `chunks`: different
blocks of the device that it had not visited, and has visited since. -/
structure Logged (blockCount : Nat) (start : Finset Nat) (before : List Nat) (visited : Finset Nat)
    (reads chunks : List Nat) : Prop where
  reads : reads = before ++ chunks
  distinct : chunks.Nodup
  inside : ∀ c ∈ chunks, c < blockCount
  apart : ∀ c ∈ chunks, c ∉ start
  visited : visited = start ∪ chunks.toFinset

namespace Logged

variable {blockCount : Nat} {start visited : Finset Nat} {before reads chunks : List Nat}

theorem begin (blockCount : Nat) (start : Finset Nat) (before : List Nat) :
    Logged blockCount start before start before [] where
  reads := (List.append_nil before).symm
  distinct := List.nodup_nil
  inside := by simp
  apart := by simp
  visited := by simp

theorem next (logged : Logged blockCount start before visited reads chunks) {next : Nat}
    (fresh : Fresh blockCount next visited) :
    Logged blockCount start before (insert next visited) (reads ++ [next]) (chunks ++ [next]) := by
  have unseen := fresh.unseen
  rw [logged.visited, Finset.mem_union, not_or, List.mem_toFinset] at unseen
  refine ⟨?_, ?_, ?_, ?_, ?_⟩
  · rw [logged.reads, List.append_assoc]
  · rw [List.nodup_append]
    refine ⟨logged.distinct, List.nodup_singleton next, ?_⟩
    intro c member other last same
    rw [List.mem_singleton.mp last] at same
    rw [same] at member
    exact unseen.2 member
  · intro c member
    rcases List.mem_append.mp member with old | last
    · exact logged.inside c old
    · rw [List.mem_singleton.mp last]
      exact fresh.inside
  · intro c member
    rcases List.mem_append.mp member with old | last
    · exact logged.apart c old
    · rw [List.mem_singleton.mp last]
      exact unseen.1
  · rw [logged.visited, List.toFinset_append, Finset.insert_eq, Finset.union_comm,
      Finset.union_assoc]
    rfl

theorem length_le (logged : Logged blockCount start before visited reads chunks) :
    chunks.length ≤ blockCount := by
  have inside : chunks ⊆ List.range blockCount :=
    fun c member => List.mem_range.mpr (logged.inside c member)
  have bound := (List.subperm_of_subset logged.distinct inside).length_le
  rwa [List.length_range] at bound

end Logged

section
variable {D σ α : Type}

/-- Each turn that goes on reads the block it visits, and the last turn reads at
most one block that is not visited yet. -/
structure Logs (blockCount : Nat) (next : σ → Nat) (visited : σ → Finset Nat)
    (turn : σ → Proc Failure (Traced D) (Turn σ α)) : Prop
    extends Visits blockCount next visited turn where
  again : ∀ {s s' t t'}, turn s t = (.ok (.again s'), t') → t'.reads = t.reads ++ [next s]
  turn : ∀ s t, (turn s t).2.reads = t.reads ∨
    Fresh blockCount (next s) (visited s) ∧ (turn s t).2.reads = t.reads ++ [next s]

theorem Logs.loop {blockCount : Nat} {next : σ → Nat} {visited : σ → Finset Nat}
    {turn : σ → Proc Failure (Traced D) (Turn σ α)} {loop : σ → Proc Failure (Traced D) α}
    (logs : Logs blockCount next visited turn) (solves : Solves turn loop) (s : σ) (t : Traced D) :
    ∃ visited' chunks,
      Logged blockCount (visited s) t.reads visited' (loop s t).2.reads chunks := by
  obtain ⟨n, here, store, arrives, final⟩ := solves.final logs.lowers s t
  have logged : ∃ chunks,
      Logged blockCount (visited s) t.reads (visited here) store.reads chunks := by
    refine Arrives.invariant (fun _ here store => ∃ chunks,
      Logged blockCount (visited s) t.reads (visited here) store.reads chunks) ?_ ?_ arrives
    · exact ⟨[], .begin _ _ _⟩
    · rintro n here following store after ⟨chunks, logged⟩ went
      rw [logs.grows went, logs.again went]
      exact ⟨_, logged.next (logs.fresh went)⟩
  obtain ⟨chunks, logged⟩ := logged
  rw [final.store]
  rcases logs.turn here store with same | ⟨fresh, read⟩
  · rw [same]
    exact ⟨_, chunks, logged⟩
  · rw [read]
    exact ⟨_, _, logged.next fresh⟩

end

open Traced

theorem guarded_reads {D σ α : Type} {blockCount next : Nat} {visited : Finset Nat}
    (ended refused : α) {visit : Proc Failure (Traced D) (Turn σ α)} {t : Traced D}
    (reads : HasRead (t.reads ++ [next]) (visit t).2) :
    HasRead t.reads (guarded blockCount next visited ended refused visit t).2 ∨
      Fresh blockCount next visited ∧
        HasRead (t.reads ++ [next]) (guarded blockCount next visited ended refused visit t).2 := by
  rcases guarded_cases (σ := σ) blockCount next visited ended refused with
    ⟨result, stops⟩ | ⟨fresh, visits⟩
  · rw [stops]
    exact .inl rfl
  · rw [visits]
    exact .inr ⟨fresh, reads⟩

section
variable {D : Type} [BlockDevice D]

theorem chainTurn_logs (build : Rust.Build) (blockSize blockCount d : Nat) :
    Logs blockCount ChainState.next ChainState.visited
      (chainTurn (D := Traced D) build blockSize blockCount d) where
  toVisits := chainTurn_visits build blockSize blockCount d
  again went := by
    obtain ⟨_, _, _, read, _⟩ := chainTurn_again went
    exact (congrArg (fun ended => ended.2.reads) read).symm
  turn s t := by
    rcases chainTurn_store build blockSize blockCount d s t with same | ⟨fresh, read⟩
    · rw [same]
      exact .inl rfl
    · rw [read]
      exact .inr ⟨fresh, Traced.readBlock_reads s.next t⟩

theorem freeTurn_logs (blockCount : Nat) (free : Bytes) :
    Logs blockCount FreeState.next FreeState.visited
      (freeTurn (D := Traced D) blockCount free) where
  toVisits := freeTurn_visits blockCount free
  again went := by
    obtain ⟨_, _, buf, middle, read, wrote⟩ := freeTurn_again went
    have unread := congrArg (fun ended => ended.2.reads) wrote
    have logged := congrArg (fun ended => ended.2.reads) read
    exact unread.symm.trans logged.symm
  turn s t := by
    apply guarded_reads
    -- One read comes first; what follows it writes at most.
    apply Proc.bind_keeps (Traced.readBlock_reads s.next t)
    intro buf middle read
    apply Proc.bind_keeps read
    intro header middle read
    by_cases ok : header.2 = true
    · simp only [ok, Bool.not_true, Bool.false_eq_true, if_false]
      apply Proc.bind_keeps read
      intro _ middle read
      exact read
    · simp only [ok, Bool.not_false, if_true]
      exact read

end

end Embedkv.Trace
