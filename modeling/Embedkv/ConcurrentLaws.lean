import Embedkv.Concurrent
import Embedkv.FileRelayLaws

/-!
# What goroutines may rely on

Whatever the blocks of the devices hold and whichever calls on them fail, the
requests of goroutines are atomic, no request waits for ever on another, and two
requests that are inside together change nothing. On fresh files the goroutines
share a map within a budget. What they may not do is write from the callback of
an `Iterate`.
-/

namespace Embedkv.ConcurrentLaws

open Embedkv.Lib Embedkv.Format Embedkv.Device Embedkv.State Embedkv.Image Embedkv.Record
open Embedkv.Recovery Embedkv.Session Embedkv.Exact Embedkv.Lockstep Embedkv.Run Embedkv.Steady
open Embedkv.MapLaws Embedkv.Stores Embedkv.AgreeLaws Embedkv.Ledger Embedkv.RelayLaws
open Embedkv.Spelling Embedkv.Parallel Embedkv.Files Embedkv.FileLaws Embedkv.FileRelayLaws
open Embedkv.Concurrent

set_option autoImplicit false

/-- The store, where each goroutine stands, and what its calls are yet to ask. -/
abbrev Scene (T D : Type) : Type := Locked.State T storePort (Store D) Request Reply

/-- A history of requests and replies. -/
abbrev History (T : Type) : Type := List (Event T Request Reply)

section
variable {T D : Type} [DecidableEq T] [BlockDevice D] {s : Store D} {scene : Scene T D}
  {trace : History T}

/-- On any device that reading leaves as it is, each request takes effect at one
instant between its call and its return, and with no writer inside the store is
the one that these effects give. -/
theorem requests_atomic [StillBlockDevice D]
    (run : Reaches (Locked.Step goStore) (Locked.start s) trace scene) :
    ∃ a : Atomic.State T Request Reply (Store D),
      Reaches (Atomic.Step Request.run) (Atomic.start s) trace a ∧
        ((∀ thread, ¬(scene.phase thread).Writes) → scene.object = a.object) := by
  obtain ⟨a, ran, tracks⟩ := Locked.linearizable goStore_still run
  rw [goStore_effect] at ran
  exact ⟨a, ran, tracks.quiet⟩

/-- A store on two devices. -/
def sharedStore : Store MemDevice where
  replicas := (List.replicate 2 smallDevice).map Mount.mounted
  opts := .default

/-- A read and a write of one key. -/
def aGet : Request := .call (.serve (.get [0x41]))

def aPut : Request := .call (.serve (.put [0x41] [1] 0))

theorem requests_atomic_overlapping :
    ∃ (reply reply' : Reply) (scene : Scene (Fin 3) MemDevice),
      Reaches (Locked.Step goStore) (Locked.start sharedStore)
        [.call 0 aGet, .call 1 aPut, .ret 0 reply, .ret 1 reply'] scene ∧
      ∃ a : Atomic.State (Fin 3) Request Reply (Store MemDevice),
        Reaches (Atomic.Step Request.run) (Atomic.start sharedStore)
          [.call 0 aGet, .call 1 aPut, .ret 0 reply, .ret 1 reply'] a ∧
          ((∀ thread, ¬(scene.phase thread).Writes) → scene.object = a.object) := by
  obtain ⟨reply, reply', scene, run⟩ := Locked.overlapping goStore sharedStore
    (by decide : (1 : Fin 3) ≠ 0) aGet aPut trivial id
  exact ⟨reply, reply', scene, run, requests_atomic run⟩

/-- Two goroutines inside at the same time are both readers, and whatever either
asks next changes nothing of the store and its devices. -/
theorem no_data_race [StillBlockDevice D]
    (run : Reaches (Locked.Step goStore) (Locked.start s) trace scene) {one other : T}
    (different : one ≠ other) (here : (scene.phase one).Reads ∨ (scene.phase one).Writes)
    (there : (scene.phase other).Reads ∨ (scene.phase other).Writes) :
    (scene.phase one).Reads ∧ (scene.phase other).Reads ∧
      ∀ what query next, scene.phase one = .reading what (.ask query next) →
        storeLooks.asks query ∧ ∀ s : Store D, (serveStore query s).2 = s := by
  obtain ⟨a, _, tracks⟩ := Locked.linearizable goStore_still run
  have first : ¬(scene.phase one).Writes := by
    intro writes
    rcases there with reads | writes'
    · exact tracks.orderly.apart one writes other reads
    · exact different (tracks.orderly.alone one writes.announced other writes'.announced)
  have second : ¬(scene.phase other).Writes := by
    intro writes
    exact tracks.orderly.apart other writes one (here.resolve_right first)
  refine ⟨here.resolve_right first, there.resolve_right second, ?_⟩
  intro what query next reading
  have good := tracks.good one
  rw [reading] at good
  have looked := good.2.1.1
  exact ⟨looked, fun s => serveStore_still query s looked⟩

/-- One goroutine is inside an `Iterate`. -/
def iterating : Scene (Fin 3) MemDevice :=
  (Locked.start sharedStore).move 0 (.reading .iterate keysScript)

theorem reaches_iterating :
    Reaches (Locked.Step goStore) (Locked.start sharedStore) [.call 0 .iterate] iterating :=
  .single (Locked.Step.read 0 Request.iterate rfl trivial fun _ => id)

theorem iterating_phase (thread : Fin 3) :
    iterating.phase thread = if thread = 0 then .reading .iterate keysScript else .idle := by
  by_cases same : thread = 0
  · rw [same, if_pos rfl]
    exact Locked.move_self
  · rw [if_neg same]
    exact Locked.move_other same

theorem no_data_race_readers :
    ∃ scene : Scene (Fin 3) MemDevice,
      Reaches (Locked.Step goStore) (Locked.start sharedStore) [.call 0 .iterate, .call 1 .keys]
        scene ∧ (scene.phase 0).Reads ∧ (scene.phase 1).Reads ∧
        ∀ what query next, scene.phase 0 = .reading what (.ask query next) →
          storeLooks.asks query ∧ ∀ s : Store MemDevice, (serveStore query s).2 = s := by
  have clear (other : Fin 3) : ¬(iterating.phase other).Announced := by
    rw [iterating_phase]
    split <;> exact id
  have run := reaches_iterating.snoc (Locked.Step.read 1 Request.keys rfl trivial clear)
  exact ⟨_, run, no_data_race run (by decide) (.inl trivial) (.inl trivial)⟩

/-- Unless new requests come, the goroutines take finitely many steps, in
whatever order, and stop only when every request has returned. -/
theorem requests_return [Fintype T] [StillBlockDevice D]
    (run : Reaches (Locked.Step goStore) (Locked.start s) trace scene) :
    Acc (fun after before => Locked.Moves goStore before after) scene ∧
      ∀ rest, Relation.ReflTransGen (Locked.Moves goStore) scene rest →
        (∀ next, ¬Locked.Moves goStore rest next) → ∀ thread, rest.phase thread = .idle := by
  obtain ⟨a, _, tracks⟩ := Locked.linearizable goStore_still run
  refine ⟨Locked.moves_end goStore_still tracks, fun rest moves stuck => ?_⟩
  exact Locked.idle_of_stuck (tracks.orderly.moves moves) stuck

/-- While one goroutine iterates, another wants to write. -/
def wanting : Scene (Fin 3) MemDevice := iterating.move 1 (.queued aPut)

theorem reaches_wanting :
    Reaches (Locked.Step goStore) (Locked.start sharedStore) [.call 0 .iterate, .call 1 aPut]
      wanting :=
  reaches_iterating.snoc (Locked.Step.queue 1 aPut rfl id)

theorem requests_return_wanting :
    Acc (fun after before => Locked.Moves goStore before after) wanting ∧
      ∀ rest, Relation.ReflTransGen (Locked.Moves goStore) wanting rest →
        (∀ next, ¬Locked.Moves goStore rest next) → ∀ thread, rest.phase thread = .idle :=
  requests_return reaches_wanting

/-- A callback of an `Iterate` that waits for the lock, as a write does at once
and a read does once a writer is announced, never comes back, nor does the
`Iterate`. If the callback writes, then from its announcement on no request that
any goroutine begins returns. -/
theorem callback_never_returns
    (run : Reaches (Locked.Step goStore) (Locked.start s) trace scene) {outer inner : T}
    {rest : Script storePort Reply} (iterates : scene.phase outer = .reading .iterate rest)
    (waits : (scene.phase inner).Waits) {later : History T} {scene' : Scene T D}
    (more : Reaches (Locked.Step goStore) scene later scene')
    (nested : Locked.Nested outer inner later) :
    (∀ reply, .ret outer reply ∉ later) ∧ (∀ reply, .ret inner reply ∉ later) ∧
      ((scene.phase inner).Announced → later.Pairwise Locked.Unanswered) := by
  have orderly : Locked.Orderly scene :=
    run.keeps (fun _ _ _ step orderly => orderly.step step) (Locked.orderly_start s)
  have reads : (scene.phase outer).Reads := by
    rw [iterates]
    trivial
  obtain ⟨_, stays, hangs⟩ := Locked.nested_hangs orderly reads waits more nested
  exact ⟨stays, hangs, fun announced => Locked.frozen orderly reads announced more stays⟩

end

/-- The write is announced. -/
def announced : Scene (Fin 3) MemDevice := wanting.move 1 (.pending aPut)

theorem reaches_announced :
    Reaches (Locked.Step goStore) (Locked.start sharedStore) [.call 0 .iterate, .call 1 aPut]
      announced := by
  have clear (other : Fin 3) : ¬(wanting.phase other).Announced := by
    by_cases same : other = 1
    · rw [same, wanting, Locked.move_self]
      exact id
    · rw [wanting, Locked.move_other same, iterating_phase]
      split <;> exact id
  exact reaches_wanting.snoc (Locked.Step.announce 1 aPut Locked.move_self clear)

def aRead : History (Fin 3) := [.call 2 aGet]

/-- The callback writes, and a third goroutine wants to read. -/
theorem callback_never_returns_write :
    ∃ scene, Reaches (Locked.Step goStore) announced aRead scene ∧
      (∀ reply, .ret 0 reply ∉ aRead) ∧ (∀ reply, .ret 1 reply ∉ aRead) ∧
        ((announced.phase 1).Announced → aRead.Pairwise Locked.Unanswered) := by
  have idle : announced.phase 2 = .idle := rfl
  have pending : (announced.phase 1).Announced := trivial
  have waits : (announced.phase 1).Waits := trivial
  have iterates : announced.phase 0 = .reading .iterate keysScript := rfl
  have more : Reaches (Locked.Step goStore) announced aRead _ :=
    .single (Locked.Step.knock 2 1 aGet idle trivial pending)
  refine ⟨_, more, callback_never_returns reaches_announced iterates waits more ?_⟩
  intro before reply after shown
  have member : .ret 0 reply ∈ aRead := by
    rw [shown]
    exact List.mem_append_right _ List.mem_cons_self
  cases List.mem_singleton.mp member

/-! ## A map that goroutines share -/

/-- The reply to a request and the map after it. -/
def foretold (room : Budget Bytes Bytes) : Request → Map → Reply × Map
  | .call (.serve op), m => (.outcome (predict room m (.call op)).1, (predict room m (.call op)).2)
  | .call .recover, m => (.outcome (.ok none), m)
  | .call .buildIndex, m => (.outcome (.ok none), m)
  | .keys, m => (.keys m.keys, m)
  | .iterate, m => (.keys m.keys, m)

section
variable {D : Type} [BlockDevice D] [ReliableBlockDevice D] {blockSize blockCount puts : Nat}
  {opts : Options} {m : Map} {s : Store D}

/-- Building the indexes again changes nothing. -/
theorem balanced_buildIndex (balanced : Balanced opts blockSize blockCount m puts s) :
    (Go.buildIndex s).1 = .ok () ∧ Balanced opts blockSize blockCount m puts (Go.buildIndex s).2 := by
  have level := balanced.level
  have large : ∀ r ∈ s.replicas, 36 ≤ (image r.dev).blockSize := by
    intro r member
    rw [(level r member).size]
    exact balanced.large
  rw [Agree.go_buildIndex .dev large fun r member => (level r member).utf8,
    Mount.rust_buildIndex .dev large]
  obtain ⟨r, lock, books⟩ := balanced
  refine ⟨rfl, r, ⟨lock.opts_eq, by simpa using lock.nonempty, ?_⟩, books⟩
  intro q' member
  obtain ⟨q, inside, rfl⟩ := List.mem_map.mp member
  have twin := lock.twins q inside
  have same : Scan.records (image q.dev) = Scan.records (image r.dev) :=
    twin.data.records books.settled.mountable.type twin.mountable.type
  refine ⟨twin.data, ?_, twin.mountable⟩
  have scanned : Scan.indexOf fromUtf8Lossy (image r.dev) = r.index :=
    (mount_settled books.settled).2.2
  rw [← scanned, Scan.indexOf, Scan.indexOf, same]

/-- One request on a balanced store: the reply is the one foretold, and the store
goes on with the map foretold. -/
theorem balanced_request (balanced : Balanced opts blockSize blockCount m puts s)
    (free : FreePattern opts.freePattern) (request : Request)
    (allowed : request.Allowed blockSize) (below : puts + request.cost < 2 ^ 32) :
    (request.run s).1 = (foretold (roomOf blockSize blockCount) request m).1 ∧
      Balanced opts blockSize blockCount (foretold (roomOf blockSize blockCount) request m).2
        (puts + request.cost) (request.run s).2 := by
  cases request with
  | call what =>
      cases what with
      | serve op =>
          have priced : (Request.call (.serve op)).cost = if isPut (.call op) then 1 else 0 := by
            cases op <;> rfl
          rw [priced] at below ⊢
          obtain ⟨answered, after⟩ : (stepBy .go (.call op) s).1 = _ ∧ _ :=
            balanced.step free .go below allowed
          exact ⟨congrArg Reply.outcome answered, after⟩
      | recover =>
          obtain ⟨answered, after⟩ : (stepBy .go .recover s).1 = _ ∧ _ :=
            balanced.step free .go below trivial
          exact ⟨congrArg Reply.outcome answered, after⟩
      | buildIndex =>
          obtain ⟨answered, after⟩ := balanced_buildIndex balanced
          have ran : Call.buildIndex.run .go s = (.ok none, (Go.buildIndex s).2) :=
            Proc.bind_ok (Prod.ext answered rfl) _
          rw [Request.run, ran]
          exact ⟨rfl, after⟩
  | keys => exact ⟨congrArg Reply.keys (balanced.keys .go), balanced⟩
  | iterate => exact ⟨congrArg Reply.keys (balanced.keys .go), balanced⟩

end

theorem request_parallel {D E : Type} [BlockDevice D] [BlockDevice E] {blockSize blockCount : Nat}
    {related : D → E → Prop} (same : Matching blockSize blockCount related) (request : Request)
    {s : Store D} {t : Store E} (parallel : InParallel related blockCount s t) :
    (request.run s).1 = (request.run t).1 ∧
      InParallel related blockCount (request.run s).2 (request.run t).2 := by
  cases request with
  | call what =>
      obtain ⟨answered, after⟩ := call_parallel same .go what parallel
      exact ⟨congrArg Reply.outcome answered, after⟩
  | keys => exact ⟨congrArg Reply.keys (keys_parallel .go parallel), parallel⟩
  | iterate => exact ⟨congrArg Reply.keys (keys_parallel .go parallel), parallel⟩

/-- A fresh store on files goes in parallel with a balanced one in memory. -/
theorem fresh_parallel {creator formatter : Impl} {opts : Options} {n blockSize blockCount : Nat}
    {files : List Bytes} (large : 36 ≤ blockSize) (size_lt : blockSize < 2 ^ 32)
    (inside : 0 < blockCount) (count_lt : blockCount < 2 ^ 32)
    (fresh : freshFiles creator formatter opts n blockSize blockCount = .ok files)
    {s : Store Go.FileDevice}
    (opened : (do Impl.go.mount (← files.mapM (Go.FileDevice.openFile blockSize)) opts) = .ok s) :
    ∃ t : Store MemDevice, InParallel (SameBytes blockSize blockCount) blockCount s t ∧
      Balanced opts blockSize blockCount ∅ 0 t := by
  have positive : 0 < blockSize := by omega
  obtain ⟨short, devs, nonempty, blank, rfl⟩ :=
    freshFiles_blank positive inside size_lt count_lt fresh
  have shaped : ∀ dev ∈ devs, geometry dev = (blockSize, blockCount) := fun dev member =>
    Prod.ext (blank dev member).size (blank dev member).count
  obtain ⟨twins, wrapped, pairs⟩ := opened_files (go_opens positive count_lt short) short shaped
  rw [wrapped] at opened
  change Impl.go.mount twins opts = .ok s at opened
  have both := mount_parallel sameBytes_matches inside .go opts pairs
  rw [opened] at both
  cases mounted : Impl.go.mount devs opts with
  | error failure =>
      rw [mounted] at both
      cases both
  | ok t =>
      rw [mounted] at both
      cases both with
      | ok parallel =>
          refine ⟨t, parallel, ?_⟩
          obtain ⟨_, _, _, _, rfl⟩ := Impl.mount_inv (fun dev member =>
            large.trans (blank dev member).size.ge) mounted
          exact balanced_blank large nonempty blank _ opts

/-- Goroutines that share a Go store on fresh files share a map within a budget:
every history of theirs is one in which each request takes effect on the map at
one instant between its call and its return. -/
theorem goroutines_share_map {T : Type} [DecidableEq T] {creator formatter : Impl} {opts : Options}
    {n blockSize blockCount : Nat} {files : List Bytes} (large : 36 ≤ blockSize)
    (size_lt : blockSize < 2 ^ 32) (inside : 0 < blockCount) (count_lt : blockCount < 2 ^ 32)
    (free : FreePattern opts.freePattern)
    (fresh : freshFiles creator formatter opts n blockSize blockCount = .ok files)
    {s : Store Go.FileDevice}
    (opened : (do Impl.go.mount (← files.mapM (Go.FileDevice.openFile blockSize)) opts) = .ok s)
    {trace : History T} {scene : Scene T Go.FileDevice}
    (run : Reaches (Locked.Step goStore) (Locked.start s) trace scene)
    (within : Atomic.Within (Request.Allowed blockSize) Request.cost (2 ^ 32) trace) :
    ∃ a : Atomic.State T Request Reply Map,
      Reaches (Atomic.Step (foretold (roomOf blockSize blockCount))) (Atomic.start ∅) trace a := by
  obtain ⟨a, ran, _⟩ := Locked.linearizable goStore_still run
  rw [goStore_effect] at ran
  let related (spent : Nat) (s : Store Go.FileDevice) (m : Map) : Prop :=
    ∃ t : Store MemDevice, InParallel (SameBytes blockSize blockCount) blockCount s t ∧
      Balanced opts blockSize blockCount m spent t
  have start : related 0 s ∅ := fresh_parallel large size_lt inside count_lt fresh opened
  have refines : ∀ spent s m request, related spent s m → request.Allowed blockSize →
      spent + request.cost < 2 ^ 32 →
        (request.run s).1 = (foretold (roomOf blockSize blockCount) request m).1 ∧
          related (spent + request.cost) (request.run s).2
            (foretold (roomOf blockSize blockCount) request m).2 := by
    rintro spent s m request ⟨t, parallel, balanced⟩ allowed below
    obtain ⟨answered, after⟩ := request_parallel sameBytes_matches request parallel
    obtain ⟨foretells, balanced'⟩ := balanced_request balanced free request allowed below
    exact ⟨answered.trans foretells, _, after, balanced'⟩
  obtain ⟨a', ran', _⟩ := Atomic.refined related refines start ran within
  exact ⟨a', ran'⟩

/-- Open two fresh files. -/
def freshShared : Except Failure (Store Go.FileDevice) := do
  let files ← freshFiles .go .go .default 2 40 3
  Impl.go.mount (← files.mapM (Go.FileDevice.openFile 40)) .default

theorem goroutines_share_map_overlapping :
    ∃ (s : Store Go.FileDevice) (reply reply' : Reply) (scene : Scene (Fin 3) Go.FileDevice),
      Reaches (Locked.Step goStore) (Locked.start s)
        [.call 0 aGet, .call 1 aPut, .ret 0 reply, .ret 1 reply'] scene ∧
      ∃ a : Atomic.State (Fin 3) Request Reply Map,
        Reaches (Atomic.Step (foretold (roomOf 40 3))) (Atomic.start ∅)
          [.call 0 aGet, .call 1 aPut, .ret 0 reply, .ret 1 reply'] a := by
  have created : (freshFiles .go .go .default 2 40 3).toOption.isSome := by decide +kernel
  obtain ⟨files, found⟩ := Option.isSome_iff_exists.mp created
  have fresh := toOption_eq_some found
  have checked : freshShared.toOption.isSome := by decide +kernel
  rw [freshShared, fresh] at checked
  obtain ⟨s, shown⟩ := Option.isSome_iff_exists.mp checked
  have opened : (do Impl.go.mount (← files.mapM (Go.FileDevice.openFile 40)) .default) = .ok s :=
    toOption_eq_some shown
  obtain ⟨reply, reply', scene, run⟩ := Locked.overlapping goStore s
    (by decide : (1 : Fin 3) ≠ 0) aGet aPut trivial id
  refine ⟨s, reply, reply', scene, run, goroutines_share_map (by decide) (by decide) (by decide)
    (by decide) (.inl rfl) fresh opened run ⟨?_, ?_⟩⟩
  · intro thread what member
    have asked : thread = 0 ∧ what = aGet ∨ thread = 1 ∧ what = aPut := by simpa using member
    rcases asked with ⟨_, rfl⟩ | ⟨_, rfl⟩ <;> decide +kernel
  · change 0 + (1 + (0 + (0 + 0))) < 2 ^ 32
    decide

end Embedkv.ConcurrentLaws
