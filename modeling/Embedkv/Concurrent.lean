import Embedkv.Lib.LockProgress
import Embedkv.Bounds
import Embedkv.Files

/-!
# Goroutines on one store

A Go store is shared by goroutines behind its `sync.RWMutex`. `Get`, `Keys` and
`Iterate` take it shared; `Put`, `Delete`, `Recover` and `BuildIndex` take it
exclusively. Between taking and releasing the lock a call follows its script, so
the requests of several readers interleave. A device need not know of this as
long as reading a block leaves it as it is, as `MemDevice` and a file read by
`ReadAt` do.
-/

namespace Embedkv.Concurrent

open Embedkv.Lib Embedkv.Lib.Script Embedkv.Format Embedkv.Device Embedkv.State Embedkv.Effects
open Embedkv.Stores Embedkv.AgreeLaws Embedkv.Spelling Embedkv.Bounds

set_option autoImplicit false

/-- What a goroutine asks of the store. The callback of an `Iterate` runs before
the lock is released; to the store it is a call that takes its time to return. -/
inductive Request where
  | call (what : Call)
  | keys
  | iterate
  deriving DecidableEq, Repr

/-- An outcome, or the keys that are listed or handed to the callback. -/
inductive Reply where
  | outcome (result : Except Failure (Option Bytes))
  | keys (set : Finset Bytes)

/-- The requests that take the lock shared. -/
def Request.Shared : Request → Prop
  | .call (.serve (.get _)) => True
  | .call _ => False
  | .keys => True
  | .iterate => True

instance : (request : Request) → Decidable request.Shared
  | .call (.serve (.get _)) => isTrue trivial
  | .call (.serve (.put _ _ _)) => isFalse id
  | .call (.serve (.delete _)) => isFalse id
  | .call .recover => isFalse id
  | .call .buildIndex => isFalse id
  | .keys => isTrue trivial
  | .iterate => isTrue trivial

/-- A request as one function of the store. -/
def Request.run {D : Type} [BlockDevice D] : Request → Store D → Reply × Store D
  | .call what, s => (.outcome (what.run .go s).1, (what.run .go s).2)
  | .keys, s => (.keys (Go.keys s), s)
  | .iterate, s => (.keys (Go.keys s), s)

def Request.Allowed (blockSize : Nat) : Request → Prop
  | .call what => what.Allowed blockSize
  | .keys => True
  | .iterate => True

instance (blockSize : Nat) : (request : Request) → Decidable (request.Allowed blockSize)
  | .call what => inferInstanceAs (Decidable (what.Allowed blockSize))
  | .keys => isTrue trivial
  | .iterate => isTrue trivial

/-- The generations a request may use up. -/
def Request.cost : Request → Nat
  | .call (.serve (.put _ _ _)) => 1
  | _ => 0

/-! ## The scripts -/

/-- The keys are collected index by index. -/
def collectKeys : Script (manyPort replicaPort) (Except Empty (Finset Bytes)) :=
  .each (fun set => .ask (.index id) fun index => .done (.ok (set ∪ Finmap.keys index))) ∅

def keysScript : Script storePort Reply :=
  (collectKeys.relay (Q := storePort) .replicas fun _ => id).andThen fun
    | .ok set => .done (.keys set)

def Request.script : Request → Script storePort Reply
  | .call what => (spellCall .go what).script.andThen fun result => .done (.outcome result)
  | .keys => keysScript
  | .iterate => keysScript

/-- The store behind its lock. -/
def goStore {D : Type} [BlockDevice D] : Locked storePort (Store D) Request Reply where
  serve := serveStore
  body := Request.script
  Shared := Request.Shared

section
variable {D : Type} [BlockDevice D]

theorem run_collectKeys (replicas : List (Replica D)) :
    collectKeys.run (serveMany serveReplica) replicas =
      (.ok (replicas.foldl (fun set r => set ∪ Finmap.keys r.index) ∅), replicas) := by
  refine (congrFun (proc_each serveReplica _ ∅) replicas).trans ?_
  apply Proc.each_pure
  intro set r _
  rfl

theorem run_keysScript (s : Store D) : keysScript.run serveStore s = (.keys (Go.keys s), s) := by
  have relayed : (collectKeys.relay (Q := storePort) .replicas fun _ => id).run serveStore s = _ :=
    run_relay (serveMany serveReplica) serveStore (fun s replicas => { s with replicas := replicas })
      (fun _ _ => rfl) (fun _ _ _ => rfl) (fun _ => rfl) (fun _ _ => rfl) (fun _ _ => rfl)
      collectKeys s
  rw [run_collectKeys] at relayed
  rw [keysScript, run_andThen]
  exact congrArg (fun ran : Except Empty (Finset Bytes) × Store D =>
    (match ran.1 with | .ok set => .done (.keys set) : Script storePort Reply).run serveStore ran.2)
    relayed

/-- A request that nobody disturbs does what its function does. -/
theorem goStore_effect : (goStore (D := D)).effect = Request.run := by
  funext request s
  cases request with
  | call what =>
      have ran : what.run .go s = (spellCall .go what).script.run serveStore s :=
        congrFun ((spellCall .go what).runs ⟨D⟩) s
      rw [Request.run, ran]
      exact run_andThen ..
  | keys => exact run_keysScript s
  | iterate => exact run_keysScript s

end

/-! ## The shared requests only look -/

/-- Reading a block leaves the device as it is. -/
class StillBlockDevice (D : Type) [BlockDevice D] : Prop where
  read : ∀ (dev : D) (index : Nat), (BlockDevice.readBlock index dev).2 = dev

instance {D : Type} [BlockDevice D] [LawfulBlockDevice D] : StillBlockDevice D where
  read dev index := readBlock_still index dev

instance : StillBlockDevice Go.FileDevice where
  read dev index := by
    change (Go.FileDevice.readBlock index dev).2 = dev
    rw [Go.FileDevice.readBlock]
    split <;> rfl

def looks : Contract devicePort where
  asks
    | .size | .count | .read _ => True
    | .write _ _ | .flush => False
  answers _ _ := True

def replicaLooks : Contract replicaPort where
  asks
    | .device query => looks.asks query
    | .index change => ∀ index, change index = index
  answers _ _ := True

def storeLooks : Contract storePort where
  asks
    | .opts => True
    | .replicas query => replicaLooks.many.asks query
  answers _ _ := True

section
variable {α : Type}

abbrev DeviceLooks (script : Script devicePort (Except Failure α)) : Prop :=
  script.Meets looks (OnSuccess fun _ => True)

abbrev ReplicaLooks (script : Script replicaPort (Except Failure α)) : Prop :=
  script.Meets replicaLooks (OnSuccess fun _ => True)

theorem askSize_looks : DeviceLooks askSize.script := ⟨trivial, fun _ _ => .value trivial⟩

theorem askCount_looks : DeviceLooks askCount.script := ⟨trivial, fun _ _ => .value trivial⟩

theorem askRead_looks (index : Nat) : DeviceLooks (askRead index).script :=
  ⟨trivial, fun _ _ _ _ => trivial⟩

theorem goChainLoop_looks (blockSize blockCount d next idx : Nat) (visited : Finset Nat)
    (rec : CompleteRecord) :
    DeviceLooks (goChainLoop blockSize blockCount d next idx visited rec).script := by
  induction left : (Finset.range blockCount \ visited).card using Nat.strong_induction_on
    generalizing next idx visited rec with
  | _ left ih =>
      rw [goChainLoop]
      refine .ite (fun _ => .value trivial) fun _ => .dite (fun _ => .value trivial) fun fresh => ?_
      apply (askRead_looks next).bind
      intro buf _
      refine .checked fun found _ => ?_
      cases found with
      | none => exact .value trivial
      | some chunk =>
          subst left
          exact ih _ (unvisited_decreases fresh) _ _ _ _ rfl

theorem goVerifyAndReadRecord_looks (d : Nat) : DeviceLooks (goVerifyAndReadRecord d).script := by
  apply askSize_looks.bind
  intro size _
  apply (askRead_looks d).bind
  intro buf _
  refine .checked fun found _ => ?_
  cases found with
  | none => exact .value trivial
  | some head =>
      refine .ite (fun _ => .ite (fun _ => .value trivial) fun _ => .value trivial) fun _ => ?_
      refine .ite (fun _ => .value trivial) fun _ => ?_
      apply askCount_looks.bind
      intro count _
      apply (goChainLoop_looks ..).bind
      intro walked _
      cases walked with
      | none => exact .value trivial
      | some grown =>
          refine .ite (fun _ => .value trivial) fun _ => ?_
          exact .ite (fun _ => .value trivial) fun _ => .value trivial

theorem onDevice_looks {p : ∀ w : AnyDevice, Proc Failure w.Dev α} {spelled : OnDevice p}
    (meets : DeviceLooks spelled.script) : ReplicaLooks (onDevice spelled).script := by
  apply Meets.relay _ _ meets
  · exact fun _ asked => asked
  · exact fun _ _ _ => trivial

theorem goGetReplica_looks (key : Bytes) (best : Option (Nat × Bytes)) :
    ReplicaLooks (goGetReplica key best).script := by
  refine ⟨fun _ => rfl, fun index _ => ?_⟩
  dsimp only [id]
  cases (index : MemIndex).get key with
  | none => exact .value trivial
  | some entry =>
      refine .ite (fun _ => .value trivial) fun _ => ?_
      apply (onDevice_looks (goVerifyAndReadRecord_looks entry.descriptorBlock)).bind
      intro found _
      cases found with
      | none => exact .value trivial
      | some rec => exact .value trivial

/-- A script for all replicas that looks at each of them only. -/
theorem relayed_looks {γ : Type} {post : γ → Prop} {script : Script (manyPort replicaPort) γ}
    (meets : script.Meets replicaLooks.many post) :
    (script.relay (Q := storePort) .replicas fun _ => id).Meets storeLooks post := by
  apply Meets.relay _ _ meets
  · exact fun _ asked => asked
  · intro query answer _
    cases query with
    | size => trivial
    | member position query => exact fun _ _ => trivial

theorem goGet_looks (key : Bytes) :
    (goGet key).script.Meets storeLooks (OnSuccess fun _ => True) := by
  have turns : (Script.each (fun best => (goGetReplica key best).script) none).Meets
      replicaLooks.many (OnSuccess fun _ => True) :=
    .each (fun best _ => goGetReplica_looks key best) trivial
  apply (relayed_looks turns).bind
  intro best _
  cases best with
  | none => exact .failure
  | some found => exact .value trivial

theorem keysScript_looks : keysScript.Meets storeLooks fun _ => True := by
  have turns : collectKeys.Meets replicaLooks.many (OnSuccess fun _ => True) := by
    apply Meets.each _ trivial
    exact fun set _ => ⟨fun _ => rfl, fun index _ => .value trivial⟩
  apply (relayed_looks turns).andThen
  intro result _
  cases result with
  | ok set => trivial
  | error never => exact never.elim

theorem shared_looks (request : Request) (shared : request.Shared) :
    request.script.Meets storeLooks fun _ => True := by
  cases request with
  | call what =>
      cases what with
      | serve op =>
          cases op with
          | get key =>
              have looked : (spellCall .go (.serve (.get key))).script.Meets storeLooks
                  (OnSuccess fun _ => True) := (goGet_looks key).bind fun _ _ => .value trivial
              exact looked.andThen fun _ _ => trivial
          | put => exact shared.elim
          | delete => exact shared.elim
      | recover => exact shared.elim
      | buildIndex => exact shared.elim
  | keys => exact keysScript_looks
  | iterate => exact keysScript_looks

end

section
variable {D : Type} [BlockDevice D] [StillBlockDevice D]

theorem serveDevice_still (query : DeviceQuery) (dev : D) (asked : looks.asks query) :
    (serveDevice query dev).2 = dev := by
  cases query with
  | size => rfl
  | count => rfl
  | read index => exact StillBlockDevice.read dev index
  | write => exact asked.elim
  | flush => exact asked.elim

theorem serveReplica_still (query : ReplicaQuery) (r : Replica D) (asked : replicaLooks.asks query) :
    (serveReplica query r).2 = r := by
  cases query with
  | device query => rw [serveReplica, serveDevice_still query r.dev asked]
  | index change => rw [serveReplica, asked r.index]

theorem serveStore_still (query : StoreQuery) (s : Store D) (asked : storeLooks.asks query) :
    (serveStore query s).2 = s := by
  cases query with
  | opts => rfl
  | replicas query =>
      rw [serveStore, Contract.serveMany_still serveReplica_still query s.replicas asked]

theorem goStore_still : Locked.Still (goStore (D := D)) storeLooks where
  asks := shared_looks
  answers _ _ _ := trivial
  keeps := serveStore_still

end

end Embedkv.Concurrent
