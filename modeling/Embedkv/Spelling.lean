import Embedkv.Lib.Spelled
import Embedkv.Agree

/-!
# The calls spelled out

Every call of both stores as the script it follows: which block it reads, writes
or flushes next, and where it looks into an index or changes it. A script names
no device, so it is the same on all of them. Each is put together along the
definition of its function and carries the proof that it runs as the function
does.
-/

namespace Embedkv.Spelling

open Embedkv.Lib Embedkv.Format Embedkv.Device Embedkv.State

set_option autoImplicit false

/-! ## Ports -/

inductive DeviceQuery where
  | size
  | count
  | read (index : Nat)
  | write (index : Nat) (buf : Bytes)
  | flush

abbrev DeviceQuery.Answer : DeviceQuery → Type
  | size => Nat
  | count => Nat
  | read _ => Except Failure Bytes
  | write _ _ => Except Failure Unit
  | flush => Except Failure Unit

abbrev devicePort : Port where
  Query := DeviceQuery
  Answer := DeviceQuery.Answer

/-- A replica is asked for its device, or shows its index and changes it. -/
inductive ReplicaQuery where
  | device (query : DeviceQuery)
  | index (change : MemIndex → MemIndex)

abbrev ReplicaQuery.Answer : ReplicaQuery → Type
  | device query => query.Answer
  | index _ => MemIndex

abbrev replicaPort : Port where
  Query := ReplicaQuery
  Answer := ReplicaQuery.Answer

inductive StoreQuery where
  | opts
  | replicas (query : ManyQuery replicaPort)

abbrev StoreQuery.Answer : StoreQuery → Type
  | opts => Options
  | replicas query => query.Answer

abbrev storePort : Port where
  Query := StoreQuery
  Answer := StoreQuery.Answer

section
variable {D : Type} [BlockDevice D]

def serveDevice : Server devicePort D
  | .size, dev => (BlockDevice.blockSize dev, dev)
  | .count, dev => (BlockDevice.blockCount dev, dev)
  | .read index, dev => BlockDevice.readBlock index dev
  | .write index buf, dev => BlockDevice.writeBlock index buf dev
  | .flush, dev => BlockDevice.flush dev

def serveReplica : Server replicaPort (Replica D)
  | .device query, r => ((serveDevice query r.dev).1, { r with dev := (serveDevice query r.dev).2 })
  | .index change, r => (r.index, { r with index := change r.index })

def serveStore : Server storePort (Store D)
  | .opts, s => (s.opts, s)
  | .replicas query, s => ((serveMany serveReplica query s.replicas).1,
      { s with replicas := (serveMany serveReplica query s.replicas).2 })

end

/-! ## Calls on any device -/

structure AnyDevice where
  Dev : Type
  [calls : BlockDevice Dev]

instance (w : AnyDevice) : BlockDevice w.Dev := w.calls

abbrev OnDevice {α : Type} (p : ∀ w : AnyDevice, Proc Failure w.Dev α) : Type :=
  Spelled (P := devicePort) (fun w : AnyDevice => serveDevice (D := w.Dev)) p

abbrev OnReplica {α : Type} (p : ∀ w : AnyDevice, Proc Failure (Replica w.Dev) α) : Type :=
  Spelled (P := replicaPort) (fun w : AnyDevice => serveReplica (D := w.Dev)) p

abbrev OnStore {α : Type} (p : ∀ w : AnyDevice, Proc Failure (Store w.Dev) α) : Type :=
  Spelled (P := storePort) (fun w : AnyDevice => serveStore (D := w.Dev)) p

def askSize : OnDevice fun _ => blockSizeOf where
  script := .ask .size fun size => .done (.ok size)
  runs _ := rfl

def askCount : OnDevice fun _ => blockCountOf where
  script := .ask .count fun count => .done (.ok count)
  runs _ := rfl

def askRead (index : Nat) : OnDevice fun _ => BlockDevice.readBlock index where
  script := .ask (.read index) .done
  runs _ := rfl

def askWrite (index : Nat) (buf : Bytes) : OnDevice fun _ => BlockDevice.writeBlock index buf where
  script := .ask (.write index buf) .done
  runs _ := rfl

def askFlush : OnDevice fun _ => BlockDevice.flush where
  script := .ask .flush .done
  runs _ := rfl

/-- A replica that looks at its index, and at nothing else of itself. -/
def askIndex {α : Type} {body : ∀ w : AnyDevice, Replica w.Dev → Proc Failure (Replica w.Dev) α}
    (rest : ∀ index, OnReplica fun w => fun r => body w { r with index := index } r) :
    OnReplica fun w => Proc.get >>= body w where
  script := .ask (.index id) fun index => (rest index).script
  runs w := by
    funext r
    exact congrFun ((rest r.index).runs w) r

/-- What is worked out from the block size of the replica's device. -/
def askSizeFor {α β : Type} (work : Nat → Except Failure β)
    {body : ∀ w : AnyDevice, β → Proc Failure (Replica w.Dev) α}
    (rest : ∀ value, OnReplica fun w => body w value) :
    OnReplica fun w => fun r =>
      (Proc.ofExcept (work (BlockDevice.blockSize r.dev)) >>= body w) r where
  script := .ask (.device .size) fun size =>
    (.bind (.ofExcept (work size)) rest : OnReplica fun w =>
      Proc.ofExcept (work size) >>= body w).script
  runs w := by
    funext r
    exact congrFun ((.bind (.ofExcept (work (BlockDevice.blockSize r.dev))) rest : OnReplica fun w =>
      Proc.ofExcept (work (BlockDevice.blockSize r.dev)) >>= body w).runs w) r

def askSetIndex (index : MemIndex) : OnReplica fun _ => Replica.setIndex index where
  script := .ask (.index fun _ => index) fun _ => .done (.ok ())
  runs _ := rfl

def askPutIndex (entry : IndexEntry) : OnReplica fun _ => Replica.putIndex entry where
  script := .ask (.index fun index => index.put entry) fun _ => .done (.ok ())
  runs _ := rfl

def askDropIndex (key : Bytes) : OnReplica fun _ => Replica.dropIndex key where
  script := .ask (.index fun index => index.delete key) fun _ => .done (.ok ())
  runs _ := rfl

def onDevice {α : Type} {p : ∀ w : AnyDevice, Proc Failure w.Dev α} (spelled : OnDevice p) :
    OnReplica fun w => Replica.onDevice (p w) where
  script := spelled.script.relay (Q := replicaPort) .device fun _ => id
  runs w := by
    funext r
    rw [spelled.runs w]
    exact (Script.run_relay serveDevice serveReplica (fun r dev => { r with dev := dev })
      (fun _ _ => rfl) (fun _ _ _ => rfl) (fun _ => rfl) (fun _ _ => rfl) (fun _ _ => rfl)
      spelled.script r).symm

/-- A call on all replicas of a store. -/
def onReplicas {α : Type} {p : ∀ w : AnyDevice, Proc Failure (List (Replica w.Dev)) α}
    (spelled : Spelled (P := manyPort replicaPort)
      (fun w : AnyDevice => serveMany (serveReplica (D := w.Dev))) p) :
    OnStore fun w => Store.onReplicas (p w) where
  script := spelled.script.relay (Q := storePort) .replicas fun _ => id
  runs w := by
    funext s
    rw [spelled.runs w]
    exact (Script.run_relay (serveMany serveReplica) serveStore
      (fun s replicas => { s with replicas := replicas })
      (fun _ _ => rfl) (fun _ _ _ => rfl) (fun _ => rfl) (fun _ _ => rfl) (fun _ _ => rfl)
      spelled.script s).symm

/-- A store that looks at its options, and at nothing else of itself. -/
def askOpts {α : Type} {body : ∀ w : AnyDevice, Store w.Dev → Proc Failure (Store w.Dev) α}
    (rest : ∀ opts, OnStore fun w => fun s => body w { s with opts := opts } s) :
    OnStore fun w => Proc.get >>= body w where
  script := .ask .opts fun opts => (rest opts).script
  runs w := by
    funext s
    exact congrFun ((rest s.opts).runs w) s

/-- The block size of the first replica's device. -/
def firstSizeOf {D : Type} [BlockDevice D] : Proc Failure (Store D) (Option Nat) := fun s =>
  (.ok (s.replicas.head?.map fun r => BlockDevice.blockSize r.dev), s)

def askFirstSize : OnStore fun _ => firstSizeOf where
  script := .ask (.replicas (.member 0 (.device .size))) fun size => .done (.ok size)
  runs w := by
    funext s
    rcases s with ⟨replicas, opts⟩
    cases replicas with
    | nil => rfl
    | cons first rest => rfl

/-! ## What both stores share -/

def eraseBlock (valid : Finset Nat) (free : Bytes) (garbageFound : Bool) (i : Nat) :
    OnDevice fun _ => State.eraseBlock valid free garbageFound i :=
  .ite _ (.pure _) <| .bind (askRead i) fun _ => .ite _ (.pure _) <|
    .bind (askWrite i free) fun _ => .pure _

def openReplicaHeader : OnDevice fun _ => Rust.openReplicaHeader :=
  .bind askSize fun _ => .ite _ (.fail _) <| .bind (askRead 0) fun _ => .ite _ (.fail _) <|
    .bind (.ofExcept _) fun _ => .bind askCount fun _ => .ite _ (.fail _) <| .ite _ (.fail _) <|
      .ite _ (.fail _) <| .ite _ (.fail _) <| .ite _ (.fail _) (.pure _)

def formatDevice (build : Rust.Build) (opts : Options) (i : Nat) :
    OnDevice fun _ => Rust.formatDevice build opts i :=
  .bind askSize fun _ => .ite _ (.fail _) <| .bind askCount fun _ => .bind (.ofExcept _) fun _ =>
    .bind (.ofExcept _) fun _ => .bind (askWrite 0 _) fun _ => askFlush

def freeChain (blockCount : Nat) (free : Bytes) (next : Nat) (visited : Finset Nat) :
    OnDevice fun _ => Rust.freeChain blockCount free next visited :=
  .congr (fun _ => Rust.freeChain.eq_1 ..) <|
    .ite _ (.pure _) <| .dite _ (fun _ => .pure _) fun _fresh =>
      .bind (askRead next) fun _ => .bind (.ofExcept _) fun header => .ite _ (.pure _) <|
        .bind (askWrite next free) fun _ =>
          freeChain blockCount free header.1.nextChunk.toNat (insert next visited)
termination_by (Finset.range blockCount \ visited).card
decreasing_by exact unvisited_decreases _fresh

def freeRecord (descriptorBlock : Nat) (freePattern : UInt8) :
    OnDevice fun _ => Rust.freeRecord descriptorBlock freePattern :=
  .bind askSize fun _ => .bind askCount fun _ => .bind (askRead descriptorBlock) fun _ =>
    .bind (.ofExcept _) fun _ => .ite _ (.fail _) <|
      .bind (askWrite descriptorBlock _) fun _ => freeChain _ _ _ _

def deleteReplica (keyStr : Bytes) (freePattern : UInt8) (found : Bool) :
    OnReplica fun _ => Rust.deleteReplica keyStr freePattern found :=
  askIndex fun index => by
    dsimp only
    exact match index.get keyStr with
      | none => .pure _
      | some entry => .bind (onDevice (freeRecord entry.descriptorBlock freePattern)) fun _ =>
          .bind (onDevice askFlush) fun _ => .bind (askDropIndex keyStr) fun _ => .pure _

/-- One replica's part in the highest generation of a key. -/
def generationTurn {D : Type} (keyStr : Bytes) (generation : Nat) : Proc Failure (Replica D) Nat := do
  let r ← Proc.get
  match r.index.get keyStr with
  | some e => return if e.generation > generation then e.generation else generation
  | none => return generation

def askGeneration (keyStr : Bytes) (generation : Nat) :
    OnReplica fun _ => generationTurn keyStr generation :=
  askIndex fun index => by
    dsimp only
    exact match index.get keyStr with
      | some _ => .pure _
      | none => .pure _

theorem each_generationTurn {D : Type} (keyStr : Bytes) (replicas : List (Replica D)) (seed : Nat) :
    Proc.each (generationTurn keyStr) seed replicas =
      (.ok (replicas.foldl (fun generation r =>
        match r.index.get keyStr with
        | some e => if e.generation > generation then e.generation else generation
        | none => generation) seed), replicas) := by
  apply Proc.each_pure
  intro generation r _
  rw [generationTurn, Proc.get_bind_apply]
  cases r.index.get keyStr <;> rfl

section
variable {D : Type} [BlockDevice D]

/-- A put by its steps, for the room that keys have, the next generation and one
replica's turn. -/
def putSteps (room next : Nat → Except Failure Nat) (keyStr key : Bytes)
    (turn : Nat → UInt8 → Proc Failure (Replica D) Unit) : Proc Failure (Store D) Unit := do
  match ← firstSizeOf with
  | none => Proc.fail .panic
  | some size => do
    let room ← Proc.ofExcept (room size)
    if asU32 key.length > room then Proc.fail (.err .keyTooLong)
    else do
      let highest ← Store.onReplicas (Proc.each (generationTurn keyStr) 0)
      let generation ← Proc.ofExcept (next highest)
      let s ← Proc.get
      Store.onReplicas (Proc.each (fun _ => turn generation s.opts.freePattern) ())

theorem firstSizeOf_cons (first : Replica D) (rest : List (Replica D)) (opts : Options) :
    firstSizeOf { replicas := first :: rest, opts := opts } =
      (.ok (some (BlockDevice.blockSize first.dev)), { replicas := first :: rest, opts := opts }) :=
  rfl

omit [BlockDevice D] in
theorem highest_apply (keyStr : Bytes) (s : Store D) :
    Store.onReplicas (Proc.each (generationTurn keyStr) 0) s =
      (.ok (Rust.indexedGeneration keyStr s.replicas), s) := by
  rw [Store.onReplicas, Proc.zoom_apply, each_generationTurn]
  rfl

theorem goPut_steps (key value : Bytes) (userFlags : UInt32) :
    (Go.put key value userFlags : Proc Failure (Store D) Unit) =
      putSteps (fun size => .ok (Go.keyRoom size)) (fun highest => .ok (Go.u32Add highest 1)) key key
        fun generation freePattern => Go.replicaPut key value generation userFlags freePattern := by
  funext s
  rcases s with ⟨replicas, opts⟩
  cases replicas with
  | nil => rfl
  | cons first rest =>
      rw [putSteps, Proc.bind_ok (firstSizeOf_cons first rest opts), Go.put, Proc.get_bind_apply]
      dsimp only
      rw [Proc.ofExcept_ok_bind_apply]
      split
      · rfl
      · rw [Proc.bind_ok (highest_apply key _)]
        rfl

theorem rustPut_steps (build : Rust.Build) (key value : Bytes) (userFlags : UInt32) :
    (Rust.putFlagged build key value userFlags : Proc Failure (Store D) Unit) =
      putSteps (Rust.keyRoom build) (fun highest => Rust.u32Add build highest 1)
        (fromUtf8Lossy key) key fun generation freePattern =>
          Rust.replicaPut build key value generation userFlags freePattern := by
  funext s
  rcases s with ⟨replicas, opts⟩
  cases replicas with
  | nil => rfl
  | cons first rest =>
      rw [putSteps, Proc.bind_ok (firstSizeOf_cons first rest opts), Rust.putFlagged,
        Proc.get_bind_apply]
      dsimp only
      apply Proc.bind_congr_ok
      intro room s asked
      cases (Proc.ofExcept_ran asked).2
      split
      · rfl
      · rw [Proc.bind_ok (highest_apply (fromUtf8Lossy key) _)]
        apply Proc.bind_congr_ok
        intro generation s advanced
        cases (Proc.ofExcept_ran advanced).2
        rfl

end

def askPut (room next : Nat → Except Failure Nat) (keyStr key : Bytes)
    {turn : ∀ w : AnyDevice, Nat → UInt8 → Proc Failure (Replica w.Dev) Unit}
    (turns : ∀ generation freePattern, OnReplica fun w => turn w generation freePattern) :
    OnStore fun w => putSteps room next keyStr key (turn w) :=
  .bind askFirstSize fun
    | none => .fail _
    | some _ => .bind (.ofExcept _) fun _ => .ite _ (.fail _) <|
        .bind (onReplicas (.each (askGeneration keyStr) 0)) fun _ => .bind (.ofExcept _)
          fun generation => askOpts fun opts =>
            onReplicas (.each (fun _ => turns generation opts.freePattern) ())

/-! ## The Go store -/

def goChainLoop (blockSize blockCount descriptorBlock next expectedIdx : Nat) (visited : Finset Nat)
    (rec : CompleteRecord) : OnDevice fun _ =>
      Go.chainLoop blockSize blockCount descriptorBlock next expectedIdx visited rec :=
  .congr (fun _ => Go.chainLoop.eq_1 ..) <|
    .ite _ (.pure _) <| .dite _ (fun _ => .pure _) fun _fresh =>
      .bind (askRead next) fun _ => .bind (.ofExcept _) fun
        | none => .pure _
        | some (_, nextChunk) => goChainLoop blockSize blockCount descriptorBlock nextChunk
            (Go.u32Add expectedIdx 1) (insert next visited) _
termination_by (Finset.range blockCount \ visited).card
decreasing_by exact unvisited_decreases _fresh

def goVerifyAndReadRecord (descriptorBlock : Nat) :
    OnDevice fun _ => Go.verifyAndReadRecord descriptorBlock :=
  .bind askSize fun _ => .bind (askRead descriptorBlock) fun _ => .bind (.ofExcept _) fun
    | none => .pure _
    | some _ => .ite _ (.ite _ (.pure _) (.pure _)) <| .ite _ (.pure _) <|
        .bind askCount fun _ => .bind (goChainLoop _ _ _ _ _ _ _) fun
          | none => .pure _
          | some _ => .ite _ (.pure _) (.ite _ (.pure _) (.pure _))

def goCollectFree (n : Nat) :
    (blocks result : List Nat) → OnDevice fun _ => Go.collectFree n blocks result
  | [], result => .pure result
  | i :: rest, result => .ite _ (.bind (askRead i) fun _ => .bind (.ofExcept _) fun _ =>
      .ite _ (goCollectFree n rest (result ++ [i])) (goCollectFree n rest result)) (.pure result)

def goFindFreeBlocks (n : Nat) : OnDevice fun _ => Go.findFreeBlocks n :=
  .bind askCount fun _ => .bind (goCollectFree n _ []) fun _ => .ite _ (.fail _) (.pure _)

def goWriteChunks (blockSize chunkCap descriptorBlock : Nat) :
    (ci : Nat) → (chunks : List Nat) → (remaining : Bytes) →
      OnDevice fun _ => Go.writeChunks blockSize chunkCap descriptorBlock ci chunks remaining
  | _, [], _ => .pure ()
  | ci, blockIdx :: rest, _ => .bind (.ofExcept _) fun _ => .bind (.ofExcept _) fun _ =>
      .bind (.ofExcept _) fun _ => .bind (askWrite blockIdx _) fun _ =>
        goWriteChunks blockSize chunkCap descriptorBlock (ci + 1) rest _

def goWriteRecord (descriptorBlock : Nat) (chunkBlocks : List Nat) (key : Bytes) (generation : Nat)
    (value : Bytes) (userFlags : UInt32) : OnDevice fun _ =>
      Go.writeRecord descriptorBlock chunkBlocks key generation value userFlags :=
  .bind askSize fun _ => .bind (.ofExcept _) fun _ => .bind (.ofExcept _) fun _ =>
    .bind (.ofExcept _) fun _ => .bind (.ofExcept _) fun _ =>
      .bind (askWrite descriptorBlock _) fun _ => goWriteChunks _ _ descriptorBlock 0 chunkBlocks _

def goBestBlock (best : BestMap) (i : Nat) : OnDevice fun _ => Go.bestBlock best i :=
  .bind (askRead i) fun _ => .ite _ (.pure _) <| .bind (goVerifyAndReadRecord i) fun
    | none => .pure _
    | some rec => by
        dsimp only
        exact match best.lookup rec.key with
          | none => .pure _
          | some _ => .pure _

def goReplicaRecover (freePattern : UInt8) : OnDevice fun _ => Go.replicaRecover freePattern :=
  .bind askSize fun _ => .bind askCount fun _ => .bind (.foldlM goBestBlock _ _) fun _ =>
    .bind (.foldlM (eraseBlock _ _) _ _) fun _ => .ite _ askFlush (.pure _)

def goIndexBlock (i : Nat) : OnReplica fun _ => Go.indexBlock i :=
  .bind (onDevice (askRead i)) fun _ => .ite _ (.pure _) <|
    .bind (onDevice (goVerifyAndReadRecord i)) fun
      | none => .pure _
      | some rec => askIndex fun index => by
          dsimp only
          exact match index.get rec.key with
            | none => askPutIndex _
            | some _ => .ite _ (askPutIndex _) (.pure _)

def goReplicaBuildIndex : OnReplica fun _ => Go.replicaBuildIndex :=
  .bind (askSetIndex ∅) fun _ => .bind (onDevice askCount) fun _ =>
    .foldlM (fun _ i => goIndexBlock i) _ _

def goGetReplica (key : Bytes) (best : Option (Nat × Bytes)) :
    OnReplica fun _ => Go.getReplica key best :=
  askIndex fun index => by
    dsimp only
    exact match index.get key with
      | none => .pure _
      | some entry => .ite _ (.pure _) <|
          .bind (onDevice (goVerifyAndReadRecord entry.descriptorBlock)) fun
            | none => .pure _
            | some _ => .pure _

def goFreeRecord (descriptorBlock : Nat) (freePattern : UInt8) :
    OnDevice fun _ => Go.freeRecord descriptorBlock freePattern :=
  .congr (fun _ => Agree.go_freeRecord ..) (freeRecord descriptorBlock freePattern)

def goReplicaPut (key value : Bytes) (generation : Nat) (userFlags : UInt32)
    (freePattern : UInt8) :
    OnReplica fun _ => Go.replicaPut key value generation userFlags freePattern :=
  askIndex fun index => by
    dsimp only
    exact askSizeFor (Go.neededBlocks key value) fun needed =>
      .bind (onDevice (goFindFreeBlocks needed)) fun
        | [] => .fail _
        | descriptorBlock :: chunkBlocks =>
            .bind (onDevice (goWriteRecord descriptorBlock chunkBlocks key generation value userFlags))
              fun _ => .bind (onDevice askFlush) fun _ => .bind (askPutIndex _) fun _ =>
                match index.get key with
                | none => .pure _
                | some entry => .bind (onDevice (goFreeRecord entry.descriptorBlock freePattern))
                    fun _ => onDevice askFlush

def goBuildIndex : OnStore fun _ => Go.buildIndex :=
  onReplicas (.each (fun _ => goReplicaBuildIndex) ())

def goRecover : OnStore fun _ => Go.recover :=
  askOpts fun opts => by
    dsimp only
    exact onReplicas (.each (fun _ => onDevice (goReplicaRecover opts.freePattern)) ())

def goGet (key : Bytes) : OnStore fun _ => Go.get key :=
  .bind (onReplicas (.each (goGetReplica key) none)) fun
    | none => .fail _
    | some _ => .pure _

def goDeleteReplica (key : Bytes) (freePattern : UInt8) (found : Bool) :
    OnReplica fun _ => Go.deleteReplica key freePattern found :=
  .congr (fun _ => congrFun (Agree.go_deleteReplica key freePattern) found)
    (deleteReplica key freePattern found)

def goDelete (key : Bytes) : OnStore fun _ => Go.delete key :=
  askOpts fun opts => by
    dsimp only
    exact .bind (onReplicas (.each (goDeleteReplica key opts.freePattern) false)) fun _ =>
      .ite _ (.pure _) (.fail _)

def goPut (key value : Bytes) (userFlags : UInt32) : OnStore fun _ => Go.put key value userFlags :=
  .congr (fun _ => goPut_steps key value userFlags) <|
    askPut _ _ key key fun generation freePattern =>
      goReplicaPut key value generation userFlags freePattern

/-! ## The Rust store -/

section
variable (build : Rust.Build)

def rustChainLoop (blockSize blockCount descriptorBlock next expectedIdx : Nat)
    (visited : Finset Nat) (rec : CompleteRecord) : OnDevice fun _ =>
      Rust.chainLoop build blockSize blockCount descriptorBlock next expectedIdx visited rec :=
  .congr (fun _ => Rust.chainLoop.eq_1 ..) <|
    .ite _ (.pure _) <| .dite _ (fun _ => .pure _) fun _fresh =>
      .bind (askRead next) fun _ => .bind (.ofExcept _) fun
        | none => .pure _
        | some (_, nextChunk) => .bind (.ofExcept _) fun following =>
            rustChainLoop blockSize blockCount descriptorBlock nextChunk following
              (insert next visited) _
termination_by (Finset.range blockCount \ visited).card
decreasing_by exact unvisited_decreases _fresh

def rustVerifyAndReadRecord (descriptorBlock : Nat) :
    OnDevice fun _ => Rust.verifyAndReadRecord build descriptorBlock :=
  .bind askSize fun _ => .bind (askRead descriptorBlock) fun _ => .bind (.ofExcept _) fun
    | none => .pure _
    | some _ => .ite _ (.ite _ (.pure _) (.pure _)) <| .ite _ (.pure _) <|
        .bind askCount fun _ => .bind (rustChainLoop build _ _ _ _ _ _ _) fun
          | none => .pure _
          | some _ => .ite _ (.pure _) (.ite _ (.pure _) (.pure _))

def rustCollectFree (n : Nat) :
    (blocks result : List Nat) → OnDevice fun _ => Rust.collectFree n blocks result
  | [], result => .pure result
  | i :: rest, result => .ite _ (.pure result) <| .bind (askRead i) fun _ =>
      .bind (.ofExcept _) fun _ =>
        .ite _ (rustCollectFree n rest (result ++ [i])) (rustCollectFree n rest result)

def rustFindFreeBlocks (n : Nat) : OnDevice fun _ => Rust.findFreeBlocks n :=
  .bind askCount fun _ => .bind (rustCollectFree n _ []) fun _ => .ite _ (.fail _) (.pure _)

def rustWriteChunks (blockSize chunkCap descriptorBlock : Nat) :
    (ci : Nat) → (chunks : List Nat) → (remaining : Bytes) →
      OnDevice fun _ => Rust.writeChunks blockSize chunkCap descriptorBlock ci chunks remaining
  | _, [], _ => .pure ()
  | ci, blockIdx :: rest, _ => .bind (.ofExcept _) fun _ => .bind (.ofExcept _) fun _ =>
      .bind (.ofExcept _) fun _ => .bind (askWrite blockIdx _) fun _ =>
        rustWriteChunks blockSize chunkCap descriptorBlock (ci + 1) rest _

def rustWriteRecord (descriptorBlock : Nat) (chunkBlocks : List Nat) (key : Bytes)
    (generation : Nat) (value : Bytes) (userFlags : UInt32) : OnDevice fun _ =>
      Rust.writeRecord build descriptorBlock chunkBlocks key generation value userFlags :=
  .bind askSize fun _ => .bind (.ofExcept _) fun _ => .bind (.ofExcept _) fun _ =>
    .bind (.ofExcept _) fun _ => .bind (.ofExcept _) fun _ => .bind (.ofExcept _) fun _ =>
      .bind (.ofExcept _) fun _ => .bind (.ofExcept _) fun _ =>
        .bind (askWrite descriptorBlock _) fun _ =>
          rustWriteChunks _ _ descriptorBlock 0 chunkBlocks _

def rustBestBlock (best : BestMap) (i : Nat) : OnDevice fun _ => Rust.bestBlock build best i :=
  .bind (askRead i) fun _ => .ite _ (.pure _) <| .bind (rustVerifyAndReadRecord build i) fun
    | none => .pure _
    | some _ => .pure _

def rustReplicaRecover (freePattern : UInt8) :
    OnDevice fun _ => Rust.replicaRecover build freePattern :=
  .bind askSize fun _ => .bind askCount fun _ => .bind (.foldlM (rustBestBlock build) _ _) fun _ =>
    .bind (.foldlM (eraseBlock _ _) _ _) fun _ => .ite _ askFlush (.pure _)

def rustIndexBlock (i : Nat) : OnReplica fun _ => Rust.indexBlock build i :=
  .bind (onDevice (askRead i)) fun _ => .ite _ (.pure _) <|
    .bind (onDevice (rustVerifyAndReadRecord build i)) fun
      | none => .pure _
      | some rec => askIndex fun index => by
          dsimp only
          exact .ite ((match index.get (fromUtf8Lossy rec.key) with
            | none => true
            | some ex => decide (rec.generation > ex.generation)) = true)
            (askPutIndex _) (.pure _)

def rustReplicaBuildIndex : OnReplica fun _ => Rust.replicaBuildIndex build :=
  .bind (askSetIndex ∅) fun _ => .bind (onDevice askCount) fun _ =>
    .foldlM (fun _ i => rustIndexBlock build i) _ _

/-- What `get_with_generation` makes of the outcome of reading a record. -/
def caught (generation : Nat) : Except Failure (Option CompleteRecord) →
    Except Failure (Option (Except Error (Nat × Bytes)))
  | .ok (some rec) => .ok (some (.ok (generation, rec.value)))
  | .ok none => .ok (some (.error .corruptRecord))
  | .error (.err error) => .ok (some (.error error))
  | .error .panic => .error .panic

/-- Read the record of an index entry, whatever comes of it. -/
def readEntry {D : Type} [BlockDevice D] (entry : IndexEntry) :
    Proc Failure (Replica D) (Option (Except Error (Nat × Bytes))) := fun r =>
  (caught entry.generation
      (Replica.onDevice (Rust.verifyAndReadRecord build entry.descriptorBlock) r).1,
    (Replica.onDevice (Rust.verifyAndReadRecord build entry.descriptorBlock) r).2)

theorem getWithGeneration_steps {D : Type} [BlockDevice D] (key : Bytes) :
    (Rust.getWithGeneration build key : Proc Failure (Replica D) _) =
      Proc.get >>= fun r =>
        match r.index.get (fromUtf8Lossy key) with
        | none => pure none
        | some entry => readEntry build entry := by
  funext r
  rw [Proc.get_bind_apply, Rust.getWithGeneration]
  cases r.index.get (fromUtf8Lossy key) with
  | none => rfl
  | some entry =>
      dsimp only
      rw [readEntry, Replica.onDevice, Proc.zoom_apply]
      rcases Rust.verifyAndReadRecord build entry.descriptorBlock r.dev with ⟨outcome, dev⟩
      rcases outcome with (error | _) | (_ | rec) <;> rfl

def rustGetWithGeneration (key : Bytes) : OnReplica fun _ => Rust.getWithGeneration build key :=
  .congr (fun _ => getWithGeneration_steps build key) <| askIndex fun index => by
    dsimp only
    exact match index.get (fromUtf8Lossy key) with
      | none => .pure _
      | some entry => .handle (onDevice (rustVerifyAndReadRecord build entry.descriptorBlock))
          (caught entry.generation)

def rustGetReplica (key : Bytes) (best : Option (Nat × Bytes)) :
    OnReplica fun _ => Rust.getReplica build key best :=
  .bind (rustGetWithGeneration build key) fun
    | none => .pure _
    | some (.error _) => .pure _
    | some (.ok _) => match best with
      | none => .pure _
      | some _ => .pure _

def rustReplicaPut (key value : Bytes) (generation : Nat) (userFlags : UInt32)
    (freePattern : UInt8) :
    OnReplica fun _ => Rust.replicaPut build key value generation userFlags freePattern :=
  askIndex fun index => by
    dsimp only
    exact askSizeFor (Rust.neededBlocks build key value) fun needed =>
      .bind (onDevice (rustFindFreeBlocks needed)) fun
        | [] => .fail _
        | descriptorBlock :: chunkBlocks => .bind (onDevice (rustWriteRecord build descriptorBlock
            chunkBlocks key generation value userFlags)) fun _ =>
              .bind (onDevice askFlush) fun _ => .bind (askPutIndex _) fun _ =>
                match (index.get (fromUtf8Lossy key)).map IndexEntry.descriptorBlock with
                | none => .pure _
                | some oldBlock => .bind (onDevice (freeRecord oldBlock freePattern))
                    fun _ => onDevice askFlush

def rustBuildIndex : OnStore fun _ => Rust.buildIndex build :=
  onReplicas (.each (fun _ => rustReplicaBuildIndex build) ())

def rustRecover : OnStore fun _ => Rust.recover build :=
  askOpts fun opts => by
    dsimp only
    exact onReplicas (.each (fun _ => onDevice (rustReplicaRecover build opts.freePattern)) ())

def rustGet (key : Bytes) : OnStore fun _ => Rust.get build key :=
  .bind (onReplicas (.each (rustGetReplica build key) none)) fun
    | none => .fail _
    | some _ => .pure _

def rustPut (key value : Bytes) (userFlags : UInt32) :
    OnStore fun _ => Rust.putFlagged build key value userFlags :=
  .congr (fun _ => rustPut_steps build key value userFlags) <|
    askPut _ _ (fromUtf8Lossy key) key fun generation freePattern =>
      rustReplicaPut build key value generation userFlags freePattern

end

def rustDelete (key : Bytes) : OnStore fun _ => Rust.delete key :=
  askOpts fun opts => by
    dsimp only
    exact .bind (onReplicas (.each (deleteReplica (fromUtf8Lossy key) opts.freePattern) false))
      fun _ => .ite _ (.pure _) (.fail _)

end Embedkv.Spelling
