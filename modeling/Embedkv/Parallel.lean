import Embedkv.Bounds
import Embedkv.RelayLaws

/-!
# Stores on matching devices

Two kinds of devices match when they answer alike whatever the contract allows
to ask. Stores whose replicas have matching devices and equal indexes then take
every step alike, over whole sessions and across reopenings, for either
implementation.
-/

namespace Embedkv.Parallel

open Embedkv.Lib Embedkv.Format Embedkv.Device Embedkv.State Embedkv.Steady Embedkv.Stores
open Embedkv.AgreeLaws Embedkv.Ledger Embedkv.RelayLaws Embedkv.Spelling Embedkv.Bounds

set_option autoImplicit false

section
variable {D E : Type} [BlockDevice D] [BlockDevice E]

def geometry (dev : D) : Nat × Nat := (BlockDevice.blockSize dev, BlockDevice.blockCount dev)

/-- Asked within the contract, related devices answer alike and stay related. -/
abbrev Matching (blockSize blockCount : Nat) (related : D → E → Prop) : Prop :=
  (within blockSize blockCount).Matches serveDevice serveDevice related

variable {blockSize blockCount : Nat} {related : D → E → Prop}

structure Alike (related : D → E → Prop) (blockCount : Nat) (r : Replica D) (q : Replica E) :
    Prop where
  dev : related r.dev q.dev
  header : r.header = q.header
  index : r.index = q.index
  ranged : Ranged blockCount r.index

/-- The same options, and replicas that are alike one by one. -/
structure InParallel (related : D → E → Prop) (blockCount : Nat) (s : Store D) (t : Store E) :
    Prop where
  opts : s.opts = t.opts
  replicas : List.Forall₂ (Alike related blockCount) s.replicas t.replicas

theorem replica_matches (same : Matching blockSize blockCount related) :
    (replicaWithin blockSize blockCount).Matches serveReplica serveReplica
      (Alike related blockCount) := by
  intro query r q asked alike
  cases query with
  | device query =>
      obtain ⟨answered, fine, after⟩ := same query r.dev q.dev asked alike.dev
      exact ⟨answered, fine, after, alike.header, alike.index, alike.ranged⟩
  | index change =>
      refine ⟨alike.index, alike.ranged, alike.dev, alike.header, ?_, asked _ alike.ranged⟩
      exact congrArg change alike.index

theorem store_matches (same : Matching blockSize blockCount related) :
    (storeWithin blockSize blockCount).Matches serveStore serveStore
      (InParallel related blockCount) := by
  intro query s t asked parallel
  cases query with
  | opts => exact ⟨parallel.opts, trivial, parallel⟩
  | replicas query =>
      obtain ⟨answered, fine, after⟩ :=
        (replica_matches same).many query s.replicas t.replicas asked parallel.replicas
      exact ⟨answered, fine, parallel.opts, after⟩

/-- A script that keeps to the contract: the same answer, and the stores stay in parallel. -/
theorem spelled_parallel (same : Matching blockSize blockCount related) {α : Type}
    {p : ∀ w : AnyDevice, Proc Failure (Store w.Dev) α} (spelled : OnStore p)
    (bound : StoreBound blockSize blockCount (fun _ => True) spelled.script)
    {s : Store D} {t : Store E} (parallel : InParallel related blockCount s t) :
    (p ⟨D⟩ s).1 = (p ⟨E⟩ t).1 ∧ InParallel related blockCount (p ⟨D⟩ s).2 (p ⟨E⟩ t).2 := by
  have left : p ⟨D⟩ s = spelled.script.run serveStore s := congrFun (spelled.runs ⟨D⟩) s
  have right : p ⟨E⟩ t = spelled.script.run serveStore t := congrFun (spelled.runs ⟨E⟩) t
  obtain ⟨answered, _, after⟩ := bound.matches (store_matches same) parallel
  rw [left, right]
  exact ⟨answered, after⟩

theorem call_parallel (same : Matching blockSize blockCount related) (impl : Impl) (call : Call)
    {s : Store D} {t : Store E} (parallel : InParallel related blockCount s t) :
    (call.run impl s).1 = (call.run impl t).1 ∧
      InParallel related blockCount (call.run impl s).2 (call.run impl t).2 :=
  spelled_parallel same (spellCall impl call) (call_bound impl call) parallel

theorem buildIndex_parallel (same : Matching blockSize blockCount related) (impl : Impl)
    {s : Store D} {t : Store E} (parallel : InParallel related blockCount s t) :
    (impl.buildIndex s).1 = (impl.buildIndex t).1 ∧
      InParallel related blockCount (impl.buildIndex s).2 (impl.buildIndex t).2 := by
  cases impl with
  | rust build =>
      exact spelled_parallel same (rustBuildIndex build) (rustBuildIndex_bound build) parallel
  | go => exact spelled_parallel same goBuildIndex goBuildIndex_bound parallel

omit [BlockDevice D] [BlockDevice E] in
theorem keys_parallel (impl : Impl) {s : Store D} {t : Store E}
    (parallel : InParallel related blockCount s t) : impl.keys s = impl.keys t := by
  have turns (part : MemIndex → Finset Bytes) (set : Finset Bytes) :
      s.replicas.foldl (fun set r => set ∪ part r.index) set =
        t.replicas.foldl (fun set r => set ∪ part r.index) set := by
    have pairs := parallel.replicas
    generalize s.replicas = left at pairs
    generalize t.replicas = right at pairs
    induction pairs generalizing set with
    | nil => rfl
    | cons here _ ih => rw [List.foldl_cons, List.foldl_cons, here.index, ih]
  cases impl with
  | rust build => exact turns MemIndex.entryKeys ∅
  | go => exact turns Finmap.keys ∅

/-! ## Opening -/

/-- Both fail alike, or both succeed with values in `related`. -/
inductive Both {α β : Type} (related : α → β → Prop) :
    Except Failure α → Except Failure β → Prop where
  | ok {value : α} {other : β} (holds : related value other) : Both related (.ok value) (.ok other)
  | error (failure : Failure) : Both related (.error failure) (.error failure)

theorem Both.bind {α β γ δ : Type} {first : α → β → Prop} {second : γ → δ → Prop}
    {x : Except Failure α} {y : Except Failure β} {next : α → Except Failure γ}
    {next' : β → Except Failure δ} (both : Both first x y)
    (later : ∀ value other, first value other → Both second (next value) (next' other)) :
    Both second (x >>= next) (y >>= next') := by
  cases both with
  | ok holds => exact later _ _ holds
  | error failure => exact .error failure

theorem geometry_eq (same : Matching blockSize blockCount related) {dev : D} {twin : E}
    (start : related dev twin) :
    (BlockDevice.blockSize dev, BlockDevice.blockCount dev) = (blockSize, blockCount) ∧
      (BlockDevice.blockSize twin, BlockDevice.blockCount twin) = (blockSize, blockCount) := by
  obtain ⟨size, sized, _⟩ := same .size dev twin trivial start
  obtain ⟨count, counted, _⟩ := same .count dev twin trivial start
  exact ⟨Prod.ext sized counted, Prod.ext (size.symm.trans sized) (count.symm.trans counted)⟩

theorem openReplicaHeader_parallel (same : Matching blockSize blockCount related)
    (inside : 0 < blockCount) {dev : D} {twin : E} (start : related dev twin) :
    ∃ result dev' twin', Rust.openReplicaHeader dev = (result, dev') ∧
      Rust.openReplicaHeader twin = (result, twin') ∧ related dev' twin' := by
  have left : Rust.openReplicaHeader dev = openReplicaHeader.script.run serveDevice dev :=
    congrFun (openReplicaHeader.runs ⟨D⟩) dev
  have right : Rust.openReplicaHeader twin = openReplicaHeader.script.run serveDevice twin :=
    congrFun (openReplicaHeader.runs ⟨E⟩) twin
  obtain ⟨answered, _, after⟩ := (openReplicaHeader_bound inside).matches same start
  exact ⟨_, _, _, left, right.trans (Prod.ext answered.symm rfl), after⟩

theorem openReplicas_parallel (same : Matching blockSize blockCount related)
    (inside : 0 < blockCount) (geometry : Nat × Nat) {devs : List D} {twins : List E}
    (pairs : List.Forall₂ related devs twins) :
    Both (List.Forall₂ (Alike related blockCount)) (Rust.openReplicas geometry devs)
      (Rust.openReplicas geometry twins) := by
  induction pairs with
  | nil => exact .ok .nil
  | @cons dev twin rest others here pairs ih =>
      obtain ⟨result, dev', twin', left, right, after⟩ :=
        openReplicaHeader_parallel same inside here
      rw [Rust.openReplicas, Rust.openReplicas, left, right]
      cases result with
      | error failure => exact .error failure
      | ok header =>
          obtain ⟨sized, sized'⟩ := geometry_eq same after
          dsimp only
          rw [sized, sized']
          split
          next => exact .error _
          next =>
            apply ih.bind
            intro replicas replicas' alike
            exact .ok (.cons ⟨after, rfl, rfl, ranged_empty blockCount⟩ alike)

theorem openStore_parallel (same : Matching blockSize blockCount related) (inside : 0 < blockCount)
    (impl : Impl) (opts : Options) {devs : List D} {twins : List E}
    (pairs : List.Forall₂ related devs twins) :
    Both (InParallel related blockCount) (impl.openStore devs opts)
      (impl.openStore twins opts) := by
  rw [impl.openStore_eq, impl.openStore_eq]
  cases pairs with
  | nil => exact .error _
  | cons here pairs =>
      obtain ⟨sized, sized'⟩ := geometry_eq same here
      rw [Rust.openStore, Rust.openStore, sized, sized']
      apply (openReplicas_parallel same inside _ (.cons here pairs)).bind
      intro replicas replicas' alike
      exact .ok ⟨rfl, alike⟩

/-- Matching devices open to stores in parallel, or not at all. -/
theorem mount_parallel (same : Matching blockSize blockCount related) (inside : 0 < blockCount)
    (impl : Impl) (opts : Options) {devs : List D} {twins : List E}
    (pairs : List.Forall₂ related devs twins) :
    Both (InParallel related blockCount) (impl.mount devs opts) (impl.mount twins opts) := by
  apply (openStore_parallel same inside impl opts pairs).bind
  intro s t parallel
  obtain ⟨answered, after⟩ := buildIndex_parallel same impl parallel
  rcases left : impl.buildIndex s with ⟨result, s'⟩
  rcases right : impl.buildIndex t with ⟨result', t'⟩
  rw [left, right] at answered after
  obtain rfl : result = result' := answered
  cases result with
  | error failure => exact .error failure
  | ok done => exact .ok after

/-- One device's turn in `format`. -/
def formatTurn (build : Rust.Build) (opts : Options) (i : Nat) :
    OnDevice fun _ => do Rust.formatDevice build opts i; return i + 1 :=
  .bind (formatDevice build opts i) fun _ => .pure _

theorem format_each (build : Rust.Build) (opts : Options) {devs : List D} (nonempty : devs ≠ []) :
    Rust.format build opts devs =
      (((Spelled.each (formatTurn build opts) 0).script.run (serveMany serveDevice) devs).1.map
          fun _ => (),
        ((Spelled.each (formatTurn build opts) 0).script.run (serveMany serveDevice) devs).2) := by
  have ran := congrFun ((Spelled.each (formatTurn build opts) 0).runs ⟨D⟩) devs
  rw [Rust.format, List.isEmpty_eq_false_iff.mpr nonempty]
  dsimp only
  rw [ran]
  rfl

theorem rust_format_parallel (same : Matching blockSize blockCount related)
    (inside : 0 < blockCount) (build : Rust.Build) (opts : Options) {devs : List D} {twins : List E}
    (pairs : List.Forall₂ related devs twins) :
    ∃ result devs' twins', Rust.format build opts devs = (result, devs') ∧
      Rust.format build opts twins = (result, twins') ∧ List.Forall₂ related devs' twins' := by
  have turns : (Spelled.each (formatTurn build opts) 0).script.Meets
      (within blockSize blockCount).many (Script.OnSuccess fun _ => True) :=
    .each (fun i _ => (formatDevice_bound build opts i inside).bind fun _ _ => .value trivial) trivial
  obtain ⟨answered, _, after⟩ := turns.matches same.many pairs
  cases pairs with
  | nil => exact ⟨_, _, _, rfl, rfl, .nil⟩
  | cons here pairs =>
      refine ⟨_, _, _, format_each build opts (List.cons_ne_nil _ _), ?_, after⟩
      rw [format_each build opts (List.cons_ne_nil _ _), answered]

/-- Matching devices are formatted alike. -/
theorem format_parallel (same : Matching blockSize blockCount related) (inside : 0 < blockCount)
    (impl : Impl) (opts : Options) {devs : List D} {twins : List E}
    (pairs : List.Forall₂ related devs twins) :
    ∃ result devs' twins', impl.format opts devs = (result, devs') ∧
      impl.format opts twins = (result, twins') ∧ List.Forall₂ related devs' twins' := by
  cases impl with
  | rust build => exact rust_format_parallel same inside build opts pairs
  | go =>
      have turns := rust_format_parallel same inside .release opts pairs
      rw [← Agree.go_format, ← Agree.go_format] at turns
      exact turns

/-! ## Whole sessions -/

omit [BlockDevice D] [BlockDevice E] in
theorem devices_parallel {s : Store D} {t : Store E} (parallel : InParallel related blockCount s t) :
    List.Forall₂ related (Rust.intoDevices s) (Rust.intoDevices t) := by
  rw [Rust.intoDevices, Rust.intoDevices, List.forall₂_map_left_iff, List.forall₂_map_right_iff]
  exact parallel.replicas.imp fun _ _ alike => alike.dev

theorem stepBy_parallel (same : Matching blockSize blockCount related) (inside : 0 < blockCount)
    (impl : Impl) (step : Step) {s : Store D} {t : Store E}
    (parallel : InParallel related blockCount s t) :
    (stepBy impl step s).1 = (stepBy impl step t).1 ∧
      InParallel related blockCount (stepBy impl step s).2 (stepBy impl step t).2 := by
  cases step with
  | call op => exact call_parallel same impl (.serve op) parallel
  | recover => exact call_parallel same impl .recover parallel
  | reopen =>
      have opened := mount_parallel same inside impl s.opts (devices_parallel parallel)
      rw [stepBy, stepBy]
      dsimp only
      rw [← parallel.opts]
      generalize impl.mount (Rust.intoDevices s) s.opts = left at opened
      generalize impl.mount (Rust.intoDevices t) s.opts = right at opened
      cases opened with
      | ok reopened => exact ⟨rfl, reopened⟩
      | error failure => exact ⟨rfl, parallel⟩

/-- Stores in parallel show the same over every session and end in parallel. -/
theorem watch_parallel (same : Matching blockSize blockCount related) (inside : 0 < blockCount)
    (steps : List (Impl × Step)) {s : Store D} {t : Store E}
    (parallel : InParallel related blockCount s t) :
    watch steps s = watch steps t ∧
      InParallel related blockCount (settle steps s) (settle steps t) := by
  induction steps generalizing s t with
  | nil => exact ⟨rfl, parallel⟩
  | cons served rest ih =>
      obtain ⟨impl, step⟩ := served
      obtain ⟨answered, after⟩ := stepBy_parallel same inside impl step parallel
      obtain ⟨watched, settled⟩ := ih after
      rw [watch, watch, answered, keys_parallel impl after, watched]
      exact ⟨rfl, settled⟩

end

end Embedkv.Parallel
