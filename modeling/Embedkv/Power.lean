import Embedkv.Fanout

/-!
# Histories with power losses

A machine is up, with an open store on cached devices, or down, with only the
media left. Requests complete while the power lasts; it can go at any device
call of a request, between two requests, or while a reopening recovers its
media. The tables of the media say what the machine holds. Each event of a
history changes them as `Change` states, and what is proved about histories
follows from that.
-/

namespace Embedkv.Power

open Embedkv.Lib Embedkv.Format Embedkv.Device Embedkv.State Embedkv.Image Embedkv.Record
open Embedkv.Plan Embedkv.Outcome Embedkv.Session Embedkv.Exact Embedkv.Run Embedkv.Steady
open Embedkv.Cache Embedkv.Cut Embedkv.Fanout

set_option autoImplicit false

/-! ## The machine -/

inductive Machine where
  | up (s : Store CachedDevice)
  | down (imgs : List MemDevice)

inductive Event where
  | completed (request : Request) (result : Except Failure Unit)
  /-- The power went during the request; `flushed` says whether one of its
  flushes had completed. -/
  | interrupted (request : Request) (flushed : Bool)
  /-- The power went between two requests. -/
  | outage
  /-- The power went while a reopening recovered the media. -/
  | unrecovered
  | reopened

/-- The store with power for so many more calls on each device. A request stops
at the first call that is not served, so only the number of that device counts. -/
def drain (lefts : List Nat) (s : Store CachedDevice) : Store DrainingDevice where
  replicas := s.replicas.zipWith (fun r left =>
    { dev := { cache := r.dev, left := left }, header := r.header, index := r.index }) lefts
  opts := s.opts

/-- Media connected with power for so many more calls on each. -/
def connect (lefts : List Nat) (imgs : List MemDevice) : List DrainingDevice :=
  imgs.zipWith (fun img left => { cache := .attach img, left := left }) lefts

def flushCount {D : Type} [BlockDevice D] [BufferedDevice D] (s : Store D) : Nat :=
  (s.replicas.map fun r => (cache r.dev).flushes).sum

/-- Media the power loss may leave, one for each replica. -/
def Crashed {D : Type} [BlockDevice D] [BufferedDevice D] (s : Store D) (imgs : List MemDevice) :
    Prop :=
  List.Forall₂ (fun r img => Leaves (cache r.dev) img) s.replicas imgs

/-- The media when every unflushed write is lost. -/
def lost {D : Type} [BlockDevice D] [BufferedDevice D] (s : Store D) : List MemDevice :=
  s.replicas.map fun r => (cache r.dev).durable

theorem crashed_lost {D : Type} [BlockDevice D] [BufferedDevice D] (s : Store D) :
    Crashed s (lost s) := by
  rw [Crashed, lost, List.forall₂_map_right_iff, List.forall₂_same]
  intro r _
  exact settles_lost _ _

inductive Moves (build : Rust.Build) (opts : Options) : Machine → Event → Machine → Prop
  | completed {s s' : Store CachedDevice} {request : Request} {result : Except Failure Unit}
      (ran : request.run build s = (result, s')) :
      Moves build opts (.up s) (.completed request result) (.up s')
  | interrupted {s : Store CachedDevice} {after : Store DrainingDevice} {request : Request}
      {imgs : List MemDevice} (lefts : List Nat) (each : lefts.length = s.replicas.length)
      (ran : request.run build (drain lefts s) = (.error (.err .io), after))
      (crashed : Crashed after imgs) :
      Moves build opts (.up s)
        (.interrupted request (flushCount (drain lefts s) < flushCount after)) (.down imgs)
  | outage {s : Store CachedDevice} {imgs : List MemDevice} (crashed : Crashed s imgs) :
      Moves build opts (.up s) .outage (.down imgs)
  | unrecovered {imgs imgs' : List MemDevice} {opened after : Store DrainingDevice}
      (lefts : List Nat) (each : lefts.length = imgs.length)
      (mounted : Rust.openStore (connect lefts imgs) opts = .ok opened)
      (ran : Rust.recover build opened = (.error (.err .io), after)) (crashed : Crashed after imgs') :
      Moves build opts (.down imgs) .unrecovered (.down imgs')
  | reopened {imgs : List MemDevice} {s : Store CachedDevice}
      (mounted : mountRecovered build (imgs.map .attach) opts = .ok s) :
      Moves build opts (.down imgs) .reopened (.up s)

/-- Events with the machines they lead to, one after the other. -/
def History (build : Rust.Build) (opts : Options) : Machine → List (Event × Machine) → Prop
  | _, [] => True
  | machine, (event, next) :: rest =>
    Moves build opts machine event next ∧ History build opts next rest

/-- The machine at the end. -/
def final : Machine → List (Event × Machine) → Machine
  | machine, [] => machine
  | _, (_, next) :: rest => final next rest

/-! ## Tables -/

def Machine.tables : Machine → List Table
  | .up s => s.replicas.map fun r => table (image r.dev)
  | .down imgs => imgs.map table

/-- What an event does to the tables. -/
inductive Change : Event → List Table → List Table → Prop
  | done (request : Request) (generation : Nat) (tables : List Table)
      (newer : request.Newer generation tables) :
      Change (.completed request (.ok ())) tables (tables.map (request.target generation))
  | failed (request : Request) (generation : Nat) (failure : Failure) (before : List Table)
      (t : Table) (after : List Table) :
      Change (.completed request (.error failure)) (before ++ t :: after)
        (before.map (request.target generation) ++ t :: after)
  | cut (request : Request) (generation : Nat) (flushed : Bool) (before : List Table)
      (t t' : Table) (after : List Table) (newer : request.Newer generation (before ++ t :: after))
      (either : t' = request.target generation t ∨ t' = t ∧ (before = [] → flushed = false)) :
      Change (.interrupted request flushed) (before ++ t :: after)
        (before.map (request.target generation) ++ t' :: after)
  | outage (tables : List Table) : Change .outage tables tables
  | unrecovered (tables : List Table) : Change .unrecovered tables tables
  | reopened (tables : List Table) : Change .reopened tables tables

/-! ## The invariant -/

/-- Every replica of an open store has been flushed, and every medium can be
mounted; generations are bounded by the puts so far. -/
def Sane (opts : Options) (blockSize blockCount puts : Nat) : Machine → Prop
  | .up s => s.opts = opts ∧ Resting blockSize blockCount puts s
  | .down imgs => imgs ≠ [] ∧ ∀ img ∈ imgs, Medium blockSize blockCount puts img

def Event.request : Event → Option Request
  | .completed request _ => some request
  | .interrupted request _ => some request
  | _ => none

/-- Whether the event is one of the puts that are counted. -/
def Event.isPut (event : Event) : Bool := event.request.any Request.isPut

def Event.Allowed (blockSize : Nat) (event : Event) : Prop :=
  ∀ request ∈ event.request, request.Allowed blockSize

/-! ## One event -/

theorem forall₂_right {α β : Type} {related : α → β → Prop} {holds : β → Prop} {xs : List α}
    {ys : List β} (pairs : List.Forall₂ related xs ys)
    (step : ∀ x ∈ xs, ∀ y, related x y → holds y) : ∀ y ∈ ys, holds y := by
  intro y member
  rcases exists_of_forall₂ pairs member with ⟨x, inside, here⟩
  exact step x inside y here

theorem forall₂_append_left {α β : Type} {related : α → β → Prop} {first second : List α}
    {ys : List β} (pairs : List.Forall₂ related (first ++ second) ys) :
    ∃ ys1 ys2, ys = ys1 ++ ys2 ∧ List.Forall₂ related first ys1 ∧
      List.Forall₂ related second ys2 := by
  induction first generalizing ys with
  | nil => exact ⟨[], ys, rfl, .nil, pairs⟩
  | cons x rest ih =>
      cases pairs with
      | cons here later =>
          rcases ih later with ⟨ys1, ys2, rfl, front, back⟩
          exact ⟨_ :: ys1, ys2, rfl, .cons here front, back⟩

theorem map_eq_of_forall₂ {α β γ : Type} {f : α → γ} {g : β → γ} {xs : List α} {ys : List β}
    (pairs : List.Forall₂ (fun x y => f x = g y) xs ys) : xs.map f = ys.map g := by
  rw [← List.forall₂_eq_eq_eq, List.forall₂_map_left_iff, List.forall₂_map_right_iff]
  exact pairs

/-- The tables a request leads to keep the generations bounded. -/
theorem target_bounded {request : Request} {generation puts : Nat} {t : Table}
    (le : generation ≤ puts + 1) (bounded : ∀ name copy, t name = some copy → copy.1 ≤ puts)
    {name : Bytes} {copy : Nat × Bytes} (copied : request.target generation t name = some copy) :
    copy.1 ≤ puts + if request.isPut then 1 else 0 := by
  cases request with
  | put key value userFlags =>
      change Function.update t key (some (generation, value)) name = some copy at copied
      change copy.1 ≤ puts + 1
      by_cases mine : name = key
      · rw [mine, Function.update_self] at copied
        cases copied
        exact le
      · rw [Function.update_of_ne mine] at copied
        exact Nat.le_succ_of_le (bounded name copy copied)
  | delete key =>
      change Function.update t key none name = some copy at copied
      by_cases mine : name = key
      · rw [mine, Function.update_self] at copied
        cases copied
      · rw [Function.update_of_ne mine] at copied
        exact bounded name copy copied
  | recover => exact bounded name copy copied

section
variable {D : Type} [BlockDevice D] [BufferedDevice D] {opts : Options}
  {blockSize blockCount puts : Nat} {replicas replicas' : List (Replica D)}

theorem moved_tables {target : Table → Table} (moved : List.Forall₂ (fun r r' =>
      Moved (target (table (image r.dev))) r r') replicas replicas') :
    (replicas'.map fun r => table (image r.dev)) =
      (replicas.map fun r => table (image r.dev)).map target := by
  induction moved with
  | nil => rfl
  | cons first rest ih => rw [List.map_cons, List.map_cons, List.map_cons, first.reached, ih]

theorem moved_flushed {target : Table → Table} (moved : List.Forall₂ (fun r r' =>
      Moved (target (table (image r.dev))) r r') replicas replicas') :
    ∀ r' ∈ replicas', Flushed r' :=
  forall₂_right moved fun _ _ _ here => here.flushed

theorem moved_media {request : Request} {generation : Nat} (le : generation ≤ puts + 1)
    (media : ∀ r ∈ replicas, Medium blockSize blockCount puts (image r.dev))
    (moved : List.Forall₂ (fun r r' =>
      Moved (request.target generation (table (image r.dev))) r r') replicas replicas') :
    ∀ r' ∈ replicas', Medium blockSize blockCount (puts + if request.isPut then 1 else 0)
      (image r'.dev) := by
  refine forall₂_right moved ?_
  intro r member r' here
  apply (media r member).of_keeps here.kept
  intro name copy copied
  rw [here.reached] at copied
  exact target_bounded le (media r member).bounded copied

/-- The media after a fan-out that stopped at `r`, which left `img`. -/
theorem stopped_media {request : Request} {generation : Nat} (le : generation ≤ puts + 1)
    {r : Replica D} {img : MemDevice} {after : List (Replica D)}
    (media : ∀ q ∈ replicas ++ r :: after, Medium blockSize blockCount puts (image q.dev))
    (moved : List.Forall₂ (fun r r' =>
      Moved (request.target generation (table (image r.dev))) r r') replicas replicas')
    (kept : Keeps (image r.dev) img)
    (either : table img = request.target generation (table (image r.dev)) ∨
      table img = table (image r.dev)) :
    ∀ one ∈ (replicas'.map fun q => image q.dev) ++ img :: after.map fun q => image q.dev,
      Medium blockSize blockCount (puts + if request.isPut then 1 else 0) one := by
  have own := media r (List.mem_append_right _ List.mem_cons_self)
  intro one member
  rcases List.mem_append.mp member with earlier | onward
  · rcases List.mem_map.mp earlier with ⟨q, inside, rfl⟩
    exact moved_media le (fun one within => media one (List.mem_append_left _ within)) moved q
      inside
  rcases List.mem_cons.mp onward with rfl | untouched
  · apply own.of_keeps kept
    intro name copy copied
    rcases either with reached | same
    · rw [reached] at copied
      exact target_bounded le own.bounded copied
    · rw [same] at copied
      exact Nat.le_trans (own.bounded name copy copied) (Nat.le_add_right _ _)
  · rcases List.mem_map.mp untouched with ⟨q, inside, rfl⟩
    exact (media q (List.mem_append_right _ (List.mem_cons_of_mem _ inside))).mono
      (Nat.le_add_right _ _)

/-- Flushed replicas leave what they read as. -/
theorem crashed_flushed {imgs : List MemDevice} (flushed : ∀ r ∈ replicas, Flushed r)
    (crashed : List.Forall₂ (fun r img => Leaves (cache r.dev) img) replicas imgs) :
    imgs = replicas.map fun r => image r.dev := by
  induction crashed with
  | nil => rfl
  | cons first rest ih =>
      rw [List.map_cons, ih fun r member => flushed r (List.mem_cons_of_mem _ member),
        leaves_idle (flushed _ List.mem_cons_self).idle first, BufferedDevice.image_cache]

end

section
variable {opts : Options} {build : Rust.Build} {blockSize blockCount puts : Nat}
  {s : Store CachedDevice} {request : Request}

/-- A request that completes. -/
theorem completed_change (large : 36 ≤ blockSize) (resting : Resting blockSize blockCount puts s)
    (room : puts + (if request.isPut then 1 else 0) < 2 ^ 32)
    (allowed : request.Allowed blockSize) {s' : Store CachedDevice}
    {result : Except Failure Unit} (ran : request.run build s = (result, s')) :
    Resting blockSize blockCount (puts + if request.isPut then 1 else 0) s' ∧ s'.opts = s.opts ∧
      Change (.completed request result) (Machine.up s).tables (Machine.up s').tables := by
  rcases request_ends resting large room allowed ran with
    ⟨failure, _, rfl, rfl⟩ | ⟨generation, le, newer, fanned, sameOpts⟩
  · refine ⟨⟨resting.nonempty, resting.flushed, fun r member =>
      (resting.medium r member).mono (Nat.le_add_right _ _)⟩, rfl, ?_⟩
    cases replicas : s'.replicas with
    | nil => exact absurd replicas resting.nonempty
    | cons first rest =>
        rw [Machine.tables, replicas]
        exact .failed request 0 failure [] _ _
  · rcases s with ⟨replicas, opts⟩
    rcases s' with ⟨replicas', opts'⟩
    have flushed := resting.flushed
    have medium := resting.medium
    have nonempty := resting.nonempty
    simp only [Machine.tables] at fanned flushed medium nonempty newer ⊢
    cases fanned with
    | finished moved =>
        refine ⟨⟨?_, moved_flushed moved, moved_media le medium moved⟩, sameOpts, ?_⟩
        · intro none
          have lengths := moved.length_eq
          rw [show replicas' = [] from none, List.length_nil, List.length_eq_zero_iff] at lengths
          exact nonempty lengths
        · rw [moved_tables moved]
          exact .done request generation _ newer
    | @stopped before before' after r r' failure moved turn =>
        have same : r' = r := by
          cases turn with
          | cut unserved _ => exact absurd unserved cached_serves
          | refused => rfl
        subst same
        refine ⟨⟨by simp, ?_, ?_⟩, sameOpts, ?_⟩
        · intro q member
          rcases List.mem_append.mp member with front | back
          · exact moved_flushed moved q front
          · exact flushed q (List.mem_append_right _ back)
        · intro q member
          apply stopped_media le medium moved (keeps_refl _) (.inr rfl)
          rw [← List.map_cons (f := fun q : Replica CachedDevice => image q.dev), ← List.map_append]
          exact List.mem_map_of_mem member
        · rw [List.map_append, List.map_append, List.map_cons, moved_tables moved]
          exact .failed request generation failure _ _ _

theorem drained_flushed {r : Replica CachedDevice} {q : Replica DrainingDevice}
    (cached : q.dev.cache = r.dev) (index : q.index = r.index) (flushed : Flushed r) :
    Flushed q := by
  have same : image q.dev = image r.dev := congrArg CachedDevice.mem cached
  refine ⟨⟨?_, ?_, ?_⟩, ?_⟩
  · rw [same]
    exact flushed.settled.large
  · rw [same]
    exact flushed.settled.mountable
  · rw [same, index]
    exact flushed.settled.whole
  · change q.dev.cache.pending = []
    rw [cached]
    exact flushed.idle

/-- With its power running out a store is still what it was. -/
theorem drain_replicas {lefts : List Nat} (each : lefts.length = s.replicas.length) :
    List.Forall₂ (fun r q => q.dev.cache = r.dev ∧ q.index = r.index) s.replicas
      (drain lefts s).replicas := by
  rw [drain]
  generalize s.replicas = replicas at each ⊢
  induction replicas generalizing lefts with
  | nil => exact .nil
  | cons first rest ih =>
      cases lefts with
      | nil => cases each
      | cons left lefts =>
          rw [List.zipWith_cons_cons]
          exact .cons ⟨rfl, rfl⟩ (ih (Nat.succ.inj each))

theorem drain_resting {lefts : List Nat} (each : lefts.length = s.replicas.length)
    (resting : Resting blockSize blockCount puts s) :
    Resting blockSize blockCount puts (drain lefts s) ∧
      ((drain lefts s).replicas.map fun r => table (image r.dev)) = (Machine.up s).tables := by
  have pairs := drain_replicas each
  refine ⟨⟨?_, ?_, ?_⟩, ?_⟩
  · intro none
    have lengths := pairs.length_eq
    rw [none, List.length_nil, List.length_eq_zero_iff] at lengths
    exact resting.nonempty lengths
  · exact forall₂_right pairs fun r member q here =>
      drained_flushed here.1 here.2 (resting.flushed r member)
  · refine forall₂_right pairs fun r member q here => ?_
    have same : image q.dev = image r.dev := congrArg CachedDevice.mem here.1
    rw [same]
    exact resting.medium r member
  · refine (map_eq_of_forall₂ (pairs.imp fun r q here => ?_)).symm
    have same : image q.dev = image r.dev := congrArg CachedDevice.mem here.1
    rw [same]

/-- A request during which the power goes. -/
theorem interrupted_change (large : 36 ≤ blockSize) (resting : Resting blockSize blockCount puts s)
    (room : puts + (if request.isPut then 1 else 0) < 2 ^ 32)
    (allowed : request.Allowed blockSize) {lefts : List Nat}
    (each : lefts.length = s.replicas.length) {after : Store DrainingDevice}
    {imgs : List MemDevice}
    (ran : request.run build (drain lefts s) = (.error (.err .io), after))
    (crashed : Crashed after imgs) :
    Sane opts blockSize blockCount (puts + if request.isPut then 1 else 0) (.down imgs) ∧
      Change (.interrupted request (flushCount (drain lefts s) < flushCount after))
        (Machine.up s).tables (Machine.down imgs).tables := by
  rcases drain_resting each resting with ⟨drained, tables⟩
  rw [← tables]
  generalize drain lefts s = start at ran drained
  rcases request_ends drained large room allowed ran with
    ⟨failure, other, failed, _⟩ | ⟨generation, le, newer, fanned, _⟩
  · cases failed
    exact absurd rfl other
  rcases start with ⟨replicas, opts⟩
  rcases after with ⟨replicas', opts'⟩
  have flushed := drained.flushed
  have medium := drained.medium
  simp only [Crashed] at fanned flushed medium newer crashed
  cases fanned with
  | @stopped before before' rest r r' failure moved turn =>
      rcases forall₂_append_left crashed with ⟨imgs1, others, rfl, front, back⟩
      cases back with
      | @cons _ img _ imgs2 here later =>
          have cut : Keeps (image r.dev) img ∧
              (table img = request.target generation (table (image r.dev)) ∨
                table img = table (image r.dev) ∧
                  (cache r'.dev).flushes = (cache r.dev).flushes) := by
            cases turn with
            | cut _ leaves => exact leaves img here
            | refused other => exact absurd rfl other
          rw [crashed_flushed (moved_flushed moved) front, crashed_flushed (fun q member =>
            flushed q (List.mem_append_right _ (List.mem_cons_of_mem _ member))) later]
          have either := cut.2.imp_right And.left
          refine ⟨⟨by simp, stopped_media le medium moved cut.1 either⟩, ?_⟩
          · rw [Machine.tables, List.map_append, List.map_cons, List.map_append, List.map_cons,
              List.map_map, List.map_map]
            rw [List.map_append, List.map_cons] at newer
            have front := moved_tables moved
            change List.map (table ∘ fun r => image r.dev) before' = _ at front
            rw [front]
            apply Change.cut request generation _ _ _ _ _ newer
            rcases cut.2 with reached | ⟨same, unflushed⟩
            · exact .inl reached
            · refine .inr ⟨same, ?_⟩
              intro none
              rw [List.map_eq_nil_iff] at none
              subst none
              cases moved
              rw [decide_eq_false_iff_not, flushCount, flushCount]
              simp [unflushed]

/-- A power loss between two requests. -/
theorem outage_change (resting : Resting blockSize blockCount puts s) {imgs : List MemDevice}
    (crashed : Crashed s imgs) : Sane opts blockSize blockCount puts (.down imgs) ∧
      Change .outage (Machine.up s).tables (Machine.down imgs).tables := by
  rw [crashed_flushed resting.flushed crashed]
  refine ⟨⟨by simpa using resting.nonempty, ?_⟩, ?_⟩
  · intro img member
    rcases List.mem_map.mp member with ⟨r, inside, rfl⟩
    exact resting.medium r inside
  · rw [Machine.tables, Machine.tables, List.map_map]
    exact .outage _

end

section
variable {opts : Options} {build : Rust.Build} {blockSize blockCount puts : Nat}
  {imgs : List MemDevice} {s : Store CachedDevice}

/-- The replica a reopening makes of a medium. -/
def reopenedReplica (build : Rust.Build) (pattern : UInt8) (img : MemDevice) :
    Replica CachedDevice :=
  remountedReplica build pattern (CachedDevice.attach img)

theorem reopened_flushed (build : Rust.Build) {img : MemDevice} (large : 36 ≤ img.blockSize)
    (mountable : Mount.Mountable img) (pattern : UInt8) :
    Flushed (reopenedReplica build pattern img) ∧
      Keeps img (image (reopenedReplica build pattern img).dev) ∧
      table (image (reopenedReplica build pattern img).dev) = table img := by
  have recovered : image (reopenedReplica build pattern img).dev =
      Recovery.recovered fromUtf8Lossy img pattern := image_remounted build pattern large
  have kept : Keeps img (image (reopenedReplica build pattern img).dev) := by
    rw [recovered]
    exact recovered_keeps fromUtf8Lossy img pattern
  have idle : (cache (reopenedReplica build pattern img).dev).pending = [] := by
    rcases ran : Replica.onDevice (Rust.replicaRecover build pattern)
      (Mount.mounted (CachedDevice.attach img)) with ⟨result, after⟩
    have device : (reopenedReplica build pattern img).dev = after.dev :=
      congrArg (fun ended : Except Failure Unit × Replica CachedDevice => ended.2.dev) ran
    rw [device]
    rcases recover_ends large rfl ran with ⟨_, _, idle, _⟩ | ⟨_, unserved, _⟩
    · exact idle
    · exact absurd unserved cached_serves
  refine ⟨⟨⟨?_, mountable.congr kept.size kept.count kept.header, ?_⟩, idle⟩, kept, ?_⟩
  · rw [kept.size]
    exact large
  · rw [reopenedReplica, remounted_scanned build pattern, ← reopenedReplica, recovered]
    exact whole_recovered mountable large pattern
  · rw [recovered, table_recovered large pattern]

/-- A reopening completes, and the store then holds what the media did. -/
theorem reopened_change (large : 36 ≤ blockSize)
    (sane : Sane opts blockSize blockCount puts (.down imgs)) :
    ∃ s, mountRecovered build (imgs.map .attach) opts = .ok s ∧
      Sane opts blockSize blockCount puts (.up s) ∧
      (Machine.up s).tables = (Machine.down imgs).tables := by
  rcases sane with ⟨nonempty, media⟩
  have sized : ∀ img ∈ imgs, 36 ≤ img.blockSize := by
    intro img member
    rw [(media img member).size]
    exact large
  have connected : imgs.map CachedDevice.attach ≠ [] := by simpa using nonempty
  have opened := mountRecovered_eq build connected large (by
    intro dev member
    rcases List.mem_map.mp member with ⟨img, inside, rfl⟩
    exact ⟨(media img inside).mountable, (media img inside).size, (media img inside).count⟩) opts
  refine ⟨_, opened, ⟨rfl, ?_, ?_, ?_⟩, ?_⟩
  · simpa using nonempty
  · intro r member
    rcases List.mem_map.mp member with ⟨dev, among, rfl⟩
    rcases List.mem_map.mp among with ⟨img, inside, rfl⟩
    exact (reopened_flushed build (sized img inside) (media img inside).mountable opts.freePattern).1
  · intro r member
    rcases List.mem_map.mp member with ⟨dev, among, rfl⟩
    rcases List.mem_map.mp among with ⟨img, inside, rfl⟩
    rcases reopened_flushed build (sized img inside) (media img inside).mountable
      opts.freePattern with ⟨_, kept, same⟩
    apply (media img inside).of_keeps kept
    rw [same]
    exact (media img inside).bounded
  · rw [Machine.tables, Machine.tables, List.map_map, List.map_map]
    apply List.map_congr_left
    intro img inside
    exact (reopened_flushed build (sized img inside) (media img inside).mountable opts.freePattern).2.2

/-- Whatever becomes of a recovery, the media read as before. -/
theorem recover_crashed {D : Type} [BlockDevice D] [BufferedDevice D] {pattern : UInt8}
    {replicas replicas' : List (Replica D)} {result : Except Failure Unit}
    (ready : ∀ r ∈ replicas, 36 ≤ (image r.dev).blockSize ∧ (cache r.dev).pending = [])
    (ran : Proc.each (fun _ => Replica.onDevice (Rust.replicaRecover build pattern)) () replicas =
      (result, replicas'))
    (crashed : List.Forall₂ (fun r img => Leaves (cache r.dev) img) replicas' imgs) :
    List.Forall₂ (fun r img => Keeps (image r.dev) img ∧ table img = table (image r.dev)) replicas
      imgs := by
  induction replicas generalizing replicas' imgs with
  | nil =>
      cases ran
      cases crashed
      exact .nil
  | cons first rest ih =>
      rcases ready first List.mem_cons_self with ⟨large, idle⟩
      have readyRest : ∀ r ∈ rest, 36 ≤ (image r.dev).blockSize ∧ (cache r.dev).pending = [] :=
        fun r member => ready r (List.mem_cons_of_mem _ member)
      rcases turn : Replica.onDevice (Rust.replicaRecover build pattern) first with
        ⟨outcome, first'⟩
      rcases recover_ends large idle turn with ⟨rfl, recovered, idle', _⟩ | ⟨rfl, _, leaves⟩
      · rcases rested : Proc.each (fun _ => Replica.onDevice (Rust.replicaRecover build pattern)) ()
          rest with ⟨outcome, rest'⟩
        rw [Proc.each_cons_ok turn, rested] at ran
        cases ran
        cases crashed with
        | cons here later =>
            refine .cons ?_ (ih readyRest rested later)
            rw [leaves_idle idle' here, ← BufferedDevice.image_cache, recovered]
            exact ⟨recovered_keeps fromUtf8Lossy _ pattern, table_recovered large pattern⟩
      · rw [Proc.each_cons_error turn] at ran
        cases ran
        cases crashed with
        | cons here later =>
            refine .cons (leaves _ here)
              (((List.forall₂_and_left _ _).mpr ⟨readyRest, later⟩).imp ?_)
            intro r img untouched
            rw [leaves_idle untouched.1.2 untouched.2, ← BufferedDevice.image_cache]
            exact ⟨keeps_refl _, rfl⟩

theorem connect_media {lefts : List Nat} (each : lefts.length = imgs.length) :
    (connect lefts imgs).map image = imgs ∧
      ∀ dev ∈ connect lefts imgs, dev.cache.pending = [] := by
  rw [connect]
  induction imgs generalizing lefts with
  | nil => exact ⟨rfl, by simp⟩
  | cons img rest ih =>
      cases lefts with
      | nil => cases each
      | cons left lefts =>
          rcases ih (Nat.succ.inj each) with ⟨images, idle⟩
          rw [List.zipWith_cons_cons, List.map_cons, images]
          refine ⟨rfl, ?_⟩
          intro dev member
          rcases List.mem_cons.mp member with rfl | later
          · rfl
          · exact idle dev later

/-- A reopening during whose recovery the power goes. -/
theorem unrecovered_change (large : 36 ≤ blockSize)
    (sane : Sane opts blockSize blockCount puts (.down imgs)) {lefts : List Nat}
    (each : lefts.length = imgs.length) {opened after : Store DrainingDevice}
    {imgs' : List MemDevice} (mounted : Rust.openStore (connect lefts imgs) opts = .ok opened)
    (ran : Rust.recover build opened = (.error (.err .io), after)) (crashed : Crashed after imgs') :
    Sane opts blockSize blockCount puts (.down imgs') ∧
      (Machine.down imgs').tables = (Machine.down imgs).tables := by
  rcases sane with ⟨nonempty, media⟩
  rcases connect_media each with ⟨images, idle⟩
  generalize connect lefts imgs = devs at mounted images idle
  subst images
  have medium : ∀ dev ∈ devs, Medium blockSize blockCount puts (image dev) :=
    fun dev member => media _ (List.mem_map_of_mem member)
  have opens := Mount.rust_openStore (by simpa using nonempty) (fun dev member =>
    ⟨(medium dev member).mountable, (medium dev member).size, (medium dev member).count⟩) opts
  rw [opens] at mounted
  cases mounted
  have ready : ∀ r ∈ devs.map Mount.mounted, 36 ≤ (image r.dev).blockSize ∧
      (cache r.dev).pending = [] := by
    intro r member
    rcases List.mem_map.mp member with ⟨dev, inside, rfl⟩
    refine ⟨?_, idle dev inside⟩
    change 36 ≤ (image dev).blockSize
    rw [(medium dev inside).size]
    exact large
  have pairs := recover_crashed ready (onReplicas_apply ran).1 crashed
  rw [List.forall₂_map_left_iff] at pairs
  refine ⟨⟨?_, ?_⟩, ?_⟩
  · intro none
    have lengths := pairs.length_eq
    rw [none, List.length_nil, List.length_eq_zero_iff] at lengths
    exact nonempty (by rw [lengths]; rfl)
  · refine forall₂_right pairs fun dev member img here => ?_
    apply (medium dev member).of_keeps here.1
    rw [here.2]
    exact (medium dev member).bounded
  · rw [Machine.tables, Machine.tables, List.map_map]
    exact (map_eq_of_forall₂ (pairs.imp fun _ _ here => here.2.symm)).symm

/-- What every event does to the machine and to its tables. -/
theorem moves_change (large : 36 ≤ blockSize) {machine next : Machine} {event : Event}
    (sane : Sane opts blockSize blockCount puts machine)
    (room : puts + (if event.isPut then 1 else 0) < 2 ^ 32) (allowed : event.Allowed blockSize)
    (moves : Moves build opts machine event next) :
    Sane opts blockSize blockCount (puts + if event.isPut then 1 else 0) next ∧
      Change event machine.tables next.tables := by
  cases moves with
  | completed ran =>
      rcases completed_change large sane.2 room (allowed _ rfl) ran with ⟨resting, same, change⟩
      exact ⟨⟨same.trans sane.1, resting⟩, change⟩
  | interrupted lefts each ran crashed =>
      exact interrupted_change large sane.2 room (allowed _ rfl) each ran crashed
  | outage crashed => exact outage_change sane.2 crashed
  | unrecovered lefts each mounted ran crashed =>
      rcases unrecovered_change large sane each mounted ran crashed with ⟨after, same⟩
      rw [same]
      exact ⟨after, .unrecovered _⟩
  | reopened mounted =>
      rcases reopened_change large sane with ⟨s, opened, after, same⟩
      rw [opened] at mounted
      cases mounted
      rw [same]
      exact ⟨after, .reopened _⟩

/-- Along a history the machine stays sane. -/
theorem history_sane (large : 36 ≤ blockSize) {machine : Machine} {trace : List (Event × Machine)}
    (sane : Sane opts blockSize blockCount puts machine)
    (history : History build opts machine trace)
    (room : puts + trace.countP (fun step => step.1.isPut) < 2 ^ 32)
    (allowed : ∀ step ∈ trace, step.1.Allowed blockSize) :
    Sane opts blockSize blockCount (puts + trace.countP fun step => step.1.isPut)
      (final machine trace) := by
  induction trace generalizing machine puts with
  | nil => exact sane
  | cons step rest ih =>
      rcases step with ⟨event, next⟩
      rcases history with ⟨moves, later⟩
      rw [List.countP_cons] at room
      have after := (moves_change large sane (by omega) (allowed _ List.mem_cons_self) moves).1
      have ended := ih after later (by omega) fun step member =>
        allowed step (List.mem_cons_of_mem _ member)
      rw [Nat.add_assoc, Nat.add_comm (if event.isPut then 1 else 0)] at ended
      rw [List.countP_cons]
      exact ended

/-- What a get reads, told by the tables. -/
theorem get_tables (resting : Resting blockSize blockCount puts s) (key : Bytes) :
    (Rust.get build key s).1 =
      answer ((lead ((Machine.up s).tables.map fun t => t (fromUtf8Lossy key))).map Prod.snd) := by
  rw [get_lead (fun r member => (resting.flushed r member).settled), Machine.tables, List.map_map]
  rfl

end

/-- A formatted store of any number of replicas, opened and indexed. -/
theorem fresh_sane {build : Rust.Build} {opts : Options} {blockSize blockCount n : Nat}
    {size_lt : blockSize < 2 ^ 32} {count_lt : blockCount < 2 ^ 32} {s : Store CachedDevice}
    (large : 36 ≤ blockSize)
    (fresh : freshStore build opts CachedDevice.attach (List.replicate n
      (MemDevice.new blockSize blockCount size_lt count_lt)) = .ok s) :
    Sane opts blockSize blockCount 0 (.up s) ∧ s.replicas.length = n ∧
      ∀ t ∈ (Machine.up s).tables, ∀ name, t name = none := by
  rcases freshStore_eq large (fun _ => rfl) fresh with ⟨devs, nonempty, length, blank, rfl⟩
  have empty : ∀ dev ∈ devs, ∀ name, table dev name = none := by
    intro dev member name
    rw [table, Option.map_eq_none_iff, Scan.lookup_bestOf_none, blank_records (blank dev member)]
    intro rec stored
    cases stored
  refine ⟨⟨rfl, ?_, ?_, ?_⟩, ?_, ?_⟩
  · simpa using nonempty
  · intro r member
    rcases List.mem_map.mp member with ⟨dev, inside, rfl⟩
    exact ⟨blank_settled large (blank dev inside), rfl⟩
  · intro r member
    rcases List.mem_map.mp member with ⟨dev, inside, rfl⟩
    have here := blank dev inside
    refine ⟨here.mountable, here.size, here.count, ?_⟩
    intro name copy copied
    change table dev name = some copy at copied
    rw [empty dev inside] at copied
    cases copied
  · rw [List.length_map]
    exact length
  · intro t member
    rcases List.mem_map.mp member with ⟨r, among, rfl⟩
    rcases List.mem_map.mp among with ⟨dev, inside, rfl⟩
    exact empty dev inside

end Embedkv.Power
