import Embedkv.Lib.Budget
import Embedkv.SpaceLaws
import Embedkv.LockstepLaws
import Embedkv.AgreeLaws

/-!
# The store as a map within a budget

What a store answers is determined: it is a map from keys to values whose
entries cost blocks, in a device that has so many data blocks. A put is refused
for its key or for want of blocks, and for nothing else. The books of a replica
say that the map is what it holds and that the blocks the map does not cost are
free; every step, by whichever implementation, keeps them.
-/

namespace Embedkv.Ledger

open Embedkv.Lib Embedkv.Format Embedkv.Device Embedkv.State Embedkv.Image Embedkv.Record
open Embedkv.Layout Embedkv.Effects Embedkv.Plan Embedkv.Recovery Embedkv.Outcome Embedkv.Session
open Embedkv.Exact Embedkv.Lockstep Embedkv.Run Embedkv.Steady Embedkv.MapLaws Embedkv.Alone
open Embedkv.Frame Embedkv.SpaceLaws Embedkv.IsolationLaws Embedkv.LockstepLaws Embedkv.Stores
open Embedkv.AgreeLaws

set_option autoImplicit false

/-! ## The abstract store -/

/-- Room for the data blocks of a device: a key takes part of a descriptor
block, and an entry takes the blocks of its record. -/
def roomOf (blockSize blockCount : Nat) : Budget Bytes Bytes where
  fits key := key.length + 36 ≤ blockSize
  cost key value := blocksFor blockSize key.length value.length
  total := blockCount - 1

/-- What the callers are told of a refusal. -/
def refusal : Refusal → Error
  | .unfit => .keyTooLong
  | .full => .storageFull

/-- The answer to a step and the map after it. -/
def predict (room : Budget Bytes Bytes) (m : Map) : Step → Except Failure (Option Bytes) × Map
  | .call (.put key value _) =>
    ((room.put m key value).1.map (fun _ => none) |>.mapError fun why => .err (refusal why),
      (room.put m key value).2)
  | .call (.delete key) =>
    if key ∈ m then (.ok none, m.erase key) else (.error (.err .keyNotFound), m)
  | .call (.get key) => ((answer (m.lookup key)).map some, m)
  | .recover => (.ok none, m)
  | .reopen => (.ok none, m)

/-! ## The books of a replica -/

section
variable {D : Type} [BlockDevice D] [LawfulBlockDevice D]

/-- Every record has a UTF-8 key and takes the blocks that its key and value cost. -/
def Priced (img : MemDevice) : Prop :=
  ∀ d rec, recordAt img d = some rec → isUtf8 rec.key = true ∧
    rec.blocks.length = blocksFor img.blockSize rec.key.length rec.value.length

/-- The replica holds the map, each record at its price, and nothing else takes room. -/
structure Books (blockSize blockCount : Nat) (m : Map) (puts : Nat) (r : Replica D) : Prop where
  settled : Settled r
  tight : Tight (image r.dev)
  priced : Priced (image r.dev)
  size : (image r.dev).blockSize = blockSize
  count : (image r.dev).blockCount = blockCount
  holds : ∀ name, held r name = m.lookup name
  bounded : ∀ name e, r.index.lookup name = some e → e.generation ≤ puts

end

section
variable {D : Type} [BlockDevice D] [ReliableBlockDevice D] {blockSize blockCount puts : Nat}
  {m : Map} {r r' : Replica D} {opts : Options} {s : Store D}

theorem Books.tracks (books : Books blockSize blockCount m puts r) (lock : InStep r opts s) :
    Tracks opts blockSize s m puts r :=
  ⟨lock, books.settled, books.size, books.holds, books.bounded⟩

theorem Books.later (books : Books blockSize blockCount m puts r) {more : Nat} (le : puts ≤ more) :
    Books blockSize blockCount m more r where
  settled := books.settled
  tight := books.tight
  priced := books.priced
  size := books.size
  count := books.count
  holds := books.holds
  bounded name e found := Nat.le_trans (books.bounded name e found) le

theorem Books.reads (books : Books blockSize blockCount m puts r) {rec : CompleteRecord}
    (stored : rec ∈ Scan.records (image r.dev)) : m.lookup rec.key = some rec.value := by
  have present := present_of_records stored
  have found := books.settled.whole.covered _ rec present
  rw [fromUtf8Lossy_of_isUtf8 _ (books.priced _ rec present).1] at found
  rw [← books.holds, held, contents_present found present]

/-- The keys of the map are those of the records. -/
theorem Books.keys (books : Books blockSize blockCount m puts r) :
    m.keys = ((Scan.records (image r.dev)).map CompleteRecord.key).toFinset := by
  have lock := inStep_single books.settled.sound Options.default
  rw [← ((books.tracks lock).mirrors .dev).keys, store_keys lock]
  apply entryKeys_eq books.settled
  intro d rec present
  exact fromUtf8Lossy_of_isUtf8 _ (books.priced d rec present).1

/-- The blocks that the map does not cost are free. -/
theorem Books.free (books : Books blockSize blockCount m puts r) :
    (freeBlocks (image r.dev)).length + (roomOf blockSize blockCount).spent m =
      blockCount - 1 := by
  have spent : (roomOf blockSize blockCount).spent m =
      ((Scan.records (image r.dev)).map fun rec => rec.blocks.length).sum := by
    rw [Budget.spent_listed _ (recordKeys_nodup books.settled) books.keys]
    congr 1
    apply List.map_congr_left
    intro rec stored
    have price := (books.priced _ rec (present_of_records stored)).2
    rw [Budget.priceAt_present _ (books.reads stored), price, books.size]
    rfl
  rw [spent, free_count books.settled.mountable books.tight, books.count]

theorem Priced.effect {build : Rust.Build} {step : Step} {result : Except Failure (Option Bytes)}
    (settled : Settled r) (priced : Priced (image r.dev))
    (allowed : StepAllowed (image r.dev).blockSize step)
    (effect : Effect build opts r step result r') : Priced (image r'.dev) := by
  have kept := effect.keeps settled.sound
  intro d rec present
  rw [kept.size]
  cases effect with
  | refused | missing | get => exact priced d rec present
  | @put key value _ generation new _ _ done =>
      rcases allowed with ⟨allowed, bounded⟩
      rw [done.records] at present
      rcases update_eq_some (release_eq_some present) with old | ⟨_, rfl⟩
      · exact priced d rec old
      · rcases added_contents allowed bounded done.added with ⟨sameKey, sameValue⟩
        rw [sameKey, sameValue, done.added.counted, Codec.asU32_of_lt (by omega)]
        exact ⟨allowed.1, rfl⟩
  | @delete _ e _ _ done =>
      rw [done.records] at present
      by_cases same : d = e.descriptorBlock
      · rw [same, Function.update_self] at present
        cases present
      · rw [Function.update_of_ne same] at present
        exact priced d rec present
  | recover =>
      rw [image_recoveredReplica settled.sound] at present
      rw [settled.whole.recovered (recordAt_zero settled.mountable) settled.large] at present
      exact priced d rec present
  | reopen => exact priced d rec present

/-- What a step that has its effect makes of the values held. -/
theorem Books.held_effect (books : Books blockSize blockCount m puts r) {build : Rust.Build}
    {step : Step} {result : Except Failure (Option Bytes)} (allowed : StepAllowed blockSize step)
    (effect : Effect build opts r step result r') (name : Bytes) :
    held r' name = (next m step result).lookup name := by
  have settled := books.settled
  cases effect with
  | refused => exact books.holds name
  | missing => exact books.holds name
  | @get key result =>
      have same : next m (.call (.get key)) result = m := by cases result <;> rfl
      rw [same]
      exact books.holds name
  | @put key value _ generation new _ advanced done =>
      rcases allowed with ⟨allowed, bounded⟩
      rw [← books.size] at bounded
      let entry := entryAs (fromUtf8Lossy key) generation new.descriptorBlock value
      have listed : Listed entry.key entry new :=
        listed_added allowed.2 (rust_u32Add_lt advanced) done.added
      have holds : held r' = Function.update (held r) (fromUtf8Lossy key) (some new.value) := by
        rw [held, held, done.records, done.index]
        exact contents_put _ settled.whole done.added.fresh listed
      change _ = (m.insert key value).lookup name
      rw [holds, (added_contents allowed bounded done.added).2, allowed.lossy]
      by_cases mine : name = key
      · rw [mine, Function.update_self, Finmap.lookup_insert]
      · rw [Function.update_of_ne mine, Finmap.lookup_insert_of_ne _ mine, books.holds]
  | @delete key e rec _ done =>
      have holds : held r' = Function.update (held r) (fromUtf8Lossy key) none := by
        rw [held, held, done.records, done.index]
        exact contents_delete _ settled.whole done.found
      change _ = (m.erase key).lookup name
      rw [holds, KeyAllowed.lossy allowed]
      by_cases mine : name = key
      · rw [mine, Function.update_self, Finmap.lookup_erase]
      · rw [Function.update_of_ne mine, Finmap.lookup_erase_ne mine, books.holds]
  | recover =>
      rw [(recover_settled settled build opts.freePattern).2.1]
      exact books.holds name
  | reopen =>
      rw [(mount_settled settled).2.1]
      exact books.holds name

/-- Generations grow by puts only. -/
theorem Books.bounded_effect (books : Books blockSize blockCount m puts r) {build : Rust.Build}
    {step : Step} {result : Except Failure (Option Bytes)}
    (room : puts + (if isPut step then 1 else 0) < 2 ^ 32)
    (effect : Effect build opts r step result r') {name : Bytes} {e : IndexEntry}
    (found : r'.index.lookup name = some e) :
    e.generation ≤ puts + if isPut step then 1 else 0 := by
  cases effect with
  | refused => exact Nat.le_add_right_of_le (books.bounded name e found)
  | missing => exact books.bounded name e found
  | get => exact books.bounded name e found
  | @put key value _ generation new _ advanced done =>
      have le : generationOf r.index (fromUtf8Lossy key) ≤ puts :=
        MapLaws.generationOf_le
          (books.tracks (inStep_single books.settled.sound opts)) (fromUtf8Lossy key)
      change puts + 1 < 2 ^ 32 at room
      rw [rust_u32Add_ok (by omega)] at advanced
      have numbered := Except.ok.inj advanced
      rw [done.index] at found
      rcases lookup_put_cases found with ⟨_, rfl⟩ | ⟨_, old⟩
      · change generation ≤ puts + 1
        omega
      · exact Nat.le_succ_of_le (books.bounded name e old)
  | @delete key _ _ _ done =>
      rw [done.index] at found
      by_cases mine : name = fromUtf8Lossy key
      · rw [mine, lookup_delete_self] at found
        cases found
      · rw [lookup_delete_other mine] at found
        exact books.bounded name e found
  | recover => exact books.bounded name e found
  | reopen =>
      rw [(mount_settled books.settled).2.2] at found
      exact books.bounded name e found

theorem Books.effect (books : Books blockSize blockCount m puts r) {build : Rust.Build}
    {step : Step} {result : Except Failure (Option Bytes)} (free : FreePattern opts.freePattern)
    (room : puts + (if isPut step then 1 else 0) < 2 ^ 32)
    (allowed : StepAllowed blockSize step) (effect : Effect build opts r step result r') :
    Books blockSize blockCount (next m step result) (puts + if isPut step then 1 else 0) r' := by
  have kept := effect.keeps books.settled.sound
  have short : ∀ op, step = .call op → op.key.length ≤ 65535 := by
    rintro op rfl
    exact (Op.Allowed.key allowed).2
  have allowedHere : StepAllowed (image r.dev).blockSize step := by
    rw [books.size]
    exact allowed
  exact ⟨effect.settled books.settled short, tight_effect books.settled free books.tight effect,
    books.priced.effect books.settled allowedHere effect, kept.size.trans books.size,
    kept.count.trans books.count, books.held_effect allowed effect,
    fun name e found => books.bounded_effect room effect found⟩

/-! ## What a step answers -/

/-- A put is refused for its key, or for the blocks it finds too few. -/
theorem Books.put_answer (books : Books blockSize blockCount m puts r) (build : Rust.Build)
    (opts : Options) (below : puts + 1 < 2 ^ 32) {key value : Bytes} (short : key.length ≤ 65535)
    (small : value.length + blockSize < 2 ^ 32) (userFlags : UInt32) :
    (Rust.putFlagged build key value userFlags (single r opts)).1 =
      ((roomOf blockSize blockCount).put m key value).1.mapError fun why => .err (refusal why) := by
  have sound := books.settled.sound
  have size := books.size
  have free := books.free
  have le : generationOf r.index (fromUtf8Lossy key) ≤ puts :=
    MapLaws.generationOf_le (books.tracks (inStep_single sound opts)) (fromUtf8Lossy key)
  have valueCast : asU32 value.length = value.length := Codec.asU32_of_lt (by omega)
  have advanced : Rust.u32Add build (generationOf r.index (fromUtf8Lossy key)) 1 =
      .ok (generationOf r.index (fromUtf8Lossy key) + 1) := rust_u32Add_ok (by omega)
  have cost : (roomOf blockSize blockCount).cost key value =
      blocksFor blockSize key.length value.length := rfl
  have total : (roomOf blockSize blockCount).total = blockCount - 1 := rfl
  by_cases keyFits : key.length + 36 ≤ blockSize
  · have fits : (roomOf blockSize blockCount).fits key = true := decide_eq_true keyFits
    rcases putFlagged_fitting sound build opts (show _ ≤ (image r.dev).blockSize by omega) value
      userFlags advanced with ⟨full, crowded⟩ | ⟨room, new, r', ran, _⟩
    · rw [HasRoom, valueCast, size] at crowded
      rw [full, Budget.put_full _ fits (by omega)]
      rfl
    · rw [HasRoom, valueCast, size] at room
      rw [ran, Budget.put_stored _ fits (by omega)]
      rfl
  · have unfit : (roomOf blockSize blockCount).fits key = false := decide_eq_false keyFits
    rw [putFlagged_unfit sound build opts short (by omega), Budget.put_unfit _ unfit]
    rfl

theorem Books.delete_answer (books : Books blockSize blockCount m puts r) (opts : Options)
    {key : Bytes} (allowed : KeyAllowed key) :
    (Rust.delete key (single r opts)).1 =
      if key ∈ m then .ok () else .error (.err .keyNotFound) := by
  have holdsKey := books.holds key
  rcases Steady.delete_answer books.settled opts key with ⟨result, r', ran, answered⟩
  rw [ran]
  rw [allowed.lossy] at answered
  cases answered with
  | absent absent =>
      rw [held, contents_absent absent] at holdsKey
      rw [if_neg (Finmap.lookup_eq_none.mp holdsKey.symm)]
  | removed found =>
      rcases books.settled.whole.entry found with ⟨rec, present, _, _⟩
      rw [held, contents_present found present] at holdsKey
      rw [if_pos (Finmap.mem_of_lookup_eq_some holdsKey.symm)]

/-- One replica answers every step as the map within its budget does. -/
theorem Books.answer (books : Books blockSize blockCount m puts r) (build : Rust.Build)
    (opts : Options) {step : Step} (below : puts + (if isPut step then 1 else 0) < 2 ^ 32)
    (allowed : StepAllowed blockSize step) :
    (step.run build (single r opts)).1 = (predict (roomOf blockSize blockCount) m step).1 := by
  have sound := books.settled.sound
  cases step with
  | call op =>
      rw [Step.run]
      cases op with
      | put key value userFlags =>
          rw [perform_put, books.put_answer build opts below allowed.1.2 allowed.2, predict]
          cases ((roomOf blockSize blockCount).put m key value).1 <;> rfl
      | delete key =>
          rw [perform_delete, books.delete_answer opts allowed, predict]
          split <;> rfl
      | get key =>
          rw [perform_get, get_held sound, books.holds, KeyAllowed.lossy allowed, predict]
  | recover =>
      rcases step_effect sound build opts .recover with ⟨result, r', ran, effect⟩
      rw [ran]
      cases effect
      rfl
  | reopen =>
      rcases step_effect sound build opts .reopen with ⟨result, r', ran, effect⟩
      rw [ran]
      cases effect
      rfl

/-- The map after the answer is the one foretold. -/
theorem next_predict (room : Budget Bytes Bytes) (m : Map) (step : Step) :
    next m step (predict room m step).1 = (predict room m step).2 := by
  cases step with
  | call op =>
      cases op with
      | put key value userFlags =>
          rw [predict, Budget.put]
          split
          · rfl
          · split <;> rfl
      | delete key =>
          rw [predict]
          split <;> rfl
      | get key =>
          rw [predict]
          cases m.lookup key <;> rfl
  | recover => rfl
  | reopen => rfl

/-- A store of twins takes every step as one of them does. -/
theorem inStep_step (lock : InStep r opts s) (settled : Settled r) (build : Rust.Build)
    {step : Step} (short : Short step) :
    ∃ r', (step.run build (single r opts)).2 = single r' opts ∧
      (step.run build s).1 = (step.run build (single r opts)).1 ∧
      InStep r' opts (step.run build s).2 := by
  have sound := settled.sound
  have alone := inStep_single sound opts
  cases step with
  | call op =>
      simp only [Step.run]
      cases op with
      | put key value userFlags =>
          rcases inStep_put lock sound build short value userFlags with ⟨r', one, same, lock'⟩
          simp only [perform_put]
          exact ⟨r', one, congrArg _ same, lock'⟩
      | delete key =>
          rcases inStep_delete lock sound key with ⟨r', one, same, lock'⟩
          simp only [perform_delete]
          exact ⟨r', one, congrArg _ same, lock'⟩
      | get key =>
          simp only [perform_get, store_get lock settled, store_get alone settled]
          exact ⟨r, rfl, trivial, lock⟩
  | recover =>
      rcases inStep_recover lock sound build with ⟨finished, lock'⟩
      rcases step_effect sound build opts .recover with ⟨result, r', ran, effect⟩
      cases effect
      have whole : Step.recover.run build s = (.ok none, (Rust.recover build s).2) :=
        Proc.bind_ok (Prod.ext finished rfl) _
      rw [ran, whole]
      exact ⟨_, rfl, rfl, lock'⟩
  | reopen =>
      rcases inStep_mount lock sound build with ⟨reopened, opened, lock'⟩
      rcases step_effect sound build opts .reopen with ⟨result, r', ran, effect⟩
      cases effect
      have whole : Step.reopen.run build s = (.ok none, reopened) := by
        simp only [Step.run, lock.opts_eq, opened]
      rw [ran, whole]
      exact ⟨_, rfl, rfl, lock'⟩

/-! ## Steps by any implementation -/

/-- A store of twins that keep the books. -/
def Balanced (opts : Options) (blockSize blockCount : Nat) (m : Map) (puts : Nat) (s : Store D) :
    Prop :=
  ∃ r : Replica D, InStep r opts s ∧ Books blockSize blockCount m puts r

/-- A step on the store of one of the implementations; a reopening hands the
devices over to it. -/
def stepBy (impl : Impl) : Step → Proc Failure (Store D) (Option Bytes)
  | .call op => (Call.serve op).run impl
  | .recover => Call.recover.run impl
  | .reopen => fun s =>
    match impl.mount (Rust.intoDevices s) s.opts with
    | .ok reopened => (.ok none, reopened)
    | .error failure => (.error failure, s)

omit [ReliableBlockDevice D] in
theorem stepBy_rust (build : Rust.Build) (step : Step) :
    (stepBy (.rust build) step : Proc Failure (Store D) (Option Bytes)) = step.run build := by
  cases step with
  | call op => cases op <;> rfl
  | recover => rfl
  | reopen => rfl

theorem Balanced.level (balanced : Balanced opts blockSize blockCount m puts s) :
    Level blockSize s := by
  rcases balanced with ⟨r, lock, books⟩
  intro q member
  have twin := lock.twins q member
  have same : Scan.records (image q.dev) = Scan.records (image r.dev) :=
    twin.data.records books.settled.mountable.type twin.mountable.type
  refine ⟨twin.data.size.trans books.size, ?_, ?_, ?_⟩
  · intro rec stored
    rw [same] at stored
    exact (books.priced _ rec (present_of_records stored)).1
  · intro name e found
    rw [twin.index] at found
    rcases books.settled.whole.entry found with ⟨rec, _, named, rfl⟩
    exact named
  · intro name e found
    rw [twin.index] at found
    rw [twin.data.count]
    rcases books.settled.whole.entry found with ⟨rec, present, _, _⟩
    exact (recordAt_eq_some.mp present).inside

theorem Balanced.large (balanced : Balanced opts blockSize blockCount m puts s) :
    36 ≤ blockSize := by
  rcases balanced with ⟨r, _, books⟩
  rw [← books.size]
  exact books.settled.large

omit [ReliableBlockDevice D] in
theorem mount_failed {impl : Impl} {devs : List D} {failure : Failure}
    (fails : impl.openStore devs opts = .error failure) : impl.mount devs opts = .error failure := by
  rw [Impl.mount, fails]
  rfl

omit [ReliableBlockDevice D] in
theorem mount_built {impl : Impl} {devs : List D} {opened built : Store D}
    {result : Except Failure Unit} (opens : impl.openStore devs opts = .ok opened)
    (builds : impl.buildIndex opened = (result, built)) :
    impl.mount devs opts = result.map fun _ => built := by
  rw [Impl.mount, opens]
  cases result with
  | ok done =>
      simp only [bind, Except.bind, builds, pure, Except.pure]
      rfl
  | error failure =>
      simp only [bind, Except.bind, builds]
      rfl

/-- The Go store opens the devices of a balanced store as the Rust store does. -/
theorem Balanced.go_mount (balanced : Balanced opts blockSize blockCount m puts s)
    (build : Rust.Build) (opts' : Options) :
    Impl.go.mount (Rust.intoDevices s) opts' =
      (Impl.rust build).mount (Rust.intoDevices s) opts' := by
  have level := balanced.level
  have large := balanced.large
  cases opened : (Impl.rust build).openStore (Rust.intoDevices s) opts' with
  | error failure =>
      have goOpened : Impl.go.openStore (Rust.intoDevices s) opts' = .error failure := by
        rw [Impl.openStore_eq, ← opened, Impl.openStore_eq]
      rw [mount_failed goOpened, mount_failed opened]
  | ok mounted =>
      have devices : ∀ r ∈ mounted.replicas, ∃ q ∈ s.replicas, r.dev = q.dev := by
        intro r member
        rcases Mount.openStore_iff.mp opened with ⟨_, rfl⟩
        rcases List.mem_map.mp member with ⟨dev, among, rfl⟩
        rcases List.mem_map.mp among with ⟨q, inside, rfl⟩
        exact ⟨q, inside, rfl⟩
      have built : Go.buildIndex mounted = Rust.buildIndex build mounted := by
        apply Agree.go_buildIndex build
        · intro r member
          rcases devices r member with ⟨q, inside, same⟩
          rw [same, (level q inside).size]
          exact large
        · intro r member
          rcases devices r member with ⟨q, inside, same⟩
          rw [same]
          exact (level q inside).utf8
      have goOpened : Impl.go.openStore (Rust.intoDevices s) opts' = .ok mounted := by
        rw [Impl.openStore_eq, ← opened, Impl.openStore_eq]
      rw [mount_built opened rfl, mount_built goOpened built]

theorem Balanced.counts (balanced : Balanced opts blockSize blockCount m puts s)
    (below : puts + 1 < 2 ^ 32) (key : Bytes) :
    Rust.indexedGeneration (fromUtf8Lossy key) s.replicas < 2 ^ 32 - 1 := by
  rcases balanced with ⟨r, lock, books⟩
  rw [indexedGeneration_twins (fromUtf8Lossy key) lock.nonempty
    fun q member => (lock.twins q member).index]
  have le : generationOf r.index (fromUtf8Lossy key) ≤ puts :=
    MapLaws.generationOf_le (books.tracks lock) (fromUtf8Lossy key)
  omega

/-- On a balanced store it makes no difference who takes a step. -/
theorem Balanced.stepBy_eq (balanced : Balanced opts blockSize blockCount m puts s) (impl : Impl)
    {step : Step} (below : puts + (if isPut step then 1 else 0) < 2 ^ 32)
    (allowed : StepAllowed blockSize step) : ∃ build, stepBy impl step s = step.run build s := by
  cases impl with
  | rust build => exact ⟨build, by rw [stepBy_rust]⟩
  | go =>
      refine ⟨.dev, ?_⟩
      rw [← stepBy_rust]
      cases step with
      | call op =>
          have served : (Call.serve op).Allowed blockSize := allowed
          have counts : Counts (.serve op) s := by
            cases op with
            | put key value userFlags => exact balanced.counts below key
            | delete key => trivial
            | get key => trivial
          exact (call_agrees .dev balanced.large balanced.level served counts).1
      | recover =>
          have served : Call.recover.Allowed blockSize := trivial
          have counts : Counts .recover s := trivial
          exact (call_agrees .dev balanced.large balanced.level served counts).1
      | reopen => simp only [stepBy, balanced.go_mount .dev]

/-- One step, by any implementation: the answer is the one foretold, and the
store goes on with the map foretold. -/
theorem Balanced.step (balanced : Balanced opts blockSize blockCount m puts s)
    (free : FreePattern opts.freePattern) (impl : Impl) {step : Step}
    (below : puts + (if isPut step then 1 else 0) < 2 ^ 32)
    (allowed : StepAllowed blockSize step) :
    (stepBy impl step s).1 = (predict (roomOf blockSize blockCount) m step).1 ∧
      Balanced opts blockSize blockCount (predict (roomOf blockSize blockCount) m step).2
        (puts + if isPut step then 1 else 0) (stepBy impl step s).2 := by
  rcases balanced.stepBy_eq impl below allowed with ⟨build, same⟩
  rcases balanced with ⟨r, lock, books⟩
  rcases inStep_step lock books.settled build (short_of_allowed allowed) with
    ⟨r', one, answered, lock'⟩
  have foretold := books.answer build opts below allowed
  rcases step_effect books.settled.sound build opts step with ⟨result, r'', ran, effect⟩
  rw [ran] at one foretold
  rw [ran] at answered
  have there : r'' = r' := single_inj one
  subst there
  change result = _ at foretold
  rw [same, ← next_predict, ← foretold]
  exact ⟨answered, r'', lock', books.effect free below allowed effect⟩

/-- The keys a balanced store lists are those of the map. -/
theorem Balanced.keys (balanced : Balanced opts blockSize blockCount m puts s) (impl : Impl) :
    impl.keys s = m.keys := by
  have rust : Rust.keys s = m.keys := by
    rcases balanced with ⟨r, lock, books⟩
    exact ((books.tracks lock).mirrors .dev).keys
  cases impl with
  | rust build => exact rust
  | go => exact (Agree.go_keys fun q member => (balanced.level q member).pointed.keyed).trans rust

end

end Embedkv.Ledger
