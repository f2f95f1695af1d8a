import Embedkv.Ledger

/-!
# Sessions handed from one implementation to the other

Devices formatted by one implementation and opened by another go from hand to
hand: every step of a run may be served by the Rust store of either build or by
the Go store, and a reopening hands the devices over. Whoever serves, every
answer and every list of keys is the one the map within its budget gives.
-/

namespace Embedkv.RelayLaws

open Embedkv.Lib Embedkv.Format Embedkv.Device Embedkv.State Embedkv.Image Embedkv.Record
open Embedkv.Effects Embedkv.Recovery Embedkv.Session Embedkv.Exact Embedkv.Lockstep Embedkv.Run
open Embedkv.Steady Embedkv.MapLaws Embedkv.SpaceLaws Embedkv.Stores Embedkv.Ledger

set_option autoImplicit false

section
variable {D : Type} [BlockDevice D]

/-- Format by one implementation, then open and build the indexes by another;
`attach` puts the formatted blocks behind the device the run uses. -/
def freshBy (formatter opener : Impl) (opts : Options) (attach : MemDevice → D)
    (devs : List MemDevice) : Except Failure (Store D) :=
  match formatter.format opts devs with
  | (.error failure, _) => .error failure
  | (.ok (), formatted) => opener.mount (formatted.map attach) opts

/-- What there is to see of a run: the answers, and the keys after each step. -/
def watch : List (Impl × Step) → Store D → List (Except Failure (Option Bytes) × Finset Bytes)
  | [], _ => []
  | (impl, step) :: rest, s =>
    ((stepBy impl step s).1, impl.keys (stepBy impl step s).2) :: watch rest (stepBy impl step s).2

/-- The store after a run. -/
def settle : List (Impl × Step) → Store D → Store D
  | [], s => s
  | (impl, step) :: rest, s => settle rest (stepBy impl step s).2

theorem watch_append (steps more : List (Impl × Step)) (s : Store D) :
    watch (steps ++ more) s = watch steps s ++ watch more (settle steps s) := by
  induction steps generalizing s with
  | nil => rfl
  | cons served rest ih =>
      rw [List.cons_append, watch, watch, ih, List.cons_append]
      rfl

end

/-- What the map within the budget lets expect. -/
def foretell (room : Budget Bytes Bytes) :
    List Step → Map → List (Except Failure (Option Bytes) × Finset Bytes)
  | [], _ => []
  | step :: rest, m =>
    ((predict room m step).1, (predict room m step).2.keys) ::
      foretell room rest (predict room m step).2

/-- Zeroed devices formatted by either implementation are blank. -/
theorem format_blank_by {formatter : Impl} {opts : Options} {blockSize blockCount n : Nat}
    {size_lt : blockSize < 2 ^ 32} {count_lt : blockCount < 2 ^ 32} {devs : List MemDevice}
    (formatted : formatter.format opts (List.replicate n
      (MemDevice.new blockSize blockCount size_lt count_lt)) = (.ok (), devs)) :
    devs ≠ [] ∧ devs.length = n ∧ ∀ dev ∈ devs, Blank blockSize blockCount dev := by
  cases formatter with
  | rust build => exact format_blank formatted
  | go =>
      change Go.format opts _ = _ at formatted
      rw [Agree.go_format] at formatted
      exact format_blank formatted

section
variable {D : Type} [BlockDevice D] [ReliableBlockDevice D] {blockSize blockCount : Nat}

/-- Blank devices, as a scan by either implementation leaves them, are twins. -/
theorem twin_blank {dev other : D} (name : Bytes → Bytes)
    (here : Blank blockSize blockCount (image dev))
    (there : Blank blockSize blockCount (image other)) :
    Twin (scannedReplica dev) (scannedAs name other) := by
  refine ⟨⟨?_, ?_, ?_⟩, ?_, there.mountable⟩
  · exact there.size.trans here.size.symm
  · exact there.count.trans here.count.symm
  · intro b data
    change (image other).block b = (image dev).block b
    by_cases bound : b < blockCount
    · rw [there.data b data bound, here.data b data bound]
    · rw [MemDevice.block, MemDevice.block, List.getD_eq_default, List.getD_eq_default]
      · rw [← here.count] at bound
        exact Nat.le_of_not_lt bound
      · rw [← there.count] at bound
        exact Nat.le_of_not_lt bound
  · change Scan.indexOf name (image other) = Scan.indexOf fromUtf8Lossy (image dev)
    rw [Scan.indexOf, Scan.indexOf, blank_records here, blank_records there]
    rfl

theorem books_blank {dev : D} (large : 36 ≤ blockSize)
    (blank : Blank blockSize blockCount (image dev)) :
    Books blockSize blockCount ∅ 0 (scannedReplica dev) := by
  have empty : ∀ name, (scannedReplica dev).index.lookup name = none := by
    intro name
    change (Scan.indexOf fromUtf8Lossy (image dev)).lookup name = none
    rw [Scan.lookup_indexOf_none, blank_records blank]
    intro rec stored
    cases stored
  refine ⟨blank_settled large blank, ?_, ?_, blank.size, blank.count, ?_, ?_⟩
  · intro b positive inside taken
    change b < (image dev).blockCount at inside
    rw [blank.count] at inside
    change ¬IsFree ((image dev).block b) at taken
    rw [blank.data b positive inside] at taken
    exact absurd (isFree_makeFreeBuf (by omega) (.inl rfl)) taken
  · intro d rec present
    change recordAt (image dev) d = some rec at present
    rw [blank.recordAt] at present
    cases present
  · intro name
    rw [held, contents_absent (empty name)]
    rfl
  · intro name e found
    rw [empty name] at found
    cases found

/-- Blank devices, scanned: balanced, with nothing in the map. -/
theorem balanced_blank {devs : List D} (large : 36 ≤ blockSize) (nonempty : devs ≠ [])
    (blank : ∀ dev ∈ devs, Blank blockSize blockCount (image dev)) (name : Bytes → Bytes)
    (opts : Options) :
    Balanced opts blockSize blockCount ∅ 0
      { replicas := devs.map (scannedAs name), opts := opts } := by
  obtain ⟨dev, member⟩ := List.exists_mem_of_ne_nil devs nonempty
  refine ⟨scannedReplica dev, ⟨rfl, ?_, ?_⟩, books_blank large (blank dev member)⟩
  · simpa using nonempty
  · intro q inside
    obtain ⟨other, among, rfl⟩ := List.mem_map.mp inside
    exact twin_blank name (blank dev member) (blank other among)

/-- The first state of every run. -/
theorem balanced_fresh {formatter opener : Impl} {opts : Options} {attach : MemDevice → D} {n : Nat}
    {size_lt : blockSize < 2 ^ 32} {count_lt : blockCount < 2 ^ 32} {s : Store D}
    (large : 36 ≤ blockSize) (attached : ∀ dev, image (attach dev) = dev)
    (fresh : freshBy formatter opener opts attach (List.replicate n
      (MemDevice.new blockSize blockCount size_lt count_lt)) = .ok s) :
    Balanced opts blockSize blockCount ∅ 0 s := by
  rw [freshBy] at fresh
  split at fresh
  next => cases fresh
  next devs formatted =>
    obtain ⟨nonempty, _, blank⟩ := format_blank_by formatted
    have blanks : ∀ dev ∈ devs.map attach, Blank blockSize blockCount (image dev) := by
      intro dev member
      obtain ⟨mem, inside, rfl⟩ := List.mem_map.mp member
      rw [attached]
      exact blank mem inside
    obtain ⟨_, _, _, _, rfl⟩ := Impl.mount_inv (fun dev member =>
      large.trans (blanks dev member).size.ge) fresh
    exact balanced_blank large (by simpa using nonempty) blanks _ opts

/-- Over a run, what there is to see is foretold, and the store stays balanced. -/
theorem watch_balanced {opts : Options} {m : Map} {puts : Nat} {s : Store D}
    {steps : List (Impl × Step)} (balanced : Balanced opts blockSize blockCount m puts s)
    (free : FreePattern opts.freePattern)
    (below : puts + (steps.map Prod.snd).countP isPut < 2 ^ 32)
    (allowed : ∀ step ∈ steps.map Prod.snd, StepAllowed blockSize step) :
    watch steps s = foretell (roomOf blockSize blockCount) (steps.map Prod.snd) m ∧
      ∃ m', Balanced opts blockSize blockCount m' (puts + (steps.map Prod.snd).countP isPut)
        (settle steps s) := by
  induction steps generalizing s m puts with
  | nil => exact ⟨rfl, m, balanced⟩
  | cons served rest ih =>
      obtain ⟨impl, step⟩ := served
      have counted : puts + (((impl, step) :: rest).map Prod.snd).countP isPut =
          puts + (if isPut step then 1 else 0) + (rest.map Prod.snd).countP isPut := by
        rw [List.map_cons, List.countP_cons, Nat.add_comm (List.countP _ _), Nat.add_assoc]
      rw [counted] at below ⊢
      obtain ⟨(here : StepAllowed blockSize step), later⟩ := List.forall_mem_cons.mp allowed
      obtain ⟨answered, after⟩ := balanced.step free impl (by omega) here
      obtain ⟨watched, settled⟩ := ih after below later
      rw [watch, List.map_cons, foretell, answered, after.keys, watched]
      exact ⟨rfl, settled⟩

end

/-- From formatted devices, whichever implementation formats them, opens them
and serves each step, a run shows what the map within its budget foretells. -/
theorem relay_foretold {D : Type} [BlockDevice D] [ReliableBlockDevice D] {formatter opener : Impl}
    {opts : Options} {attach : MemDevice → D} {blockSize blockCount n : Nat}
    {size_lt : blockSize < 2 ^ 32} {count_lt : blockCount < 2 ^ 32} {s : Store D}
    (large : 36 ≤ blockSize) (free : FreePattern opts.freePattern)
    (attached : ∀ dev, image (attach dev) = dev)
    (fresh : freshBy formatter opener opts attach (List.replicate n
      (MemDevice.new blockSize blockCount size_lt count_lt)) = .ok s)
    {steps : List (Impl × Step)} (few : (steps.map Prod.snd).countP isPut < 2 ^ 32 - 1)
    (allowed : ∀ step ∈ steps.map Prod.snd, StepAllowed blockSize step) :
    watch steps s = foretell (roomOf blockSize blockCount) (steps.map Prod.snd) ∅ :=
  (watch_balanced (balanced_fresh large attached fresh) free (by omega) allowed).1

/-- Two data blocks: an update finds no room beside the value it would replace. -/
def handedOver : List (Impl × Step) :=
  [(.go, .call (.put [0x41] [1, 2, 3, 4] 0)), (.rust .dev, .reopen),
    (.rust .dev, .call (.put [0x41] [5] 0)), (.rust .release, .call (.delete [0x41])),
    (.go, .reopen), (.go, .call (.put [0x42] [6] 1)), (.rust .dev, .call (.get [0x42]))]

theorem relay_foretold_small :
    ∃ s : Store MemDevice,
      freshBy .go (.rust .dev) .default id (List.replicate 2 smallDevice) = .ok s ∧
        watch handedOver s = foretell (roomOf 40 3) (handedOver.map Prod.snd) ∅ := by
  have checked : (freshBy (D := MemDevice) .go (.rust .dev) .default id
      (List.replicate 2 smallDevice)).toOption.isSome := by decide +kernel
  obtain ⟨s, found⟩ := Option.isSome_iff_exists.mp checked
  have fresh := toOption_eq_some found
  exact ⟨s, fresh, relay_foretold (by decide) (.inl rfl) (fun _ => rfl) fresh (by decide)
    (by decide +kernel)⟩

end Embedkv.RelayLaws
