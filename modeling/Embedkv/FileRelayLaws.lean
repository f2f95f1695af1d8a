import Embedkv.FileLaws

/-!
# Files from hand to hand

Files are created by one implementation, formatted by another, and go from
session to session. Every session opens them anew with its own file devices,
serves some calls and closes them; between sessions nothing lasts but the bytes.
All sessions together show what the map within its budget foretells.
-/

namespace Embedkv.FileRelayLaws

open Embedkv.Lib Embedkv.Format Embedkv.Device Embedkv.State Embedkv.Recovery Embedkv.Run
open Embedkv.Exact Embedkv.Steady Embedkv.MapLaws Embedkv.Stores Embedkv.Ledger Embedkv.RelayLaws
open Embedkv.Parallel Embedkv.Files Embedkv.FileLaws

set_option autoImplicit false

def create : Impl → Nat → Nat → Except Failure Bytes
  | .rust _, blockSize, blockCount => (Rust.FileDevice.create blockSize blockCount).map HasBytes.bytes
  | .go, blockSize, blockCount => (Go.FileDevice.create blockSize blockCount).map HasBytes.bytes

def formatOn {D : Type} [BlockDevice D] [HasBytes D] (wrap : Bytes → Except Failure D) (impl : Impl)
    (opts : Options) (files : List Bytes) : Except Failure (List Bytes) := do
  let devs ← files.mapM wrap
  match impl.format opts devs with
  | (.ok (), devs') => return devs'.map HasBytes.bytes
  | (.error failure, _) => .error failure

/-- Format by an implementation, each file behind its file device. -/
def formatFiles : Impl → Nat → Options → List Bytes → Except Failure (List Bytes)
  | .rust build, blockSize => formatOn (Rust.FileDevice.openFile blockSize) (.rust build)
  | .go, blockSize => formatOn (Go.FileDevice.openFile blockSize) .go

/-- Files created by one implementation and formatted by another. -/
def freshFiles (creator formatter : Impl) (opts : Options) (n blockSize blockCount : Nat) :
    Except Failure (List Bytes) := do
  let file ← create creator blockSize blockCount
  formatFiles formatter blockSize opts (List.replicate n file)

/-- What there is to see of sessions one after the other, each by one of the
implementations. -/
def watchFiles (blockSize : Nat) (opts : Options) : List (Impl × List Step) → List Bytes → List Shown
  | [], _ => []
  | (impl, steps) :: rest, files =>
    match onFiles impl blockSize opts steps files with
    | (.error failure, files') => (.error failure, ∅) :: watchFiles blockSize opts rest files'
    | (.ok shown, files') => shown ++ watchFiles blockSize opts rest files'

section
variable {D : Type} [BlockDevice D] [HasBytes D] {blockSize blockCount : Nat}

/-- Files of the right length are opened. -/
def Opens (blockSize blockCount : Nat) (wrap : Bytes → Except Failure D) : Prop :=
  ∀ file : Bytes, file.length = blockCount * blockSize →
    ∃ dev, wrap file = .ok dev ∧ Over blockSize blockCount file dev

theorem countBlocks_exact {file : Bytes} (positive : 0 < blockSize) (count_lt : blockCount < 2 ^ 32)
    (sized : file.length = blockCount * blockSize) : countBlocks blockSize file = blockCount := by
  rw [countBlocks, sized, Nat.mul_div_cancel _ positive, asU32, Nat.mod_eq_of_lt count_lt]

theorem opens_of {wrap : Bytes → Except Failure D} {make : Bytes → D}
    (wraps : ∀ file, wrap file = if blockSize = 0 then .error .panic
      else if file.length % blockSize ≠ 0 then .error (.err .sizeMismatch) else .ok (make file))
    (shaped : ∀ file, geometry (make file) = (blockSize, countBlocks blockSize file))
    (holds : ∀ file, HasBytes.bytes (make file) = file)
    (positive : 0 < blockSize) (count_lt : blockCount < 2 ^ 32)
    (short : blockCount * blockSize < offsetLimit) : Opens blockSize blockCount wrap := by
  intro file sized
  have aligned : ¬file.length % blockSize ≠ 0 := by
    rw [sized, Nat.mul_mod_left]
    exact fun differs => differs rfl
  refine ⟨make file, ?_, ?_, holds file, sized.ge, ?_⟩
  · rw [wraps, if_neg positive.ne', if_neg aligned]
  · rw [shaped, countBlocks_exact positive count_lt sized]
  · rw [sized]
    exact short

theorem rust_opens (positive : 0 < blockSize) (count_lt : blockCount < 2 ^ 32)
    (short : blockCount * blockSize < offsetLimit) :
    Opens blockSize blockCount (Rust.FileDevice.openFile blockSize) :=
  opens_of (fun _ => rfl) (fun _ => rfl) (fun _ => rfl) positive count_lt short

theorem go_opens (positive : 0 < blockSize) (count_lt : blockCount < 2 ^ 32)
    (short : blockCount * blockSize < offsetLimit) :
    Opens blockSize blockCount (Go.FileDevice.openFile blockSize) :=
  opens_of (fun _ => rfl) (fun _ => rfl) (fun _ => rfl) positive count_lt short

theorem mem_over {dev : MemDevice} (shaped : geometry dev = (blockSize, blockCount))
    (short : blockCount * blockSize < offsetLimit) :
    Over blockSize blockCount (HasBytes.bytes dev) dev ∧
      (HasBytes.bytes dev).length = blockCount * blockSize := by
  have sized : (HasBytes.bytes dev).length = blockCount * blockSize := by
    obtain ⟨rfl, rfl⟩ := Prod.ext_iff.mp shaped
    exact Blocks.length_flatten dev.sized
  refine ⟨⟨shaped, rfl, sized.ge, ?_⟩, sized⟩
  rw [sized]
  exact short

/-- The files of devices in memory, opened. -/
theorem opened_files {wrap : Bytes → Except Failure D} (opens : Opens blockSize blockCount wrap)
    (short : blockCount * blockSize < offsetLimit) {devs : List MemDevice}
    (shaped : ∀ dev ∈ devs, geometry dev = (blockSize, blockCount)) :
    ∃ files, (devs.map HasBytes.bytes).mapM wrap = .ok files ∧
      List.Forall₂ (SameBytes blockSize blockCount) files devs := by
  induction devs with
  | nil => exact ⟨[], rfl, .nil⟩
  | cons dev rest ih =>
      obtain ⟨here, later⟩ := List.forall_mem_cons.mp shaped
      obtain ⟨stands, sized⟩ := mem_over here short
      obtain ⟨file, opened, stands'⟩ := opens _ sized
      obtain ⟨files, all, pairs⟩ := ih later
      refine ⟨file :: files, ?_, .cons ⟨_, stands', stands⟩ pairs⟩
      rw [List.map_cons, List.mapM_cons, opened, all]
      rfl

end

section
variable {D : Type} [BlockDevice D] [HasBytes D] [ByteDevice D] {blockSize blockCount puts : Nat}
  {opts : Options} {m : Map} {s : Store MemDevice} {wrap : Bytes → Except Failure D}

theorem balanced_shaped (balanced : Balanced opts blockSize blockCount m puts s) :
    ∀ dev ∈ Rust.intoDevices s, geometry dev = (blockSize, blockCount) := by
  intro dev member
  obtain ⟨r, lock, books⟩ := balanced
  obtain ⟨q, inside, rfl⟩ := List.mem_map.mp member
  have twin := lock.twins q inside
  exact Prod.ext (twin.data.size.trans books.size) (twin.data.count.trans books.count)

theorem balanced_reopens (balanced : Balanced opts blockSize blockCount m puts s)
    (free : FreePattern opts.freePattern) (below : puts < 2 ^ 32) (impl : Impl) :
    ∃ reopened, impl.mount (Rust.intoDevices s) opts = .ok reopened ∧
      stepBy impl .reopen s = (.ok none, reopened) := by
  obtain ⟨answered, _⟩ : (stepBy impl .reopen s).1 = .ok none ∧ _ :=
    balanced.step free impl below trivial
  obtain ⟨_, lock, _⟩ := balanced
  obtain rfl := lock.opts_eq
  rw [stepBy] at answered ⊢
  dsimp only at answered ⊢
  cases mounted : impl.mount (Rust.intoDevices s) s.opts with
  | ok reopened => exact ⟨reopened, rfl, rfl⟩
  | error failure =>
      rw [mounted] at answered
      cases answered

/-- A session on the files of a balanced store goes on where the store stopped. -/
theorem sitting_balanced (balanced : Balanced opts blockSize blockCount m puts s)
    (free : FreePattern opts.freePattern) (below : puts < 2 ^ 32) (inside : 0 < blockCount)
    (short : blockCount * blockSize < offsetLimit) (opens : Opens blockSize blockCount wrap)
    (impl : Impl) (steps : List Step) :
    sitting wrap impl opts steps ((Rust.intoDevices s).map HasBytes.bytes) =
      (.ok (watch ((impl, .reopen) :: steps.map (impl, ·)) s),
        (Rust.intoDevices (settle ((impl, .reopen) :: steps.map (impl, ·)) s)).map
          HasBytes.bytes) := by
  obtain ⟨reopened, mounted, ran⟩ := balanced_reopens balanced free below impl
  obtain ⟨devs, wrapped, pairs⟩ := opened_files opens short (balanced_shaped balanced)
  have both := mount_parallel sameBytes_matches inside impl opts pairs
  rw [mounted] at both
  cases opened : impl.mount devs opts with
  | error failure =>
      rw [opened] at both
      cases both
  | ok t =>
      rw [opened] at both
      cases both with
      | ok parallel =>
          obtain ⟨watched, settled⟩ :=
            watch_parallel sameBytes_matches inside (steps.map (impl, ·)) parallel
          have whole : (do impl.mount (← ((Rust.intoDevices s).map HasBytes.bytes).mapM wrap) opts) =
              .ok t := by
            rw [wrapped]
            exact opened
          rw [sitting, whole, watch, settle, ran]
          dsimp only
          rw [keys_parallel impl parallel, watched, bytes_parallel settled]

end

/-- A session as the steps it takes; it begins with an opening. -/
def spoken (session : Impl × List Step) : List (Impl × Step) :=
  (session.1, .reopen) :: session.2.map (session.1, ·)

theorem spoken_steps (sessions : List (Impl × List Step)) :
    (sessions.flatMap spoken).map Prod.snd =
      sessions.flatMap fun session => .reopen :: session.2 := by
  rw [List.map_flatMap]
  congr 1
  funext session
  rw [spoken, List.map_cons, List.map_map]
  congr 1
  exact List.map_id session.2

section
variable {blockSize blockCount puts : Nat} {opts : Options} {m : Map} {s : Store MemDevice}

theorem onFiles_balanced (balanced : Balanced opts blockSize blockCount m puts s)
    (free : FreePattern opts.freePattern) (below : puts < 2 ^ 32) (inside : 0 < blockCount)
    (count_lt : blockCount < 2 ^ 32) (short : blockCount * blockSize < offsetLimit)
    (session : Impl × List Step) :
    onFiles session.1 blockSize opts session.2 ((Rust.intoDevices s).map HasBytes.bytes) =
      (.ok (watch (spoken session) s),
        (Rust.intoDevices (settle (spoken session) s)).map HasBytes.bytes) := by
  have positive : 0 < blockSize := by
    have large := balanced.large
    omega
  obtain ⟨impl, steps⟩ := session
  cases impl with
  | rust build =>
      exact sitting_balanced balanced free below inside short (rust_opens positive count_lt short)
        (.rust build) steps
  | go =>
      exact sitting_balanced balanced free below inside short (go_opens positive count_lt short)
        .go steps

/-- Sessions on files, one after the other, are one run of a store in memory. -/
theorem watchFiles_balanced (balanced : Balanced opts blockSize blockCount m puts s)
    (free : FreePattern opts.freePattern) (inside : 0 < blockCount)
    (count_lt : blockCount < 2 ^ 32) (short : blockCount * blockSize < offsetLimit)
    {sessions : List (Impl × List Step)}
    (below : puts + ((sessions.flatMap spoken).map Prod.snd).countP isPut < 2 ^ 32)
    (allowed : ∀ step ∈ (sessions.flatMap spoken).map Prod.snd, StepAllowed blockSize step) :
    watchFiles blockSize opts sessions ((Rust.intoDevices s).map HasBytes.bytes) =
      watch (sessions.flatMap spoken) s := by
  induction sessions generalizing s m puts with
  | nil => rfl
  | cons session rest ih =>
      rw [List.flatMap_cons, List.map_append, List.countP_append, ← Nat.add_assoc] at below
      rw [List.flatMap_cons, List.map_append, List.forall_mem_append] at allowed
      obtain ⟨_, _, after⟩ := watch_balanced balanced free (by omega) allowed.1
      have shown := onFiles_balanced balanced free (by omega) inside count_lt short session
      rw [watchFiles, shown, List.flatMap_cons, watch_append]
      dsimp only
      rw [ih after below allowed.2]

end

/-- Created by either implementation, a file is zeroed. -/
theorem create_eq {creator : Impl} {blockSize blockCount : Nat} {file : Bytes}
    (created : create creator blockSize blockCount = .ok file) :
    blockCount * blockSize < offsetLimit ∧ file = List.replicate (blockCount * blockSize) 0 := by
  have cases : blockSize * blockCount < offsetLimit ∧
      file = List.replicate (blockSize * blockCount) 0 := by
    cases creator with
    | rust build =>
        rw [create, Rust.FileDevice.create] at created
        split at created
        next short => exact ⟨short, (Except.ok.inj created).symm⟩
        next => cases created
    | go =>
        rw [create, Go.FileDevice.create] at created
        split at created
        next short => exact ⟨short, (Except.ok.inj created).symm⟩
        next => cases created
  rwa [Nat.mul_comm]

theorem formatOn_eq {D : Type} [BlockDevice D] [HasBytes D] [ByteDevice D]
    {blockSize blockCount : Nat} {wrap : Bytes → Except Failure D} (inside : 0 < blockCount)
    (short : blockCount * blockSize < offsetLimit) (opens : Opens blockSize blockCount wrap)
    {formatter : Impl} {opts : Options} {devs : List MemDevice} {files : List Bytes}
    (shaped : ∀ dev ∈ devs, geometry dev = (blockSize, blockCount))
    (formatted : formatOn wrap formatter opts (devs.map HasBytes.bytes) = .ok files) :
    ∃ devs', formatter.format opts devs = (.ok (), devs') ∧ files = devs'.map HasBytes.bytes := by
  obtain ⟨twins, wrapped, pairs⟩ := opened_files opens short shaped
  obtain ⟨result, twins', devs', ran', ran, after⟩ :=
    format_parallel sameBytes_matches inside formatter opts pairs
  rw [formatOn, wrapped] at formatted
  simp only [bind, Except.bind, ran'] at formatted
  cases result with
  | error failure => cases formatted
  | ok done =>
      refine ⟨devs', ran, (Except.ok.inj formatted).symm.trans ?_⟩
      rw [← List.forall₂_eq_eq_eq, List.forall₂_map_left_iff, List.forall₂_map_right_iff]
      exact after.imp fun _ _ same => same.bytes

/-- Fresh files hold the blocks of blank devices. -/
theorem freshFiles_blank {creator formatter : Impl} {opts : Options} {n blockSize blockCount : Nat}
    {files : List Bytes} (positive : 0 < blockSize) (inside : 0 < blockCount)
    (size_lt : blockSize < 2 ^ 32) (count_lt : blockCount < 2 ^ 32)
    (fresh : freshFiles creator formatter opts n blockSize blockCount = .ok files) :
    blockCount * blockSize < offsetLimit ∧ ∃ devs : List MemDevice, devs ≠ [] ∧
      (∀ dev ∈ devs, Blank blockSize blockCount dev) ∧ files = devs.map HasBytes.bytes := by
  rw [freshFiles] at fresh
  cases created : create creator blockSize blockCount with
  | error failure =>
      rw [created] at fresh
      cases fresh
  | ok file =>
      rw [created] at fresh
      change formatFiles formatter blockSize opts (List.replicate n file) = _ at fresh
      obtain ⟨short, rfl⟩ := create_eq created
      let blank := MemDevice.new blockSize blockCount size_lt count_lt
      have zeroed : List.replicate n (List.replicate (blockCount * blockSize) (0 : UInt8)) =
          (List.replicate n blank).map HasBytes.bytes := by
        rw [List.map_replicate]
        congr 1
        exact List.flatten_replicate_replicate.symm
      have shaped : ∀ dev ∈ List.replicate n blank, geometry dev = (blockSize, blockCount) := by
        intro dev member
        rw [List.eq_of_mem_replicate member]
        exact Prod.ext rfl List.length_replicate
      rw [zeroed] at fresh
      have formatted : ∃ devs', formatter.format opts (List.replicate n blank) = (.ok (), devs') ∧
          files = devs'.map HasBytes.bytes := by
        cases formatter with
        | rust build =>
            exact formatOn_eq inside short (rust_opens positive count_lt short) shaped fresh
        | go => exact formatOn_eq inside short (go_opens positive count_lt short) shaped fresh
      obtain ⟨devs', ran, rfl⟩ := formatted
      obtain ⟨nonempty, _, blanks⟩ := format_blank_by ran
      exact ⟨short, devs', nonempty, blanks, rfl⟩

/-- Files created by one implementation and formatted by another go from session
to session, each by whichever implementation: what there is to see is what the
map within its budget foretells. -/
theorem files_foretold {creator formatter : Impl} {opts : Options} {n blockSize blockCount : Nat}
    {files : List Bytes} (large : 36 ≤ blockSize) (size_lt : blockSize < 2 ^ 32)
    (inside : 0 < blockCount) (count_lt : blockCount < 2 ^ 32) (free : FreePattern opts.freePattern)
    (fresh : freshFiles creator formatter opts n blockSize blockCount = .ok files)
    {sessions : List (Impl × List Step)}
    (few : (sessions.flatMap fun session => .reopen :: session.2).countP isPut < 2 ^ 32 - 1)
    (allowed : ∀ session ∈ sessions, ∀ step ∈ session.2, StepAllowed blockSize step) :
    watchFiles blockSize opts sessions files =
      foretell (roomOf blockSize blockCount)
        (sessions.flatMap fun session => .reopen :: session.2) ∅ := by
  obtain ⟨short, devs, nonempty, blank, rfl⟩ :=
    freshFiles_blank (by omega) inside size_lt count_lt fresh
  have balanced := balanced_blank large nonempty blank id opts
  have steps : ∀ step ∈ (sessions.flatMap spoken).map Prod.snd, StepAllowed blockSize step := by
    rw [spoken_steps]
    intro step member
    obtain ⟨session, among, stands⟩ := List.mem_flatMap.mp member
    rcases List.mem_cons.mp stands with rfl | later
    · trivial
    · exact allowed session among step later
  rw [← spoken_steps] at few ⊢
  have kept : Rust.intoDevices { replicas := devs.map (scannedAs id), opts := opts } = devs := by
    rw [Rust.intoDevices, List.map_map]
    exact List.map_id devs
  have shown := watchFiles_balanced balanced free inside count_lt short (by omega) steps
  rw [kept] at shown
  rw [shown]
  exact (watch_balanced balanced free (by omega) steps).1

/-- Two implementations take turns on two files. -/
def takenTurns : List (Impl × List Step) :=
  [(.go, [.call (.put [0x41] [1, 2, 3, 4] 0), .call (.put [0x42] [5] 0)]),
    (.rust .dev, [.recover, .call (.get [0x41]), .call (.delete [0x41])]),
    (.go, [.call (.put [0x42] [6] 1), .call (.get [0x42])])]

theorem files_foretold_turns :
    ∃ files, freshFiles .go (.rust .release) .default 2 40 3 = .ok files ∧
      watchFiles 40 .default takenTurns files =
        foretell (roomOf 40 3) (takenTurns.flatMap fun session => .reopen :: session.2) ∅ := by
  have checked : (freshFiles .go (.rust .release) .default 2 40 3).toOption.isSome := by
    decide +kernel
  obtain ⟨files, found⟩ := Option.isSome_iff_exists.mp checked
  have fresh := toOption_eq_some found
  exact ⟨files, fresh, files_foretold (by decide) (by decide) (by decide) (by decide) (.inl rfl)
    fresh (by decide) (by decide +kernel)⟩

end Embedkv.FileRelayLaws
