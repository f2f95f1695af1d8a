import Embedkv.Files

/-!
# Stores on files

A file that is as long as its device takes it for cannot be told from memory by
a store: the accesses stay within it, so it never ends too early and never
grows, and every access moves the cursor first. Sessions on files show what the
same sessions in memory show, and leave the same bytes.
-/

namespace Embedkv.FileLaws

open Embedkv.Lib Embedkv.Format Embedkv.Device Embedkv.State Embedkv.Recovery Embedkv.Run
open Embedkv.Exact Embedkv.Steady Embedkv.MapLaws Embedkv.Stores Embedkv.Ledger Embedkv.RelayLaws
open Embedkv.Spelling Embedkv.Bounds Embedkv.Parallel Embedkv.Files

set_option autoImplicit false

/-! ## Devices over one byte string -/

/-- The bytes a device keeps its blocks in. -/
class HasBytes (D : Type) where
  bytes : D → Bytes

/-- A device of this geometry over these bytes. They hold all its blocks, and a
file could hold them. -/
structure Over {D : Type} [BlockDevice D] [HasBytes D] (blockSize blockCount : Nat) (bytes : Bytes)
    (dev : D) : Prop where
  shaped : geometry dev = (blockSize, blockCount)
  holds : HasBytes.bytes dev = bytes
  long : blockCount * blockSize ≤ bytes.length
  short : bytes.length < offsetLimit

/-- A block is a slice of the bytes. -/
class ByteDevice (D : Type) [BlockDevice D] [HasBytes D] : Prop where
  readBlock_over : ∀ {blockSize blockCount : Nat} {bytes : Bytes} {dev : D} {index : Nat},
    Over blockSize blockCount bytes dev → index < blockCount →
    ∃ dev', BlockDevice.readBlock index dev =
        (.ok (readAt (index * blockSize) blockSize bytes), dev') ∧
      Over blockSize blockCount bytes dev'
  writeBlock_over : ∀ {blockSize blockCount : Nat} {bytes : Bytes} {dev : D} {index : Nat}
    {buf : Bytes}, Over blockSize blockCount bytes dev → index < blockCount →
    buf.length = blockSize →
    ∃ dev', BlockDevice.writeBlock index buf dev = (.ok (), dev') ∧
      Over blockSize blockCount (writeAt (index * blockSize) buf bytes) dev'
  flush_over : ∀ {blockSize blockCount : Nat} {bytes : Bytes} {dev : D},
    Over blockSize blockCount bytes dev →
    ∃ dev', BlockDevice.flush dev = (.ok (), dev') ∧ Over blockSize blockCount bytes dev'

section
variable {D : Type} [BlockDevice D] [HasBytes D] {blockSize blockCount index : Nat} {bytes : Bytes}
  {dev : D}

theorem Over.block (stands : Over blockSize blockCount bytes dev) (inside : index < blockCount) :
    index * blockSize + blockSize ≤ bytes.length ∧ index * blockSize < offsetLimit := by
  have ends := block_end blockSize inside
  have long := stands.long
  have short := stands.short
  omega

/-- A block written in its place, by a device that goes on over what this gives. -/
theorem Over.written (stands : Over blockSize blockCount bytes dev) (inside : index < blockCount)
    {buf : Bytes} (sized : buf.length = blockSize) {dev' : D}
    (shaped : geometry dev' = geometry dev)
    (written : HasBytes.bytes dev' = writeAt (index * blockSize) buf bytes) :
    Over blockSize blockCount (writeAt (index * blockSize) buf bytes) dev' := by
  have kept : (writeAt (index * blockSize) buf bytes).length = bytes.length := by
    apply length_writeAt
    rw [sized]
    exact (stands.block inside).1
  refine ⟨shaped.trans stands.shaped, written, ?_, ?_⟩
  · rw [kept]
    exact stands.long
  · rw [kept]
    exact stands.short

end

theorem length_readAt {offset n : Nat} {bytes : Bytes} (inside : offset + n ≤ bytes.length) :
    (readAt offset n bytes).length = n := by
  rw [readAt, List.length_take_of_le]
  rw [List.length_drop]
  omega

theorem writeAt_inside {offset : Nat} {data bytes : Bytes}
    (inside : offset + data.length ≤ bytes.length) :
    writeAt offset data bytes = splice offset data bytes := by
  have padding : offset - bytes.length = 0 := by omega
  rw [writeAt, padding, List.replicate_zero, List.append_nil]
  split
  next none =>
    rw [none, splice, List.append_nil, List.length_nil, Nat.add_zero, List.take_append_drop]
  next => rfl

instance : HasBytes FlatDevice where
  bytes := FlatDevice.data

instance : ByteDevice FlatDevice where
  readBlock_over := by
    rintro blockSize blockCount bytes dev index stands inside
    obtain ⟨rfl, rfl⟩ := Prod.ext_iff.mp stands.shaped
    obtain rfl := stands.holds
    exact ⟨dev, if_pos inside, stands⟩
  writeBlock_over := by
    rintro blockSize blockCount bytes dev index buf stands inside sized
    obtain ⟨rfl, rfl⟩ := Prod.ext_iff.mp stands.shaped
    refine ⟨_, (dif_pos inside).trans (dif_pos sized.ge), stands.written inside sized rfl ?_⟩
    obtain rfl := stands.holds
    exact congrArg (fun data => writeAt _ data dev.data) (List.take_of_length_le sized.le)
  flush_over stands := ⟨_, rfl, stands⟩

/-- The blocks end to end. -/
instance : HasBytes MemDevice where
  bytes dev := dev.blocks.flatten

instance : ByteDevice MemDevice where
  readBlock_over := by
    rintro blockSize blockCount bytes dev index stands inside
    obtain ⟨rfl, rfl⟩ := Prod.ext_iff.mp stands.shaped
    obtain rfl := stands.holds
    have found : dev.blocks[index]? = some (dev.block index) := by
      rw [MemDevice.block, List.getD_eq_getElem _ _ inside]
      exact List.getElem?_eq_getElem inside
    have slice := Blocks.take_drop_flatten dev.sized [] found
    rw [List.append_nil] at slice
    refine ⟨dev, (if_pos inside).trans ?_, stands⟩
    exact congrArg (fun block => (Except.ok block, dev)) slice.symm
  writeBlock_over := by
    rintro blockSize blockCount bytes dev index buf stands inside sized
    obtain ⟨ends, _⟩ := stands.block inside
    obtain ⟨rfl, rfl⟩ := Prod.ext_iff.mp stands.shaped
    obtain rfl := stands.holds
    have exact : buf.take dev.blockSize = buf := List.take_of_length_le sized.le
    have wrote : MemDevice.writeBlock index buf dev = (.ok (), dev.set index buf) := by
      refine (if_pos inside).trans ((if_pos sized.ge).trans ?_)
      rw [exact]
    have laid : (dev.set index buf).blocks = dev.blocks.set index buf :=
      congrArg MemDevice.blocks (dif_pos sized)
    refine ⟨_, wrote, stands.written inside sized ?_ ?_⟩
    · exact Prod.ext (dev.blockSize_set index buf) (dev.blockCount_set index buf)
    · change (dev.set index buf).blocks.flatten = writeAt _ _ dev.blocks.flatten
      have replaced := Blocks.flatten_set dev.sized [] inside buf
      rw [List.append_nil, List.append_nil] at replaced
      rw [writeAt_inside (by rw [sized]; exact ends), splice, sized, laid]
      exact replaced
  flush_over stands := ⟨_, rfl, stands⟩

theorem slice_whole {buf : Bytes} {blockSize : Nat} (sized : buf.length = blockSize) :
    slice buf 0 blockSize = .ok buf := by
  rw [slice, if_pos ⟨Nat.zero_le _, sized.ge⟩, List.drop_zero, List.take_of_length_le sized.le]

theorem rust_readBlock {dev : Rust.FileDevice} {index : Nat}
    (low : index * dev.blockSize < offsetLimit)
    (ends : index * dev.blockSize + dev.blockSize ≤ dev.file.bytes.length) :
    Rust.FileDevice.readBlock index dev =
      (.ok (readAt (index * dev.blockSize) dev.blockSize dev.file.bytes), { dev with
        file := { dev.file with cursor := index * dev.blockSize + dev.blockSize } }) := by
  have sought : Rust.File.seek (index * dev.blockSize) dev.file =
    (.ok (), { dev.file with cursor := index * dev.blockSize }) := if_pos low
  have whole := length_readAt ends
  rw [Rust.FileDevice.readBlock, Rust.FileDevice.onFile, Proc.zoom_apply, Proc.bind_ok sought]
  simp only [Rust.File.readExact, whole, ↓reduceIte]

theorem rust_writeBlock {dev : Rust.FileDevice} {index : Nat} {buf : Bytes}
    (low : index * dev.blockSize < offsetLimit) (sized : buf.length = dev.blockSize) :
    Rust.FileDevice.writeBlock index buf dev =
      (.ok (), { dev with
        file :=
          { bytes := writeAt (index * dev.blockSize) buf dev.file.bytes
            cursor := index * dev.blockSize + buf.length } }) := by
  have sought : Rust.File.seek (index * dev.blockSize) dev.file =
    (.ok (), { dev.file with cursor := index * dev.blockSize }) := if_pos low
  rw [Rust.FileDevice.writeBlock, Rust.FileDevice.onFile, Proc.zoom_apply, Proc.bind_ok sought,
    slice_whole sized]
  rfl

theorem go_writeBlock {dev : Go.FileDevice} {index : Nat} {buf : Bytes}
    (low : index * dev.blockSize < offsetLimit) (sized : buf.length = dev.blockSize) :
    Go.FileDevice.writeBlock index buf dev =
      (.ok (), { dev with file := writeAt (index * dev.blockSize) buf dev.file }) := by
  rw [Go.FileDevice.writeBlock, slice_whole sized]
  exact if_pos low

instance : HasBytes Rust.FileDevice where
  bytes dev := dev.file.bytes

instance : ByteDevice Rust.FileDevice where
  readBlock_over := by
    rintro blockSize blockCount bytes dev index stands inside
    obtain ⟨ends, low⟩ := stands.block inside
    obtain ⟨rfl, rfl⟩ := Prod.ext_iff.mp stands.shaped
    obtain rfl := stands.holds
    exact ⟨_, rust_readBlock low ends, stands.shaped, rfl, stands.long, stands.short⟩
  writeBlock_over := by
    rintro blockSize blockCount bytes dev index buf stands inside sized
    obtain ⟨_, low⟩ := stands.block inside
    obtain ⟨rfl, rfl⟩ := Prod.ext_iff.mp stands.shaped
    obtain rfl := stands.holds
    exact ⟨_, rust_writeBlock low sized, stands.written inside sized rfl rfl⟩
  flush_over stands := ⟨_, rfl, stands⟩

instance : HasBytes Go.FileDevice where
  bytes := Go.FileDevice.file

instance : ByteDevice Go.FileDevice where
  readBlock_over := by
    rintro blockSize blockCount bytes dev index stands inside
    obtain ⟨ends, low⟩ := stands.block inside
    obtain ⟨rfl, rfl⟩ := Prod.ext_iff.mp stands.shaped
    obtain rfl := stands.holds
    exact ⟨dev, if_pos ⟨low, length_readAt ends⟩, stands⟩
  writeBlock_over := by
    rintro blockSize blockCount bytes dev index buf stands inside sized
    obtain ⟨_, low⟩ := stands.block inside
    obtain ⟨rfl, rfl⟩ := Prod.ext_iff.mp stands.shaped
    obtain rfl := stands.holds
    exact ⟨_, go_writeBlock low sized, stands.written inside sized rfl rfl⟩
  flush_over stands := ⟨_, rfl, stands⟩

section
variable {D E : Type} [BlockDevice D] [HasBytes D] [ByteDevice D] [BlockDevice E] [HasBytes E]
  [ByteDevice E] {blockSize blockCount : Nat}

/-- Two devices of this geometry over the same bytes. -/
def SameBytes (blockSize blockCount : Nat) (dev : D) (twin : E) : Prop :=
  ∃ bytes, Over blockSize blockCount bytes dev ∧ Over blockSize blockCount bytes twin

theorem sameBytes_matches :
    Matching blockSize blockCount (fun (dev : D) (twin : E) =>
      SameBytes blockSize blockCount dev twin) := by
  rintro query dev twin asked ⟨bytes, stands, stands'⟩
  cases query with
  | size =>
      obtain ⟨size, _⟩ := Prod.ext_iff.mp stands.shaped
      obtain ⟨size', _⟩ := Prod.ext_iff.mp stands'.shaped
      exact ⟨size.trans size'.symm, size, bytes, stands, stands'⟩
  | count =>
      obtain ⟨_, count⟩ := Prod.ext_iff.mp stands.shaped
      obtain ⟨_, count'⟩ := Prod.ext_iff.mp stands'.shaped
      exact ⟨count.trans count'.symm, count, bytes, stands, stands'⟩
  | read index =>
      obtain ⟨dev', read, after⟩ := ByteDevice.readBlock_over stands asked
      obtain ⟨twin', read', after'⟩ := ByteDevice.readBlock_over stands' asked
      simp only [serveDevice, read, read']
      refine ⟨trivial, ?_, bytes, after, after'⟩
      intro buf shown
      rw [← Except.ok.inj shown]
      exact length_readAt (stands.block asked).1
  | write index buf =>
      obtain ⟨dev', wrote, after⟩ := ByteDevice.writeBlock_over stands asked.1 asked.2
      obtain ⟨twin', wrote', after'⟩ := ByteDevice.writeBlock_over stands' asked.1 asked.2
      simp only [serveDevice, wrote, wrote']
      exact ⟨trivial, trivial, _, after, after'⟩
  | flush =>
      obtain ⟨dev', flushed, after⟩ := ByteDevice.flush_over stands
      obtain ⟨twin', flushed', after'⟩ := ByteDevice.flush_over stands'
      simp only [serveDevice, flushed, flushed']
      exact ⟨trivial, trivial, _, after, after'⟩

omit [ByteDevice D] [ByteDevice E] in
theorem SameBytes.bytes {dev : D} {twin : E} (same : SameBytes blockSize blockCount dev twin) :
    HasBytes.bytes dev = HasBytes.bytes twin := by
  obtain ⟨bytes, stands, stands'⟩ := same
  rw [stands.holds, stands'.holds]

end

/-! ## Sessions -/

/-- What there is to see of a step: the answer, and the keys after it. -/
abbrev Shown := Except Failure (Option Bytes) × Finset Bytes

/-- A session on files, each behind a device: the opening and the steps, and what
the files hold when the store is closed. A store that does not open has written
nothing. -/
def sitting {D : Type} [BlockDevice D] [HasBytes D] (wrap : Bytes → Except Failure D) (impl : Impl)
    (opts : Options) (steps : List Step) (files : List Bytes) :
    Except Failure (List Shown) × List Bytes :=
  match (do impl.mount (← files.mapM wrap) opts) with
  | .error failure => (.error failure, files)
  | .ok s =>
    (.ok ((.ok none, impl.keys s) :: watch (steps.map (impl, ·)) s),
      (Rust.intoDevices (settle (steps.map (impl, ·)) s)).map HasBytes.bytes)

/-- A session on file devices. -/
def onFiles : Impl → Nat → Options → List Step → List Bytes →
    Except Failure (List Shown) × List Bytes
  | .rust build, blockSize => sitting (Rust.FileDevice.openFile blockSize) (.rust build)
  | .go, blockSize => sitting (Go.FileDevice.openFile blockSize) .go

/-- A session on memory devices around the same bytes. -/
def inMemory : Impl → Nat → Options → List Step → List Bytes →
    Except Failure (List Shown) × List Bytes
  | .rust build, blockSize => sitting (Rust.fromBytes blockSize) (.rust build)
  | .go, blockSize => sitting (Go.newMemDeviceFromBytes blockSize) .go

theorem both_mapM {γ D E : Type} {related : D → E → Prop} {wrap : γ → Except Failure D}
    {wrap' : γ → Except Failure E} {files : List γ}
    (each : ∀ file ∈ files, Both related (wrap file) (wrap' file)) :
    Both (List.Forall₂ related) (files.mapM wrap) (files.mapM wrap') := by
  induction files with
  | nil => exact .ok .nil
  | cons file rest ih =>
      obtain ⟨here, later⟩ := List.forall_mem_cons.mp each
      rw [List.mapM_cons, List.mapM_cons]
      apply here.bind
      intro dev twin same
      apply (ih later).bind
      intro devs twins pairs
      exact .ok (.cons same pairs)

section
variable {D E : Type} [BlockDevice D] [HasBytes D] [ByteDevice D] [BlockDevice E] [HasBytes E]
  [ByteDevice E] {blockSize blockCount : Nat}

omit [ByteDevice D] [ByteDevice E] in
theorem bytes_parallel {s : Store D} {t : Store E}
    (parallel : InParallel (SameBytes blockSize blockCount) blockCount s t) :
    (Rust.intoDevices s).map HasBytes.bytes = (Rust.intoDevices t).map HasBytes.bytes := by
  rw [← List.forall₂_eq_eq_eq, List.forall₂_map_left_iff, List.forall₂_map_right_iff]
  exact (devices_parallel parallel).imp fun _ _ same => same.bytes

theorem sitting_parallel {wrap : Bytes → Except Failure D} {wrap' : Bytes → Except Failure E}
    {files : List Bytes} (inside : 0 < blockCount)
    (wraps : ∀ file ∈ files, Both (SameBytes blockSize blockCount) (wrap file) (wrap' file))
    (impl : Impl) (opts : Options) (steps : List Step) :
    sitting wrap impl opts steps files = sitting wrap' impl opts steps files := by
  have opened : Both (InParallel (SameBytes blockSize blockCount) blockCount)
      (do impl.mount (← files.mapM wrap) opts) (do impl.mount (← files.mapM wrap') opts) := by
    apply (both_mapM wraps).bind
    intro devs twins pairs
    exact mount_parallel sameBytes_matches inside impl opts pairs
  rw [sitting, sitting]
  generalize (do impl.mount (← files.mapM wrap) opts) = left at opened
  generalize (do impl.mount (← files.mapM wrap') opts) = right at opened
  cases opened with
  | error failure => rfl
  | ok parallel =>
      obtain ⟨watched, settled⟩ :=
        watch_parallel sameBytes_matches inside (steps.map (impl, ·)) parallel
      dsimp only
      rw [keys_parallel impl parallel, watched, bytes_parallel settled]

end

section
variable {D : Type} [BlockDevice D] [HasBytes D] {blockSize : Nat} {file : Bytes}

/-- A device around a file. -/
theorem over_file {dev : D} (shaped : geometry dev = (blockSize, countBlocks blockSize file))
    (holds : HasBytes.bytes dev = file) (short : file.length < offsetLimit) :
    Over blockSize (countBlocks blockSize file) file dev :=
  ⟨shaped, holds, countBlocks_le blockSize file, short⟩

/-- Bytes are refused in the same cases as a file, or become the same device. -/
theorem both_wrapped {aligned : Prop} [Decidable aligned] {dev : D} {failure : Failure}
    (stands : Over blockSize (countBlocks blockSize file) file dev) :
    Both (SameBytes blockSize (countBlocks blockSize file))
      (if ¬aligned then .error failure else .ok dev)
      (if ¬aligned then .error failure else .ok (FlatDevice.wrap blockSize file)) := by
  split
  next => exact .error failure
  next => exact .ok ⟨file, stands, over_file rfl rfl stands.short⟩

theorem rust_opened (positive : 0 < blockSize) (short : file.length < offsetLimit) :
    Both (SameBytes blockSize (countBlocks blockSize file))
      (Rust.FileDevice.openFile blockSize file) (Rust.fromBytes blockSize file) := by
  rw [Rust.FileDevice.openFile, Rust.fromBytes, if_neg positive.ne', if_neg positive.ne']
  simp only [Nat.dvd_iff_mod_eq_zero]
  exact both_wrapped (over_file rfl rfl short)

theorem go_opened (positive : 0 < blockSize) (short : file.length < offsetLimit) :
    Both (SameBytes blockSize (countBlocks blockSize file))
      (Go.FileDevice.openFile blockSize file) (Go.newMemDeviceFromBytes blockSize file) := by
  rw [Go.FileDevice.openFile, Go.newMemDeviceFromBytes, if_neg positive.ne', if_neg positive.ne']
  exact both_wrapped (over_file rfl rfl short)

end

/-- A session on files of one length, whatever they hold, shows what the same
session in memory shows, and leaves the same bytes. -/
theorem files_as_memory (impl : Impl) (opts : Options) {blockSize length : Nat} (steps : List Step)
    {files : List Bytes} (equal : ∀ file ∈ files, file.length = length)
    (short : length < offsetLimit) (some : 0 < asU32 (length / blockSize)) :
    onFiles impl blockSize opts steps files = inMemory impl blockSize opts steps files := by
  have positive : 0 < blockSize := by
    rcases Nat.eq_zero_or_pos blockSize with rfl | positive
    · rw [Nat.div_zero] at some
      cases some
    · exact positive
  cases impl with
  | rust build =>
      apply sitting_parallel some
      intro file member
      rw [← equal file member] at short ⊢
      exact rust_opened positive short
  | go =>
      apply sitting_parallel some
      intro file member
      rw [← equal file member] at short ⊢
      exact go_opened positive short

/-- A file with a storage header and two data blocks of which the first has garbage. -/
def litteredFile : Bytes :=
  (((Go.format .default [smallDevice]).2.headD smallDevice).set 1 (List.replicate 40 2)).blocks.flatten

theorem files_as_memory_littered :
    onFiles (.rust .dev) 40 .default [.recover, .call (.put [0x41] [1, 2] 0), .reopen,
        .call (.get [0x41])] [litteredFile, litteredFile] =
      inMemory (.rust .dev) 40 .default [.recover, .call (.put [0x41] [1, 2] 0), .reopen,
        .call (.get [0x41])] [litteredFile, litteredFile] :=
  files_as_memory (.rust .dev) .default _ (by decide +kernel) (by decide : 120 < offsetLimit)
    (by decide)

end Embedkv.FileLaws
