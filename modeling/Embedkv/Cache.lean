import Embedkv.Outcome

/-!
# Devices with a write cache, and power loss

A cached device holds the blocks a flush has made durable and the block writes
issued since, and reads as both together. When the power goes, each of those
writes is lost, persists, or leaves a torn block in its place, independently of
the others. A draining device is a cached device whose power goes after a given
number of calls: the call it goes at fails, and no later one is served.
-/

namespace Embedkv.Cache

open Embedkv.Lib Embedkv.Format Embedkv.Device Embedkv.State Embedkv.Erase Embedkv.Layout
open Embedkv.Plan Embedkv.Outcome

set_option autoImplicit false

structure CachedDevice where
  durable : MemDevice
  /-- The block writes since the last flush, the oldest first. -/
  pending : List (Nat × Bytes)
  /-- How many flushes have completed. -/
  flushes : Nat

namespace CachedDevice

/-- What the device reads as. -/
def mem (dev : CachedDevice) : MemDevice := dev.durable.apply dev.pending

def store (index : Nat) (buf : Bytes) (dev : CachedDevice) : CachedDevice :=
  { dev with pending := dev.pending ++ [(index, buf)] }

def sync (dev : CachedDevice) : CachedDevice where
  durable := dev.mem
  pending := []
  flushes := dev.flushes + 1

/-- A device that has just been connected. -/
def attach (img : MemDevice) : CachedDevice where
  durable := img
  pending := []
  flushes := 0

def readBlock (index : Nat) : Proc Failure CachedDevice Bytes := fun dev =>
  ((MemDevice.readBlock index dev.mem).1, dev)

/-- The checks are those of the device in memory. -/
def writeBlock (index : Nat) (buf : Bytes) : Proc Failure CachedDevice Unit := fun dev =>
  match MemDevice.writeBlock index buf dev.mem with
  | (.error failure, _) => (.error failure, dev)
  | (.ok (), _) => (.ok (), dev.store index (buf.take dev.durable.blockSize))

instance : BlockDevice CachedDevice where
  blockSize dev := dev.durable.blockSize
  blockCount dev := dev.durable.blockCount
  readBlock := readBlock
  writeBlock := writeBlock
  flush := fun dev => (.ok (), dev.sync)

theorem mem_store (index : Nat) (buf : Bytes) (dev : CachedDevice) :
    (dev.store index buf).mem = dev.mem.set index buf := by
  rw [mem, store, MemDevice.apply_append]
  rfl

@[simp] theorem blockSize_mem (dev : CachedDevice) : dev.mem.blockSize = dev.durable.blockSize :=
  MemDevice.blockSize_apply _ _

@[simp] theorem blockCount_mem (dev : CachedDevice) : dev.mem.blockCount = dev.durable.blockCount :=
  MemDevice.blockCount_apply _ _

theorem writeBlock_fits {dev : CachedDevice} {index : Nat} {buf : Bytes}
    (inside : index < dev.mem.blockCount) (sized : buf.length = dev.mem.blockSize) :
    writeBlock index buf dev = (.ok (), dev.store index buf) := by
  rw [writeBlock, MemDevice.writeBlock, if_pos inside, if_pos (by omega)]
  change (Except.ok (), dev.store index (buf.take dev.durable.blockSize)) = _
  rw [List.take_of_length_le (by rw [← blockSize_mem]; omega)]

instance : ReliableBlockDevice CachedDevice where
  image := mem
  blockSize_eq dev := dev.blockSize_mem.symm
  blockCount_eq dev := dev.blockCount_mem.symm
  readBlock_eq dev index inside := by
    change readBlock index dev = _
    rw [readBlock, MemDevice.readBlock, if_pos inside]
  readBlock_outside dev index outside := by
    change readBlock index dev = _
    rw [readBlock, MemDevice.readBlock, if_neg (Nat.not_lt.mpr outside)]
  writeBlock_outside dev index buf outside := by
    change writeBlock index buf dev = _
    rw [writeBlock, MemDevice.writeBlock, if_neg (Nat.not_lt.mpr outside)]
  writeBlock_ok dev dev' index buf inside sized ran := by
    change writeBlock index buf dev = _ at ran
    rw [writeBlock_fits inside sized] at ran
    cases ran
    exact mem_store index buf dev
  writeBlock_error dev dev' index buf failure inside sized ran := by
    change writeBlock index buf dev = _ at ran
    rw [writeBlock_fits inside sized] at ran
    cases ran
  flush_image _ := rfl
  flush_error _ _ _ ran := by cases ran
  writeBlock_total dev index buf inside sized := by
    change (writeBlock index buf dev).1 = _
    rw [writeBlock_fits inside sized]
  flush_total _ := rfl

end CachedDevice

/-! ## Power that goes -/

/-- A cached device with power for `left` more writes and flushes. -/
structure DrainingDevice where
  cache : CachedDevice
  left : Nat

namespace DrainingDevice

def writeBlock (index : Nat) (buf : Bytes) : Proc Failure DrainingDevice Unit := fun dev =>
  match dev.left, CachedDevice.writeBlock index buf dev.cache with
  | _, (.error failure, _) => (.error failure, dev)
  | 0, (.ok (), _) => (.error (.err .io), dev)
  | left + 1, (.ok (), cache) => (.ok (), { cache := cache, left := left })

def flush : Proc Failure DrainingDevice Unit := fun dev =>
  match dev.left with
  | 0 => (.error (.err .io), dev)
  | left + 1 => (.ok (), { cache := dev.cache.sync, left := left })

instance : BlockDevice DrainingDevice where
  blockSize dev := dev.cache.durable.blockSize
  blockCount dev := dev.cache.durable.blockCount
  readBlock index := Proc.zoom cache (fun dev cache => { dev with cache := cache })
    (CachedDevice.readBlock index)
  writeBlock := writeBlock
  flush := flush

theorem writeBlock_fits {dev : DrainingDevice} {index : Nat} {buf : Bytes}
    (inside : index < dev.cache.mem.blockCount) (sized : buf.length = dev.cache.mem.blockSize) :
    writeBlock index buf dev = match dev.left with
      | 0 => (.error (.err .io), dev)
      | left + 1 => (.ok (), { cache := dev.cache.store index buf, left := left }) := by
  rw [writeBlock, CachedDevice.writeBlock_fits inside sized]
  cases dev.left <;> rfl

instance : LawfulBlockDevice DrainingDevice where
  image dev := dev.cache.mem
  blockSize_eq dev := dev.cache.blockSize_mem.symm
  blockCount_eq dev := dev.cache.blockCount_mem.symm
  readBlock_eq dev index inside := by
    change Proc.zoom _ _ _ _ = _
    rw [Proc.zoom_apply, CachedDevice.readBlock, MemDevice.readBlock, if_pos inside]
  readBlock_outside dev index outside := by
    change Proc.zoom _ _ _ _ = _
    rw [Proc.zoom_apply, CachedDevice.readBlock, MemDevice.readBlock,
      if_neg (Nat.not_lt.mpr outside)]
  writeBlock_outside dev index buf outside := by
    change writeBlock index buf dev = _
    rw [writeBlock, CachedDevice.writeBlock, MemDevice.writeBlock, if_neg (Nat.not_lt.mpr outside)]
  writeBlock_ok dev dev' index buf inside sized ran := by
    change writeBlock index buf dev = _ at ran
    rw [writeBlock_fits inside sized] at ran
    cases left : dev.left with
    | zero =>
        rw [left] at ran
        cases ran
    | succ rest =>
        rw [left] at ran
        cases ran
        exact CachedDevice.mem_store index buf dev.cache
  writeBlock_error dev dev' index buf failure inside sized ran := by
    change writeBlock index buf dev = _ at ran
    rw [writeBlock_fits inside sized] at ran
    cases left : dev.left with
    | zero =>
        rw [left] at ran
        cases ran
        exact ⟨rfl, .inl rfl⟩
    | succ rest =>
        rw [left] at ran
        cases ran
  flush_image dev := by
    change (flush dev).2.cache.mem = dev.cache.mem
    rw [flush]
    cases dev.left <;> rfl
  flush_error dev dev' failure ran := by
    change flush dev = _ at ran
    rw [flush] at ran
    cases left : dev.left with
    | zero =>
        rw [left] at ran
        cases ran
        rfl
    | succ rest =>
        rw [left] at ran
        cases ran

end DrainingDevice

/-- A device whose calls act on a cache, all or nothing. -/
class BufferedDevice (D : Type) [BlockDevice D] extends LawfulBlockDevice D where
  cache : D → CachedDevice
  image_cache : ∀ dev : D, image dev = (cache dev).mem
  cache_write : ∀ (dev dev' : D) (index : Nat) (buf : Bytes) (result : Except Failure Unit),
    index < (image dev).blockCount → buf.length = (image dev).blockSize →
    BlockDevice.writeBlock index buf dev = (result, dev') →
    result = .ok () ∧ cache dev' = (cache dev).store index buf ∨
      result = .error (.err .io) ∧ cache dev' = cache dev
  cache_flush : ∀ (dev dev' : D) (result : Except Failure Unit),
    BlockDevice.flush dev = (result, dev') →
    result = .ok () ∧ cache dev' = (cache dev).sync ∨
      result = .error (.err .io) ∧ cache dev' = cache dev

export BufferedDevice (cache)

instance : BufferedDevice CachedDevice where
  cache := id
  image_cache _ := rfl
  cache_write dev dev' index buf result inside sized ran := by
    change CachedDevice.writeBlock index buf dev = _ at ran
    rw [CachedDevice.writeBlock_fits inside sized] at ran
    cases ran
    exact .inl ⟨rfl, rfl⟩
  cache_flush dev dev' result ran := by
    cases ran
    exact .inl ⟨rfl, rfl⟩

instance : BufferedDevice DrainingDevice where
  cache := DrainingDevice.cache
  image_cache _ := rfl
  cache_write dev dev' index buf result inside sized ran := by
    change DrainingDevice.writeBlock index buf dev = _ at ran
    rw [DrainingDevice.writeBlock_fits inside sized] at ran
    cases left : dev.left with
    | zero =>
        rw [left] at ran
        cases ran
        exact .inr ⟨rfl, rfl⟩
    | succ rest =>
        rw [left] at ran
        cases ran
        exact .inl ⟨rfl, rfl⟩
  cache_flush dev dev' result ran := by
    change DrainingDevice.flush dev = _ at ran
    rw [DrainingDevice.flush] at ran
    cases left : dev.left with
    | zero =>
        rw [left] at ran
        cases ran
        exact .inr ⟨rfl, rfl⟩
    | succ rest =>
        rw [left] at ran
        cases ran
        exact .inl ⟨rfl, rfl⟩

/-! ## Acts on a cache -/

def cacheAfter : List Act → CachedDevice → CachedDevice
  | [], dev => dev
  | .write b buf :: rest, dev => cacheAfter rest (dev.store b buf)
  | .flush :: rest, dev => cacheAfter rest dev.sync
  | .enter _ :: rest, dev => cacheAfter rest dev
  | .forget _ :: rest, dev => cacheAfter rest dev

theorem cacheAfter_append (first second : List Act) (dev : CachedDevice) :
    cacheAfter (first ++ second) dev = cacheAfter second (cacheAfter first dev) := by
  induction first generalizing dev with
  | nil => rfl
  | cons act rest ih => cases act <;> exact ih _

theorem cacheAfter_writeActs (writes : List (Nat × Bytes)) (dev : CachedDevice) :
    cacheAfter (writeActs writes) dev = { dev with pending := dev.pending ++ writes } := by
  induction writes generalizing dev with
  | nil => rw [List.append_nil]; rfl
  | cons write rest ih =>
      change cacheAfter (writeActs rest) (dev.store write.1 write.2) = _
      rw [ih, CachedDevice.store, List.append_assoc, List.singleton_append]

theorem mem_cacheAfter (acts : List Act) (dev : CachedDevice) :
    (cacheAfter acts dev).mem = dev.mem.apply (writesOf acts) := by
  induction acts generalizing dev with
  | nil => rfl
  | cons act rest ih =>
      cases act with
      | write b buf =>
          change (cacheAfter rest (dev.store b buf)).mem = _
          rw [ih, CachedDevice.mem_store]
          rfl
      | flush => exact ih dev.sync
      | enter entry => exact ih dev
      | forget key => exact ih dev

/-- The acts done when a run stops: all of them, or those before a device call
that was not served. -/
inductive Stops : List Act → List Act → Except Failure Unit → Prop
  | finished (acts : List Act) : Stops acts acts (.ok ())
  | unserved (done : List Act) (act : Act) (rest : List Act)
      (device : act = .flush ∨ ∃ b buf, act = .write b buf) :
      Stops (done ++ act :: rest) done (.error (.err .io))

theorem Stops.cons {act : Act} {rest done : List Act} {result : Except Failure Unit}
    (stops : Stops rest done result) : Stops (act :: rest) (act :: done) result := by
  cases stops with
  | finished => exact .finished _
  | unserved _ next later device => exact .unserved (act :: done) next later device

/-- Devices of this kind may leave a call unserved. -/
def Unserved (D : Type) [BlockDevice D] [LawfulBlockDevice D] : Prop :=
  ∃ dev : D, (BlockDevice.flush dev).1 ≠ .ok () ∨
    ∃ index buf, index < (image dev).blockCount ∧ buf.length = (image dev).blockSize ∧
      (BlockDevice.writeBlock index buf dev).1 ≠ .ok ()

theorem cached_serves : ¬Unserved CachedDevice := by
  intro unserved
  rcases unserved with ⟨dev, flush | ⟨index, buf, inside, sized, write⟩⟩
  · exact flush (ReliableBlockDevice.flush_total dev)
  · exact write (ReliableBlockDevice.writeBlock_total dev index buf inside sized)

/-- A run of valid acts on a buffered device. -/
theorem performAll_stops {D : Type} [BlockDevice D] [BufferedDevice D] {acts : List Act}
    {r r' : Replica D} {result : Except Failure Unit} (valid : ValidActs (image r.dev) acts)
    (ran : performAll acts r = (result, r')) :
    ∃ done, Stops acts done result ∧ cache r'.dev = cacheAfter done (cache r.dev) ∧
      (result ≠ .ok () → Unserved D) := by
  induction acts generalizing r with
  | nil =>
      cases ran
      exact ⟨[], .finished [], rfl, fun failed => absurd rfl failed⟩
  | cons act rest ih =>
      rcases step : act.perform r with ⟨outcome, r1⟩
      have effect : outcome = .ok () ∧ cache r1.dev = cacheAfter [act] (cache r.dev) ∨
          outcome = .error (.err .io) ∧ (act = .flush ∨ ∃ b buf, act = .write b buf) ∧
            cache r1.dev = cache r.dev ∧ Unserved D := by
        cases act with
        | write b buf =>
            rcases valid (b, buf) List.mem_cons_self with ⟨inside, sized⟩
            rcases Prod.mk.inj step with ⟨answered, left⟩
            subst left
            rcases BufferedDevice.cache_write r.dev _ b buf outcome inside sized
              (Prod.ext answered rfl) with ⟨ok, stored⟩ | ⟨failed, same⟩
            · exact .inl ⟨ok, stored⟩
            · refine .inr ⟨failed, .inr ⟨b, buf, rfl⟩, same, r.dev, .inr ⟨b, buf, inside, sized, ?_⟩⟩
              rw [answered, failed]
              nofun
        | flush =>
            rcases Prod.mk.inj step with ⟨answered, left⟩
            subst left
            rcases BufferedDevice.cache_flush r.dev _ outcome (Prod.ext answered rfl) with
              ⟨ok, stored⟩ | ⟨failed, same⟩
            · exact .inl ⟨ok, stored⟩
            · refine .inr ⟨failed, .inl rfl, same, r.dev, .inl ?_⟩
              rw [answered, failed]
              nofun
        | enter entry =>
            cases step
            exact .inl ⟨rfl, rfl⟩
        | forget key =>
            cases step
            exact .inl ⟨rfl, rfl⟩
      rcases effect with ⟨rfl, stored⟩ | ⟨rfl, device, same, unserved⟩
      · rw [performAll, Proc.bind_ok step] at ran
        have validRest : ValidActs (image r1.dev) rest := by
          apply valid.rest
          · rw [BufferedDevice.image_cache, stored, mem_cacheAfter, MemDevice.blockSize_apply,
              BufferedDevice.image_cache]
          · rw [BufferedDevice.image_cache, stored, mem_cacheAfter, MemDevice.blockCount_apply,
              BufferedDevice.image_cache]
        rcases ih validRest ran with ⟨done, stops, reached, failing⟩
        refine ⟨act :: done, stops.cons, ?_, failing⟩
        rw [reached, stored, ← cacheAfter_append, List.singleton_append]
      · rw [performAll, Proc.bind_error step] at ran
        cases ran
        exact ⟨[], .unserved [] act rest device, same, fun _ => unserved⟩

section
variable {rest done : List Act} {result : Except Failure Unit}

theorem stops_nil (stops : Stops [] done result) : result = .ok () ∧ done = [] := by
  generalize none : ([] : List Act) = acts at stops
  cases stops with
  | finished => exact ⟨rfl, rfl⟩
  | unserved _ act later device => simp at none

theorem stops_cons {act : Act} (stops : Stops (act :: rest) done result) :
    (result = .error (.err .io) ∧ done = [] ∧ (act = .flush ∨ ∃ b buf, act = .write b buf)) ∨
      ∃ later, done = act :: later ∧ Stops rest later result := by
  generalize split : act :: rest = acts at stops
  cases stops with
  | finished => exact .inr ⟨rest, split.symm, .finished rest⟩
  | unserved _ next later device =>
      cases done with
      | nil =>
          rcases List.cons.inj split with ⟨rfl, _⟩
          exact .inl ⟨rfl, rfl, device⟩
      | cons first earlier =>
          rcases List.cons.inj split with ⟨rfl, rfl⟩
          exact .inr ⟨earlier, rfl, .unserved earlier next later device⟩

/-- A run of writes stops after some of them, or all are done. -/
theorem stops_writes {writes : List (Nat × Bytes)}
    (stops : Stops (writeActs writes ++ rest) done result) :
    (result = .error (.err .io) ∧
        ∃ part, (∀ write ∈ part, write ∈ writes) ∧ done = writeActs part) ∨
      ∃ later, done = writeActs writes ++ later ∧ Stops rest later result := by
  induction writes generalizing done with
  | nil => exact .inr ⟨done, rfl, stops⟩
  | cons write writes ih =>
      rcases stops_cons stops with ⟨failed, rfl, _⟩ | ⟨later, rfl, onward⟩
      · exact .inl ⟨failed, [], by simp, rfl⟩
      · rcases ih onward with ⟨failed, part, among, rfl⟩ | ⟨last, rfl, ending⟩
        · refine .inl ⟨failed, write :: part, ?_, rfl⟩
          intro other member
          rcases List.mem_cons.mp member with rfl | inRest
          · exact List.mem_cons_self
          · exact List.mem_cons_of_mem _ (among other inRest)
        · exact .inr ⟨last, rfl, ending⟩

end

theorem stops_enter {entry : IndexEntry} {rest done : List Act} {result : Except Failure Unit}
    (stops : Stops (.enter entry :: rest) done result) :
    ∃ later, done = .enter entry :: later ∧ Stops rest later result := by
  rcases stops_cons stops with ⟨_, _, flush | ⟨b, buf, write⟩⟩ | onward
  · cases flush
  · cases write
  · exact onward

theorem stops_forget {key : Bytes} {rest done : List Act} {result : Except Failure Unit}
    (stops : Stops (.forget key :: rest) done result) :
    ∃ later, done = .forget key :: later ∧ Stops rest later result := by
  rcases stops_cons stops with ⟨_, _, flush | ⟨b, buf, write⟩⟩ | onward
  · cases flush
  · cases write
  · exact onward

/-- Writes and the flush after them stop with some of the writes pending, or
run through. -/
theorem stops_flushed {writes : List (Nat × Bytes)} {rest done : List Act}
    {result : Except Failure Unit} (stops : Stops (writeActs writes ++ .flush :: rest) done result)
    (dev : CachedDevice) (idle : dev.pending = []) :
    (result = .error (.err .io) ∧ ∃ part, (∀ write ∈ part, write ∈ writes) ∧
        cacheAfter done dev = { dev with pending := part }) ∨
      ∃ later, Stops rest later result ∧ cacheAfter done dev =
        cacheAfter later { durable := dev.mem.apply writes, pending := [],
                           flushes := dev.flushes + 1 } := by
  have written (part : List (Nat × Bytes)) :
      cacheAfter (writeActs part) dev = { dev with pending := part } := by
    rw [cacheAfter_writeActs, idle, List.nil_append]
  rcases stops_writes stops with ⟨failed, part, among, rfl⟩ | ⟨later, rfl, onward⟩
  · exact .inl ⟨failed, part, among, written part⟩
  · rcases stops_cons onward with ⟨failed, rfl, _⟩ | ⟨last, rfl, ending⟩
    · refine .inl ⟨failed, writes, fun _ member => member, ?_⟩
      rw [List.append_nil]
      exact written writes
    · refine .inr ⟨last, ending, ?_⟩
      rw [cacheAfter_append, written, CachedDevice.mem, idle]
      rfl

/-! ## What a power loss leaves -/

/-- A torn block is no CRC-valid block of a record. -/
def Torn (buf : Bytes) : Prop :=
  ¬(Rust.verifyBlockCrc buf = true ∧
    (u8At buf 0 = blockTypeRecordDescriptor ∨ u8At buf 0 = blockTypeValueChunk))

/-- Each pending write is lost, persists or leaves a torn block. -/
inductive Settles : MemDevice → List (Nat × Bytes) → MemDevice → Prop
  | nil (img : MemDevice) : Settles img [] img
  | lost {img img' : MemDevice} {rest : List (Nat × Bytes)} (write : Nat × Bytes)
      (later : Settles img rest img') : Settles img (write :: rest) img'
  | persists {img img' : MemDevice} {rest : List (Nat × Bytes)} (write : Nat × Bytes)
      (later : Settles (img.set write.1 write.2) rest img') : Settles img (write :: rest) img'
  | tears {img img' : MemDevice} {rest : List (Nat × Bytes)} (write : Nat × Bytes) (junk : Bytes)
      (torn : Torn junk) (later : Settles (img.set write.1 junk) rest img') :
      Settles img (write :: rest) img'

/-- An image the medium may hold when the power goes. -/
def Leaves (dev : CachedDevice) (img : MemDevice) : Prop := Settles dev.durable dev.pending img

theorem settles_lost (img : MemDevice) (writes : List (Nat × Bytes)) : Settles img writes img := by
  induction writes with
  | nil => exact .nil img
  | cons write rest ih => exact .lost write ih

/-- With nothing pending the medium holds what the device reads as. -/
theorem leaves_idle {dev : CachedDevice} {img : MemDevice} (idle : dev.pending = [])
    (leaves : Leaves dev img) : img = dev.mem := by
  rw [Leaves, idle] at leaves
  cases leaves
  rw [CachedDevice.mem, idle, MemDevice.apply_nil]

theorem mem_idle {dev : CachedDevice} (idle : dev.pending = []) : dev.mem = dev.durable := by
  rw [CachedDevice.mem, idle, MemDevice.apply_nil]

/-- Whatever every single outcome of a write preserves, a power loss preserves. -/
theorem Settles.preserves {holds : MemDevice → Prop} {img img' : MemDevice}
    {writes : List (Nat × Bytes)} (settles : Settles img writes img')
    (kept : ∀ write ∈ writes, ∀ mid, holds mid → holds (mid.set write.1 write.2))
    (torn : ∀ write ∈ writes, ∀ junk, Torn junk → ∀ mid, holds mid → holds (mid.set write.1 junk))
    (start : holds img) : holds img' := by
  induction settles with
  | nil => exact start
  | lost write later ih =>
      exact ih (fun other member => kept other (List.mem_cons_of_mem _ member))
        (fun other member => torn other (List.mem_cons_of_mem _ member)) start
  | persists write later ih =>
      exact ih (fun other member => kept other (List.mem_cons_of_mem _ member))
        (fun other member => torn other (List.mem_cons_of_mem _ member))
        (kept write List.mem_cons_self _ start)
  | tears write junk broken later ih =>
      exact ih (fun other member => kept other (List.mem_cons_of_mem _ member))
        (fun other member => torn other (List.mem_cons_of_mem _ member))
        (torn write List.mem_cons_self junk broken _ start)

section
variable {img img' : MemDevice} {part : List (Nat × Bytes)}

/-- A cut record write is a blend of old, new and torn blocks. -/
theorem Settles.blend {writes : List (Nat × Bytes)} (settles : Settles img part img')
    (among : ∀ write ∈ part, write ∈ writes) : Blend writes img img' := by
  apply settles.preserves _ _ (Blend.refl writes img)
  · intro write member mid blend
    exact blend.set (.inl (among write member))
  · intro write member junk torn mid blend
    exact blend.set (.inr ⟨List.mem_map_of_mem (among write member), inert_of_invalid torn⟩)

/-- A cut erasure is damage within the erased blocks. -/
theorem Settles.damage {blocks : List Nat} {free : Bytes} (settles : Settles img part img')
    (inert : Inert free) (among : ∀ write ∈ part, write ∈ erasures blocks free) :
    Damage (· ∈ blocks) img img' := by
  apply settles.preserves _ _ (Damage.refl _ img)
  · intro write member mid damage
    rcases List.mem_map.mp (among write member) with ⟨c, block, rfl⟩
    exact damage.set block inert
  · intro write member junk torn mid damage
    rcases List.mem_map.mp (among write member) with ⟨c, block, rfl⟩
    exact damage.set block (inert_of_invalid torn)

/-- Block 0 stays when no pending write addresses it. -/
theorem Settles.keeps (settles : Settles img part img') (away : 0 ∉ part.map Prod.fst) :
    Keeps img img' := by
  have set_keeps (mid : MemDevice) {write : Nat × Bytes} (buf : Bytes) (member : write ∈ part)
      (kept : Keeps img mid) : Keeps img (mid.set write.1 buf) := by
    apply kept.trans
    refine ⟨MemDevice.blockSize_set .., MemDevice.blockCount_set .., ?_⟩
    apply MemDevice.block_set_other
    intro zero
    exact away (zero ▸ List.mem_map_of_mem member)
  apply settles.preserves _ _ (keeps_refl img)
  · intro write member mid kept
    exact set_keeps mid write.2 member kept
  · intro write member junk _ mid kept
    exact set_keeps mid junk member kept

end

end Embedkv.Cache
