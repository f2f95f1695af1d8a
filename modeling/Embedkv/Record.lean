import Mathlib.Data.List.Nodup
import Embedkv.Image
import Embedkv.Lawful

/-!
# Complete records of an image

A record is complete when its descriptor block is one, its chunk chain follows
`next_chunk` through blocks that name the descriptor as their owner and count
upward from one, and the counts and sizes of the header agree with the chain.
`RecordAt` says so for a whole image; `recordAt` computes it, and the validator
of either implementation returns it on every lawful device.
-/

namespace Embedkv.Record

open Embedkv.Lib Embedkv.Format Embedkv.Device Embedkv.State Embedkv.Codec Embedkv.Image

set_option autoImplicit false

/-- The chain that starts at link `next` and expects chunk `idx` there: its
blocks in order, and the concatenation of their payloads. -/
def Chain (img : MemDevice) (d : Nat) : Nat → Nat → List Nat → Bytes → Prop
  | _, next, [], payload => next = nullBlockIndex ∧ payload = []
  | idx, next, c :: rest, payload =>
    next = c ∧ c < img.blockCount ∧ ∃ head link tail,
      chunkView d idx (img.block c) = some (head, link) ∧ payload = head ++ tail ∧
        Chain img d (idx + 1) link rest tail

/-- Block `d` of the image is the descriptor of the complete record `rec`. -/
def RecordAt (img : MemDevice) (d : Nat) (rec : CompleteRecord) : Prop :=
  d < img.blockCount ∧ ∃ head payload,
    descriptorView d (img.block d) = some head ∧
    Chain img d 1 head.header.nextChunk.toNat rec.chunkBlocks payload ∧
    head.header.chunkCount.toNat = rec.chunkBlocks.length + 1 ∧
    asU32 (head.value ++ payload).length = head.header.totalSize.toNat ∧
    rec = { head with chunkBlocks := rec.chunkBlocks, value := head.value ++ payload }

/-- Follow a chain for at most `fuel` links. -/
def walk (img : MemDevice) (d : Nat) : Nat → Nat → Nat → Option (List Nat × Bytes)
  | 0, _, _ => none
  | fuel + 1, idx, next =>
    if next = nullBlockIndex then some ([], [])
    else if next < img.blockCount then
      match chunkView d idx (img.block next) with
      | none => none
      | some (head, link) =>
        (walk img d fuel (idx + 1) link).map fun found => (next :: found.1, head ++ found.2)
    else none

/-- The complete record at a descriptor block, if there is one. -/
def recordAt (img : MemDevice) (d : Nat) : Option CompleteRecord :=
  if d < img.blockCount then
    match descriptorView d (img.block d) with
    | none => none
    | some head =>
      match walk img d (img.blockCount + 1) 1 head.header.nextChunk.toNat with
      | none => none
      | some (chunks, payload) =>
        if head.header.chunkCount.toNat = chunks.length + 1 ∧
            asU32 (head.value ++ payload).length = head.header.totalSize.toNat then
          some { head with chunkBlocks := chunks, value := head.value ++ payload }
        else none
  else none

/-! ## Chains -/

theorem chunkView_index {d idx idx' : Nat} {buf : Bytes} {found found' : Bytes × Nat}
    (here : chunkView d idx buf = some found) (there : chunkView d idx' buf = some found') :
    idx = idx' := by
  simp only [chunkView] at here there
  split at here
  next checks =>
    split at there
    next checks' => exact checks.2.2.2.2.1.symm.trans checks'.2.2.2.2.1
    next => cases there
  next => cases here

theorem chunkView_owner {d d' idx idx' : Nat} {buf : Bytes} {found found' : Bytes × Nat}
    (here : chunkView d idx buf = some found) (there : chunkView d' idx' buf = some found') :
    d = d' := by
  simp only [chunkView] at here there
  split at here
  next checks =>
    split at there
    next checks' => exact checks.2.2.2.1.symm.trans checks'.2.2.2.1
    next => cases there
  next => cases here

theorem chunkView_type {d idx : Nat} {buf : Bytes} {found : Bytes × Nat}
    (here : chunkView d idx buf = some found) : u8At buf 0 = blockTypeValueChunk := by
  simp only [chunkView] at here
  split at here
  next checks => exact checks.1
  next => cases here

theorem descriptorView_type {d : Nat} {buf : Bytes} {head : CompleteRecord}
    (here : descriptorView d buf = some head) : u8At buf 0 = blockTypeRecordDescriptor := by
  simp only [descriptorView] at here
  split at here
  next checks => exact checks.1
  next => cases here

theorem chunkView_of_descriptor {d d' idx : Nat} {buf : Bytes} {head : CompleteRecord}
    (view : descriptorView d' buf = some head) : chunkView d idx buf = none := by
  rw [Option.eq_none_iff_forall_ne_some]
  intro found chunk
  have isChunk := chunkView_type chunk
  rw [descriptorView_type view] at isChunk
  exact absurd isChunk (by decide)

/-- What a descriptor view says of the head it returns. -/
theorem descriptorView_head {d : Nat} {buf : Bytes} {head : CompleteRecord}
    (large : 36 ≤ buf.length) (view : descriptorView d buf = some head) :
    head.chunkBlocks = [] ∧ head.descriptorBlock = d ∧
      head.header = descriptorHeaderOf buf ∧ head.generation = head.header.generation.toNat ∧
      head.value.length = head.header.firstPayloadSize.toNat := by
  simp only [descriptorView] at view
  split at view
  next checks =>
    cases view
    refine ⟨rfl, rfl, rfl, rfl, ?_⟩
    simp only [List.length_drop, List.length_take]
    omega
  next => cases view

/-- Every block of a chain is a chunk of the descriptor, with an index the chain
has reached. -/
theorem chain_member {img : MemDevice} {d idx next : Nat} {chunks : List Nat} {payload : Bytes}
    (chain : Chain img d idx next chunks payload) {c : Nat} (member : c ∈ chunks) :
    c < img.blockCount ∧ ∃ idx' found, idx ≤ idx' ∧ chunkView d idx' (img.block c) = some found := by
  induction chunks generalizing idx next payload with
  | nil => cases member
  | cons first rest ih =>
      obtain ⟨_, inside, head, link, tail, seen, _, after⟩ := chain
      rcases List.mem_cons.mp member with here | later
      · subst here
        exact ⟨inside, idx, (head, link), le_refl _, seen⟩
      · obtain ⟨bound, idx', found, reached, view⟩ := ih after later
        exact ⟨bound, idx', found, by omega, view⟩

/-- The chunk indices of a chain differ, so its blocks do. -/
theorem chain_nodup {img : MemDevice} {d idx next : Nat} {chunks : List Nat} {payload : Bytes}
    (chain : Chain img d idx next chunks payload) : chunks.Nodup := by
  induction chunks generalizing idx next payload with
  | nil => exact List.nodup_nil
  | cons first rest ih =>
      obtain ⟨_, inside, head, link, tail, seen, _, after⟩ := chain
      rw [List.nodup_cons]
      refine ⟨?_, ih after⟩
      intro again
      obtain ⟨_, idx', found, reached, view⟩ := chain_member after again
      have same := chunkView_index seen view
      omega

theorem chain_length_le {img : MemDevice} {d idx next : Nat} {chunks : List Nat} {payload : Bytes}
    (chain : Chain img d idx next chunks payload) : chunks.length ≤ img.blockCount := by
  have inside : chunks ⊆ List.range img.blockCount := by
    intro c member
    exact List.mem_range.mpr (chain_member chain member).1
  have bound := (List.subperm_of_subset (chain_nodup chain) inside).length_le
  rwa [List.length_range] at bound

theorem block_index_ne_null {img : MemDevice} {c : Nat} (inside : c < img.blockCount) :
    c ≠ nullBlockIndex := by
  have bound : img.blockCount < 2 ^ 32 := img.count_lt
  simp only [nullBlockIndex]
  omega

theorem walk_sound {img : MemDevice} {d fuel idx next : Nat} {found : List Nat × Bytes}
    (walked : walk img d fuel idx next = some found) : Chain img d idx next found.1 found.2 := by
  induction fuel generalizing idx next found with
  | zero => cases walked
  | succ fuel ih =>
      unfold walk at walked
      split at walked
      next ended =>
        cases walked
        exact ⟨ended, rfl⟩
      next =>
        split at walked
        next inside =>
          split at walked
          next => cases walked
          next head link seen =>
            rw [Option.map_eq_some_iff] at walked
            obtain ⟨rest, after, rfl⟩ := walked
            exact ⟨rfl, inside, head, link, rest.2, seen, rfl, ih after⟩
        next => cases walked

theorem walk_complete {img : MemDevice} {d fuel idx next : Nat} {chunks : List Nat}
    {payload : Bytes} (chain : Chain img d idx next chunks payload) (enough : chunks.length < fuel) :
    walk img d fuel idx next = some (chunks, payload) := by
  induction chunks generalizing fuel idx next payload with
  | nil =>
      obtain ⟨ended, rfl⟩ := chain
      cases fuel with
      | zero => simp at enough
      | succ fuel => simp [walk, ended]
  | cons c rest ih =>
      obtain ⟨rfl, inside, head, link, tail, seen, rfl, after⟩ := chain
      cases fuel with
      | zero => simp at enough
      | succ fuel =>
          have stepped := ih after (show rest.length < fuel by simpa using enough)
          simp [walk, block_index_ne_null inside, inside, seen, stepped]

/-- `recordAt` at a descriptor, with its checks made once the chain is known. -/
theorem recordAt_of_view {img : MemDevice} {d : Nat} {head : CompleteRecord}
    (inside : d < img.blockCount) (view : descriptorView d (img.block d) = some head) :
    recordAt img d = (walk img d (img.blockCount + 1) 1 head.header.nextChunk.toNat).bind fun found =>
      if head.header.chunkCount.toNat = found.1.length + 1 ∧
          asU32 (head.value ++ found.2).length = head.header.totalSize.toNat then
        some { head with chunkBlocks := found.1, value := head.value ++ found.2 }
      else none := by
  simp only [recordAt, if_pos inside, view]
  cases walk img d (img.blockCount + 1) 1 head.header.nextChunk.toNat <;> rfl

theorem recordAt_eq_some {img : MemDevice} {d : Nat} {rec : CompleteRecord} :
    recordAt img d = some rec ↔ RecordAt img d rec := by
  constructor
  · intro computed
    unfold recordAt at computed
    split at computed
    next inside =>
      split at computed
      next => cases computed
      next head view =>
        split at computed
        next => cases computed
        next chunks payload walked =>
          split at computed
          next agrees =>
            cases computed
            exact ⟨inside, head, payload, view, walk_sound walked, agrees.1, agrees.2, rfl⟩
          next => cases computed
    next => cases computed
  · rintro ⟨inside, head, payload, view, chain, counted, total, shape⟩
    have short := chain_length_le chain
    have walked : walk img d (img.blockCount + 1) 1 _ = _ := walk_complete chain (by omega)
    rw [List.length_append] at total
    rw [shape]
    simp [recordAt, inside, view, walked, counted, total]

theorem recordAt_eq_none {img : MemDevice} {d : Nat} :
    recordAt img d = none ↔ ∀ rec, ¬RecordAt img d rec := by
  rw [Option.eq_none_iff_forall_ne_some]
  simp only [ne_eq, recordAt_eq_some]

/-! ## The validators compute `recordAt` -/

section
variable {D : Type} [BlockDevice D] [LawfulBlockDevice D]

/-- The loop returns what `walk` finds. Every visited block is a chunk with an
earlier index or no chunk of this descriptor at all, so refusing a revisit
refuses nothing that the index check would accept; and there are as many
visited blocks as indices used, so the counter stays below the block count. -/
theorem rust_chainLoop (build : Rust.Build) (dev : D) (d fuel : Nat)
    (large : 36 ≤ (image dev).blockSize) (idx next : Nat) (visited : Finset Nat)
    (rec : CompleteRecord) (counted : visited.card = idx)
    (inRange : visited ⊆ Finset.range (image dev).blockCount)
    (used : ∀ c ∈ visited, ∀ idx', idx ≤ idx' → chunkView d idx' ((image dev).block c) = none)
    (enough : (image dev).blockCount < fuel + idx) :
    Rust.chainLoop build (image dev).blockSize (image dev).blockCount d next idx visited rec dev =
      (.ok ((walk (image dev) d fuel idx next).map fun found =>
        ({ rec with value := rec.value ++ found.2, chunkBlocks := rec.chunkBlocks ++ found.1 },
          idx + found.1.length)), dev) := by
  induction fuel generalizing idx next visited rec with
  | zero =>
      have bound := Finset.card_le_card inRange
      rw [Finset.card_range] at bound
      omega
  | succ fuel ih =>
      rw [Rust.chainLoop]
      by_cases ended : next = nullBlockIndex
      · simp [walk, ended]
      · by_cases stale : next ≥ (image dev).blockCount ∨ next ∈ visited
        · have refused : walk (image dev) d (fuel + 1) idx next = none := by
            rcases stale with outside | again
            · simp [walk, ended, Nat.not_lt.mpr outside]
            · have inside := Finset.mem_range.mp (inRange again)
              simp [walk, ended, inside, used next again idx (le_refl _)]
          simp [ended, stale, refused]
        · have fresh := stale
          rw [not_or, Nat.not_le] at fresh
          obtain ⟨inside, unseen⟩ := fresh
          have size : ((image dev).block next).length = (image dev).blockSize :=
            (image dev).block_length inside
          have read := LawfulBlockDevice.readBlock_eq dev next inside
          have checked := rust_readChunk build d idx ((image dev).block next) (by omega)
          rw [size] at checked
          rw [if_neg ended, dif_neg stale, Proc.bind_ok read, checked]
          cases view : chunkView d idx ((image dev).block next) with
          | none => simp [walk, ended, inside, view]
          | some found =>
              obtain ⟨head, link⟩ := found
              have grown : (insert next visited).card = idx + 1 := by
                rw [Finset.card_insert_of_notMem unseen, counted]
              have grownRange : insert next visited ⊆ Finset.range (image dev).blockCount :=
                Finset.insert_subset (Finset.mem_range.mpr inside) inRange
              have bound := Finset.card_le_card grownRange
              rw [grown, Finset.card_range] at bound
              have countSmall : (image dev).blockCount < 2 ^ 32 := (image dev).count_lt
              have bumped : Rust.u32Add build idx 1 = .ok (idx + 1) := rust_u32Add_ok (by omega)
              have grownUsed : ∀ c ∈ insert next visited, ∀ idx', idx + 1 ≤ idx' →
                  chunkView d idx' ((image dev).block c) = none := by
                intro c member idx' later
                rcases Finset.mem_insert.mp member with here | before
                · subst here
                  rw [Option.eq_none_iff_forall_ne_some]
                  intro found again
                  have same := chunkView_index view again
                  omega
                · exact used c before idx' (by omega)
              have rest := ih (idx + 1) link (insert next visited)
                { rec with value := rec.value ++ head, chunkBlocks := rec.chunkBlocks ++ [next] }
                grown grownRange grownUsed (by omega)
              simp only [Proc.ofExcept_ok_bind_apply, bumped, rest, walk, ended, inside, view,
                if_false, if_true, Option.map_map]
              congr 3
              funext found
              simp [Nat.add_comm, Nat.add_left_comm]

theorem rust_verifyAndReadRecord (build : Rust.Build) (dev : D) (d : Nat)
    (large : 36 ≤ (image dev).blockSize) (inside : d < (image dev).blockCount) :
    Rust.verifyAndReadRecord build d dev = (.ok (recordAt (image dev) d), dev) := by
  have size : ((image dev).block d).length = (image dev).blockSize :=
    (image dev).block_length inside
  have read := LawfulBlockDevice.readBlock_eq dev d inside
  have checked := rust_readDescriptor build d ((image dev).block d) (by omega)
  rw [size] at checked
  rw [Rust.verifyAndReadRecord, Proc.bind_ok (blockSizeOf_eq dev), Proc.bind_ok read, checked]
  cases view : descriptorView d ((image dev).block d) with
  | none => simp [recordAt, inside, view]
  | some head =>
      obtain ⟨noChunks, _, _, _, valueSize⟩ := descriptorView_head (by omega) view
      have firstSmall : head.header.firstPayloadSize.toNat < 2 ^ 32 :=
        head.header.firstPayloadSize.toNat_lt
      have one : head.header.chunkCount = 1 ↔ head.header.chunkCount.toNat = 1 := by
        rw [← UInt32.toNat_inj]
        rfl
      have loop := rust_chainLoop build dev d ((image dev).blockCount + 1) large 1
        head.header.nextChunk.toNat {d} head (Finset.card_singleton d)
        (Finset.singleton_subset_iff.mpr (Finset.mem_range.mpr inside))
        (by
          intro c member idx' _
          rw [Finset.mem_singleton.mp member]
          exact chunkView_of_descriptor view)
        (by omega)
      rw [recordAt_of_view inside view, Proc.ofExcept_ok_bind_apply]
      by_cases ended : head.header.nextChunk.toNat = nullBlockIndex
      · -- No link: only a single-block record can be complete.
        have walked : walk (image dev) d ((image dev).blockCount + 1) 1
            head.header.nextChunk.toNat = some ([], []) := by simp [walk, ended]
        have total : asU32 head.value.length = head.header.totalSize.toNat ↔
            head.header.totalSize = head.header.firstPayloadSize := by
          rw [valueSize, asU32_of_lt firstSmall, ← UInt32.toNat_inj, eq_comm]
        have kept : { head with chunkBlocks := [], value := head.value } = head := by
          rw [← noChunks]
        simp only [walked, Option.bind_some, List.length_nil, List.append_nil, total, kept]
        by_cases single : head.header.chunkCount = 1
        · by_cases agrees : head.header.totalSize = head.header.firstPayloadSize
          · simp [single, agrees, ended]
          · simp [single, agrees]
        · have several : ¬head.header.chunkCount.toNat = 1 := fun same => single (one.mpr same)
          simp [single, several, ended]
      · by_cases single : head.header.chunkCount = 1
        · -- A link on a single-block record: the walk is empty-handed or too long.
          have counted : head.header.chunkCount.toNat = 1 := one.mp single
          cases walked : walk (image dev) d ((image dev).blockCount + 1) 1
              head.header.nextChunk.toNat with
          | none => simp [single, ended]
          | some found =>
              have chain := walk_sound walked
              have longer : ¬found.1 = [] := by
                intro empty
                rw [empty] at chain
                exact ended chain.1
              simp [single, ended, longer]
        · simp only [single, ended, if_false, Proc.bind_ok (blockCountOf_eq dev), Proc.bind_ok loop]
          cases walked : walk (image dev) d ((image dev).blockCount + 1) 1
              head.header.nextChunk.toNat with
          | none => simp
          | some found =>
              simp only [Option.map_some, Option.bind_some, noChunks, List.nil_append]
              by_cases counted : head.header.chunkCount.toNat = found.1.length + 1
              · by_cases total : asU32 (head.value ++ found.2).length =
                    head.header.totalSize.toNat
                · simp only [counted, total, Nat.add_comm 1, ne_eq, not_true_eq_false, if_false,
                    and_self, if_true, Proc.pure_apply]
                · simp only [counted, total, Nat.add_comm 1, ne_eq, not_true_eq_false, if_false,
                    not_false_eq_true, and_false, if_true, Proc.pure_apply]
              · have differs : 1 + found.1.length ≠ head.header.chunkCount.toNat := by omega
                simp only [counted, differs, ne_eq, not_false_eq_true, if_true, false_and,
                  if_false, Proc.pure_apply]

theorem go_u32Add_release (a b : Nat) : Rust.u32Add .release a b = .ok (Go.u32Add a b) := by
  unfold Rust.u32Add Go.u32Add
  split
  next small => rw [Nat.mod_eq_of_lt small]
  next => rfl

/-- The Go loop is the Rust loop of a release build. -/
theorem go_chainLoop (dev : D) (d : Nat) (large : 36 ≤ (image dev).blockSize) (next idx : Nat)
    (visited : Finset Nat) (rec : CompleteRecord) :
    Go.chainLoop (image dev).blockSize (image dev).blockCount d next idx visited rec dev =
      Rust.chainLoop .release (image dev).blockSize (image dev).blockCount d next idx visited rec
        dev := by
  induction left : (Finset.range (image dev).blockCount \ visited).card using
    Nat.strong_induction_on generalizing next idx visited rec with
  | _ left ih =>
      rw [Go.chainLoop, Rust.chainLoop]
      by_cases ended : next = nullBlockIndex
      · simp only [ended, if_true]
      · by_cases stale : next ≥ (image dev).blockCount ∨ next ∈ visited
        · simp only [ended, if_false, stale, dif_pos]
        · have inside : next < (image dev).blockCount :=
            Nat.lt_of_not_le fun outside => stale (.inl outside)
          have size : ((image dev).block next).length = (image dev).blockSize :=
            (image dev).block_length inside
          have read := LawfulBlockDevice.readBlock_eq dev next inside
          have rustChecked := rust_readChunk .release d idx ((image dev).block next) (by omega)
          have goChecked := go_readChunk d idx ((image dev).block next) (by omega)
            (by rw [size]; exact (image dev).size_lt)
          rw [size] at rustChecked goChecked
          rw [if_neg ended, if_neg ended, dif_neg stale, dif_neg stale, Proc.bind_ok read,
            Proc.bind_ok read, rustChecked, goChecked]
          cases view : chunkView d idx ((image dev).block next) with
          | none => rfl
          | some found =>
              simp only [Proc.ofExcept_ok_bind_apply, go_u32Add_release]
              subst left
              exact ih _ (unvisited_decreases stale) _ _ _ _ rfl

theorem go_verifyAndReadRecord (dev : D) (d : Nat) (large : 36 ≤ (image dev).blockSize)
    (inside : d < (image dev).blockCount) :
    Go.verifyAndReadRecord d dev = (.ok (recordAt (image dev) d), dev) := by
  rw [← rust_verifyAndReadRecord .release dev d large inside]
  have size : ((image dev).block d).length = (image dev).blockSize :=
    (image dev).block_length inside
  have read := LawfulBlockDevice.readBlock_eq dev d inside
  have rustChecked := rust_readDescriptor .release d ((image dev).block d) (by omega)
  have goChecked := go_readDescriptor d ((image dev).block d) (by omega)
    (by rw [size]; exact (image dev).size_lt)
  rw [size] at rustChecked goChecked
  rw [Rust.verifyAndReadRecord, Go.verifyAndReadRecord, Proc.bind_ok (blockSizeOf_eq dev),
    Proc.bind_ok (blockSizeOf_eq dev), Proc.bind_ok read, Proc.bind_ok read, rustChecked, goChecked]
  cases view : descriptorView d ((image dev).block d) with
  | none => rfl
  | some head =>
      simp only [Proc.ofExcept_ok_bind_apply]
      split
      next => rfl
      next =>
        split
        next => rfl
        next =>
          rw [Proc.bind_ok (blockCountOf_eq dev), Proc.bind_ok (blockCountOf_eq dev)]
          exact Proc.bind_first_congr (go_chainLoop dev d large _ _ _ _) _

end

/-! ## Records as parts of an image -/

theorem recordAt_unique {img : MemDevice} {d : Nat} {rec rec' : CompleteRecord}
    (here : RecordAt img d rec) (there : RecordAt img d rec') : rec = rec' := by
  rw [← recordAt_eq_some] at here there
  exact Option.some.inj (here.symm.trans there)

theorem RecordAt.inside {img : MemDevice} {d : Nat} {rec : CompleteRecord}
    (record : RecordAt img d rec) : d < img.blockCount := record.1

/-- The descriptor block carries the type byte of a descriptor. -/
theorem RecordAt.descriptor_type {img : MemDevice} {d : Nat} {rec : CompleteRecord}
    (record : RecordAt img d rec) : u8At (img.block d) 0 = blockTypeRecordDescriptor := by
  obtain ⟨_, head, payload, view, _⟩ := record
  exact descriptorView_type view

theorem RecordAt.descriptorBlock_eq {img : MemDevice} {d : Nat} {rec : CompleteRecord}
    (record : RecordAt img d rec) : rec.descriptorBlock = d := by
  obtain ⟨_, head, payload, view, _, _, _, shape⟩ := record
  rw [shape]
  simp only [descriptorView] at view
  split at view
  next => cases view; rfl
  next => cases view

theorem RecordAt.generation_lt {img : MemDevice} {d : Nat} {rec : CompleteRecord}
    (record : RecordAt img d rec) : rec.generation < 2 ^ 32 := by
  obtain ⟨_, head, payload, view, _, _, _, shape⟩ := record
  rw [shape]
  simp only [descriptorView] at view
  split at view
  next =>
    cases view
    exact UInt32.toNat_lt _
  next => cases view

theorem RecordAt.total {img : MemDevice} {d : Nat} {rec : CompleteRecord}
    (record : RecordAt img d rec) : rec.header.totalSize.toNat = asU32 rec.value.length := by
  rcases record with ⟨_, head, payload, _, _, _, total, same⟩
  rw [same]
  exact total.symm

theorem RecordAt.blocks_eq {img : MemDevice} {d : Nat} {rec : CompleteRecord}
    (record : RecordAt img d rec) : rec.blocks = d :: rec.chunkBlocks := by
  rw [CompleteRecord.blocks, record.descriptorBlock_eq]

/-- Every chunk block of a record is a chunk that names its descriptor. -/
theorem RecordAt.chunk_view {img : MemDevice} {d : Nat} {rec : CompleteRecord}
    (record : RecordAt img d rec) {c : Nat} (member : c ∈ rec.chunkBlocks) :
    c < img.blockCount ∧ ∃ idx found, chunkView d idx (img.block c) = some found := by
  obtain ⟨_, head, payload, _, chain, _⟩ := record
  obtain ⟨inside, idx, found, _, view⟩ := chain_member chain member
  exact ⟨inside, idx, found, view⟩

theorem RecordAt.chunk_type {img : MemDevice} {d : Nat} {rec : CompleteRecord}
    (record : RecordAt img d rec) {c : Nat} (member : c ∈ rec.chunkBlocks) :
    u8At (img.block c) 0 = blockTypeValueChunk := by
  obtain ⟨_, idx, found, view⟩ := record.chunk_view member
  exact chunkView_type view

theorem RecordAt.chunks_nodup {img : MemDevice} {d : Nat} {rec : CompleteRecord}
    (record : RecordAt img d rec) : rec.chunkBlocks.Nodup := by
  obtain ⟨_, head, payload, _, chain, _⟩ := record
  exact chain_nodup chain

theorem RecordAt.blocks_nodup {img : MemDevice} {d : Nat} {rec : CompleteRecord}
    (record : RecordAt img d rec) : rec.blocks.Nodup := by
  rw [record.blocks_eq, List.nodup_cons]
  refine ⟨?_, record.chunks_nodup⟩
  intro member
  have isChunk := record.chunk_type member
  rw [record.descriptor_type] at isChunk
  exact absurd isChunk (by decide)

theorem RecordAt.blocks_inside {img : MemDevice} {d : Nat} {rec : CompleteRecord}
    (record : RecordAt img d rec) {c : Nat} (member : c ∈ rec.blocks) : c < img.blockCount := by
  rw [record.blocks_eq] at member
  rcases List.mem_cons.mp member with rfl | chunk
  · exact record.inside
  · exact (record.chunk_view chunk).1

/-- No block of a record is free or a storage header. -/
theorem RecordAt.block_type {img : MemDevice} {d : Nat} {rec : CompleteRecord}
    (record : RecordAt img d rec) {c : Nat} (member : c ∈ rec.blocks) :
    u8At (img.block c) 0 = blockTypeRecordDescriptor ∨
      u8At (img.block c) 0 = blockTypeValueChunk := by
  rw [record.blocks_eq] at member
  rcases List.mem_cons.mp member with rfl | chunk
  · exact .inl record.descriptor_type
  · exact .inr (record.chunk_type chunk)

/-- Records with different descriptors share no block: a chunk names its owner,
and a descriptor is no chunk. -/
theorem records_disjoint {img : MemDevice} {d d' : Nat} {rec rec' : CompleteRecord}
    (here : RecordAt img d rec) (there : RecordAt img d' rec') (different : d ≠ d') :
    List.Disjoint rec.blocks rec'.blocks := by
  intro c inHere inThere
  rw [here.blocks_eq] at inHere
  rw [there.blocks_eq] at inThere
  rcases List.mem_cons.mp inHere with rfl | chunk
  · rcases List.mem_cons.mp inThere with same | chunk'
    · exact different same
    · have clash := there.chunk_type chunk'
      rw [here.descriptor_type] at clash
      exact absurd clash (by decide)
  · rcases List.mem_cons.mp inThere with rfl | chunk'
    · have clash := here.chunk_type chunk
      rw [there.descriptor_type] at clash
      exact absurd clash (by decide)
    · obtain ⟨_, idx, found, view⟩ := here.chunk_view chunk
      obtain ⟨_, idx', found', view'⟩ := there.chunk_view chunk'
      exact different (chunkView_owner view view')

/-! ## Records under change -/

theorem chain_congr {img img' : MemDevice} {d idx next : Nat} {chunks : List Nat} {payload : Bytes}
    (count : img'.blockCount = img.blockCount)
    (same : ∀ c ∈ chunks, img'.block c = img.block c)
    (chain : Chain img d idx next chunks payload) : Chain img' d idx next chunks payload := by
  induction chunks generalizing idx next payload with
  | nil => exact chain
  | cons c rest ih =>
      obtain ⟨here, inside, head, link, tail, view, split, after⟩ := chain
      refine ⟨here, by rw [count]; exact inside, head, link, tail, ?_, split, ?_⟩
      · rw [same c List.mem_cons_self]
        exact view
      · exact ih (fun other member => same other (List.mem_cons_of_mem _ member)) after

/-- A record depends on its own blocks only. -/
theorem RecordAt.congr {img img' : MemDevice} {d : Nat} {rec : CompleteRecord}
    (record : RecordAt img d rec) (count : img'.blockCount = img.blockCount)
    (same : ∀ c ∈ rec.blocks, img'.block c = img.block c) : RecordAt img' d rec := by
  rw [record.blocks_eq] at same
  obtain ⟨inside, head, payload, view, chain, counted, total, shape⟩ := record
  refine ⟨by rw [count]; exact inside, head, payload, ?_, ?_, counted, total, shape⟩
  · rw [same d List.mem_cons_self]
    exact view
  · exact chain_congr count (fun c member => same c (List.mem_cons_of_mem _ member)) chain

/-- A block that is no chunk of `d` plays no part in a chain of `d`. -/
theorem chain_of_changed {img img' : MemDevice} {d idx next : Nat} {chunks : List Nat}
    {payload : Bytes} (count : img'.blockCount = img.blockCount)
    (change : ∀ c, img'.block c = img.block c ∨ ∀ idx, chunkView d idx (img'.block c) = none)
    (chain : Chain img' d idx next chunks payload) :
    Chain img d idx next chunks payload ∧ ∀ c ∈ chunks, img'.block c = img.block c := by
  have same : ∀ c ∈ chunks, img'.block c = img.block c := by
    intro c member
    obtain ⟨_, idx', found, _, view⟩ := chain_member chain member
    rcases change c with kept | noChunk
    · exact kept
    · rw [noChunk idx'] at view
      cases view
  refine ⟨?_, same⟩
  exact chain_congr count.symm (fun c member => (same c member).symm) chain

/-- Changes that keep the descriptor and add no chunk of it complete no record:
a record found after them was there before, with the same blocks. -/
theorem RecordAt.of_changed {img img' : MemDevice} {d : Nat} {rec : CompleteRecord}
    (record : RecordAt img' d rec) (count : img'.blockCount = img.blockCount)
    (kept : img'.block d = img.block d)
    (change : ∀ c, img'.block c = img.block c ∨ ∀ idx, chunkView d idx (img'.block c) = none) :
    RecordAt img d rec ∧ ∀ c ∈ rec.blocks, img'.block c = img.block c := by
  have blocks := record.blocks_eq
  obtain ⟨inside, head, payload, view, chain, counted, total, shape⟩ := record
  obtain ⟨before, same⟩ := chain_of_changed count change chain
  refine ⟨⟨by rw [← count]; exact inside, head, payload, ?_, before, counted, total, shape⟩, ?_⟩
  · rw [← kept]
    exact view
  · intro c member
    rw [blocks] at member
    rcases List.mem_cons.mp member with rfl | chunk
    · exact kept
    · exact same c chunk

end Embedkv.Record
