import Embedkv.Lib.Runs
import Embedkv.Alone
import Embedkv.Lead
import Embedkv.MapLaws
import Embedkv.DeleteLaws

/-!
# The index in a session over any image

An entry is sound when its descriptor verifies with the entry's key, generation
and size and no other record of the key is selected before it; a recovery in the
middle of the session then spares it. Scans make sound entries, and so do puts of
keys that are indexed. A put of a key that is not indexed starts at generation 1:
its entry is sound only if no older record of the key is left that a scan prefers.
-/

namespace Embedkv.IndexLaws

open Embedkv.Lib Embedkv.Format Embedkv.Device Embedkv.State Embedkv.Image Embedkv.Record
open Embedkv.Effects Embedkv.Plan Embedkv.Recovery Embedkv.Outcome Embedkv.Session Embedkv.Run
open Embedkv.Steady Embedkv.MapLaws Embedkv.Frame Embedkv.Alone Embedkv.Lead Embedkv.DeleteLaws

set_option autoImplicit false

section
variable {D : Type} [BlockDevice D] [ReliableBlockDevice D]

/-- The entry of a key is that of its selected record, which recovery spares. -/
def EntrySound (build : Rust.Build) (pattern : UInt8) (r : Replica D) (key : Bytes)
    (e : IndexEntry) : Prop :=
  ∃ rec, Rust.verifyAndReadRecord build e.descriptorBlock r.dev = (.ok (some rec), r.dev) ∧
    rec.key = key ∧ rec.generation = e.generation ∧ rec.header.totalSize.toNat = e.totalSize ∧
    (∀ other ∈ Scan.records (image r.dev), other.key = key → other ≠ rec →
      other.generation < rec.generation ∨
        other.generation = rec.generation ∧ rec.descriptorBlock < other.descriptorBlock) ∧
    ∀ b ∈ rec.blocks, (image (Rust.replicaRecover build pattern r.dev).2).block b =
      (image r.dev).block b

def IndexSound (build : Rust.Build) (s : Store D) : Prop :=
  ∀ r ∈ s.replicas, ∀ key e, r.index.get key = some e →
    EntrySound build s.opts.freePattern r key e

/-- A put that has room and takes up a key meets only records that a scan puts
behind its own: of generation 0, or of generation 1 and after the first free block. -/
def TakesUp : Step → Store D → Prop
  | .call (.put key value _), s =>
    ∀ r ∈ s.replicas, HasRoom r key value → r.index.get key = none →
      ∀ rec ∈ Scan.records (image r.dev), rec.key = key → rec.generation = 0 ∨
        rec.generation = 1 ∧
          ∃ first ∈ (freeBlocks (image r.dev)).head?, first < rec.descriptorBlock
  | _, _ => True

instance : (step : Step) → (s : Store D) → Decidable (TakesUp step s)
  | .call (.put key value _), s => inferInstanceAs (Decidable
    (∀ r ∈ s.replicas, HasRoom r key value → r.index.get key = none →
      ∀ rec ∈ Scan.records (image r.dev), rec.key = key → rec.generation = 0 ∨
        rec.generation = 1 ∧
          ∃ first ∈ (freeBlocks (image r.dev)).head?, first < rec.descriptorBlock))
  | .call (.delete _), _ => isTrue trivial
  | .call (.get _), _ => isTrue trivial
  | .recover, _ => isTrue trivial
  | .reopen, _ => isTrue trivial

/-- No record has the last generation. -/
def Below (s : Store D) : Prop :=
  ∀ r ∈ s.replicas, ∀ rec ∈ Scan.records (image r.dev), rec.generation < 2 ^ 32 - 1

instance (s : Store D) : Decidable (Below s) :=
  inferInstanceAs (Decidable (∀ r ∈ s.replicas, ∀ rec ∈ Scan.records (image r.dev),
    rec.generation < 2 ^ 32 - 1))

variable {build : Rust.Build} {opts : Options} {step : Step} {r r' : Replica D}
  {result : Except Failure (Option Bytes)}

theorem current_iff_leads (mountable : Mount.Mountable (image r.dev)) :
    Current r ↔ ∀ s e, r.index.lookup s = some e →
      ∃ rec, Leads fromUtf8Lossy (recordAt (image r.dev)) s rec ∧
        rec.descriptorBlock = e.descriptorBlock := by
  have header := recordAt_zero mountable
  constructor
  · intro current s e found
    rcases current s e found with ⟨rec, selected, place⟩
    exact ⟨rec, (selected_iff_leads header).mp selected, place⟩
  · intro leads s e found
    rcases leads s e found with ⟨rec, lead, place⟩
    exact ⟨rec, (selected_iff_leads header).mpr lead, place⟩

/-- Where the stored keys are UTF-8, a sound index is one of selected records. -/
theorem indexSound_iff (sound : Sound Listed r) (utf8 : Utf8Keys (image r.dev)) :
    IndexSound build (single r opts) ↔ Current r := by
  have keyed : ∀ rec ∈ Scan.records (image r.dev), fromUtf8Lossy rec.key = rec.key := by
    intro rec stored
    exact fromUtf8Lossy_of_isUtf8 rec.key (utf8 rec stored)
  constructor
  · intro entries s e found
    rcases entries r List.mem_cons_self s e found with ⟨rec, verified, named, _, _, leads, _⟩
    rcases sound.index.complete s e found with ⟨there, present, _⟩
    have inside := (recordAt_eq_some.mp present).inside
    rw [rust_verifyAndReadRecord build r.dev _ sound.large inside, present] at verified
    cases verified
    have stored := records_of_present sound.mountable present
    have place := (recordAt_eq_some.mp present).descriptorBlock_eq
    refine ⟨rec, ⟨stored, (keyed rec stored).trans named, ?_⟩, place⟩
    intro other seen mine
    by_cases same : other = rec
    · rw [same]
      exact .inr ⟨rfl, Nat.le_refl _⟩
    · rcases leads other seen ((keyed other seen).symm.trans mine) same with lower | ⟨equal, later⟩
      · exact .inl lower
      · exact .inr ⟨equal, Nat.le_of_lt later⟩
  · intro current q only key e found
    rw [List.mem_singleton.mp only] at found ⊢
    rcases sound.index.complete key e found with ⟨rec, present, _, rfl⟩
    rcases current key _ found with ⟨best, selected, place⟩
    have record := recordAt_eq_some.mp present
    have same : best = rec := by
      have there := selected.record
      rw [place] at there
      exact recordAt_unique there record
    subst same
    refine ⟨best, ?_, ?_, rfl, rfl, ?_, ?_⟩
    · rw [rust_verifyAndReadRecord build r.dev _ sound.large record.inside, present]
    · exact (keyed best selected.stored).symm.trans selected.named
    · intro other seen mine different
      rcases selected.leads seen ((keyed other seen).trans mine) with lower | ⟨equal, later⟩
      · exact .inl lower
      · refine .inr ⟨equal, Nat.lt_of_le_of_ne later ?_⟩
        intro here
        have there := (Scan.mem_records.mp seen).2
        rw [← here] at there
        exact different (recordAt_unique there record)
    · intro b member
      rw [(replicaRecover_reliable build _ sound.large).2]
      exact block_recovered_other _ (garbage_not_selected selected member)

/-- After a put the index names selected records, unless the put took up a key
of which older records were left. -/
theorem current_put {s key value : Bytes} {generation : Nat} {pattern : UInt8}
    {new : CompleteRecord} (sound : Sound Listed r) (current : Current r)
    (done : PutDone s key value generation pattern new r r') (sound' : Sound Listed r')
    (named : fromUtf8Lossy new.key = s)
    (higher : new.generation = generationOf r.index s + 1) :
    Current r' ↔ (r.index.get s = none → ∀ rec ∈ Scan.records (image r.dev),
      fromUtf8Lossy rec.key = s →
        rec.generation = 0 ∨ rec.generation = 1 ∧ new.descriptorBlock < rec.descriptorBlock) := by
  have fresh := done.added.fresh
  have owns := owns_of_listed sound.index s
  have records : recordAt (image r'.dev) = replaced (recordAt (image r.dev)) r.index s new :=
    done.records
  let entry := entryAs s generation new.descriptorBlock value
  rw [current_iff_leads sound'.mountable, records, done.index]
  rw [current_iff_leads sound.mountable] at current
  constructor
  · intro leads absent rec stored mine
    rcases leads s entry (lookup_put_self entry) with ⟨best, lead, place⟩
    have isNew : best = new := by
      have present := lead.present
      rw [place] at present
      exact Option.some.inj (present.symm.trans (replaced_new owns fresh))
    subst isNew
    have present := present_of_records stored
    have stays : (r.index.get s).map IndexEntry.descriptorBlock ≠ some rec.descriptorBlock := by
      rw [absent]
      nofun
    rw [generationOf_absent absent] at higher
    rcases (leads_replaced_new owns fresh named).mp lead _ rec present mine stays with
      lower | ⟨equal, later⟩
    · left
      omega
    · refine .inr ⟨by omega, Nat.lt_of_le_of_ne later ?_⟩
      intro same
      rw [same, present] at fresh
      cases fresh
  · intro takes name e found
    by_cases same : name = s
    · subst same
      have entered : (r.index.put entry).lookup name = some entry := lookup_put_self entry
      rw [← Option.some.inj (entered.symm.trans found)]
      refine ⟨new, (leads_replaced_new owns fresh named).mpr ?_, rfl⟩
      intro d rec present mine stays
      rcases Option.eq_none_or_eq_some (r.index.get name) with absent | ⟨old, held⟩
      · have place := (recordAt_eq_some.mp present).descriptorBlock_eq
        rw [generationOf_absent absent] at higher
        have before := takes absent rec (records_of_present sound.mountable present) mine
        rw [place] at before
        omega
      · rcases current name old held with ⟨best, lead, place⟩
        rcases sound.index.complete name old held with ⟨listed, there, _, rfl⟩
        have isBest : best = listed := by
          have here := lead.present
          rw [place] at here
          exact Option.some.inj (here.symm.trans there)
        subst isBest
        rw [generationOf_held held] at higher
        have behind := lead.leads d rec present mine
        change new.generation = best.generation + 1 at higher
        omega
    · rw [lookup_put_other same] at found
      rcases current name e found with ⟨best, lead, place⟩
      exact ⟨best, (leads_replaced_other owns fresh named same).mpr lead, place⟩

theorem current_delete {s : Bytes} {e : IndexEntry} {pattern : UInt8} {rec : CompleteRecord}
    (sound : Sound Listed r) (current : Current r) (done : DeleteDone s e pattern rec r r') :
    Current r' := by
  have sound' := done.sound sound
  rw [current_iff_leads sound'.mountable, done.records, done.index]
  rw [current_iff_leads sound.mountable] at current
  intro name entry found
  have other : name ≠ s := by
    intro same
    rw [same, lookup_delete_self] at found
    cases found
  rw [lookup_delete_other other] at found
  rcases current name entry found with ⟨best, lead, place⟩
  rcases sound.index.complete s e done.found with ⟨gone, present, named, _⟩
  exact ⟨best, (leads_removed_other present named other).mpr lead, place⟩

theorem current_recover (sound : Sound Listed r) (current : Current r) (build : Rust.Build)
    (pattern : UInt8) : Current (recoveredReplica build pattern r) := by
  intro s e found
  rcases current s e found with ⟨best, selected, place⟩
  refine ⟨best, ?_, place⟩
  rw [image_recoveredReplica sound]
  exact (selected_recovered sound.large pattern s best).mpr selected

theorem utf8Keys_effect (sound : Sound Listed r) (utf8 : Utf8Keys (image r.dev))
    (allowed : StepAllowed (image r.dev).blockSize step)
    (effect : Effect build opts r step result r') : Utf8Keys (image r'.dev) := by
  intro rec stored
  cases effect with
  | refused | missing | get | reopen => exact utf8 rec stored
  | put _ done =>
      rcases allowed with ⟨allowed, bounded⟩
      have present := present_of_records stored
      rw [done.records] at present
      rcases update_eq_some (release_eq_some present) with before | ⟨_, rfl⟩
      · exact utf8 rec (records_of_present sound.mountable before)
      · rw [(added_contents allowed bounded done.added).1]
        exact allowed.1
  | delete done =>
      have present := present_of_records stored
      rw [done.records] at present
      exact utf8 rec (records_of_present sound.mountable (removed_origin present))
  | recover =>
      rw [image_recoveredReplica sound] at stored
      exact utf8 rec (damage_records (recovered_damage sound.large opts.freePattern) stored)

theorem generationOf_below (sound : Sound Listed r) (below : Below (single r opts)) (s : Bytes) :
    generationOf r.index s < 2 ^ 32 - 1 := by
  rcases Option.eq_none_or_eq_some (r.index.get s) with absent | ⟨e, held⟩
  · rw [generationOf_absent absent]
    decide
  · rcases sound.index.complete s e held with ⟨rec, present, _, rfl⟩
    rw [generationOf_held held]
    exact below r List.mem_cons_self rec (records_of_present sound.mountable present)

/-- A step keeps the index sound exactly if it takes up no key with a record that
a scan prefers. -/
theorem indexSound_effect (sound : Sound Listed r) (utf8 : Utf8Keys (image r.dev))
    (current : Current r) (allowed : StepAllowed (image r.dev).blockSize step)
    (below : Below (single r opts)) (effect : Effect build opts r step result r')
    (ran : step.run build (single r opts) = (result, single r' opts)) :
    Sound Listed r' ∧ (Current r' ↔ TakesUp step (single r opts)) := by
  cases effect with
  | @refused key value userFlags =>
      refine ⟨sound, ?_, fun _ => current⟩
      -- It was refused, so there was no room.
      intro _ q only room
      rw [List.mem_singleton.mp only] at room
      have small := generationOf_below sound below (fromUtf8Lossy key)
      have accepted := (putFlagged_ok_iff sound build opts allowed.1.2 value userFlags
        (rust_u32Add_ok (by omega))).mpr room
      have failed := congrArg Prod.fst ran
      rw [Step.run, perform_put, accepted] at failed
      cases failed
  | missing | get => exact ⟨sound, fun _ => trivial, fun _ => current⟩
  | @put key value userFlags generation new _ advanced done =>
      rcases allowed with ⟨allowed, bounded⟩
      have small := generationOf_below sound below (fromUtf8Lossy key)
      have listed : Listed (fromUtf8Lossy key)
          (entryAs (fromUtf8Lossy key) generation new.descriptorBlock value) new :=
        listed_added allowed.2 (rust_u32Add_lt advanced) done.added
      have higher : new.generation = generationOf r.index (fromUtf8Lossy key) + 1 := by
        rw [rust_u32Add_ok (by omega)] at advanced
        cases advanced
        rw [done.added.generation_eq, Nat.mod_eq_of_lt (by omega)]
      have sound' := done.sound sound listed
      have room : HasRoom r key value := by
        apply (putFlagged_ok_iff sound build opts allowed.2 value userFlags advanced).mp
        have finished := congrArg Prod.fst ran
        rw [Step.run, perform_put] at finished
        cases answered : (Rust.putFlagged build key value userFlags (single r opts)).1 with
        | error failure =>
            rw [answered] at finished
            cases finished
        | ok => rfl
      have keyed : ∀ rec ∈ Scan.records (image r.dev), fromUtf8Lossy rec.key = rec.key := by
        intro rec stored
        exact fromUtf8Lossy_of_isUtf8 rec.key (utf8 rec stored)
      refine ⟨sound', (current_put sound current done sound' listed.1 higher).trans ?_⟩
      rw [allowed.lossy]
      constructor
      · intro takes q only _ absent rec stored mine
        rw [List.mem_singleton.mp only] at absent stored ⊢
        rcases takes absent rec stored ((keyed rec stored).trans mine) with zero | ⟨one, later⟩
        · exact .inl zero
        · exact .inr ⟨one, _, done.added.first, later⟩
      · intro takes absent rec stored mine
        rcases takes r List.mem_cons_self room absent rec stored
          ((keyed rec stored).symm.trans mine) with zero | ⟨one, first, found, later⟩
        · exact .inl zero
        · rw [done.added.first] at found
          cases found
          exact .inr ⟨one, later⟩
  | delete done =>
      exact ⟨done.sound sound, fun _ => trivial, fun _ => current_delete sound current done⟩
  | recover =>
      exact ⟨recovered_sound sound current build opts.freePattern, fun _ => trivial,
        fun _ => current_recover sound current build opts.freePattern⟩
  | reopen =>
      exact ⟨⟨sound.large, sound.mountable, indexedBy_scan⟩, fun _ => trivial,
        fun _ => current_scanned r.dev⟩

/-- From every image with UTF-8 keys that opens, along every run of calls,
recoveries and reopenings with generations below the last one, the index is sound
in every state exactly if no put takes up a key with a record left that a scan
prefers to the one it writes. -/
theorem index_sound_iff {dev : D} {s : Store D} (large : 36 ≤ (image dev).blockSize)
    (utf8 : Utf8Keys (image dev)) (opened : mount build [dev] opts = .ok s) {steps : List Step}
    (allowed : ∀ step ∈ steps, StepAllowed (image dev).blockSize step)
    (below : Always (after build) Below steps s) :
    Always (after build) (IndexSound build) steps s ↔
      Each (after build) TakesUp steps s := by
  rcases mount_single_inv large opened with ⟨mountable, rfl⟩
  let inv (s : Store D) := ∃ r, s = single r opts ∧ Sound Listed r ∧ Utf8Keys (image r.dev) ∧
    (image r.dev).blockSize = (image dev).blockSize
  have sound₀ : Sound Listed (scannedReplica dev) := ⟨large, mountable, indexedBy_scan⟩
  have start : inv (single (scannedReplica dev) opts) := ⟨_, rfl, sound₀, utf8, rfl⟩
  have good : IndexSound build (single (scannedReplica dev) opts) :=
    (indexSound_iff sound₀ utf8).mpr (current_scanned dev)
  refine always_iff_each ?_ start good (each_of_always allowed below)
  rintro step s ⟨allowed, below⟩ ⟨r, rfl, sound, utf8, size⟩ entries
  rw [← size] at allowed
  have current := (indexSound_iff sound utf8).mp entries
  rcases step_effect sound build opts step with ⟨result, r', ran, effect⟩
  have next : after build step (single r opts) = single r' opts := congrArg Prod.snd ran
  rcases indexSound_effect sound utf8 current allowed below effect ran with ⟨sound', iff⟩
  have utf8' := utf8Keys_effect sound utf8 allowed effect
  rw [next]
  exact ⟨⟨r', rfl, sound', utf8', (effect.keeps sound).size.trans size⟩,
    (indexSound_iff sound' utf8').trans iff⟩

end

/-- Two generations of a key: a recovery, an update, a delete and a new start. -/
theorem index_sound_recovered :
    ∃ s, mount .dev [storedDevice true] .default = .ok s ∧
      Always (after .dev) (IndexSound .dev) [.recover, .call (.put [0x41] [3] 0),
        .call (.delete [0x41]), .call (.put [0x41] [4] 0), .recover] s := by
  have checked : (mount .dev [storedDevice true] .default).toOption.any (fun s =>
      Always (after .dev) Below [.recover, .call (.put [0x41] [3] 0), .call (.delete [0x41]),
        .call (.put [0x41] [4] 0), .recover] s ∧
      Each (after .dev) TakesUp [.recover, .call (.put [0x41] [3] 0),
        .call (.delete [0x41]), .call (.put [0x41] [4] 0), .recover] s) = true := by
    decide +kernel
  obtain ⟨s, opened, holds⟩ := ok_of_any checked
  rcases decide_eq_true_eq.mp holds with ⟨below, takes⟩
  exact ⟨s, opened, (index_sound_iff (by decide +kernel) (by decide +kernel) opened
    (by decide +kernel) below).mpr takes⟩

/-- The calls that lead recovery to an indexed record: the delete leaves the
older of two records, and the put starts at its generation, behind it. -/
def restarting : List Step := [.call (.delete [0x41]), .call (.put [0x41] [3] 0), .recover]

/-- The entry of a key names a block that holds no complete record. -/
def Dangling (r : Replica MemDevice) (key : Bytes) : Prop :=
  ∃ e ∈ r.index.get key, (Rust.verifyAndReadRecord .dev e.descriptorBlock r.dev).1 = .ok none

instance (r : Replica MemDevice) (key : Bytes) : Decidable (Dangling r key) :=
  inferInstanceAs (Decidable (∃ e ∈ r.index.get key,
    (Rust.verifyAndReadRecord .dev e.descriptorBlock r.dev).1 = .ok none))

/-- The value is read before the recovery; after it the entry dangles. -/
def LostToRecovery (s : Store MemDevice) : Prop :=
  (Rust.get .dev [0x41] (runSteps .dev (restarting.take 2) s)).1 = .ok [3] ∧
    (Rust.get .dev [0x41] (runSteps .dev restarting s)).1 = .error (.err .keyNotFound) ∧
    ∀ r ∈ (runSteps .dev restarting s).replicas, Dangling r [0x41]

instance (s : Store MemDevice) : Decidable (LostToRecovery s) :=
  inferInstanceAs (Decidable (_ ∧ _ ∧ ∀ r ∈ (runSteps .dev restarting s).replicas,
    Dangling r [0x41]))

theorem recover_erases_indexed :
    ∃ s, 36 ≤ (storedDevice true).blockSize ∧ Utf8Keys (storedDevice true) ∧
      (∀ step ∈ restarting, StepAllowed (storedDevice true).blockSize step) ∧
      mount .dev [storedDevice true] .default = .ok s ∧
      Always (after .dev) Below restarting s ∧ LostToRecovery s := by
  have checked : (mount .dev [storedDevice true] .default).toOption.any (fun s =>
      Always (after .dev) Below restarting s ∧ LostToRecovery s) = true := by
    decide +kernel
  obtain ⟨s, found, holds⟩ := ok_of_any checked
  exact ⟨s, by decide +kernel, by decide +kernel, by decide +kernel, found,
    decide_eq_true_eq.mp holds⟩

end Embedkv.IndexLaws
