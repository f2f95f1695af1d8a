import Embedkv.Session

/-!
# The selection after a put and a delete

A put or a delete of one string leaves the selected records of all the others as
they were. Whether the record of a put is selected itself depends on the records
of its string that the put did not replace.
-/

namespace Embedkv.Lead

open Embedkv.Lib Embedkv.Format Embedkv.Device Embedkv.State Embedkv.Record Embedkv.Outcome
open Embedkv.Session

set_option autoImplicit false

section
variable {name : Bytes → Bytes} {recs : Records} {index : MemIndex} {s : Bytes}

/-- The entry of a string, if there is one, names a record of that string. -/
def Owns (name : Bytes → Bytes) (recs : Records) (index : MemIndex) (s : Bytes) : Prop :=
  ∀ e, index.lookup s = some e → ∃ rec, recs e.descriptorBlock = some rec ∧ name rec.key = s

theorem owns_of_listed (sound : IndexedBy Listed recs index) (s : Bytes) :
    Owns fromUtf8Lossy recs index s := by
  intro e found
  rcases sound.complete s e found with ⟨rec, present, named, _⟩
  exact ⟨rec, present, named⟩

/-- Records after a put that replaces what the index held for `s`. -/
def replaced (recs : Records) (index : MemIndex) (s : Bytes) (new : CompleteRecord) : Records :=
  release ((index.get s).map IndexEntry.descriptorBlock)
    (Function.update recs new.descriptorBlock (some new))

variable {new : CompleteRecord} {d : Nat} {rec : CompleteRecord}

theorem replaced_origin (present : replaced recs index s new d = some rec) :
    recs d = some rec ∨ d = new.descriptorBlock ∧ rec = new :=
  update_eq_some (release_eq_some present)

/-- The new record stays: the one that is released is another. -/
theorem replaced_new (owns : Owns name recs index s) (fresh : recs new.descriptorBlock = none) :
    replaced recs index s new new.descriptorBlock = some new := by
  have stays : (index.get s).map IndexEntry.descriptorBlock ≠ some new.descriptorBlock := by
    intro named
    rcases Option.map_eq_some_iff.mp named with ⟨e, found, place⟩
    rcases owns e found with ⟨old, present, _⟩
    rw [place, fresh] at present
    cases present
  rw [replaced, release_other stays, Function.update_self]

theorem replaced_kept (fresh : recs new.descriptorBlock = none) (present : recs d = some rec)
    (stays : (index.get s).map IndexEntry.descriptorBlock ≠ some d) :
    replaced recs index s new d = some rec := by
  have apart : d ≠ new.descriptorBlock := by
    intro same
    rw [same, fresh] at present
    cases present
  rw [replaced, release_other stays, Function.update_of_ne apart, present]

/-- A put leaves the records of other strings alone. -/
theorem replaced_other (owns : Owns name recs index s) (fresh : recs new.descriptorBlock = none)
    (named : name new.key = s) {s' : Bytes} (other : s' ≠ s) (theirs : name rec.key = s') :
    replaced recs index s new d = some rec ↔ recs d = some rec := by
  constructor
  · intro present
    rcases replaced_origin present with before | ⟨_, rfl⟩
    · exact before
    · exact absurd (theirs.symm.trans named) other
  · intro present
    apply replaced_kept fresh present
    intro released
    rcases Option.map_eq_some_iff.mp released with ⟨e, found, place⟩
    rcases owns e found with ⟨old, there, mine⟩
    rw [place, present] at there
    cases there
    exact other (theirs.symm.trans mine)

theorem leads_replaced_other (owns : Owns name recs index s)
    (fresh : recs new.descriptorBlock = none) (named : name new.key = s) {s' : Bytes}
    (other : s' ≠ s) : Leads name (replaced recs index s new) s' rec ↔ Leads name recs s' rec := by
  constructor
  · intro leads
    exact leads.transfer fun d _ theirs => (replaced_other owns fresh named other theirs).symm
  · intro leads
    exact leads.transfer fun d _ theirs => replaced_other owns fresh named other theirs

/-- The record of a put is selected exactly when none of the others is before it. -/
theorem leads_replaced_new (owns : Owns name recs index s)
    (fresh : recs new.descriptorBlock = none) (named : name new.key = s) :
    Leads name (replaced recs index s new) s new ↔
      ∀ d rec, recs d = some rec → name rec.key = s →
        (index.get s).map IndexEntry.descriptorBlock ≠ some d →
          rec.generation < new.generation ∨
            rec.generation = new.generation ∧ new.descriptorBlock ≤ d := by
  constructor
  · intro leads d rec present mine stays
    exact leads.leads d rec (replaced_kept fresh present stays) mine
  · intro before
    refine ⟨replaced_new owns fresh, named, ?_⟩
    intro d rec present mine
    rcases replaced_origin present with old | ⟨rfl, rfl⟩
    · apply before d rec old mine
      intro released
      rw [replaced, released, release, Function.update_self] at present
      cases present
    · exact .inr ⟨rfl, Nat.le_refl _⟩

theorem removed_origin {e : Nat} (present : Function.update recs e none d = some rec) :
    recs d = some rec := by
  by_cases same : d = e
  · rw [same, Function.update_self] at present
    cases present
  · rwa [Function.update_of_ne same] at present

/-- Taking away a record of one string leaves the selection of the others. -/
theorem leads_removed_other {e : Nat} {gone : CompleteRecord} (present : recs e = some gone)
    (named : name gone.key = s) {s' : Bytes} (other : s' ≠ s) :
    Leads name (Function.update recs e none) s' rec ↔ Leads name recs s' rec := by
  have same : ∀ d rec, name rec.key = s' →
      (Function.update recs e none d = some rec ↔ recs d = some rec) := by
    intro d rec theirs
    by_cases here : d = e
    · subst here
      rw [Function.update_self, present]
      constructor
      · intro absent
        cases absent
      · intro found
        cases found
        exact absurd (theirs.symm.trans named) other
    · rw [Function.update_of_ne here]
  constructor
  · intro leads
    exact leads.transfer fun d rec theirs => (same d rec theirs).symm
  · intro leads
    exact leads.transfer same

end

end Embedkv.Lead
