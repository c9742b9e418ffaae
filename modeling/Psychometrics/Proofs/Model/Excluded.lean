import Mathlib
import Psychometrics.Proofs.Listing.Rules
import Psychometrics.Proofs.Model.Items
import Psychometrics.Proofs.Scaling.Shrinking

/-!
# What is seen of exclusions

A configuration keeps a set of excluded items for each latent variable, and an empty set says the
same as none.  All that is ever asked of these sets is whether an item is in one of them.  So what a
model measures, how its variables are called and what is compiled are the same for another table in
which the same items are excluded (`Model.text_withExcluded`).

Excluding an item and taking it back leads to such a table: the set that was empty before may be
missing afterwards, and nothing else is different (`Model.isExcluded_restore_exclude`).
-/

namespace Psychometrics.Model

variable {m : Model} {table : Table ItemSet}

/-- A model with another table of excluded items. -/
def withExcluded (m : Model) (table : Table ItemSet) : Model :=
  { m with configuration.excluded := table }

/-! ### Tables in which the same items are excluded -/

section SameItems

variable (h : (m.withExcluded table).isExcluded = m.isExcluded)

include h

/-- Nothing else is seen of the table. -/
lemma measuresAlike_withExcluded : m.MeasuresAlike (m.withExcluded table) := by
  have hown : (m.withItems m.instrument.items table).ownItems = m.ownItems := by
    funext latent
    cases latent <;> rfl
  exact measuresAlike_withItems hown h

/-- The active items stay what they are. -/
lemma activeItems_withExcluded : (m.withExcluded table).activeItems = m.activeItems :=
  (measuresAlike_withExcluded h).activeItems

/-- The candidates stay what they are. -/
lemma candidates_withExcluded : (m.withExcluded table).candidates = m.candidates :=
  (measuresAlike_withExcluded h).candidates

/-- The effective rules stay what they are. -/
lemma effectiveRule_withExcluded : (m.withExcluded table).effectiveRule = m.effectiveRule :=
  (measuresAlike_withExcluded h).effectiveRule

/-- The relations stay what they are. -/
lemma indicators_withExcluded : (m.withExcluded table).indicators = m.indicators :=
  (measuresAlike_withExcluded h).indicators

/-- The compiled text is the same. -/
lemma text_withExcluded : (m.withExcluded table).text = m.text :=
  (measuresAlike_withExcluded h).text

end SameItems

/-! ### Taking an item back -/

/-- After an item has been taken back it is no longer excluded. -/
lemma isExcluded_restore (m : Model) (key other : String) (itemId id : Int64) :
    (m.restore key itemId).isExcluded other id =
      (m.isExcluded other id && !(other == key && id == itemId)) := by
  by_cases heq : other = key
  · subst heq
    rw [beq_self_eq_true, Bool.true_and]
    cases hids : m.configuration.excluded[other]? with
    | none =>
      have hkept : m.restore other itemId = m := by
        rw [restore, hids]
      rw [hkept, isExcluded, hids, Bool.false_and]
    | some ids =>
      -- A set that becomes empty is dropped, which excludes nothing either.
      have hleft : (m.restore other itemId).configuration.excluded[other]? =
          if (ids.erase itemId).isEmpty then none else some (ids.erase itemId) := by
        rw [restore, hids]
        dsimp only
        split <;> simp
      have hcontains : (ids.erase itemId).contains id = (ids.contains id && !(id == itemId)) := by
        have hcompare : (compare itemId id == .eq) = (id == itemId) := by
          rw [Bool.eq_iff_iff, beq_iff_eq, beq_iff_eq, Std.LawfulEqCmp.compare_eq_iff_eq, eq_comm]
        rw [Std.ExtTreeSet.contains_erase, Bool.and_comm, bne, hcompare]
      rw [isExcluded, isExcluded, hleft, hids]
      dsimp only
      rw [← hcontains]
      split
      · next hnone =>
        split at hnone
        · next hempty => rw [Std.ExtTreeSet.isEmpty_iff.mp hempty]; simp
        · cases hnone
      · next hsome =>
        split at hsome
        · cases hsome
        · rw [Option.some.inj hsome]
  · have hne : (other == key) = false := by simpa using heq
    rw [hne, Bool.false_and, Bool.not_false, Bool.and_true, isExcluded, isExcluded,
      m.excluded_restore_of_ne (Ne.symm heq)]

/-- An item that is excluded and taken back leaves no trace in what is excluded. -/
lemma isExcluded_restore_exclude {key : String} {itemId : Int64}
    (h : m.isExcluded key itemId = false) :
    ((m.exclude key itemId).restore key itemId).isExcluded = m.isExcluded := by
  funext other id
  rw [isExcluded_restore, isExcluded_exclude]
  by_cases hsame : other = key ∧ id = itemId
  · obtain ⟨rfl, rfl⟩ := hsame
    simp [h]
  · have hne : (other == key && id == itemId) = false := by simpa using hsame
    rw [hne, Bool.or_false, Bool.not_false, Bool.and_true]

end Psychometrics.Model
