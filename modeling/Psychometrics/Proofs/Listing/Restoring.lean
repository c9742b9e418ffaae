import Mathlib
import Psychometrics.Proofs.Listing.Unidimensional
import Psychometrics.Proofs.Scaling.Restoring
import Psychometrics.Proofs.Statement.Measurement

/-!
# The text after an item was excluded and taken back

As long as enough candidates are left without an item that is not the stored reference, excluding it
and taking it back does not show in the compiled text, with one exception
(`Model.text_afterDetour_iff`).  An item that stands in for a lost reference gives way to another
one, and a unidimensional text tells which item has the fixed loading
(`Model.id_eq_of_text_eq`).
-/

namespace Psychometrics.Model

variable {m n : Model} {names : Names} {i : Int64} {a : Latent}

/-- The compiled text of a unidimensional model begins with the item whose loading is fixed. -/
lemma exists_read_text_eq (hu : m.isUnidimensional = true) (hnames : m.names = .ok names)
    {item : Item} (hitem : item ∈ m.activeItems .unidim)
    (hrule : m.effectiveRule .unidim = .fixingLoadingOf (Text.ofInt item.id.toInt))
    (options : ListingOptions) :
    ∃ name others, names.find? (.item item.id) = some name ∧
      Listing.read (m.text options) = [.reflective names.overall (name :: others) true] := by
  have hnamed := isNamed_of_names_eq_ok hnames
  set nameOf : Symbol → String := fun symbol => (names.find? symbol).getD ""
  have href : (m.effectiveRule .unidim).reference = some (Text.ofInt item.id.toInt) := by
    rw [hrule, ScalingRule.reference_fixingLoadingOf, Text.isBlankText_ofInt,
      if_neg Bool.false_ne_true]
  have hpresent : ∃ indicator ∈ m.namedItems nameOf .unidim,
      indicator.id = Text.ofInt item.id.toInt := ⟨_, List.mem_map_of_mem hitem, rfl⟩
  obtain ⟨indicator, hmem, hid, others, hblock⟩ :=
    exists_measurementBlock_eq_fixed href hpresent names.overall
  obtain ⟨first, hfirst, rfl⟩ := List.mem_map.mp hmem
  refine ⟨_, others, ?_, (read_text_of_isUnidimensional hu hnames hnamed options).trans hblock⟩
  rw [← Text.ofInt_toInt_inj.mp hid]
  exact hnamed.2 _ (.item (IsNamed.mem_items_of_mem_activeItems hfirst))

/-- Unidimensional models with the same names fix the loading of the same item when their texts are
the same. -/
lemma id_eq_of_text_eq (hu : m.isUnidimensional = true) (hu' : n.isUnidimensional = true)
    (hnames : m.names = .ok names) (hnames' : n.names = .ok names) {item other : Item}
    (hitem : item ∈ m.activeItems .unidim) (hother : other ∈ n.activeItems .unidim)
    (hrule : m.effectiveRule .unidim = .fixingLoadingOf (Text.ofInt item.id.toInt))
    (hrule' : n.effectiveRule .unidim = .fixingLoadingOf (Text.ofInt other.id.toInt))
    {options : ListingOptions} (htext : m.text options = n.text options) : item.id = other.id := by
  obtain ⟨name, rest, hname, hread⟩ := exists_read_text_eq hu hnames hitem hrule options
  obtain ⟨name', rest', hname', hread'⟩ := exists_read_text_eq hu' hnames' hother hrule' options
  rw [htext, hread'] at hread
  simp only [List.cons.injEq, Statement.reflective.injEq, and_true, true_and] at hread
  rw [← hread.1] at hname
  exact Symbol.item.inj ((isConsistent_of_names_eq_ok hnames).injective _ _ _ hname hname')

/-- Excluding an item and taking it back does not show in the compiled text, unless the item stands
in for a lost reference. -/
lemma text_afterDetour_iff (hi : m.itemLatent? i = some a) (hin : m.isExcluded a.key i = false)
    (henough : minCandidates ≤ ((m.exclude a.key i).candidates a).length) (hrules : m.HasRules)
    (href : (m.scalingRule? a).bind ScalingRule.reference ≠ some (Text.ofInt i.toInt))
    (hdrawn : m.isUnidimensional = false → m.HasDrawnRules) (options : ListingOptions) :
    (m.afterDetour i).text options = m.text options ↔
      ¬ ((∃ names, m.names = .ok names) ∧ m.StandsIn i) := by
  have hreversed := reversed_afterDetour hi hin
  have hnames := hreversed.names
  constructor
  · rintro htext ⟨⟨names, hm⟩, hstands⟩
    -- An item that stands in makes another item the reference, which the text shows.
    obtain rfl : a = .unidim := by
      rcases itemLatent?_eq_some hi with ⟨-, rfl⟩ | ⟨hmulti, -⟩
      · rfl
      · exact absurd (hmulti.symm.trans hstands.single) Bool.false_ne_true
    have hsingle : (m.afterDetour i).isUnidimensional = true :=
      (eq_afterDetour hi hin isUnidimensional (fun _ => rfl) fun _ => rfl).trans hstands.single
    obtain ⟨first, hfirst, other, hother, hne, hrule, hrule'⟩ :=
      hstands.effectiveRule hi hin henough
    exact hne (id_eq_of_text_eq hsingle hstands.single (hnames.trans hm) hm
      (hreversed.activeItems ▸ hother) hfirst hrule' hrule htext)
  · intro hno
    cases hm : m.names with
    | error e =>
      rw [text_of_text?_eq_error (text?_eq_error_of_names (hnames.trans hm) options),
        text_of_text?_eq_error (text?_eq_error_of_names hm options)]
    | ok names =>
      have hstands : ¬ m.StandsIn i := fun hstands => hno ⟨⟨names, hm⟩, hstands⟩
      obtain ⟨table, htable, hsame⟩ := unscaled_afterDetour hi hin
      have hscaled : (m.afterDetour i).scaledLatents = m.scaledLatents :=
        eq_afterDetour hi hin scaledLatents (fun _ => rfl) fun _ => rfl
      calc (m.afterDetour i).text options = (m.withExcluded table).text options := by
            refine text_eq_of_effectiveRule_eq htable (fun l hl => ?_) options
            rw [effectiveRule_withExcluded hsame]
            rw [hscaled] at hl
            exact effectiveRule_afterDetour hi hin henough hrules href hdrawn hstands hl
        _ = m.text options := by rw [text_withExcluded hsame]

end Psychometrics.Model
