import Mathlib
import Psychometrics.Proofs.Scaling.Edits

/-!
# Edits and identification

Most edits keep an identified model identified, since they leave a latent variable as it was or
settle it (`Model.Follows`).  Of the two exceptions, `Model.Lapse` describes when they do harm: when
the only candidate is chosen as the reference, and when the single latent variable of a
unidimensional model gets the rule of a facet with the reserved key, and with it a reference that is
none of its candidates.

`Model.isIdentified_result_iff` says that an edit of an identified model leaves an identified model
exactly when it is no lapse.
-/

namespace Psychometrics

namespace ScalingRule

/-- A rule that is admissible for some candidates and is then checked against foreign ones stays
admissible, unless its reference is none of the foreign ones and the first of them is no
candidate. -/
lemma isAdmissible_revalidate_iff {rule : ScalingRule} {candidates foreign : List Candidate}
    (h : rule.IsAdmissible candidates) :
    (rule.revalidate foreign).IsAdmissible candidates ↔
      ¬ ∃ r first second others, rule = .fixLoading r ∧ foreign = first :: second :: others ∧
        (∀ c ∈ foreign, (ScalingRule.fixLoading r).reference ≠ some c.id) ∧
        ∀ c ∈ candidates, c.id ≠ first.id := by
  cases h with
  | fixVariance => simp [revalidate, IsAdmissible.fixVariance]
  | @fixLoading c enough mem =>
    match foreign with
    | [] => simp [revalidate, fixingLoadingOf, minCandidates, IsAdmissible.fixVariance]
    | [_] => simp [revalidate, fixingLoadingOf, minCandidates, IsAdmissible.fixVariance]
    | first :: second :: others =>
      have hlen : ¬ (first :: second :: others).length < minCandidates := by simp [minCandidates]
      have hadm := isAdmissible_fixingLoadingOf_iff.mpr ⟨enough, isCandidate_iff.mpr ⟨c, mem, rfl⟩⟩
      simp only [revalidate, fixingLoadingOf, if_neg hlen, List.head?_cons]
      split
      · -- The reference is one of the foreign ones and is kept.
        next hkept =>
        obtain ⟨id, hid, hc⟩ := (Option.any_eq_true _ _).mp hkept
        obtain ⟨d, hd, rfl⟩ := isCandidate_iff.mp hc
        refine iff_of_true hadm ?_
        rintro ⟨r, first', second', others', hr, hforeign, hlost, -⟩
        cases hr
        exact hlost d hd hid
      · next hdropped =>
        -- The reference is lost, and the first of the foreign candidates takes its place.
        have hlost : ∀ d ∈ first :: second :: others,
            (ScalingRule.fixLoading (some c.id)).reference ≠ some d.id := by
          intro d hd hid
          refine hdropped ((Option.any_eq_true _ _).mpr ⟨d.id, hid, ?_⟩)
          exact isCandidate_iff.mpr ⟨d, hd, rfl⟩
        constructor
        · rintro hfirst ⟨r, first', second', others', -, hforeign, -, hnot⟩
          cases hforeign
          obtain ⟨-, e, he, heq⟩ := isAdmissible_fixLoading_iff.mp hfirst
          exact hnot e he (Option.some.inj heq).symm
        · intro hnot
          refine isAdmissible_fixingLoadingOf_iff.mpr ⟨enough, isCandidate_iff.mpr ?_⟩
          by_contra hforeign
          refine hnot ⟨_, _, _, _, rfl, rfl, hlost, fun e he heq => hforeign ⟨e, he, heq⟩⟩

end ScalingRule

namespace Model

variable {m : Model}

/-! ### Lapses -/

/-- The edits that leave an identified model without an admissible rule for a latent variable that
needs one. -/
inductive Lapse (m : Model) : Edit → Prop
  /-- The only candidate is chosen as the reference. -/
  | reference {latent : Latent} {reference : String} (active : latent ∈ m.scaledLatents)
      (candidate : ScalingRule.isCandidate (m.candidates latent) reference = true)
      (few : (m.candidates latent).length < minCandidates) : Lapse m (.reference latent reference)
  /-- The facet with the reserved key of the single latent variable becomes formative, has present
  global items already, and the reference of the single latent variable gives way to the first of
  them, which is none of its candidates. -/
  | mode {r : Option String} {first second : GlobalItem} {others : List GlobalItem}
      (single : m.isUnidimensional = true)
      (known : (m.instrument.facet? Latent.unidimKey).isSome = true)
      (stored : m.scalingRule? .unidim = some (.fixLoading r))
      (globals : m.presentGlobals (.facet Latent.unidimKey) = first :: second :: others)
      (lost : ∀ item ∈ m.presentGlobals (.facet Latent.unidimKey),
        (ScalingRule.fixLoading r).reference ≠ some item.id)
      (foreign : ∀ c ∈ m.candidates .unidim, c.id ≠ first.id) :
      Lapse m (.mode Latent.unidimKey .formative)

/-! ### Edits that are no lapse -/

/-- An edit keeps a model identified, unless it chooses a reference, or the mode of a facet with the
reserved key in a unidimensional model. -/
lemma IsIdentified.result (h : m.IsIdentified) {e : Edit}
    (hreference : ∀ latent reference, e ≠ .reference latent reference)
    (hmode : m.isUnidimensional = true → ∀ mode, e ≠ .mode Latent.unidimKey mode) :
    (e.result m).IsIdentified := by
  intro latent hl
  cases follows_result hl with
  | carried carries =>
    cases carries with
    | kept scaled rule candidates => exact (h latent scaled).congr rule candidates
    | settled settled => exact settled
  | chosen => exact absurd rfl (hreference _ _)
  | reserved single => exact absurd rfl (hmode single _)

/-- Choosing a reference keeps a model identified exactly when that is no lapse. -/
lemma IsIdentified.reference_iff (h : m.IsIdentified) (latent : Latent) (reference : String) :
    ((Edit.reference latent reference).result m).IsIdentified ↔
      ¬ m.Lapse (.reference latent reference) := by
  by_cases hchosen : latent ∈ m.scaledLatents ∧
      ScalingRule.isCandidate (m.candidates latent) reference = true
  · rw [result_reference hchosen.1 hchosen.2, h.setScalingRule_iff hchosen.1,
      ScalingRule.isAdmissible_fixingLoadingOf_iff]
    constructor
    · rintro ⟨enough, -⟩ ⟨-, -, few⟩
      exact absurd enough (not_le.mpr few)
    · intro hlapse
      refine ⟨?_, hchosen.2⟩
      by_contra few
      exact hlapse (.reference hchosen.1 hchosen.2 (not_le.mp few))
  · rw [result_reference_of_refused hchosen]
    refine iff_of_true h ?_
    rintro ⟨active, candidate, -⟩
    exact hchosen ⟨active, candidate⟩

/-! ### The reserved key -/

/-- In a unidimensional model, the mode of a facet with the reserved key is stored under the rule of
the single latent variable. -/
lemma isIdentified_mode_unidimKey_iff (hu : m.isUnidimensional = true)
    (hknown : (m.instrument.facet? Latent.unidimKey).isSome = true) (mode : Mode) :
    ((Edit.mode Latent.unidimKey mode).result m).IsIdentified ↔
      ((m.withMode Latent.unidimKey mode).effectiveRule
        (.facet Latent.unidimKey)).IsAdmissible (m.candidates .unidim) := by
  obtain ⟨hrule, hcandidates⟩ := unidim_of_mode hknown mode
  have hscaled : ((Edit.mode Latent.unidimKey mode).result m).scaledLatents = [.unidim] := by
    rw [result_mode m _ mode hknown, scaledLatents_refreshSecondOrder,
      scaledLatents_resolveScaling, scaledLatents, if_pos (by rwa [isUnidimensional_withMode])]
  rw [IsIdentified, hscaled]
  simp only [List.forall_mem_singleton, IsSettled, hrule, hcandidates, Option.some.injEq,
    exists_eq_left']

/-- The items of a facet are items of the instrument. -/
lemma activeItems_unidimKey_subset (m : Model) {item : Item}
    (h : item ∈ m.activeItems (.facet Latent.unidimKey)) : item ∈ m.activeItems .unidim := by
  simp only [activeItems, List.mem_filter, ownItems, Instrument.facetItems, Instrument.sortedItems,
    Instrument.sortById, List.mem_mergeSort, Latent.key] at h ⊢
  exact ⟨h.1.1, h.2⟩

/-- A facet has no more active items than the instrument under the same key. -/
lemma length_activeItems_unidimKey_le (m : Model) :
    (m.activeItems (.facet Latent.unidimKey)).length ≤ (m.activeItems .unidim).length := by
  have hsort : ∀ items : List Item, (Instrument.sortById items).Perm items := fun items =>
    List.mergeSort_perm ..
  calc (m.activeItems (.facet Latent.unidimKey)).length
      = ((m.instrument.items.filter fun item =>
          item.facetId == some Latent.unidimKey).filter fun item =>
            !m.isExcluded Latent.unidimKey item.id).length :=
        ((hsort _).filter _).length_eq
    _ ≤ (m.instrument.items.filter fun item =>
          !m.isExcluded Latent.unidimKey item.id).length :=
        (List.Sublist.filter _ List.filter_sublist).length_le
    _ = (m.activeItems .unidim).length := ((hsort _).filter _).length_eq.symm

/-- In a unidimensional model, choosing the mode of a facet with the reserved key keeps the model
identified exactly when that is no lapse. -/
lemma IsIdentified.mode_unidimKey_iff (h : m.IsIdentified) (hu : m.isUnidimensional = true)
    (hknown : (m.instrument.facet? Latent.unidimKey).isSome = true) (mode : Mode) :
    ((Edit.mode Latent.unidimKey mode).result m).IsIdentified ↔
      ¬ m.Lapse (.mode Latent.unidimKey mode) := by
  obtain ⟨rule, hstored, hadm⟩ := h .unidim (by simp [scaledLatents, hu])
  have hstored' : (m.withMode Latent.unidimKey mode).scalingRule? (.facet Latent.unidimKey) =
      some rule := by
    rw [scalingRule?_withMode, ← hstored]
    exact scalingRule?_eq_of_slot_eq rfl
  have hmode : (m.withMode Latent.unidimKey mode).mode? (.facet Latent.unidimKey) = some mode := by
    simp [mode?, facetMode?]
  rw [isIdentified_mode_unidimKey_iff hu hknown, effectiveRule, hstored']
  cases mode with
  | reflective =>
    -- The candidates of the facet are among those of the single latent variable.
    have hitems : (m.withMode Latent.unidimKey .reflective).activeItems
        (.facet Latent.unidimKey) = m.activeItems (.facet Latent.unidimKey) :=
      activeItems_congr (by simp) (by simp)
    refine iff_of_true ((ScalingRule.isAdmissible_revalidate rule _).mono ?_ ?_) ?_
    · rw [candidates_facet_of_not_formative (by rw [hmode]; decide), hitems, candidates_unidim]
      simpa using m.length_activeItems_unidimKey_le
    · rw [candidates_facet_of_not_formative (by rw [hmode]; decide), hitems, candidates_unidim]
      intro c hc
      obtain ⟨item, hitem, rfl⟩ := List.mem_map.mp hc
      exact ⟨itemCandidate item,
        List.mem_map_of_mem (m.activeItems_unidimKey_subset hitem), rfl⟩
    · rintro ⟨⟩
  | formative =>
    rw [candidates_of_formative hmode, presentGlobals_withMode,
      ScalingRule.isAdmissible_revalidate_iff hadm]
    refine not_congr ⟨?_, ?_⟩
    · rintro ⟨r, first, second, others, rfl, hforeign, hlost, hnot⟩
      obtain ⟨first, rest, hglobals, rfl, hrest⟩ := List.map_eq_cons_iff.mp hforeign
      obtain ⟨second, others, rfl, rfl, rfl⟩ := List.map_eq_cons_iff.mp hrest
      refine .mode hu hknown hstored hglobals (fun item hitem => ?_) hnot
      exact hlost _ (List.mem_map_of_mem hitem)
    · rintro (_ | ⟨-, -, hrule, hglobals, hlost, hnot⟩)
      rw [hstored, Option.some.injEq] at hrule
      refine ⟨_, _, _, _, hrule, by rw [hglobals]; rfl, fun c hc => ?_, hnot⟩
      obtain ⟨item, hitem, rfl⟩ := List.mem_map.mp hc
      exact hlost item hitem

/-! ### All edits -/

/-- An edit of an identified model leaves an identified model exactly when it is no lapse. -/
lemma isIdentified_result_iff (h : m.IsIdentified) (e : Edit) :
    (e.result m).IsIdentified ↔ ¬ m.Lapse e := by
  cases e with
  | reference latent reference => exact h.reference_iff latent reference
  | mode id mode =>
    by_cases hkey : m.isUnidimensional = true ∧ id = Latent.unidimKey
    · obtain ⟨hu, rfl⟩ := hkey
      by_cases hknown : (m.instrument.facet? Latent.unidimKey).isSome = true
      · exact h.mode_unidimKey_iff hu hknown mode
      · rw [result_mode_of_unknown m _ mode hknown]
        refine iff_of_true h ?_
        rintro (_ | ⟨-, hknown', -, -, -, -⟩)
        exact hknown hknown'
    · refine iff_of_true (h.result nofun fun hu mode' heq => ?_) ?_
      · exact hkey ⟨hu, (Edit.mode.inj heq).1⟩
      · rintro (_ | ⟨hu, -, -, -, -, -⟩)
        exact hkey ⟨hu, rfl⟩
  | method latent method => exact iff_of_true (h.result nofun nofun) nofun
  | exclusion itemId excluded => exact iff_of_true (h.result nofun nofun) nofun
  | globalText latent index text => exact iff_of_true (h.result nofun nofun) nofun
  | secondOrder mode => exact iff_of_true (h.result nofun nofun) nofun
  | shortCode code => exact iff_of_true (h.result nofun nofun) nofun

end Model

end Psychometrics
