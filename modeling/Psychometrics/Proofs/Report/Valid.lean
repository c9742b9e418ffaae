import Mathlib
import Psychometrics.Report.OfModel

/-!
# What a report without errors promises

A report is valid when no finding is an error.  From the absence of each error follows what the
check looked for: enough active items of a reflective latent variable, enough present global items
of a formative one, and no higher-order construct in a unidimensional model.
-/

namespace Psychometrics

namespace Model

variable {m : Model} {facet : Facet} {latent : Latent} {subject : String}

/-- A report is valid when no finding is an error. -/
lemma isValid_report_iff : m.report.isValid = true ↔ ∀ d ∈ m.findings, d.severity ≠ .error := by
  rw [report, Report.ofFindings, Report.isValid, List.isEmpty_iff, List.filter_eq_nil_iff]
  simp only [beq_iff_eq, Ne]

/-- A latent variable about which no error is found has enough items. -/
lemma minCandidates_le_of_itemFindings
    (h : ∀ d ∈ m.itemFindings latent subject, d.severity ≠ .error) :
    minCandidates ≤ (m.activeItems latent).length := by
  by_contra hfew
  unfold itemFindings at h
  dsimp only at h
  rw [if_pos (Nat.lt_of_not_le hfew)] at h
  exact h _ (List.mem_singleton_self _) rfl

/-! ### First-order latent variables -/

/-- What is found about the first-order latent variables of a valid model is no error. -/
lemma severity_ne_error_of_mem_firstOrderFindings (hvalid : m.report.isValid = true) :
    ∀ d ∈ m.firstOrderFindings, d.severity ≠ .error :=
  fun d hd => isValid_report_iff.mp hvalid d (List.mem_append_left _ hd)

/-- The single latent variable of a valid model has enough active items. -/
lemma minCandidates_le_unidim (hvalid : m.report.isValid = true)
    (hsingle : m.isUnidimensional = true) :
    minCandidates ≤ (m.activeItems .unidim).length := by
  have hfindings := severity_ne_error_of_mem_firstOrderFindings hvalid
  rw [firstOrderFindings, if_pos hsingle] at hfindings
  exact minCandidates_le_of_itemFindings fun d hd => hfindings d (List.mem_append_right _ hd)

/-- What is found about a facet of a valid model is no error. -/
lemma severity_ne_error_of_mem_facetFindings (hvalid : m.report.isValid = true)
    (hmulti : m.isUnidimensional = false) (hfacet : facet ∈ m.instrument.facets) :
    ∀ d ∈ m.facetFindings facet, d.severity ≠ .error := by
  have hfindings := severity_ne_error_of_mem_firstOrderFindings hvalid
  rw [firstOrderFindings, if_neg (by simp [hmulti])] at hfindings
  exact fun d hd => hfindings d (List.mem_flatMap.mpr ⟨facet, hfacet, hd⟩)

/-- A reflective facet of a valid model has enough active items. -/
lemma minCandidates_le_activeItems (hvalid : m.report.isValid = true)
    (hmulti : m.isUnidimensional = false) (hfacet : facet ∈ m.instrument.facets)
    (hmode : m.facetMode? facet.id = some .reflective) :
    minCandidates ≤ (m.activeItems (.facet facet.id)).length := by
  have hfindings := severity_ne_error_of_mem_facetFindings hvalid hmulti hfacet
  rw [facetFindings, hmode] at hfindings
  exact minCandidates_le_of_itemFindings fun d hd => hfindings d (List.mem_append_right _ hd)

/-- A formative facet of a valid model has enough present global items. -/
lemma minCandidates_le_presentGlobals (hvalid : m.report.isValid = true)
    (hmulti : m.isUnidimensional = false) (hfacet : facet ∈ m.instrument.facets)
    (hmode : m.facetMode? facet.id = some .formative) :
    minCandidates ≤ (m.presentGlobals (.facet facet.id)).length := by
  have hfindings := severity_ne_error_of_mem_facetFindings hvalid hmulti hfacet
  rw [facetFindings, hmode] at hfindings
  by_contra hfew
  dsimp only at hfindings
  rw [if_pos (Nat.lt_of_not_le hfew)] at hfindings
  exact hfindings _ (List.mem_append_right _ (List.mem_singleton_self _)) rfl

/-! ### The higher-order construct -/

/-- What is found about the higher-order construct of a valid model is no error. -/
lemma severity_ne_error_of_mem_secondOrderFindings (hvalid : m.report.isValid = true) :
    ∀ d ∈ m.secondOrderFindings, d.severity ≠ .error :=
  fun d hd => isValid_report_iff.mp hvalid d (List.mem_append_right _ hd)

/-- A valid model with a higher-order construct is not unidimensional. -/
lemma isUnidimensional_eq_false_of_isValid (hvalid : m.report.isValid = true) {mode : Mode}
    (hmode : m.configuration.secondOrder.mode = some mode) : m.isUnidimensional = false := by
  have hfindings := severity_ne_error_of_mem_secondOrderFindings hvalid
  rw [secondOrderFindings, hmode] at hfindings
  by_contra hsingle
  rw [Bool.not_eq_false] at hsingle
  dsimp only at hfindings
  rw [if_pos hsingle] at hfindings
  exact hfindings _ (List.mem_append_right _ (List.mem_singleton_self _)) rfl

/-- A formative higher-order construct of a valid model has enough present global items. -/
lemma minCandidates_le_secondOrder (hvalid : m.report.isValid = true)
    (hmode : m.configuration.secondOrder.mode = some .formative) :
    minCandidates ≤ (m.presentGlobals .secondOrder).length := by
  have hfindings := severity_ne_error_of_mem_secondOrderFindings hvalid
  rw [secondOrderFindings, hmode] at hfindings
  by_contra hfew
  dsimp only [secondOrderGlobalFindings] at hfindings
  rw [if_pos (Nat.lt_of_not_le hfew)] at hfindings
  exact hfindings _ (List.mem_append_left _
    (List.mem_append_right _ (List.mem_singleton_self _))) rfl

end Model

end Psychometrics
