import Mathlib
import Psychometrics.Proofs.Renaming.Basic

/-!
# Scaling under renamed facets

Among the candidates for a reference only the compiled facets of a higher-order construct are known
by an id of a facet.  So the effective rules of a renamed model are those of the model itself, with
one exception: that of a reflective higher-order construct is renamed
(`Model.effectiveRule_renamed`, `Model.effectiveRule_secondOrder_renamed`).

Facets are supposed to have names, since a facet without one is called by its id.
-/

namespace Psychometrics

open Equiv (Perm)

variable {p : Perm String}

/-! ### Rules over renamed candidates -/

/-- A candidate that is a facet, under its new id. -/
def Candidate.renamed (p : Perm String) (c : Candidate) : Candidate :=
  { c with id := p c.id }

namespace ScalingRule

variable {rule : ScalingRule} {candidates : List Candidate}

/-- A renamed id is that of a renamed candidate exactly when the id is that of the candidate. -/
lemma isCandidate_renamed (p : Perm String) (candidates : List Candidate) (id : String) :
    isCandidate (candidates.map (Candidate.renamed p)) (p id) = isCandidate candidates id := by
  simp [isCandidate, Candidate.renamed, List.any_map, Function.comp_def, p.injective.beq_eq]

/-- The reference of a renamed rule is renamed. -/
lemma reference_renamed (hp : KeepsReserved p) (rule : ScalingRule) :
    (rule.renamed p).reference = rule.reference.map p := by
  cases rule with
  | fixVariance => rfl
  | fixLoading r =>
    cases r with
    | none => rfl
    | some id =>
      cases hblank : Text.isBlankText id <;>
        simp [renamed, reference, Option.filter, hp.isBlankText_eq, hblank]

/-- Checking a rule does not depend on how facets are called. -/
lemma revalidate_renamed (hp : KeepsReserved p) (rule : ScalingRule)
    (candidates : List Candidate) :
    (rule.renamed p).revalidate (candidates.map (Candidate.renamed p)) =
      (rule.revalidate candidates).renamed p := by
  cases rule with
  | fixVariance => rfl
  | fixLoading r =>
    have href : (ScalingRule.fixLoading (r.map p)).reference =
        (ScalingRule.fixLoading r).reference.map p := reference_renamed hp (.fixLoading r)
    have hkept : ((ScalingRule.fixLoading (r.map p)).reference.any fun id =>
        isCandidate (candidates.map (Candidate.renamed p)) id) =
          (ScalingRule.fixLoading r).reference.any fun id => isCandidate candidates id := by
      rw [href]
      cases (ScalingRule.fixLoading r).reference with
      | none => rfl
      | some id => exact isCandidate_renamed p candidates id
    simp only [renamed, revalidate, hkept, List.length_map, List.head?_map]
    split
    · rfl
    · split
      · rfl
      · cases candidates.head? <;> rfl

end ScalingRule

/-- A facet with a name is not called by its id. -/
lemma Facet.label_renamed {facet : Facet} (h : Text.isBlankText facet.name = false) :
    (facet.renamed p).label = facet.label := by
  simp [label, renamed, h]

namespace Model

variable {m : Model} (hp : KeepsReserved p)

include hp

/-! ### Compiled facets -/

/-- A renamed facet is compiled exactly when the facet is. -/
lemma isEmitted_renamed (facet : Facet) :
    (m.renamed p).isEmitted (facet.renamed p) = m.isEmitted facet := by
  rw [isEmitted, isEmitted, Facet.id_renamed, facetMode?_renamed, ← Latent.renamed_facet,
    activeItems_renamed hp, List.isEmpty_map]

/-- The compiled facets are renamed. -/
lemma emittedFacets_renamed :
    (m.renamed p).emittedFacets = m.emittedFacets.map (Facet.renamed p) := by
  rw [emittedFacets, emittedFacets, facets_renamed, List.filter_map]
  exact congrArg (List.map _) (List.filter_congr fun facet _ => isEmitted_renamed hp facet)

/-- The facet that a reflective higher-order construct prefers as its reference. -/
lemma preferredFacet?_renamed :
    (m.renamed p).preferredFacet? = m.preferredFacet?.map (Facet.renamed p) := by
  have hreflective : ((fun facet : Facet => (m.renamed p).facetMode? facet.id == some .reflective) ∘
      Facet.renamed p) = fun facet => m.facetMode? facet.id == some .reflective := by
    funext facet
    exact congrArg (· == some Mode.reflective) (m.facetMode?_renamed p facet.id)
  rw [preferredFacet?, preferredFacet?, emittedFacets_renamed hp, List.find?_map, hreflective,
    List.head?_map]
  cases m.emittedFacets.find? fun facet => m.facetMode? facet.id == some .reflective <;> rfl

/-! ### Rules that do not refer to facets -/

/-- Below a higher-order construct, and on it when it is formative, candidates are items. -/
lemma candidates_renamed {latent : Latent}
    (h : latent ≠ .secondOrder ∨ m.mode? latent = some .formative) :
    (m.renamed p).candidates (latent.renamed p) = m.candidates latent := by
  have hmode := m.mode?_renamed p latent
  by_cases hformative : m.mode? latent = some .formative
  · rw [candidates_of_formative hformative, candidates_of_formative (hmode.trans hformative),
      presentGlobals_renamed]
  · have hitems : ((m.renamed p).activeItems (latent.renamed p)).map itemCandidate =
        (m.activeItems latent).map itemCandidate := by
      rw [activeItems_renamed hp, List.map_map]
      rfl
    cases latent with
    | unidim => exact (candidates_unidim _).trans (hitems.trans (candidates_unidim m).symm)
    | facet id =>
      rw [candidates_facet_of_not_formative hformative, ← hitems]
      exact candidates_facet_of_not_formative (hmode.symm ▸ hformative)
    | secondOrder => exact absurd rfl (h.resolve_right hformative)

/-- Only the references of a reflective higher-order construct are facets, so that other rules stay
as they are. -/
lemma scalingRule?_renamed {latent : Latent}
    (h : latent ≠ .secondOrder ∨ m.mode? latent = some .formative) :
    (m.renamed p).scalingRule? (latent.renamed p) = m.scalingRule? latent := by
  cases latent with
  | unidim =>
    have hentry := Table.getElem?_renamed p m.configuration.scaling Latent.unidimKey
    rwa [hp.unidim] at hentry
  | facet id => exact Table.getElem?_renamed p m.configuration.scaling id
  | secondOrder =>
    have hmode : m.configuration.secondOrder.mode = some .formative :=
      h.resolve_left fun hne => hne rfl
    have hsettings : SecondOrder.renamed p m.configuration.secondOrder =
        m.configuration.secondOrder := by
      rw [SecondOrder.renamed, if_neg (by simp [hmode])]
    exact congrArg SecondOrder.scaling hsettings

/-- The effective rule of a latent variable, other than a reflective higher-order construct. -/
lemma effectiveRule_renamed (latent : Latent)
    (h : latent ≠ .secondOrder ∨ m.mode? latent = some .formative) :
    (m.renamed p).effectiveRule (latent.renamed p) = m.effectiveRule latent := by
  -- The default rule of every other latent variable is made from its candidates alone.
  have hnot : ¬ (latent = .secondOrder ∧ m.mode? latent = some .reflective) := by
    rintro ⟨heq, hmode⟩
    rcases h with h | h
    · exact h heq
    · cases h.symm.trans hmode
  have hdefault : (m.renamed p).defaultRule (latent.renamed p) = m.defaultRule latent := by
    have hnot' : ¬ (latent.renamed p = .secondOrder ∧
        (m.renamed p).mode? (latent.renamed p) = some .reflective) := by
      rwa [mode?_renamed, Latent.renamed_eq_secondOrder_iff]
    rw [defaultRule, defaultRule, if_neg hnot, if_neg hnot', candidates_renamed hp h]
  rw [effectiveRule, effectiveRule, scalingRule?_renamed hp h, candidates_renamed hp h, hdefault]

/-! ### The rule of a reflective higher-order construct -/

section Reflective

variable (hmode : m.mode? .secondOrder = some .reflective)
  (hnamed : ∀ facet ∈ m.instrument.facets, Text.isBlankText facet.name = false)

include hmode hnamed

/-- The candidates of the higher-order construct are renamed. -/
lemma candidates_secondOrder_renamed :
    (m.renamed p).candidates .secondOrder =
      (m.candidates .secondOrder).map (Candidate.renamed p) := by
  have hmode' : (m.renamed p).mode? .secondOrder = some .reflective :=
    (m.mode?_renamed p .secondOrder).trans hmode
  rw [candidates_secondOrder_of_not_formative (m := m) (by simp [hmode]),
    candidates_secondOrder_of_not_formative (by simp [hmode']), emittedFacets_renamed hp,
    List.map_map, List.map_map]
  refine List.map_congr_left fun facet hfacet => ?_
  have hlabel := Facet.label_renamed (p := p) (hnamed facet (List.mem_of_mem_filter hfacet))
  simp only [Function.comp_apply, facetCandidate, hlabel]
  rfl

/-- The effective rule of a reflective higher-order construct is renamed. -/
lemma effectiveRule_secondOrder_renamed :
    (m.renamed p).effectiveRule .secondOrder = (m.effectiveRule .secondOrder).renamed p := by
  have hmode' : (m.renamed p).mode? .secondOrder = some .reflective :=
    (m.mode?_renamed p .secondOrder).trans hmode
  have hcandidates := candidates_secondOrder_renamed hp hmode hnamed
  have hstored : (m.renamed p).scalingRule? .secondOrder =
      (m.scalingRule? .secondOrder).map (ScalingRule.renamed p) := by
    have hsettings : SecondOrder.renamed p m.configuration.secondOrder =
        { m.configuration.secondOrder with
          scaling := m.configuration.secondOrder.scaling.map (ScalingRule.renamed p) } :=
      if_pos hmode
    exact congrArg SecondOrder.scaling hsettings
  have hdefault : (m.renamed p).defaultRule .secondOrder =
      (m.defaultRule .secondOrder).renamed p := by
    unfold defaultRule
    rw [if_pos (show _ ∧ _ from ⟨rfl, hmode'⟩), if_pos (show _ ∧ _ from ⟨rfl, hmode⟩)]
    rw [hcandidates, List.length_map, preferredFacet?_renamed hp]
    split
    · rfl
    · cases m.preferredFacet? <;> rfl
  rw [effectiveRule, effectiveRule, hstored, hcandidates, hdefault]
  cases m.scalingRule? .secondOrder with
  | none => rfl
  | some rule => exact ScalingRule.revalidate_renamed hp rule _

end Reflective

end Model

end Psychometrics
