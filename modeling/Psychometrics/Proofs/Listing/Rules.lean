import Mathlib
import Psychometrics.Listing.Basic
import Psychometrics.Proofs.Model.Frame
import Psychometrics.Proofs.Outcome
import Psychometrics.Proofs.Scaling.Identified

/-!
# How the compiled text depends on stored rules

Names, relations, headings and the legend do not look at stored rules.  A stored rule enters the
compiled text as the effective rule of a latent variable that needs one, and in no other way, so
that models which agree on everything else and on these effective rules have the same compiled text
(`Model.text_eq_of_effectiveRule_eq`).
-/

namespace Psychometrics.Model

variable {m n : Model}

/-- A model without its stored rules and without derived data. -/
def unscaled (m : Model) : Model :=
  { m.choices with
    configuration.scaling := ∅
    configuration.secondOrder.scaling := none }

@[simp] lemma unscaled_setScalingRule (m : Model) (latent : Latent) (rule : ScalingRule) :
    (m.setScalingRule latent rule).unscaled = m.unscaled := by
  cases latent <;> rfl

/-- Models with the same choices agree on all that is not about scaling. -/
lemma unscaled_eq_of_choices_eq (h : m.choices = n.choices) : m.unscaled = n.unscaled := by
  calc m.unscaled = m.choices.unscaled := rfl
    _ = n.choices.unscaled := by rw [h]
    _ = n.unscaled := rfl

/-- A query that does not look at stored rules and derived data has the same answer. -/
lemma eq_of_unscaled_eq (h : m.unscaled = n.unscaled) {α : Type} (query : Model → α)
    (hquery : ∀ m : Model, query m.unscaled = query m) : query m = query n := by
  rw [← hquery m, h, hquery n]

/-! ### Statements -/

section Statements

variable (h : m.unscaled = n.unscaled)
  (hrules : ∀ latent ∈ m.scaledLatents, m.effectiveRule latent = n.effectiveRule latent)
  (names : Names)

include h hrules

/-- The block of a unidimensional model depends on the effective rule of its latent variable. -/
lemma unidimBlock_congr (hu : m.isUnidimensional = true) :
    m.unidimBlock names = n.unidimBlock names := by
  have hitems : m.activeItems .unidim = n.activeItems .unidim :=
    eq_of_unscaled_eq h (activeItems · .unidim) fun _ => rfl
  have hrule := hrules .unidim (by simp [scaledLatents, hu])
  simp only [unidimBlock, hitems, hrule]

/-- A facet with a mode needs a rule, and no other rule is looked at in its section. -/
lemma facetSections_congr (hu : m.isUnidimensional = false) (relations : List Indicator) :
    m.facetSections names relations = n.facetSections names relations := by
  have hinstrument : m.instrument = n.instrument :=
    eq_of_unscaled_eq h instrument fun _ => rfl
  have hmode : m.facetMode? = n.facetMode? := eq_of_unscaled_eq h facetMode? fun _ => rfl
  unfold facetSections
  rw [hinstrument, hmode]
  refine congrArg (· >>= fun sections => pure sections.flatten)
    (mapM_congr_of_mem fun facet hfacet => ?_)
  cases hfacetMode : n.facetMode? facet.id with
  | none => rfl
  | some mode =>
    have hmem : Latent.facet facet.id ∈ m.scaledLatents := by
      simp only [scaledLatents, hu, Bool.false_eq_true, if_false, hinstrument, hmode]
      exact List.mem_append_left _
        (List.mem_map.mpr ⟨facet, List.mem_filter.mpr ⟨hfacet, by simp [hfacetMode]⟩, rfl⟩)
    simp only [facetSection, hrules _ hmem]

/-- A higher-order construct with a mode needs a rule. -/
lemma secondOrderSection_congr (hu : m.isUnidimensional = false) (relations : List Indicator) :
    m.secondOrderSection names relations = n.secondOrderSection names relations := by
  have hmode : m.configuration.secondOrder.mode = n.configuration.secondOrder.mode :=
    eq_of_unscaled_eq h (·.configuration.secondOrder.mode) fun _ => rfl
  have hfacets : m.emittedFacets = n.emittedFacets :=
    eq_of_unscaled_eq h emittedFacets fun _ => rfl
  unfold secondOrderSection
  rw [hmode, hfacets]
  cases hsecond : n.configuration.secondOrder.mode with
  | none => rfl
  | some mode =>
    have hmem : Latent.secondOrder ∈ m.scaledLatents := by
      simp [scaledLatents, hu, hmode, hsecond]
    simp only [hrules _ hmem]

/-- The statements of a model depend on its stored rules by way of the effective ones only. -/
lemma statements_congr (comments : Bool) :
    m.statements names comments = n.statements names comments := by
  have hunidimensional : m.isUnidimensional = n.isUnidimensional :=
    eq_of_unscaled_eq h isUnidimensional fun _ => rfl
  have htitle : m.titleSections = n.titleSections :=
    eq_of_unscaled_eq h titleSections fun _ => rfl
  have hindicators : m.indicators = n.indicators := eq_of_unscaled_eq h indicators fun _ => rfl
  unfold statements
  cases hu : m.isUnidimensional with
  | true =>
    have hu' : n.isUnidimensional = true := hunidimensional ▸ hu
    simp only [hu', if_true, htitle, unidimBlock_congr h hrules names hu]
  | false =>
    have hu' : n.isUnidimensional = false := hunidimensional ▸ hu
    simp only [hu', Bool.false_eq_true, if_false, htitle, hindicators,
      facetSections_congr h hrules names hu, secondOrderSection_congr h hrules names hu]

end Statements

/-- Models that agree on everything but stored rules and derived data, and on the effective rules of
all latent variables that need one, have the same compiled text. -/
lemma text_eq_of_effectiveRule_eq (h : m.unscaled = n.unscaled)
    (hrules : ∀ latent ∈ m.scaledLatents, m.effectiveRule latent = n.effectiveRule latent)
    (options : ListingOptions) : m.text options = n.text options := by
  have hnames : m.names = n.names := eq_of_unscaled_eq h Model.names fun _ => rfl
  have hlegend : m.legendLines = n.legendLines := eq_of_unscaled_eq h legendLines fun _ => rfl
  have htext : m.text? options = n.text? options := by
    simp only [text?, hnames, hlegend, statements_congr h hrules]
  rw [text, text, htext]

end Psychometrics.Model
