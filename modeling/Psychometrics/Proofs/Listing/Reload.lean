import Mathlib
import Psychometrics.Proofs.Configuration.Roundtrip
import Psychometrics.Proofs.Listing.Rules
import Psychometrics.Proofs.Scaling.Reload
import Psychometrics.Proofs.Scaling.Stored

/-!
# Loading what was stored leaves the compiled text

A configuration that is stored and loaded again may come back changed: blank references are dropped
by reading, and rules that are out of date are replaced when the model is loaded.  None of this
shows in the compiled text of a model with slots and rules (`Model.text_upgrade_named`), which is
compiled from checked rules in any case: a blank reference counts as none in the check, and checking
a rule twice is checking it once.

Slots are needed since creating them changes the model, and rules since a default rule that names a
blank reference is compiled as it is before it is stored, and checked afterwards.
-/

namespace Psychometrics

/-- A blank reference makes no difference to the check of a rule. -/
@[simp] lemma ScalingRule.revalidate_named (rule : ScalingRule) (candidates : List Candidate) :
    rule.named.revalidate candidates = rule.revalidate candidates := by
  cases rule with
  | fixVariance => rfl
  | fixLoading reference =>
    cases reference with
    | none => rfl
    | some id =>
      cases hblank : Text.isBlankText id <;>
        simp [named, revalidate, reference, Option.filter, hblank]

namespace Model

variable {m : Model} {latent : Latent}

/-- A model as it is read back. -/
def named (m : Model) : Model :=
  { m with configuration := m.configuration.named }

@[simp] lemma unscaled_named (m : Model) : m.named.unscaled = m.unscaled := rfl

@[simp] lemma scaledLatents_named (m : Model) : m.named.scaledLatents = m.scaledLatents := rfl

/-- Dropping blank references leaves the candidates alone. -/
@[simp] lemma candidates_named (m : Model) (latent : Latent) :
    m.named.candidates latent = m.candidates latent := by
  cases latent <;> rfl

/-- Dropping blank references drops them from each stored rule. -/
@[simp] lemma scalingRule?_named (m : Model) (latent : Latent) :
    m.named.scalingRule? latent = (m.scalingRule? latent).map ScalingRule.named := by
  cases latent with
  | secondOrder => rfl
  | unidim => exact Std.ExtTreeMap.getElem?_map
  | facet id => exact Std.ExtTreeMap.getElem?_map

/-- Dropping blank references leaves the slots alone. -/
lemma HasSlots.named (h : m.HasSlots) : m.named.HasSlots := by
  intro latent hknown hmode
  cases latent with
  | unidim => exact h .unidim hknown hmode
  | facet id => exact h (.facet id) hknown hmode
  | secondOrder => exact h .secondOrder hknown hmode

/-! ### Loading -/

@[simp] lemma unscaled_withIndicators (m : Model) : m.withIndicators.unscaled = m.unscaled := by
  unfold withIndicators
  split <;> rfl

/-- Storing rules changes nothing that is not about scaling. -/
@[simp] lemma unscaled_resolveAll (m : Model) : m.resolveAll.unscaled = m.unscaled := by
  refine resolveAll_of_setScalingRule (P := fun n => n.unscaled = m.unscaled) m ?_ rfl
  intro n latent rule hn
  rw [unscaled_setScalingRule, hn]

/-- Loading a model with slots and rules leaves its compiled text, also after a blank reference has
been dropped. -/
lemma text_upgrade_named (hslots : m.HasSlots) (hrules : m.HasRules) (options : ListingOptions) :
    m.named.upgrade.text options = m.text options := by
  have hupgrade : m.named.upgrade = m.named.withIndicators.resolveAll := by
    rw [upgrade, hslots.named.withAllSlots_eq_self]
  have hsame := sameRules_withIndicators m.named
  refine (text_eq_of_effectiveRule_eq (by simp [hupgrade]) (fun latent hl => ?_) options).symm
  obtain ⟨rule, hrule⟩ := Option.isSome_iff_exists.mp (hrules latent hl)
  have hnamed : m.named.withIndicators.scalingRule? latent = some rule.named := by
    rw [hsame.scalingRule?, scalingRule?_named, hrule, Option.map_some]
  have hmem : latent ∈ m.named.withIndicators.scaledLatents := by
    rw [hsame.scaledLatents]
    exact hl
  have hstored := scalingRule?_resolveAll_of_some hmem hnamed
  rw [hupgrade, effectiveRule_of_some hrule, effectiveRule_of_some hstored, candidates_resolveAll,
    hsame.candidates, candidates_named, ScalingRule.revalidate_named,
    ScalingRule.revalidate_revalidate]

end Model

end Psychometrics
