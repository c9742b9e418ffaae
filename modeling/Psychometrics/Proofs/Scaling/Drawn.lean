import Mathlib
import Psychometrics.Proofs.Session.Change

/-!
# Rules are drawn from candidates

An edit that stores a rule with a fixed loading takes the loading of a candidate, and an edit that
changes the candidates checks the rule.  So the reference of a latent variable that needs a rule is
always one of its candidates (`Model.HasDrawnRules.result`), also when these have become too few for
a fixed loading.

The exception is a unidimensional instrument that has a facet with the reserved key of its single
latent variable (`Instrument.SharesKey`).  The rule that this facet gets with its mode is stored for
the single latent variable, and may fix the loading of a global item of the facet.
-/

namespace Psychometrics

/-- An instrument of one dimension has a facet with the reserved key of its single latent
variable. -/
def Instrument.SharesKey (instrument : Instrument) : Prop :=
  instrument.isUnidimensional = true ∧ ∃ facet ∈ instrument.facets, facet.id = Latent.unidimKey

namespace Model

variable {m : Model}

/-- The rule of every latent variable that needs one draws on its candidates. -/
def HasDrawnRules (m : Model) : Prop :=
  ∀ latent ∈ m.scaledLatents, ∀ rule, m.scalingRule? latent = some rule →
    rule.DrawsOn (m.candidates latent)

/-- Whether rules were drawn from candidates is a matter of the choices. -/
lemma hasDrawnRules_choices_iff : m.choices.HasDrawnRules ↔ m.HasDrawnRules := by
  simp [HasDrawnRules]

/-- The rule of a settled latent variable draws on its candidates. -/
lemma IsSettled.drawsOn {latent : Latent} (h : m.IsSettled latent) {rule : ScalingRule}
    (hrule : m.scalingRule? latent = some rule) : rule.DrawsOn (m.candidates latent) := by
  obtain ⟨stored, hstored, hadmissible⟩ := h
  obtain rfl := Option.some.inj (hstored.symm.trans hrule)
  exact hadmissible.drawsOn

/-- An identified model has its rules drawn from the candidates. -/
lemma IsIdentified.hasDrawnRules (h : m.IsIdentified) : m.HasDrawnRules :=
  fun latent hl _ hrule => (h latent hl).drawsOn hrule

/-- An edit keeps rules drawn, whether it is carried out or refused. -/
lemma HasDrawnRules.result (h : m.HasDrawnRules) (hkey : ¬ m.instrument.SharesKey) (e : Edit) :
    (e.result m).HasDrawnRules := by
  intro latent hl rule hrule
  cases follows_result hl with
  | carried carries =>
    cases carries with
    | kept scaled hkept hcandidates =>
      rw [hcandidates]
      exact h latent scaled rule (hkept.symm.trans hrule)
    | settled settled => exact settled.drawsOn hrule
  | chosen scaled candidate =>
    rw [result_reference scaled candidate, scalingRule?_setScalingRule_self] at hrule
    rw [result_reference scaled candidate, candidates_setScalingRule]
    exact Option.some.inj hrule ▸ ScalingRule.drawsOn_fixingLoadingOf candidate
  | reserved single known =>
    obtain ⟨facet, hfacet, hid⟩ := List.find?_isSome.mp known
    exact absurd ⟨single, facet, hfacet, beq_iff_eq.mp hid⟩ hkey

end Model

end Psychometrics
