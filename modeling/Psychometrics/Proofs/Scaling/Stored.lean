import Mathlib
import Psychometrics.Proofs.Scaling.Edits

/-!
# Rules are always stored

Every latent variable that needs a scaling rule has one stored (`Model.HasRules`), and if that rule
fixes a loading, it says which (`Model.HasCompleteRules`).  Loading sees to that, and every edit
keeps it so, refused ones included: whatever an edit does to a latent variable that needs a rule
afterwards (`Model.Follows`), it leaves it with a rule that names an indicator
(`Model.HasCompleteRules.result`).

Other than for identified models there are no exceptions, since nothing is said about the
candidates that the rules refer to.
-/

namespace Psychometrics

/-- Admissible rules say which loading they fix. -/
lemma ScalingRule.IsAdmissible.ne_fixLoading_none {rule : ScalingRule} {candidates : List Candidate}
    (h : rule.IsAdmissible candidates) : rule ≠ .fixLoading none := by
  cases h with
  | fixVariance => exact ScalingRule.noConfusion
  | fixLoading enough mem => exact fun heq => by cases heq

namespace Model

variable {m : Model} {latent : Latent}

/-- Every latent variable that needs a rule has one stored. -/
def HasRules (m : Model) : Prop :=
  ∀ latent ∈ m.scaledLatents, (m.scalingRule? latent).isSome = true

/-- A latent variable has a rule stored that is no fixed loading of nothing. -/
def HasCompleteRule (m : Model) (latent : Latent) : Prop :=
  ∃ rule, m.scalingRule? latent = some rule ∧ rule ≠ .fixLoading none

/-- Every latent variable that needs a rule has a complete one stored. -/
def HasCompleteRules (m : Model) : Prop :=
  ∀ latent ∈ m.scaledLatents, m.HasCompleteRule latent

/-- A complete rule that is stored is a rule that is stored. -/
lemma HasCompleteRules.hasRules (h : m.HasCompleteRules) : m.HasRules := by
  intro latent hl
  obtain ⟨rule, hrule, -⟩ := h latent hl
  rw [hrule]
  rfl

/-- Settled latent variables have complete rules. -/
lemma IsSettled.hasCompleteRule (h : m.IsSettled latent) : m.HasCompleteRule latent := by
  obtain ⟨rule, hrule, hadmissible⟩ := h
  exact ⟨rule, hrule, hadmissible.ne_fixLoading_none⟩

/-- An identified model has complete rules, since admissible ones are complete. -/
lemma IsIdentified.hasCompleteRules (h : m.IsIdentified) : m.HasCompleteRules :=
  fun latent hl => (h latent hl).hasCompleteRule

/-- Whether all rules are stored is a matter of the choices. -/
lemma hasRules_choices_iff : m.choices.HasRules ↔ m.HasRules := by
  simp [HasRules]

/-- Whether all stored rules are complete is a matter of the choices. -/
lemma hasCompleteRules_choices_iff : m.choices.HasCompleteRules ↔ m.HasCompleteRules := by
  simp [HasCompleteRules, HasCompleteRule]

/-- Effective rules are complete. -/
lemma effectiveRule_ne_fixLoading_none (m : Model) (latent : Latent) :
    m.effectiveRule latent ≠ .fixLoading none :=
  (m.isAdmissible_effectiveRule latent).ne_fixLoading_none

/-- An edit keeps complete rules stored, whether it is carried out or refused. -/
lemma HasCompleteRules.result (h : m.HasCompleteRules) (e : Edit) :
    (e.result m).HasCompleteRules := by
  intro latent hl
  cases follows_result hl with
  | carried carries =>
    cases carries with
    | kept scaled hrule =>
      rw [HasCompleteRule, hrule]
      exact h latent scaled
    | settled settled => exact settled.hasCompleteRule
  | chosen scaled candidate =>
    rw [result_reference scaled candidate]
    exact ⟨_, scalingRule?_setScalingRule_self .., fun heq => by cases heq⟩
  | @reserved mode single known =>
    exact ⟨_, (unidim_of_mode known mode).1, effectiveRule_ne_fixLoading_none _ _⟩

end Model

end Psychometrics
