import Mathlib
import Psychometrics.Model.Upgrade
import Psychometrics.Proofs.Scaling.Admissible
import Psychometrics.Session.Edit

/-!
# Identified models

A model is identified when every latent variable that needs a scaling rule has one stored, and that
rule is admissible for the candidates the latent variable has at present (`Model.IsIdentified`).

Loading a model identifies it, whatever was stored (`Model.isIdentified_load`), since the effective
rule of a latent variable is always admissible.  A single rule that is stored afterwards, for a
latent variable that needs one, leaves the model identified exactly when it is admissible itself
(`Model.IsIdentified.setScalingRule_iff`): no two latent variables that need rules share the place
where a rule is stored (`Model.eq_of_slot_eq`), so that none of the others is touched.
-/

namespace Psychometrics

namespace Model

variable {m m' : Model}

/-! ### Settled latent variables -/

/-- A latent variable is settled when a rule is stored for it that its candidates admit. -/
def IsSettled (m : Model) (latent : Latent) : Prop :=
  ∃ rule, m.scalingRule? latent = some rule ∧ rule.IsAdmissible (m.candidates latent)

/-- A model is identified when every latent variable that needs a rule is settled. -/
def IsIdentified (m : Model) : Prop :=
  ∀ latent ∈ m.scaledLatents, m.IsSettled latent

/-- Whether a latent variable is settled depends on its rule and its candidates. -/
lemma IsSettled.congr {latent : Latent} (h : m.IsSettled latent)
    (hr : m'.scalingRule? latent = m.scalingRule? latent)
    (hc : m'.candidates latent = m.candidates latent) : m'.IsSettled latent := by
  obtain ⟨rule, hrule, hadm⟩ := h
  exact ⟨rule, hr.trans hrule, hc ▸ hadm⟩

/-- Storing a rule settles its latent variable exactly when the rule is admissible. -/
lemma isSettled_setScalingRule_self_iff {latent : Latent} {rule : ScalingRule} :
    (m.setScalingRule latent rule).IsSettled latent ↔
      rule.IsAdmissible (m.candidates latent) := by
  simp [IsSettled]

/-- Storing a rule does not unsettle a latent variable with another slot. -/
lemma IsSettled.setScalingRule {latent other : Latent} (h : m.IsSettled other)
    (hne : latent.slot ≠ other.slot) (rule : ScalingRule) :
    (m.setScalingRule latent rule).IsSettled other :=
  h.congr (scalingRule?_setScalingRule_of_slot_ne hne rule) (candidates_setScalingRule ..)

/-- Storing its effective rule settles a latent variable. -/
lemma isSettled_resolveScaling_self (m : Model) (latent : Latent) :
    (m.resolveScaling latent).IsSettled latent :=
  isSettled_setScalingRule_self_iff.mpr (m.isAdmissible_effectiveRule latent)

/-- An identified model stays so when derived data change. -/
lemma isIdentified_choices_iff : m.choices.IsIdentified ↔ m.IsIdentified := by
  simp [IsIdentified, IsSettled]

/-! ### The latent variables that need a rule -/

/-- A latent variable needs a rule when it exists and takes part in the model. -/
lemma mem_scaledLatents_iff {latent : Latent} :
    latent ∈ m.scaledLatents ↔ m.isKnown latent = true ∧ m.takesPart latent = true := by
  unfold scaledLatents
  by_cases hu : m.isUnidimensional = true
  · cases latent <;> simp [hu, isKnown, takesPart]
  · cases latent with
    | unidim => cases hm : m.configuration.secondOrder.mode <;> simp [hu, isKnown, takesPart]
    | secondOrder =>
      cases hm : m.configuration.secondOrder.mode <;>
        simp [hu, hm, isKnown, takesPart, mode?]
    | facet id =>
      have hfacet : (m.instrument.facet? id).isSome = true ↔
          ∃ facet ∈ m.instrument.facets, facet.id = id := by
        simp [Instrument.facet?]
      have hnot : Latent.facet id ∉ if m.configuration.secondOrder.mode.isSome = true then
          [Latent.secondOrder] else [] := by
        split <;> simp
      simp only [hu, Bool.false_eq_true, if_false, List.mem_append, hnot, or_false, List.mem_map,
        List.mem_filter, Latent.facet.injEq, isKnown, hfacet, takesPart, mode?, Bool.not_false,
        Bool.true_and]
      constructor
      · rintro ⟨facet, ⟨hmem, hmode⟩, rfl⟩
        exact ⟨⟨facet, hmem, rfl⟩, by simpa using hmode⟩
      · rintro ⟨⟨facet, hmem, rfl⟩, hmode⟩
        exact ⟨facet, ⟨hmem, by simpa using hmode⟩, rfl⟩

/-- Edits are let through exactly for the latent variables that need a rule. -/
lemma checkActive_eq_ok_iff {latent : Latent} :
    m.checkActive latent = .ok () ↔ latent ∈ m.scaledLatents := by
  rw [mem_scaledLatents_iff, checkActive]
  cases m.isKnown latent <;> cases m.takesPart latent <;> simp

/-- The single latent variable needs a rule only where it is the only one. -/
lemma isUnidimensional_of_unidim_mem (h : Latent.unidim ∈ m.scaledLatents) :
    m.isUnidimensional = true := by
  simpa [takesPart] using (mem_scaledLatents_iff.mp h).2

/-- In a unidimensional model the single latent variable alone needs a rule. -/
lemma eq_unidim_of_mem_scaledLatents {latent : Latent} (hu : m.isUnidimensional = true)
    (h : latent ∈ m.scaledLatents) : latent = .unidim := by
  simpa [scaledLatents, hu] using h

/-- Two latent variables that need a rule at the same time are one, or neither of them is the single
one of a unidimensional model. -/
lemma eq_or_ne_unidim {latent other : Latent} (hl : latent ∈ m.scaledLatents)
    (ho : other ∈ m.scaledLatents) : latent = other ∨ latent ≠ .unidim ∧ other ≠ .unidim := by
  by_cases hu : m.isUnidimensional = true
  · rw [eq_unidim_of_mem_scaledLatents hu hl, eq_unidim_of_mem_scaledLatents hu ho]
    exact .inl rfl
  · refine .inr ⟨?_, ?_⟩
    · rintro rfl
      exact hu (isUnidimensional_of_unidim_mem hl)
    · rintro rfl
      exact hu (isUnidimensional_of_unidim_mem ho)

/-- Latent variables that need a rule at the same time do not share a slot. -/
lemma eq_of_slot_eq {latent other : Latent} (hl : latent ∈ m.scaledLatents)
    (ho : other ∈ m.scaledLatents) (h : latent.slot = other.slot) : latent = other := by
  rcases eq_or_ne_unidim hl ho with heq | ⟨hne, hne'⟩
  · exact heq
  · cases latent <;> cases other <;> simp_all [Latent.slot, Latent.key]

/-! ### Storing rules of latent variables that need one -/

/-- Storing an effective rule keeps the other latent variables that need a rule settled. -/
lemma IsSettled.resolveScaling {latent other : Latent} (h : m.IsSettled other)
    (hl : latent ∈ m.scaledLatents) (ho : other ∈ m.scaledLatents) :
    (m.resolveScaling latent).IsSettled other := by
  by_cases hne : latent = other
  · subst hne
    exact m.isSettled_resolveScaling_self latent
  · exact h.setScalingRule (fun hslot => hne (eq_of_slot_eq hl ho hslot)) _

/-- Storing the effective rules of all latent variables that need one identifies a model. -/
lemma isIdentified_resolveAll (m : Model) : m.resolveAll.IsIdentified := by
  -- Induction on the latent variables still to come: those already resolved stay settled.
  have key : ∀ (latents : List Latent) (n : Model), (∀ l ∈ latents, l ∈ n.scaledLatents) →
      (∀ l ∈ n.scaledLatents, l ∈ latents ∨ n.IsSettled l) →
      (latents.foldl Model.resolveScaling n).IsIdentified := by
    intro latents
    induction latents with
    | nil =>
      intro n _ hsettled l hl
      exact (hsettled l hl).resolve_left (by simp)
    | cons latent latents ih =>
      intro n hmem hsettled
      refine ih (n.resolveScaling latent) (fun l hl => ?_) (fun l hl => ?_)
      · rw [scaledLatents_resolveScaling]
        exact hmem l (List.mem_cons_of_mem _ hl)
      · rw [scaledLatents_resolveScaling] at hl
        rcases hsettled l hl with h | h
        · rcases List.mem_cons.mp h with rfl | h
          · exact .inr (n.isSettled_resolveScaling_self l)
          · exact .inl h
        · exact .inr (h.resolveScaling (hmem latent (List.mem_cons_self ..)) hl)
  exact key m.scaledLatents m (fun _ h => h) (fun _ h => .inl h)

/-- A loaded model is identified. -/
lemma isIdentified_load (instrument : Instrument) (stored : Option Configuration) :
    (load instrument stored).1.IsIdentified :=
  isIdentified_resolveAll _

/-- Storing an admissible rule for a latent variable that needs one keeps the model identified, and
storing any other rule does not. -/
lemma IsIdentified.setScalingRule_iff (h : m.IsIdentified) {latent : Latent}
    (hl : latent ∈ m.scaledLatents) {rule : ScalingRule} :
    (m.setScalingRule latent rule).IsIdentified ↔ rule.IsAdmissible (m.candidates latent) := by
  constructor
  · intro h'
    exact isSettled_setScalingRule_self_iff.mp (h' latent (by simpa using hl))
  · intro hadm other hother
    rw [scaledLatents_setScalingRule] at hother
    by_cases hne : latent = other
    · subst hne
      exact isSettled_setScalingRule_self_iff.mpr hadm
    · exact (h other hother).setScalingRule (fun hslot => hne (eq_of_slot_eq hl hother hslot)) _

/-! ### The rule of the higher-order construct -/

/-- Bringing the rule of the higher-order construct up to date leaves the candidates alone. -/
@[simp] lemma candidates_refreshSecondOrder (m : Model) (latent : Latent) :
    m.refreshSecondOrder.candidates latent = m.candidates latent := by
  unfold refreshSecondOrder
  split
  · exact candidates_resolveScaling ..
  · rfl

/-- Bringing the rule of the higher-order construct up to date changes nothing about which latent
variables need one. -/
@[simp] lemma scaledLatents_refreshSecondOrder (m : Model) :
    m.refreshSecondOrder.scaledLatents = m.scaledLatents := by
  unfold refreshSecondOrder
  split
  · exact scaledLatents_resolveScaling ..
  · rfl

/-- The rule of the higher-order construct has a slot of its own. -/
lemma scalingRule?_refreshSecondOrder {latent : Latent} (h : latent ≠ .secondOrder) :
    m.refreshSecondOrder.scalingRule? latent = m.scalingRule? latent := by
  unfold refreshSecondOrder
  split
  · refine scalingRule?_setScalingRule_of_slot_ne ?_ _
    cases latent <;> simp_all [Latent.slot]
  · rfl

end Model

end Psychometrics
