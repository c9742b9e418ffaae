import Mathlib
import Psychometrics.Proofs.Session.Named
import Psychometrics.Proofs.Session.Reopening
import Psychometrics.Report.OfModel

/-!
# Reports on stored rules

Four checks of a report look at stored scaling rules: whether a latent variable has one, and whether
a rule that fixes a loading names the indicator, both for the latent variables below the
higher-order construct and for that construct itself.  A report mentions such a check exactly when
it finds fault with the stored rule of a latent variable that needs one
(`Model.mentions_iff_of_isOnRule`, `Model.mentions_iff_of_isOnSecondOrderRule`).

The report looks at what is stored and not at what would be compiled, so that a session has to keep
the stored rules in order all the time.  With named ids it does (`Session.not_mentions_run`).
-/

namespace Psychometrics

/-! ### Findings and their checks -/

/-- A finding comes from a check when it bears its code. -/
def Diagnostic.IsFrom (d : Diagnostic) (check : Check) : Prop :=
  d.code = check.code

/-- A report mentions a check when one of its findings comes from it. -/
def Report.Mentions (report : Report) (check : Check) : Prop :=
  ∃ d ∈ report.errors ++ report.warnings, d.IsFrom check

namespace Check

/-- The check is one of the two on rules below the higher-order construct. -/
def IsOnRule (check : Check) : Prop :=
  check = .scalingMissing ∨ check = .referenceMissing

/-- The check is one of the two on the rule of the higher-order construct. -/
def IsOnSecondOrderRule (check : Check) : Prop :=
  check = .secondOrderScalingMissing ∨ check = .secondOrderReferenceMissing

/-- The check is one of the four on rules. -/
def IsOnRules (check : Check) : Prop :=
  check.IsOnRule ∨ check.IsOnSecondOrderRule

/-- What a check on rules finds fault with: that there is no rule, or that the rule fixes a loading
without naming the indicator. -/
def FindsFaultWith (check : Check) : Option ScalingRule → Prop
  | none => check = .scalingMissing ∨ check = .secondOrderScalingMissing
  | some rule =>
    (check = .referenceMissing ∨ check = .secondOrderReferenceMissing) ∧ rule.lacksReference = true

/-- Checks are told apart by their codes. -/
lemma code_injective : Function.Injective Check.code := by
  intro a b h
  cases a <;> cases b <;> simp_all [code]

/-- No check is both below the higher-order construct and on it. -/
lemma IsOnRule.not_isOnSecondOrderRule {check : Check} (h : check.IsOnRule) :
    ¬ check.IsOnSecondOrderRule := by
  rcases h with rfl | rfl <;> simp [IsOnSecondOrderRule]

/-- No fault is found with a rule that names its reference if it fixes a loading. -/
lemma not_findsFaultWith {check : Check} {rule : ScalingRule} (h : rule.lacksReference = false) :
    ¬ check.FindsFaultWith (some rule) := by
  rintro ⟨-, hlacks⟩
  exact Bool.false_ne_true (h.symm.trans hlacks)

/-- Checks on rules are none on numbers of items. -/
lemma IsOnRules.ne {check : Check} (h : check.IsOnRules) :
    check ≠ .tooFewItems ∧ check ≠ .marginalItems ∧ check ≠ .tooFewGlobals ∧
      check ≠ .secondOrderTooFewGlobals ∧ check ≠ .secondOrderWithoutFacets := by
  rcases h with (rfl | rfl) | (rfl | rfl) <;> decide

end Check

namespace Diagnostic

variable {check other : Check} {latent : Latent} {message : String}

@[simp] lemma isFrom_error_iff : (error other latent message).IsFrom check ↔ check = other :=
  Check.code_injective.eq_iff.trans eq_comm

@[simp] lemma isFrom_warning_iff : (warning other latent message).IsFrom check ↔ check = other :=
  Check.code_injective.eq_iff.trans eq_comm

/-- A single finding that is made under a condition. -/
lemma exists_mem_ite_iff {p : Prop} [Decidable p] {d : Diagnostic} :
    (∃ e ∈ (if p then [d] else []), e.IsFrom check) ↔ p ∧ d.IsFrom check := by
  split <;> simp_all

/-- The findings of two lists. -/
lemma exists_mem_append_iff {ds es : List Diagnostic} :
    (∃ e ∈ ds ++ es, e.IsFrom check) ↔ (∃ d ∈ ds, d.IsFrom check) ∨ ∃ e ∈ es, e.IsFrom check := by
  simp only [List.mem_append, or_and_right, exists_or]

end Diagnostic

namespace Model

open Diagnostic (exists_mem_ite_iff exists_mem_append_iff isFrom_error_iff)

variable {m : Model} {facet : Facet} {latent : Latent} {subject : String} {check : Check}
  {mode : Mode}

/-- A report is made of all findings. -/
lemma mentions_report_iff : m.report.Mentions check ↔ ∃ d ∈ m.findings, d.IsFrom check := by
  have hmem : ∀ d, d ∈ m.report.errors ++ m.report.warnings ↔ d ∈ m.findings := by
    intro d
    cases hd : d.severity <;> simp [report, Report.ofFindings, hd]
  simp only [Report.Mentions, hmem]

/-! ### Below the higher-order construct -/

/-- What is found about the rule of a latent variable. -/
lemma exists_mem_scalingFindings_iff :
    (∃ d ∈ m.scalingFindings latent subject, d.IsFrom check) ↔
      check.IsOnRule ∧ check.FindsFaultWith (m.scalingRule? latent) := by
  unfold scalingFindings
  cases m.scalingRule? latent with
  | none => cases check <;> simp [Check.IsOnRule, Check.FindsFaultWith]
  | some rule =>
    cases hlacks : rule.lacksReference <;> cases check <;>
      simp [Check.IsOnRule, Check.FindsFaultWith, hlacks]

/-- Checks on rules find nothing in the number of items. -/
lemma not_exists_mem_itemFindings (hcheck : check.IsOnRules) :
    ¬ ∃ d ∈ m.itemFindings latent subject, d.IsFrom check := by
  obtain ⟨hfew, hmarginal, -⟩ := hcheck.ne
  unfold itemFindings
  dsimp only
  split
  · simp [hfew]
  · simp [hmarginal]

/-- What checks on rules find about a facet is about the rule of a facet with a mode. -/
lemma exists_mem_facetFindings_iff (hcheck : check.IsOnRules) :
    (∃ d ∈ m.facetFindings facet, d.IsFrom check) ↔
      check.IsOnRule ∧ (m.facetMode? facet.id).isSome = true ∧
        check.FindsFaultWith (m.scalingRule? (.facet facet.id)) := by
  unfold facetFindings
  cases m.facetMode? facet.id with
  | none => simp
  | some mode =>
    cases mode with
    | reflective =>
      simp only [exists_mem_append_iff, exists_mem_scalingFindings_iff,
        not_exists_mem_itemFindings hcheck, or_false, Option.isSome_some, true_and]
    | formative =>
      obtain ⟨-, -, hglobals, -⟩ := hcheck.ne
      simp only [exists_mem_append_iff, exists_mem_scalingFindings_iff, exists_mem_ite_iff,
        isFrom_error_iff, hglobals, and_false, or_false, Option.isSome_some, true_and]

/-- Below the higher-order construct, checks on rules find fault with rules of latent variables that
need one. -/
lemma exists_mem_firstOrderFindings_iff (hcheck : check.IsOnRules) :
    (∃ d ∈ m.firstOrderFindings, d.IsFrom check) ↔
      check.IsOnRule ∧ ∃ latent ∈ m.scaledLatents, latent ≠ .secondOrder ∧
        check.FindsFaultWith (m.scalingRule? latent) := by
  unfold firstOrderFindings scaledLatents
  by_cases hu : m.isUnidimensional = true
  · simp only [if_pos hu, exists_mem_append_iff, exists_mem_scalingFindings_iff,
      not_exists_mem_itemFindings hcheck, or_false, List.mem_singleton, exists_eq_left, ne_eq,
      reduceCtorEq, not_false_eq_true, true_and]
  · rw [if_neg hu, if_neg hu]
    constructor
    · rintro ⟨d, hd, hfrom⟩
      obtain ⟨facet, hfacet, hd⟩ := List.mem_flatMap.mp hd
      obtain ⟨hrule, hmode, hfault⟩ := (exists_mem_facetFindings_iff hcheck).mp ⟨d, hd, hfrom⟩
      refine ⟨hrule, .facet facet.id, List.mem_append_left _ ?_, nofun, hfault⟩
      exact List.mem_map.mpr ⟨facet, List.mem_filter.mpr ⟨hfacet, hmode⟩, rfl⟩
    · rintro ⟨hrule, latent, hlatent, hne, hfault⟩
      rcases List.mem_append.mp hlatent with hmem | hmem
      · obtain ⟨facet, hfacet, rfl⟩ := List.mem_map.mp hmem
        obtain ⟨hfacet, hmode⟩ := List.mem_filter.mp hfacet
        obtain ⟨d, hd, hfrom⟩ :=
          (exists_mem_facetFindings_iff hcheck).mpr ⟨hrule, hmode, hfault⟩
        exact ⟨d, List.mem_flatMap.mpr ⟨facet, hfacet, hd⟩, hfrom⟩
      · split at hmem
        · exact absurd (List.mem_singleton.mp hmem) hne
        · cases hmem

/-! ### The higher-order construct -/

/-- What is found about the rule of the higher-order construct. -/
lemma exists_mem_secondOrderScalingFindings_iff :
    (∃ d ∈ m.secondOrderScalingFindings mode, d.IsFrom check) ↔
      check.IsOnSecondOrderRule ∧ check.FindsFaultWith (m.scalingRule? .secondOrder) := by
  unfold secondOrderScalingFindings
  cases m.scalingRule? .secondOrder with
  | none => cases check <;> simp [Check.IsOnSecondOrderRule, Check.FindsFaultWith]
  | some rule =>
    cases hlacks : rule.lacksReference <;> cases check <;>
      simp [Check.IsOnSecondOrderRule, Check.FindsFaultWith, hlacks]

/-- Checks on rules find nothing in the number of global items of the higher-order construct. -/
lemma not_exists_mem_secondOrderGlobalFindings (hcheck : check.IsOnRules) :
    ¬ ∃ d ∈ m.secondOrderGlobalFindings mode, d.IsFrom check := by
  obtain ⟨-, -, -, hglobals, -⟩ := hcheck.ne
  cases mode with
  | reflective => simp [secondOrderGlobalFindings]
  | formative => simp [secondOrderGlobalFindings, hglobals]

/-- What checks on rules find about the higher-order construct is about its rule. -/
lemma exists_mem_secondOrderFindings_iff (hcheck : check.IsOnRules) :
    (∃ d ∈ m.secondOrderFindings, d.IsFrom check) ↔
      check.IsOnSecondOrderRule ∧ m.configuration.secondOrder.mode.isSome = true ∧
        check.FindsFaultWith (m.scalingRule? .secondOrder) := by
  unfold secondOrderFindings
  cases m.configuration.secondOrder.mode with
  | none => simp
  | some mode =>
    obtain ⟨-, -, -, -, hfacets⟩ := hcheck.ne
    simp only [exists_mem_append_iff, exists_mem_secondOrderScalingFindings_iff,
      not_exists_mem_secondOrderGlobalFindings hcheck, exists_mem_ite_iff, isFrom_error_iff,
      hfacets, and_false, or_false, Option.isSome_some, true_and]

/-! ### The report -/

/-- A report mentions a check on rules exactly when the check finds fault with the stored rule of a
latent variable that needs one, other than the higher-order construct. -/
lemma mentions_iff_of_isOnRule (hcheck : check.IsOnRule) :
    m.report.Mentions check ↔ ∃ latent ∈ m.scaledLatents, latent ≠ .secondOrder ∧
      check.FindsFaultWith (m.scalingRule? latent) := by
  rw [mentions_report_iff, findings, exists_mem_append_iff,
    exists_mem_firstOrderFindings_iff (.inl hcheck),
    exists_mem_secondOrderFindings_iff (.inl hcheck)]
  simp only [hcheck, hcheck.not_isOnSecondOrderRule, true_and, false_and, or_false]

/-- A report mentions a check on the rule of the higher-order construct exactly when there is one
and the check finds fault with its stored rule. -/
lemma mentions_iff_of_isOnSecondOrderRule (hcheck : check.IsOnSecondOrderRule) :
    m.report.Mentions check ↔ m.configuration.secondOrder.mode.isSome = true ∧
      check.FindsFaultWith (m.scalingRule? .secondOrder) := by
  have hrule : ¬ check.IsOnRule := fun h => h.not_isOnSecondOrderRule hcheck
  rw [mentions_report_iff, findings, exists_mem_append_iff,
    exists_mem_firstOrderFindings_iff (.inr hcheck),
    exists_mem_secondOrderFindings_iff (.inr hcheck)]
  simp only [hcheck, hrule, true_and, false_and, false_or]

/-! ### Complete and named rules -/

/-- With complete and named rules no check on rules finds fault with a latent variable that needs
one. -/
lemma HasCompleteRules.not_findsFaultWith (h : m.HasCompleteRules) (hnamed : m.HasNamedReferences)
    (hlatent : latent ∈ m.scaledLatents) : ¬ check.FindsFaultWith (m.scalingRule? latent) := by
  obtain ⟨rule, hrule, hcomplete⟩ := h latent hlatent
  rw [hrule]
  refine Check.not_findsFaultWith ?_
  cases rule with
  | fixVariance => rfl
  | fixLoading r =>
    cases r with
    | none => exact absurd rfl hcomplete
    | some id =>
      have hid : Text.isBlankText id = false := hnamed.rule latent _ hrule id rfl
      simp [ScalingRule.lacksReference, ScalingRule.reference, hid]

end Model

/-! ### Runs -/

namespace Session

/-- Sessions never report a missing rule or a missing reference.  A session is opened on an
instrument and a stored configuration in which no facet and no global item has a blank id.  Whatever
happens to it then, the report on its model mentions neither of the two checks on rules below the
higher-order construct, and neither of the two on the rule of that construct unless the model is
unidimensional. -/
theorem not_mentions_run {instrument : Instrument} {store : Store} {options : SessionOptions}
    {now : Nat} {stamp : Timestamp} {stored : Option Configuration} {s : Session}
    (hstored : store.load = .ok stored)
    (hids : Model.HasNamedIds ⟨instrument, stored.getD {}⟩)
    (h : Session.load instrument store options now stamp = .ok s) (actions : List Action) :
    ¬ (s.run actions).model.report.Mentions .scalingMissing ∧
      ¬ (s.run actions).model.report.Mentions .referenceMissing ∧
      ((s.run actions).model.isUnidimensional = false →
        ¬ (s.run actions).model.report.Mentions .secondOrderScalingMissing ∧
          ¬ (s.run actions).model.report.Mentions .secondOrderReferenceMissing) := by
  have hcomplete := hasCompleteRules_run h actions
  have hnamed := hasNamedReferences_run h hstored hids actions
  generalize (s.run actions).model = m at hcomplete hnamed ⊢
  have hbelow : ∀ check : Check, check.IsOnRule → ¬ m.report.Mentions check := by
    intro check hcheck
    rw [Model.mentions_iff_of_isOnRule hcheck]
    rintro ⟨latent, hlatent, -, hfault⟩
    exact hcomplete.not_findsFaultWith hnamed hlatent hfault
  have habove : m.isUnidimensional = false →
      ∀ check : Check, check.IsOnSecondOrderRule → ¬ m.report.Mentions check := by
    intro hmulti check hcheck
    rw [Model.mentions_iff_of_isOnSecondOrderRule hcheck]
    rintro ⟨hmode, hfault⟩
    have hscaled : Latent.secondOrder ∈ m.scaledLatents :=
      Model.mem_scaledLatents_iff.mpr ⟨rfl, by simp [Model.takesPart, Model.mode?, hmulti, hmode]⟩
    exact hcomplete.not_findsFaultWith hnamed hscaled hfault
  exact ⟨hbelow _ (.inl rfl), hbelow _ (.inr rfl),
    fun hmulti => ⟨habove hmulti _ (.inl rfl), habove hmulti _ (.inr rfl)⟩⟩

/-- A store with a reflective facet whose loading is fixed without a reference, and with a
reflective higher-order construct without a rule. -/
def incompleteStore : Store :=
  .ofHeld (some (.object [("facetModes", .object [("f", .string "reflective")]),
    ("facetScaling", .object [("f", .object [("method", .string "fix_loading")])]),
    ("secondOrder", .object [("type", .string "reflective")])]))

/-- The configuration in that store. -/
def incompleteConfiguration : Configuration where
  modes := (∅ : Table Mode).insert "f" .reflective
  scaling := (∅ : Table ScalingRule).insert "f" (.fixLoading none)
  secondOrder := { mode := some .reflective }

/-- The only item is excluded, the facet becomes formative, and a save fails. -/
def incompleteActions : List Action :=
  [.edit (.exclusion 1 true) 0 epoch, .edit (.mode "f" .formative) 10 epoch, .rejectWrites true,
    .flush epoch]

/-- What is stored lacks a reference and the rule of the higher-order construct, and a session on it
lacks neither. -/
theorem not_mentions_run_incomplete :
    Report.Mentions (Model.report ⟨oneFacet, incompleteConfiguration⟩) .referenceMissing ∧
    Report.Mentions (Model.report ⟨oneFacet, incompleteConfiguration⟩)
      .secondOrderScalingMissing ∧
    ∃ s, Session.load oneFacet incompleteStore {} 0 epoch = .ok s ∧
      ¬ (s.run incompleteActions).model.report.Mentions .scalingMissing ∧
      ¬ (s.run incompleteActions).model.report.Mentions .referenceMissing ∧
      ¬ (s.run incompleteActions).model.report.Mentions .secondOrderScalingMissing ∧
      ¬ (s.run incompleteActions).model.report.Mentions .secondOrderReferenceMissing := by
  have hstored : incompleteStore.load = .ok (some incompleteConfiguration) := by cbv
  obtain ⟨s, hs, -⟩ := exists_load_eq_ok hstored oneFacet {} 0 epoch
  have hids : Model.HasNamedIds ⟨oneFacet, incompleteConfiguration⟩ :=
    ⟨by decide, fun latent items hitems => by
      cases latent <;> simp [Model.globals?, incompleteConfiguration] at hitems⟩
  have hmulti : (s.run incompleteActions).model.isUnidimensional = false := by
    rw [Model.isUnidimensional, instrument_run hs]
    rfl
  obtain ⟨hscaling, hreference, hsecondOrder⟩ := not_mentions_run hstored hids hs incompleteActions
  refine ⟨?_, ?_, s, hs, hscaling, hreference, hsecondOrder hmulti⟩
  · rw [Model.mentions_iff_of_isOnRule (.inr rfl)]
    have hrule : Model.scalingRule? ⟨oneFacet, incompleteConfiguration⟩ (.facet "f") =
        some (.fixLoading none) := by cbv
    refine ⟨.facet "f", Model.mem_scaledLatents_iff.mpr ⟨by decide, rfl⟩, by simp, ?_⟩
    rw [hrule]
    exact ⟨.inl rfl, rfl⟩
  · rw [Model.mentions_iff_of_isOnSecondOrderRule (.inl rfl)]
    exact ⟨rfl, .inr rfl⟩

end Session

end Psychometrics
