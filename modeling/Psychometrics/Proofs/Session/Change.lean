import Mathlib
import Psychometrics.Proofs.Scaling.Edits

/-!
# Elementary changes

Edits differ in what they check, but what they do to a model is made of a few elementary changes: a
facet gets a mode, a rule is stored, exclusions change, slots for global items are created, the text
of a global item is written, and the higher-order construct or the short code is chosen
(`Model.Change`).  Whether an edit is carried out or refused, it takes the model through a sequence
of such changes (`Model.changes_result`).

A property of the choices of a model is therefore kept by all runs of a session as soon as every
elementary change keeps it (`Session.model_run_of_change`).
-/

namespace Psychometrics

/-! ### Rules drawn from candidates -/

/-- A rule draws on candidates when the only loading it may fix is that of one of them. -/
def ScalingRule.DrawsOn (rule : ScalingRule) (candidates : List Candidate) : Prop :=
  ∀ r, rule = .fixLoading r → ∃ c ∈ candidates, r = some c.id

namespace ScalingRule

variable {candidates : List Candidate}

/-- A fixed variance fixes no loading. -/
lemma drawsOn_fixVariance : DrawsOn .fixVariance candidates := by
  intro r hr
  cases hr

/-- Admissible rules draw on the candidates. -/
lemma IsAdmissible.drawsOn {rule : ScalingRule} (h : rule.IsAdmissible candidates) :
    rule.DrawsOn candidates := by
  rintro r rfl
  exact (isAdmissible_fixLoading_iff.mp h).2

/-- Fixing the loading of a candidate draws on the candidates, however few there are. -/
lemma drawsOn_fixingLoadingOf {id : String} (h : isCandidate candidates id = true) :
    DrawsOn (.fixingLoadingOf id) candidates := by
  rintro r hr
  obtain rfl := ScalingRule.fixLoading.inj hr
  obtain ⟨c, hc, rfl⟩ := isCandidate_iff.mp h
  exact ⟨c, hc, rfl⟩

end ScalingRule

namespace Model

/-! ### Changes -/

/-- A model in which the higher-order construct has been given a mode, before its rule is brought up
to date. -/
def withSecondOrder (m : Model) (mode : Mode) : Model :=
  if mode = .formative then
    withSlots { m with configuration.secondOrder.mode := some mode } .secondOrder
  else { m with configuration.secondOrder.mode := some mode }

/-- The elementary changes of a model. -/
inductive Change (m : Model) : Model → Prop
  /-- A facet of the instrument gets a mode, and with it slots if it is formative. -/
  | mode {id : String} (known : (m.instrument.facet? id).isSome = true) (mode : Mode) :
      Change m (m.withMode id mode)
  /-- A rule is stored that draws on the present candidates. -/
  | rule {latent : Latent} {rule : ScalingRule} (draws : rule.DrawsOn (m.candidates latent)) :
      Change m (m.setScalingRule latent rule)
  /-- Items are excluded or taken back. -/
  | exclusions (excluded : Table ItemSet) : Change m { m with configuration.excluded := excluded }
  /-- Missing slots are created. -/
  | slots (latent : Latent) : Change m (m.withSlots latent)
  /-- The text of a global item is written. -/
  | text {latent : Latent} {index : Nat} {text : String} {n : Model}
      (h : m.setGlobalText? latent index text = some n) : Change m n
  /-- The higher-order construct gets a mode, and with it slots if it is formative. -/
  | secondOrder (mode : Mode) : Change m (m.withSecondOrder mode)
  /-- The higher-order construct is withdrawn. -/
  | noSecondOrder : Change m { m with configuration.secondOrder := {} }
  /-- The short code is chosen. -/
  | shortCode (code : Option String) : Change m { m with configuration.shortCode := code }

/-- A sequence of elementary changes. -/
abbrev Changes : Model → Model → Prop :=
  Relation.ReflTransGen Change

variable {m n : Model}

/-- A property that every elementary change keeps is kept by a sequence of them. -/
lemma keeps_of_changes {P : Model → Prop} (hchange : ∀ {m n : Model}, m.Change n → P m → P n)
    (h : Changes m n) (hm : P m) : P n := by
  induction h with
  | refl => exact hm
  | tail _ hstep ih => exact hchange hstep ih

/-- Storing an effective rule is an elementary change. -/
lemma change_resolveScaling (m : Model) (latent : Latent) : Change m (m.resolveScaling latent) :=
  .rule (m.isAdmissible_effectiveRule latent).drawsOn

/-! ### Loading as changes -/

/-- Elementary changes for one latent variable after the other make up a sequence. -/
lemma changes_foldl {change : Model → Latent → Model}
    (hchange : ∀ m latent, Change m (change m latent)) (latents : List Latent) (m : Model) :
    Changes m (latents.foldl change m) := by
  induction latents generalizing m with
  | nil => exact .refl
  | cons latent latents ih => exact (ih (change m latent)).head (hchange m latent)

/-- Creating the slots of all formative latent variables takes a sequence of elementary changes. -/
lemma changes_withAllSlots (m : Model) : Changes m m.withAllSlots := by
  have hfacets := changes_foldl (fun m latent => .slots (m := m) latent) m.formativeFacets m
  unfold withAllSlots
  dsimp only
  split
  · exact hfacets.tail (.slots _)
  · exact hfacets

/-- A property of the choices of a model that every elementary change keeps is kept when the model
is loaded. -/
lemma upgrade_of_change {P : Model → Prop} (hchoices : ∀ m : Model, P m.choices ↔ P m)
    (hchange : ∀ {m n : Model}, m.Change n → P m → P n) (h : P m) : P m.upgrade := by
  have hslots : P m.withAllSlots := keeps_of_changes hchange m.changes_withAllSlots h
  have hindicators : P m.withAllSlots.withIndicators := by
    unfold withIndicators
    split
    · rw [← hchoices] at hslots ⊢
      exact hslots
    · exact hslots
  exact keeps_of_changes hchange (changes_foldl change_resolveScaling _ _) hindicators

/-! ### Edits as changes -/

/-- Bringing the rule of the higher-order construct up to date comes last in many edits. -/
lemma changes_refreshSecondOrder (h : Changes m n) : Changes m n.refreshSecondOrder := by
  unfold Model.refreshSecondOrder
  split
  · exact h.tail (n.change_resolveScaling .secondOrder)
  · exact h

/-- Choosing the mode of a facet is followed by two stored rules. -/
lemma changes_mode (m : Model) (id : String) (mode : Mode) :
    Changes m ((Edit.mode id mode).result m) := by
  by_cases hknown : (m.instrument.facet? id).isSome = true
  · rw [result_mode m id mode hknown]
    have hchosen : Changes m (m.withMode id mode) := .single (.mode hknown mode)
    exact changes_refreshSecondOrder (hchosen.tail (change_resolveScaling _ (.facet id)))
  · rw [result_mode_of_unknown m id mode hknown]

/-- Choosing a method stores one rule, or is refused. -/
lemma changes_method (m : Model) (latent : Latent) (method : ScalingMethod) :
    Changes m ((Edit.method latent method).result m) := by
  simp only [Edit.result, Edit.apply, chooseMethod]
  cases m.checkActive latent with
  | error e => exact .refl
  | ok =>
    cases method with
    | fixVariance => exact .single (.rule ScalingRule.drawsOn_fixVariance)
    | fixLoading =>
      by_cases hfew : (m.candidates latent).length < minCandidates
      · simp only [if_pos hfew]
        exact .refl
      · simp only [if_neg hfew]
        exact .single (.rule (isAdmissible_loadingRule (not_lt.mp hfew)).drawsOn)

/-- Choosing a reference stores one rule, or is refused. -/
lemma changes_reference (m : Model) (latent : Latent) (reference : String) :
    Changes m ((Edit.reference latent reference).result m) := by
  by_cases h : latent ∈ m.scaledLatents ∧
      ScalingRule.isCandidate (m.candidates latent) reference = true
  · rw [result_reference h.1 h.2]
    exact .single (.rule (ScalingRule.drawsOn_fixingLoadingOf h.2))
  · rw [result_reference_of_refused h]

/-- Excluding an item, or taking it back, is followed by stored rules if modes are chosen. -/
lemma changes_exclusion (m : Model) (itemId : Int64) (excluded : Bool) :
    Changes m ((Edit.exclusion itemId excluded).result m) := by
  simp only [Edit.result, Edit.apply, chooseExclusion]
  cases m.itemLatent? itemId with
  | none => exact .refl
  | some latent =>
    obtain ⟨ids, hids, -⟩ := m.exists_exclusions_eq latent.key itemId excluded
    have hchosen : Change m { m with configuration.excluded := ids } := .exclusions ids
    dsimp only
    rw [hids]
    refine changes_refreshSecondOrder ?_
    split
    · exact .tail (.single hchosen) (change_resolveScaling _ latent)
    · exact .single hchosen

/-- Writing a global item creates slots first, which stay also when the text is refused. -/
lemma changes_globalText (m : Model) (latent : Latent) (index : Nat) (text : String) :
    Changes m ((Edit.globalText latent index text).result m) := by
  simp only [Edit.result, Edit.apply, writeGlobal]
  cases m.checkActive latent with
  | error e => exact .refl
  | ok =>
    dsimp only
    split
    · exact .refl
    · have hslots : Changes m (m.withSlots latent) := .single (.slots latent)
      cases htext : (m.withSlots latent).setGlobalText? latent index text with
      | none => exact hslots
      | some n => exact (hslots.tail (.text htext)).tail (n.change_resolveScaling latent)

/-- The higher-order construct is withdrawn, or it gets a mode and then a rule. -/
lemma changes_secondOrder (m : Model) (mode : Option Mode) :
    Changes m ((Edit.secondOrder mode).result m) := by
  cases mode with
  | none => exact .single .noSecondOrder
  | some mode =>
    have hchosen : Changes m (m.withSecondOrder mode) := .single (.secondOrder mode)
    exact hchosen.tail (change_resolveScaling _ .secondOrder)

/-- What an edit leaves behind, whether it was carried out or refused, comes about by elementary
changes. -/
lemma changes_result (m : Model) (e : Edit) : Changes m (e.result m) := by
  cases e with
  | mode id mode => exact m.changes_mode id mode
  | method latent method => exact m.changes_method latent method
  | reference latent reference => exact m.changes_reference latent reference
  | exclusion itemId excluded => exact m.changes_exclusion itemId excluded
  | globalText latent index text => exact m.changes_globalText latent index text
  | secondOrder mode => exact m.changes_secondOrder mode
  | shortCode code => exact .single (.shortCode _)

end Model

/-! ### Runs -/

namespace Session

/-- A property of the choices of a model that every elementary change keeps holds throughout a run,
once it holds at its start. -/
lemma model_run_of_change {P : Model → Prop} (hchoices : ∀ m : Model, P m.choices ↔ P m)
    (hchange : ∀ {m n : Model}, m.Change n → P m → P n) {s : Session} (h : P s.model)
    (actions : List Action) : P (s.run actions).model :=
  model_run_of_result hchoices (fun m e => Model.keeps_of_changes hchange (m.changes_result e)) h
    actions

end Session

end Psychometrics
