import Psychometrics.Proofs.Statement.Outline
import Psychometrics.Proofs.Scaling.Identified

/-!
# Measurement under the effective rule

A latent variable is measured by a list of named indicators and by its effective rule, and the two
come about in different ways: the rule was checked against the candidates of the latent variable,
while the indicators are collected from the relations of the model.  They fit together when every
candidate is among the indicators and every indicator has the name of its id (`Model.Measures`).

A block over fitting indicators fixes the scale exactly once, by the loading of its first indicator
or by the variance, and which of the two it does is said by the rule
(`Model.Measures.isBlockOf_measurementBlock`).  Causes in front of it make no difference, and
neither does the fixed variance of a latent variable without indicators
(`Model.isBlockOf_unanchoredBlock`).
-/

namespace Psychometrics

/-! ### Statements that fix a scale -/

/-- A statement that fixes the scale of the latent variable with a given name: by the loading of its
first indicator, or by its variance. -/
def Statement.fixesScaleOf (name : String) : Statement → Bool
  | .reflective latent _ fixedFirst => latent == name && fixedFirst
  | .fixVariance latent => latent == name
  | _ => false

/-- A statement that fixes the scale of a name is about that name. -/
lemma Statement.subject?_of_fixesScaleOf {s : Statement} {name : String}
    (h : s.fixesScaleOf name = true) : s.subject? = some name := by
  cases s with
  | reflective latent indicators fixedFirst =>
    simp only [fixesScaleOf, Bool.and_eq_true, beq_iff_eq] at h
    rw [subject?, h.1]
  | fixVariance latent => rw [subject?, beq_iff_eq.mp h]
  | comment text => cases h
  | formative latent causes => cases h
  | blank => cases h

/-- Statements about a variable have a meaning. -/
lemma Statement.isMeaningful_of_subject?_eq_some {s : Statement} {name : String}
    (h : s.subject? = some name) : s.isMeaningful = true := by
  cases s with
  | comment text => cases h
  | blank => cases h
  | _ => rfl

/-- Comments and blank lines fix no scale. -/
lemma Statement.countP_fixesScaleOf_filter_isMeaningful (name : String)
    (statements : List Statement) :
    (statements.filter isMeaningful).countP (fixesScaleOf name) =
      statements.countP (fixesScaleOf name) := by
  rw [List.countP_filter]
  refine List.countP_congr fun s _ => ?_
  rw [Bool.and_eq_true, and_iff_left_iff_imp]
  exact fun hfixes => isMeaningful_of_subject?_eq_some (subject?_of_fixesScaleOf hfixes)

/-! ### Fixed loadings -/

/-- A measurement under a rule that fixes the loading of an indicator begins with that indicator. -/
lemma exists_measurementBlock_eq_fixed {rule : ScalingRule} {id : String}
    {indicators : List NamedIndicator} (href : rule.reference = some id)
    (h : ∃ i ∈ indicators, i.id = id) (latent : String) :
    ∃ i ∈ indicators, i.id = id ∧ ∃ others,
      measurementBlock latent indicators rule = [.reflective latent (i.name :: others) true] := by
  obtain ⟨i, hi, hid⟩ := h
  rcases measurementBlock_cases (List.ne_nil_of_mem hi) latent rule with
    ⟨before, first, after, rfl, hfirst, hblock⟩ | ⟨hunlisted, -⟩
  · have hfirst : first.id = id := Option.some.inj (hfirst.symm.trans href)
    exact ⟨first, List.mem_append_right _ List.mem_cons_self, hfirst, _, hblock⟩
  · exact absurd (href.trans (congrArg some hid.symm)) (hunlisted i hi)

namespace Model

variable {m : Model} {names : Names} {latent : Latent} {name : String}

/-! ### Fitting indicators -/

/-- What an id stands for among the candidates of a latent variable: a global item of a formative
one, a facet for the higher-order construct, and an active item for any other. -/
def referent? (m : Model) (latent : Latent) (id : String) : Option Symbol :=
  if m.mode? latent = some .formative then some (.global latent.key id)
  else
    match latent with
    | .secondOrder => some (.facet id)
    | latent =>
      ((m.activeItems latent).find? fun item => Text.ofInt item.id.toInt == id).map fun item =>
        .item item.id

/-- The name of what an id stands for among the candidates of a latent variable. -/
def referentName? (m : Model) (names : Names) (latent : Latent) (id : String) : Option String :=
  (m.referent? latent id).bind names.find?

/-- Named indicators by which a latent variable can be measured under its effective rule: each has
the name of what its id stands for, and all candidates are among them. -/
structure Measures (m : Model) (names : Names) (latent : Latent)
    (indicators : List NamedIndicator) : Prop where
  named : ∀ i ∈ indicators, m.referentName? names latent i.id = some i.name
  complete : ∀ c ∈ m.candidates latent, ∃ i ∈ indicators, i.id = c.id
  length_le : (m.candidates latent).length ≤ indicators.length

/-- The reference of an effective rule is one of several candidates. -/
lemma candidate_of_reference_effectiveRule {id : String}
    (h : (m.effectiveRule latent).reference = some id) :
    2 ≤ (m.candidates latent).length ∧ ∃ c ∈ m.candidates latent, c.id = id := by
  have hadmissible := m.isAdmissible_effectiveRule latent
  generalize m.effectiveRule latent = rule at h hadmissible
  cases hadmissible with
  | fixVariance => cases h
  | @fixLoading c enough mem =>
    have hid := ScalingRule.reference_fixLoading_eq_some h
    exact ⟨enough, c, mem, Option.some.inj hid⟩

/-! ### Blocks -/

/-- A statement follows the effective rule of a latent variable: a reflective one fixes the loading
of its first indicator exactly when the rule has a reference, and then lists at least two
indicators, the reference first. -/
def FollowsRule (m : Model) (names : Names) (latent : Latent) : Statement → Prop
  | .reflective _ indicators fixedFirst =>
    (fixedFirst = true ↔ (m.effectiveRule latent).reference.isSome = true) ∧
      (fixedFirst = true → 2 ≤ indicators.length ∧
        indicators.head? = (m.effectiveRule latent).reference.bind (m.referentName? names latent))
  | _ => True

/-- A block about a latent variable that needs a rule: its statements are about that latent variable
and follow the rule, and exactly one of them fixes the scale. -/
structure IsBlockOf (m : Model) (names : Names) (latent : Latent) (block : List Statement) :
    Prop where
  scaled : latent ∈ m.scaledLatents
  subject : ∀ s ∈ block, ∀ name, s.subject? = some name → names.latent? latent = some name
  follows : ∀ s ∈ block, m.FollowsRule names latent s
  once : ∀ name, names.latent? latent = some name → block.countP (Statement.fixesScaleOf name) = 1

/-- A statement that fixes the scale as the rule says is a block by itself. -/
lemma isBlockOf_singleton {s : Statement} (hscaled : latent ∈ m.scaledLatents)
    (hname : names.latent? latent = some name) (hfixes : s.fixesScaleOf name = true)
    (hfollows : m.FollowsRule names latent s) : m.IsBlockOf names latent [s] := by
  refine ⟨hscaled, ?_, ?_, ?_⟩
  · intro s' hs' other hsubject
    obtain rfl := List.mem_singleton.mp hs'
    rw [hname, ← Statement.subject?_of_fixesScaleOf hfixes, hsubject]
  · intro s' hs'
    obtain rfl := List.mem_singleton.mp hs'
    exact hfollows
  · intro other hother
    obtain rfl := Option.some.inj (hname.symm.trans hother)
    rw [List.countP_cons_of_pos hfixes, List.countP_nil]

/-- A block stays one with a statement in front that follows the rule and fixes no scale. -/
lemma IsBlockOf.cons {block : List Statement} {s : Statement}
    (h : m.IsBlockOf names latent block)
    (hsubject : ∀ name, s.subject? = some name → names.latent? latent = some name)
    (hfollows : m.FollowsRule names latent s) (hfixes : ∀ name, s.fixesScaleOf name = false) :
    m.IsBlockOf names latent (s :: block) := by
  refine ⟨h.scaled, ?_, ?_, ?_⟩
  · exact List.forall_mem_cons.mpr ⟨hsubject, h.subject⟩
  · exact List.forall_mem_cons.mpr ⟨hfollows, h.follows⟩
  · intro name hname
    rw [List.countP_cons_of_neg (by simp [hfixes name]), h.once name hname]

/-- A fixed variance is a block of every latent variable. -/
lemma isBlockOf_fixVariance (hscaled : latent ∈ m.scaledLatents)
    (hname : names.latent? latent = some name) :
    m.IsBlockOf names latent [.fixVariance name] :=
  isBlockOf_singleton hscaled hname (beq_self_eq_true name) trivial

/-- The reference of an effective rule is one of the fitting indicators, if there is one. -/
lemma Measures.reference_eq_none {indicators : List NamedIndicator}
    (h : m.Measures names latent indicators)
    (hunlisted : ∀ i ∈ indicators, (m.effectiveRule latent).reference ≠ some i.id) :
    (m.effectiveRule latent).reference = none := by
  refine Option.eq_none_iff_forall_ne_some.mpr fun id hid => ?_
  obtain ⟨-, c, hc, rfl⟩ := candidate_of_reference_effectiveRule hid
  obtain ⟨i, hi, hic⟩ := h.complete c hc
  exact hunlisted i hi (hid.trans (congrArg some hic.symm))

/-- A measurement over fitting indicators is a block of its latent variable. -/
lemma Measures.isBlockOf_measurementBlock {indicators : List NamedIndicator}
    (h : m.Measures names latent indicators) (hscaled : latent ∈ m.scaledLatents)
    (hname : names.latent? latent = some name) (hne : indicators ≠ []) :
    m.IsBlockOf names latent (measurementBlock name indicators (m.effectiveRule latent)) := by
  rcases measurementBlock_cases hne name (m.effectiveRule latent) with
    ⟨before, first, after, rfl, hreference, hblock⟩ | ⟨hunlisted, hblock⟩
  · -- The reference stands in front, and since it is one of several candidates, of another one.
    rw [hblock]
    refine isBlockOf_singleton hscaled hname (by simp [Statement.fixesScaleOf]) ?_
    refine ⟨by simp [hreference], fun _ => ⟨?_, ?_⟩⟩
    · have hmany := (candidate_of_reference_effectiveRule hreference).1.trans h.length_le
      rwa [List.length_map, ← List.perm_middle.length_eq]
    · have hfirst := h.named first (List.mem_append_right _ List.mem_cons_self)
      rw [hreference, Option.bind_some, hfirst]
      rfl
  · -- Nothing to fix the loading of: the variance is fixed.
    have hnone := h.reference_eq_none hunlisted
    rw [hblock]
    refine (isBlockOf_fixVariance hscaled hname).cons ?_ ?_ ?_
    · exact fun other hsubject => hname.trans hsubject
    · simp [FollowsRule, hnone]
    · simp [Statement.fixesScaleOf]

/-- A fixed variance with its explanation is a block of every latent variable. -/
lemma isBlockOf_unanchoredBlock (hscaled : latent ∈ m.scaledLatents)
    (hname : names.latent? latent = some name) :
    m.IsBlockOf names latent (unanchoredBlock name) :=
  (isBlockOf_fixVariance hscaled hname).cons (by simp [Statement.subject?]) trivial fun _ => rfl

/-- Causes neither fix a scale nor depend on a rule. -/
lemma IsBlockOf.causeBlock_append {block : List Statement} (h : m.IsBlockOf names latent block)
    (hname : names.latent? latent = some name) (causes : List NamedIndicator) :
    m.IsBlockOf names latent (causeBlock name causes ++ block) := by
  unfold causeBlock
  split
  · exact h
  · exact h.cons (fun other hsubject => hname.trans hsubject) trivial fun _ => rfl

/-- Causes and anchors are a block of a formative latent variable. -/
lemma Measures.isBlockOf_anchorBlock {globals : List NamedIndicator}
    (h : m.Measures names latent globals) (hscaled : latent ∈ m.scaledLatents)
    (hname : names.latent? latent = some name) (causes : List NamedIndicator) :
    m.IsBlockOf names latent
      (causeBlock name causes ++ anchorBlock name globals (m.effectiveRule latent)) := by
  refine IsBlockOf.causeBlock_append ?_ hname causes
  unfold anchorBlock
  split
  · exact isBlockOf_unanchoredBlock hscaled hname
  · next hne => exact h.isBlockOf_measurementBlock hscaled hname (by simpa using hne)

end Model

end Psychometrics
