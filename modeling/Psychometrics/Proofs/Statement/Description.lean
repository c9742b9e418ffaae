import Mathlib
import Psychometrics.Proofs.Scaling.Shrinking
import Psychometrics.Statement.OfModel

/-!
# What a model with facets states

A model is compiled by way of a flat list of relations, and under rules that were checked against
the candidates for a reference.  What comes out has a direct description that mentions neither
(`Model.blocks`): one block for each facet with a mode, in declaration order, and one block for the
higher-order construct, each in terms of what is listed and stored for its latent variable and of a
name for each symbol.

A block says by what the latent variable is formed, if by anything, and in what it shows
(`measurement`).  One of the indicators may be its reference (`referenceAmong`), which then stands
in front and has its loading fixed; otherwise the indicators stand as they are listed and the
variance is fixed.

This file also has what ties the pieces of the compiler to the description.  Its measurement block
is a measurement under the reference of its rule (`measurementBlock_eq_measurement`), and the
references of its effective rules are those that are described
(`Model.reference_effectiveRule`, `Model.reference_effectiveRule_secondOrder`).
-/

namespace Psychometrics

/-! ### Measurement -/

/-- The measurement of a latent variable by its indicators.  The first indicator that is the
reference stands in front of the others and has its loading fixed.  Without such an indicator all
stand as they are listed, and the variance is fixed. -/
def measurement (latent : String) (indicators : List NamedIndicator) (reference : Option String) :
    List Statement :=
  if indicators = [] then []
  else
    match indicators.find? fun i => reference = some i.id with
    | some first =>
      [.reflective latent (first.name :: (indicators.erase first).map NamedIndicator.name) true]
    | none => [.reflective latent (indicators.map NamedIndicator.name) false, .fixVariance latent]

/-- A formative latent variable: its causes, if there are any, and its measurement by its global
items, or a fixed variance if there are none. -/
def formation (latent : String) (causes globals : List NamedIndicator)
    (reference : Option String) : List Statement :=
  (if causes = [] then [] else [.formative latent (causes.map NamedIndicator.name)]) ++
    (if globals = [] then [.fixVariance latent] else measurement latent globals reference)

/-! ### References -/

/-- The id of the indicator with the shortest text, the first one on a tie. -/
def shortestId (listed : List Candidate) : Option String :=
  (listed.argmin fun c => c.text.length).map Candidate.id

/-- The reference that is asked for.  A stored rule may ask for none, and fix the variance; it may
name one of the indicators, and if it names a blank one or one that is not listed, the first
indicator stands in.  Where no rule is stored, some indicator is preferred. -/
def wantedReference (listed : List Candidate) (preferred : Option String) :
    Option ScalingRule → Option String
  | none => preferred
  | some .fixVariance => none
  | some (.fixLoading named) =>
    (named.filter fun id => !Text.isBlankText id && (listed.map Candidate.id).contains id).or
      (listed.head?.map Candidate.id)

/-- The reference of a latent variable among the indicators that are listed for it: the one that is
asked for, where there are several indicators.  A blank id is no reference. -/
def referenceAmong (listed : List Candidate) (preferred : Option String)
    (stored : Option ScalingRule) : Option String :=
  if 2 ≤ listed.length then
    (wantedReference listed preferred stored).filter fun id => !Text.isBlankText id
  else none

/-! ### Blocks -/

namespace Model

section Blocks

variable (m : Model) (nameOf : Symbol → String)

/-- The active items of a latent variable with their names. -/
def namedItems (latent : Latent) : List NamedIndicator :=
  (m.activeItems latent).map fun item => ⟨Text.ofInt item.id.toInt, nameOf (.item item.id)⟩

/-- The present global items of a latent variable with their names. -/
def namedGlobals (latent : Latent) : List NamedIndicator :=
  (m.presentGlobals latent).map fun item => ⟨item.id, nameOf (.global latent.key item.id)⟩

/-- The active items of a latent variable with their texts. -/
def listedItems (latent : Latent) : List Candidate :=
  (m.activeItems latent).map fun item => ⟨Text.ofInt item.id.toInt, item.text⟩

/-- The present global items of a latent variable with their texts. -/
def listedGlobals (latent : Latent) : List Candidate :=
  (m.presentGlobals latent).map fun item => ⟨item.id, Text.trim item.text⟩

/-- The facets that have a block: those that are formative, and those that are reflective and have
an active item. -/
def describedFacets : List Facet :=
  m.instrument.facets.filter fun facet =>
    m.facetMode? facet.id = some .formative ∨
      m.facetMode? facet.id = some .reflective ∧ m.activeItems (.facet facet.id) ≠ []

/-- The facet that is the reference of a reflective higher-order construct unless a rule says
otherwise: the first reflective one, or else the first one. -/
def firstFacet? : Option Facet :=
  (m.describedFacets.find? fun facet => m.facetMode? facet.id = some .reflective).or
    m.describedFacets.head?

/-- The block of a facet. -/
def facetBlock (facet : Facet) : List Statement :=
  let latent := Latent.facet facet.id
  let name := nameOf (.facet facet.id)
  let stored := m.configuration.scaling[facet.id]?
  match m.facetMode? facet.id with
  | none => []
  | some .reflective =>
    let listed := m.listedItems latent
    measurement name (m.namedItems nameOf latent)
      (referenceAmong listed (shortestId listed) stored)
  | some .formative =>
    let listed := m.listedGlobals latent
    formation name (m.namedItems nameOf latent) (m.namedGlobals nameOf latent)
      (referenceAmong listed (shortestId listed) stored)

/-- The block of the higher-order construct, if it has a mode and some facet has a block. -/
def secondOrderBlock : List Statement :=
  let name := nameOf .overall
  let facets := m.describedFacets
  let named : List NamedIndicator :=
    facets.map fun facet => ⟨facet.id, nameOf (.facet facet.id)⟩
  let stored := m.configuration.secondOrder.scaling
  if facets = [] then []
  else
    match m.configuration.secondOrder.mode with
    | none => []
    | some .reflective =>
      let listed := facets.map fun facet => ⟨facet.id, facet.label⟩
      measurement name named (referenceAmong listed (m.firstFacet?.map Facet.id) stored)
    | some .formative =>
      let listed := m.listedGlobals .secondOrder
      formation name named (m.namedGlobals nameOf .secondOrder)
        (referenceAmong listed (shortestId listed) stored)

/-- The blocks of a model with facets: those of the facets in declaration order, and that of the
higher-order construct. -/
def blocks : List Statement :=
  m.instrument.facets.flatMap (m.facetBlock nameOf) ++ m.secondOrderBlock nameOf

end Blocks

end Model

/-! ### The form of a measurement -/

section Measurement

variable {indicators : List NamedIndicator} (h : indicators ≠ []) (latent : String)
  (reference : Option String)

include h

/-- A measurement by some indicators has one of two forms: with the reference in front and its
loading fixed, or, when the reference is none of them, as they are and with a fixed variance. -/
lemma measurement_cases :
    (∃ before first after, indicators = before ++ first :: after ∧ reference = some first.id ∧
      measurement latent indicators reference =
        [.reflective latent ((first :: (before ++ after)).map NamedIndicator.name) true]) ∨
    (∀ i ∈ indicators, reference ≠ some i.id) ∧
      measurement latent indicators reference =
        [.reflective latent (indicators.map NamedIndicator.name) false, .fixVariance latent] := by
  rw [measurement, if_neg h]
  cases hfirst : indicators.find? fun i => reference = some i.id with
  | some first =>
    obtain ⟨hid, before, after, rfl, hbefore⟩ := List.find?_eq_some_iff_append.mp hfirst
    have hreference : reference = some first.id := of_decide_eq_true hid
    -- An indicator like the one that was found would have been found before it.
    have hnew : first ∉ before := fun hmem => by simpa [hreference] using hbefore first hmem
    have herase : (before ++ first :: after).erase first = before ++ after := by
      rw [List.erase_append_right _ hnew, List.erase_cons_head]
    exact .inl ⟨before, first, after, rfl, hreference, by simp [herase]⟩
  | none =>
    exact .inr ⟨fun i hi hid => List.find?_eq_none.mp hfirst i hi (decide_eq_true hid), rfl⟩

/-- The indicators of a measurement stand in their order, with the reference moved to the front. -/
lemma exists_measurement_eq_split :
    ∃ before first after fixedFirst rest, indicators = before ++ first :: after ∧
      measurement latent indicators reference =
        .reflective latent ((first :: (before ++ after)).map NamedIndicator.name) fixedFirst ::
          rest ∧
      (fixedFirst = true → reference = some first.id) ∧
      (fixedFirst = false → before = []) ∧ ∀ s ∈ rest, s = .fixVariance latent := by
  rcases measurement_cases h latent reference with
    ⟨before, first, after, hsplit, hreference, heq⟩ | ⟨-, heq⟩
  · exact ⟨before, first, after, true, [], hsplit, heq, fun _ => hreference, nofun,
      fun _ hs => absurd hs List.not_mem_nil⟩
  · obtain ⟨first, after, rfl⟩ := List.exists_cons_of_ne_nil h
    exact ⟨[], first, after, false, [.fixVariance latent], rfl, heq, nofun, fun _ => rfl,
      fun _ hs => List.mem_singleton.mp hs⟩

end Measurement

/-! ### Measurement blocks -/

/-- To pick a reference is to find the first indicator with its id and to take it out. -/
lemma pickReference_eq_map_find? (id : String) (indicators : List NamedIndicator) :
    pickReference id indicators =
      (indicators.find? fun i => i.id = id).map fun first =>
        (first.name, (indicators.erase first).map NamedIndicator.name) := by
  induction indicators with
  | nil => rfl
  | cons i rest ih =>
    by_cases hid : i.id = id
    · simp [pickReference, hid]
    · rw [pickReference, if_neg hid, ih, List.find?_cons_of_neg (by simpa using hid)]
      cases hfirst : rest.find? fun i => i.id = id with
      | none => rfl
      | some first =>
        -- What was found has the id, so that it is not the indicator in front.
        have hne : i ≠ first := by
          rintro rfl
          exact hid (by simpa using List.find?_some hfirst)
        simp [List.erase_cons_tail, hne]

/-- The compiler measures a latent variable under the reference of its rule. -/
lemma measurementBlock_eq_measurement (latent : String) (indicators : List NamedIndicator)
    (rule : ScalingRule) :
    measurementBlock latent indicators rule = measurement latent indicators rule.reference := by
  unfold measurementBlock measurement
  simp only [List.isEmpty_iff]
  congr 1
  cases rule.reference with
  | none =>
    have hfind : (indicators.find? fun i => (none : Option String) = some i.id) = none :=
      List.find?_eq_none.mpr (by simp)
    rw [hfind]
    rfl
  | some id =>
    have hfind : (indicators.find? fun i => some id = some i.id) =
        indicators.find? fun i => i.id = id := by
      congr 1
      funext i
      simp [eq_comm]
    rw [Option.bind_some, pickReference_eq_map_find?, hfind]
    cases indicators.find? fun i => i.id = id <;> rfl

/-- The two forms of a measurement block. -/
lemma measurementBlock_cases {indicators : List NamedIndicator} (h : indicators ≠ [])
    (latent : String) (rule : ScalingRule) :
    (∃ before first after, indicators = before ++ first :: after ∧
      rule.reference = some first.id ∧ measurementBlock latent indicators rule =
        [.reflective latent ((first :: (before ++ after)).map NamedIndicator.name) true]) ∨
    (∀ i ∈ indicators, rule.reference ≠ some i.id) ∧ measurementBlock latent indicators rule =
        [.reflective latent (indicators.map NamedIndicator.name) false, .fixVariance latent] := by
  rw [measurementBlock_eq_measurement]
  exact measurement_cases h latent rule.reference

/-! ### References of rules -/

namespace ScalingRule

variable {listed : List Candidate}

/-- The shortest candidate is the first one whose text has the least length. -/
lemma shortest?_eq_argmin (listed : List Candidate) :
    shortest? listed = listed.argmin fun c => c.text.length := by
  induction listed with
  | nil => rfl
  | cons c cs ih =>
    rw [shortest?, List.argmin_cons, ih]
    cases cs.argmin fun c => c.text.length with
    | none => rfl
    | some d =>
      by_cases hle : c.text.length ≤ d.text.length
      · simp [hle, Nat.not_lt.mpr hle]
      · simp [hle, Nat.not_le.mp hle]

/-- With too few candidates there is no reference. -/
lemma referenceAmong_of_few (h : listed.length < minCandidates) (preferred : Option String)
    (stored : Option ScalingRule) : referenceAmong listed preferred stored = none :=
  if_neg (Nat.not_le.mpr h)

/-- With enough candidates the reference is what a rule for the one that is asked for names. -/
lemma referenceAmong_of_enough (h : minCandidates ≤ listed.length) (preferred : Option String)
    (stored : Option ScalingRule) :
    referenceAmong listed preferred stored =
      (fixLoading (wantedReference listed preferred stored)).reference :=
  if_pos h

/-- What a stored rule is granted: an id of a candidate that is not blank. -/
lemma isGranted_iff {id : String} :
    (!Text.isBlankText id && (listed.map Candidate.id).contains id) = true ↔
      Text.isBlankText id = false ∧ isCandidate listed id = true := by
  rw [Bool.and_eq_true, Bool.not_eq_true', List.contains_iff_mem, List.mem_map, isCandidate_iff]

/-- A stored rule that was checked against the candidates has the reference that it asks for. -/
lemma reference_revalidate (rule : ScalingRule) (preferred : Option String) :
    (rule.revalidate listed).reference = referenceAmong listed preferred (some rule) := by
  rcases Nat.lt_or_ge listed.length minCandidates with hfew | henough
  · rw [revalidate_of_few hfew, referenceAmong_of_few hfew, reference_fixVariance]
  · rw [referenceAmong_of_enough henough]
    cases rule with
    | fixVariance => rfl
    | fixLoading named =>
      rw [wantedReference]
      cases hkept : named.filter fun id =>
          !Text.isBlankText id && (listed.map Candidate.id).contains id with
      | some id =>
        obtain ⟨rfl, hgranted⟩ := Option.filter_eq_some_iff.mp hkept
        obtain ⟨hblank, hcandidate⟩ := isGranted_iff.mp hgranted
        have hreference : (fixLoading (some id)).reference = some id := by
          simp [reference, hblank]
        rw [revalidate_of_kept henough hreference hcandidate, Option.some_or]
      | none =>
        obtain ⟨first, rest, rfl⟩ := List.exists_cons_of_ne_nil (l := listed) (by
          rintro rfl
          exact absurd henough (by decide))
        rw [revalidate_of_lost henough]
        · rfl
        · -- A reference that is left although none is granted belongs to no candidate.
          intro id hreference
          obtain ⟨rfl, hblank⟩ := Option.filter_eq_some_iff.mp hreference
          refine Bool.eq_false_iff.mpr fun hcandidate => ?_
          exact Option.filter_eq_none_iff.mp hkept id rfl
            (isGranted_iff.mpr ⟨by simpa using hblank, hcandidate⟩)

/-- The default rule has the shortest candidate for its reference. -/
lemma reference_ofCandidates :
    (ofCandidates listed).reference = referenceAmong listed (shortestId listed) none := by
  rcases Nat.lt_or_ge listed.length minCandidates with hfew | henough
  · rw [ofCandidates, if_pos hfew, referenceAmong_of_few hfew, reference_fixVariance]
  · rw [ofCandidates, if_neg (Nat.not_lt.mpr henough), referenceAmong_of_enough henough,
      shortest?_eq_argmin, wantedReference, shortestId]
    cases listed.argmin fun c => c.text.length <;> rfl

end ScalingRule

namespace Model

variable {m : Model}

/-! ### References of effective rules -/

/-- The effective rule of a latent variable that is not a reflective higher-order construct has the
reference among the candidates that is asked for, the shortest one being preferred. -/
lemma reference_effectiveRule {latent : Latent} {listed : List Candidate}
    (hlisted : m.candidates latent = listed)
    (h : ¬ (latent = .secondOrder ∧ m.mode? latent = some .reflective)) :
    (m.effectiveRule latent).reference =
      referenceAmong listed (shortestId listed) (m.scalingRule? latent) := by
  subst hlisted
  cases hrule : m.scalingRule? latent with
  | some rule =>
    rw [effectiveRule_of_some hrule, ScalingRule.reference_revalidate]
  | none =>
    rw [effectiveRule_of_none hrule, defaultRule, if_neg h, ScalingRule.reference_ofCandidates]

/-- The compiled facets are those that have a block. -/
lemma describedFacets_eq_emittedFacets (m : Model) : m.describedFacets = m.emittedFacets := by
  refine List.filter_congr fun facet _ => ?_
  unfold isEmitted
  cases hmode : m.facetMode? facet.id with
  | none => simp
  | some mode =>
    cases mode with
    | reflective => cases m.activeItems (.facet facet.id) <;> simp
    | formative => simp

/-- The compiler prefers the same facet. -/
lemma firstFacet?_eq_preferredFacet? (m : Model) : m.firstFacet? = m.preferredFacet? := by
  rw [firstFacet?, preferredFacet?, describedFacets_eq_emittedFacets]
  congr 2
  funext facet
  exact (beq_eq_decide _ _).symm

/-- The effective rule of a reflective higher-order construct has the reference among its facets
that is asked for, the first reflective one being preferred. -/
lemma reference_effectiveRule_secondOrder (h : m.mode? .secondOrder = some .reflective) :
    (m.effectiveRule .secondOrder).reference =
      referenceAmong (m.describedFacets.map fun facet => ⟨facet.id, facet.label⟩)
        (m.firstFacet?.map Facet.id) m.configuration.secondOrder.scaling := by
  have hlisted : m.candidates .secondOrder =
      m.describedFacets.map fun facet => ⟨facet.id, facet.label⟩ := by
    rw [describedFacets_eq_emittedFacets]
    exact candidates_secondOrder_of_not_formative (by rw [h]; decide)
  rw [← hlisted, firstFacet?_eq_preferredFacet?]
  change _ = referenceAmong _ _ (m.scalingRule? .secondOrder)
  cases hrule : m.scalingRule? .secondOrder with
  | some rule => rw [effectiveRule_of_some hrule, ScalingRule.reference_revalidate]
  | none =>
    rw [effectiveRule_of_none hrule, defaultRule, if_pos ⟨rfl, h⟩]
    rcases Nat.lt_or_ge (m.candidates .secondOrder).length minCandidates with hfew | henough
    · rw [if_pos hfew, ScalingRule.referenceAmong_of_few hfew, ScalingRule.reference_fixVariance]
    · rw [if_neg (Nat.not_lt.mpr henough), ScalingRule.referenceAmong_of_enough henough]
      cases m.preferredFacet? <;> rfl

end Model

end Psychometrics
