import Mathlib
import Psychometrics.Proofs.Scaling.Shrinking

/-!
# Effective rules apply

The effective rule of a latent variable comes about in one of several ways: a stored reference is
kept or replaced, a fixed loading gives way to a fixed variance, or a default is taken where nothing
is stored.  The default takes its reference from the candidates, or, for a reflective higher-order
construct, from the compiled facets.  None of this may miss the candidates that there are, however
stale the stored rule is and whether or not the latent variable is configured at all.

`Model.effectiveRule_eq_fixVariance_iff` says when there is no fixed loading: never because a
reference could not be found.
-/

namespace Psychometrics

namespace ScalingRule

variable {candidates : List Candidate}

/-- Among candidates there is a shortest one. -/
lemma exists_shortest?_eq_some (h : candidates ≠ []) : ∃ c, shortest? candidates = some c := by
  obtain ⟨c, cs, rfl⟩ := List.exists_cons_of_ne_nil h
  rw [shortest?]
  cases shortest? cs with
  | none => exact ⟨c, rfl⟩
  | some d =>
    dsimp only
    split
    · exact ⟨c, rfl⟩
    · exact ⟨d, rfl⟩

/-- The default rule over candidates fixes the variance exactly when there are too few of them. -/
lemma ofCandidates_eq_fixVariance_iff :
    ofCandidates candidates = .fixVariance ↔ candidates.length < minCandidates := by
  unfold ofCandidates
  split
  · next hfew => exact iff_of_true rfl hfew
  · next henough =>
    have hne : candidates ≠ [] := by
      rintro rfl
      exact henough (by decide)
    obtain ⟨c, hc⟩ := exists_shortest?_eq_some hne
    rw [hc]
    exact iff_of_false nofun henough

/-- A check turns a fixed loading into a fixed variance only if there are too few candidates. -/
lemma revalidate_eq_fixVariance_iff (rule : ScalingRule) :
    rule.revalidate candidates = .fixVariance ↔
      rule = .fixVariance ∨ candidates.length < minCandidates := by
  by_cases hfew : candidates.length < minCandidates
  · exact iff_of_true (revalidate_of_few hfew) (.inr hfew)
  · cases rule with
    | fixVariance => exact iff_of_true rfl (.inl rfl)
    | fixLoading r =>
      have hne : candidates ≠ [] := by
        rintro rfl
        exact hfew (by decide)
      obtain ⟨first, rest, rfl⟩ := List.exists_cons_of_ne_nil hne
      refine iff_of_false ?_ (not_or.mpr ⟨ScalingRule.noConfusion, hfew⟩)
      rw [revalidate, if_neg hfew]
      split <;> exact ScalingRule.noConfusion

end ScalingRule

namespace Model

variable {m : Model} {latent : Latent}

/-- A reflective higher-order construct with candidates prefers one of the facets. -/
lemma exists_preferredFacet? (h : m.emittedFacets ≠ []) :
    ∃ facet, m.preferredFacet? = some facet := by
  obtain ⟨facet, rest, hfacets⟩ := List.exists_cons_of_ne_nil h
  rw [preferredFacet?, hfacets, List.head?_cons]
  cases List.find? _ (facet :: rest) with
  | none => exact ⟨facet, rfl⟩
  | some preferred => exact ⟨preferred, rfl⟩

/-- The default rule of a latent variable fixes the variance exactly when it has too few candidates.
-/
lemma defaultRule_eq_fixVariance_iff :
    m.defaultRule latent = .fixVariance ↔ (m.candidates latent).length < minCandidates := by
  unfold defaultRule
  split
  · next hsecond =>
    obtain ⟨rfl, hmode⟩ := hsecond
    have hcandidates : m.candidates .secondOrder = m.emittedFacets.map facetCandidate :=
      candidates_secondOrder_of_not_formative (by rw [hmode]; decide)
    split
    · next hfew => exact iff_of_true rfl hfew
    · next henough =>
      obtain ⟨facet, hfacet⟩ : ∃ facet, m.preferredFacet? = some facet := by
        refine exists_preferredFacet? fun hnil => henough ?_
        rw [hcandidates, hnil]
        decide
      rw [hfacet]
      exact iff_of_false nofun henough
  · exact ScalingRule.ofCandidates_eq_fixVariance_iff

/-- The effective rule fixes the variance exactly when that is what is stored or when there are too
few candidates to fix a loading. -/
lemma effectiveRule_eq_fixVariance_iff :
    m.effectiveRule latent = .fixVariance ↔
      m.scalingRule? latent = some .fixVariance ∨
        (m.candidates latent).length < minCandidates := by
  cases hrule : m.scalingRule? latent with
  | none => simp [effectiveRule_of_none hrule, defaultRule_eq_fixVariance_iff]
  | some rule =>
    rw [effectiveRule_of_some hrule, ScalingRule.revalidate_eq_fixVariance_iff, Option.some.injEq]

/-- The effective rule of any latent variable of any model can be applied: it fixes the variance, or
the loading of one of at least two candidates.  With fewer candidates it fixes the variance, and a
stored reference that is one of at least two candidates is kept. -/
theorem effectiveRule_applies (m : Model) (latent : Latent) :
    (m.effectiveRule latent = .fixVariance ∨
      2 ≤ (m.candidates latent).length ∧
        ∃ c ∈ m.candidates latent, m.effectiveRule latent = .fixLoading (some c.id)) ∧
    ((m.candidates latent).length < 2 → m.effectiveRule latent = .fixVariance) ∧
    ∀ rule id, m.scalingRule? latent = some rule → rule.reference = some id →
      2 ≤ (m.candidates latent).length → (∃ c ∈ m.candidates latent, c.id = id) →
        m.effectiveRule latent = rule := by
  refine ⟨?_, fun hfew => effectiveRule_eq_fixVariance_iff.mpr (.inr hfew), ?_⟩
  · have hadmissible := m.isAdmissible_effectiveRule latent
    generalize m.effectiveRule latent = rule at hadmissible ⊢
    cases hadmissible with
    | fixVariance => exact .inl rfl
    | fixLoading enough mem => exact .inr ⟨enough, _, mem, rfl⟩
  · intro rule id hrule href henough hmem
    rw [effectiveRule_of_some hrule]
    exact ScalingRule.revalidate_of_kept henough href (ScalingRule.isCandidate_iff.mpr hmem)

/-- An instrument with three items and a single dimension. -/
def threeItems : Instrument :=
  { items := [{ id := 1, text := "a" }, { id := 2, text := "b" }, { id := 3, text := "c" }] }

/-- A configuration that fixes the loading of the second item. -/
def secondFixed : Configuration where
  scaling := (∅ : Table ScalingRule).insert Latent.unidimKey (.fixingLoadingOf "2")

/-- The second item stays the reference as long as another one is active, and no loading is fixed
when it is the only one left. -/
theorem effectiveRule_secondFixed :
    effectiveRule ⟨threeItems, secondFixed⟩ .unidim = .fixingLoadingOf "2" ∧
      ((exclude ⟨threeItems, secondFixed⟩ "unidim" 1).exclude "unidim" 3).effectiveRule .unidim =
        .fixVariance := by
  have hcandidates : candidates ⟨threeItems, secondFixed⟩ .unidim =
      [⟨"1", "a"⟩, ⟨"2", "b"⟩, ⟨"3", "c"⟩] := by cbv
  have hfew : ((exclude ⟨threeItems, secondFixed⟩ "unidim" 1).exclude "unidim" 3).candidates
      .unidim = [⟨"2", "b"⟩] := by cbv
  constructor
  · refine (effectiveRule_applies _ _).2.2 _ "2" (by cbv) (by cbv) ?_ ?_
    · rw [hcandidates]
      decide
    · rw [hcandidates]
      exact ⟨⟨"2", "b"⟩, by simp, rfl⟩
  · refine (effectiveRule_applies _ _).2.1 ?_
    rw [hfew]
    decide

end Model

end Psychometrics
