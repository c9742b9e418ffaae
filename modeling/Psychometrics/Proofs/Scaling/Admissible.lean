import Mathlib
import Psychometrics.Proofs.Model.Frame

/-!
# Admissible scaling rules

A scaling rule identifies its latent variable only in view of the candidates that are left for the
reference.  `ScalingRule.IsAdmissible` says when it does: a fixed variance always will, and a fixed
loading needs enough candidates and has to belong to one of them.

Every way in which a rule is computed from candidates yields an admissible one: the default
(`ScalingRule.isAdmissible_ofCandidates`), the check of a stored rule
(`ScalingRule.isAdmissible_revalidate`), and hence the effective rule of every latent variable of
every model (`Model.isAdmissible_effectiveRule`).
-/

namespace Psychometrics

namespace ScalingRule

/-- A rule that identifies a latent variable with the given candidates. -/
inductive IsAdmissible (candidates : List Candidate) : ScalingRule → Prop
  | fixVariance : IsAdmissible candidates .fixVariance
  | fixLoading {c : Candidate} (enough : minCandidates ≤ candidates.length)
      (mem : c ∈ candidates) : IsAdmissible candidates (.fixingLoadingOf c.id)

/-- A fixed loading is admissible exactly when there are enough candidates and its reference, as it
is stored, is the id of one of them. -/
lemma isAdmissible_fixLoading_iff {candidates : List Candidate} {r : Option String} :
    IsAdmissible candidates (.fixLoading r) ↔
      minCandidates ≤ candidates.length ∧ ∃ c ∈ candidates, r = some c.id := by
  constructor
  · intro h
    cases h with
    | fixLoading enough mem => exact ⟨enough, _, mem, rfl⟩
  · rintro ⟨enough, c, mem, rfl⟩
    exact .fixLoading enough mem

/-- An id is a candidate when some candidate has it. -/
lemma isCandidate_iff {candidates : List Candidate} {id : String} :
    isCandidate candidates id = true ↔ ∃ c ∈ candidates, c.id = id := by
  simp [isCandidate]

/-- Fixing the loading of a given indicator is admissible exactly when there are enough candidates
and the indicator is one of them. -/
lemma isAdmissible_fixingLoadingOf_iff {candidates : List Candidate} {id : String} :
    IsAdmissible candidates (.fixingLoadingOf id) ↔
      minCandidates ≤ candidates.length ∧ isCandidate candidates id = true := by
  rw [fixingLoadingOf, isAdmissible_fixLoading_iff, isCandidate_iff]
  simp only [Option.some.injEq, eq_comm]

/-- More candidates admit more rules. -/
lemma IsAdmissible.mono {candidates others : List Candidate} {rule : ScalingRule}
    (h : IsAdmissible candidates rule) (hlen : candidates.length ≤ others.length)
    (hsub : ∀ c ∈ candidates, ∃ d ∈ others, d.id = c.id) : IsAdmissible others rule := by
  cases h with
  | fixVariance => exact .fixVariance
  | fixLoading enough mem =>
    obtain ⟨d, hd, hid⟩ := hsub _ mem
    rw [← hid]
    exact .fixLoading (enough.trans hlen) hd

/-! ### Rules computed from candidates -/

/-- The shortest candidate is one of the candidates. -/
lemma mem_of_shortest?_eq_some {candidates : List Candidate} {c : Candidate}
    (h : shortest? candidates = some c) : c ∈ candidates := by
  induction candidates generalizing c with
  | nil => simp [shortest?] at h
  | cons d ds ih =>
    rw [shortest?] at h
    split at h
    · exact (Option.some.inj h) ▸ List.mem_cons_self ..
    · next e he =>
      split at h
      · exact (Option.some.inj h) ▸ List.mem_cons_self ..
      · exact (Option.some.inj h) ▸ List.mem_cons_of_mem _ (ih he)

/-- The default rule is admissible. -/
lemma isAdmissible_ofCandidates (candidates : List Candidate) :
    IsAdmissible candidates (ofCandidates candidates) := by
  unfold ofCandidates
  split
  · exact .fixVariance
  · next enough =>
    split
    · next c hc => exact .fixLoading (not_lt.mp enough) (mem_of_shortest?_eq_some hc)
    · exact .fixVariance

/-- The non-blank reference of a fixed loading is the one that is stored. -/
lemma reference_fixLoading_eq_some {r : Option String} {id : String}
    (h : (ScalingRule.fixLoading r).reference = some id) : r = some id := by
  rw [reference, Option.filter_eq_some_iff] at h
  exact h.1

/-- A rule that has been checked against the candidates is admissible for them. -/
lemma isAdmissible_revalidate (rule : ScalingRule) (candidates : List Candidate) :
    IsAdmissible candidates (rule.revalidate candidates) := by
  unfold revalidate
  cases rule with
  | fixVariance => exact .fixVariance
  | fixLoading r =>
    dsimp only
    split
    · exact .fixVariance
    · next enough =>
      split
      · -- The reference is kept: its id is that of a candidate.
        next hr =>
        obtain ⟨id, hid, hc⟩ := (Option.any_eq_true _ _).mp hr
        rw [reference_fixLoading_eq_some hid]
        exact isAdmissible_fixingLoadingOf_iff.mpr ⟨not_lt.mp enough, hc⟩
      · split
        · next c hc => exact .fixLoading (not_lt.mp enough) (List.mem_of_mem_head? hc)
        · exact .fixVariance

end ScalingRule

namespace Model

/-- The preferred facet is one of the compiled ones. -/
lemma mem_emittedFacets_of_preferredFacet? {m : Model} {facet : Facet}
    (h : m.preferredFacet? = some facet) : facet ∈ m.emittedFacets := by
  rw [preferredFacet?, Option.or_eq_some_iff] at h
  rcases h with h | ⟨-, h⟩
  · exact List.mem_of_find?_eq_some h
  · exact List.mem_of_mem_head? h

/-- The default rule of a latent variable is admissible for its candidates. -/
lemma isAdmissible_defaultRule (m : Model) (latent : Latent) :
    (m.defaultRule latent).IsAdmissible (m.candidates latent) := by
  unfold defaultRule
  split
  · next h =>
    obtain ⟨rfl, hmode⟩ := h
    split
    · exact .fixVariance
    · next enough =>
      split
      · next facet hf =>
        have hmem : facetCandidate facet ∈ m.candidates .secondOrder := by
          rw [candidates_secondOrder_of_not_formative (by rw [hmode]; decide)]
          exact List.mem_map_of_mem (mem_emittedFacets_of_preferredFacet? hf)
        exact .fixLoading (not_lt.mp enough) hmem
      · exact .fixVariance
  · exact ScalingRule.isAdmissible_ofCandidates _

/-- The effective rule of a latent variable is admissible for its candidates, however stale the
stored one is. -/
lemma isAdmissible_effectiveRule (m : Model) (latent : Latent) :
    (m.effectiveRule latent).IsAdmissible (m.candidates latent) := by
  unfold effectiveRule
  split
  · exact ScalingRule.isAdmissible_revalidate _ _
  · exact m.isAdmissible_defaultRule latent

end Model

end Psychometrics
