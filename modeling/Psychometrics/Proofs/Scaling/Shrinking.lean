import Mathlib
import Psychometrics.Proofs.Scaling.Reload

/-!
# Rules over shrinking candidates

When items are excluded one after the other, candidates disappear one after the other, and after
each step the stored rules are checked against those that are left.  The checks on the way leave no
trace: checking a rule against some candidates and then against those of them with certain ids is
the same as checking it against the latter at once (`ScalingRule.revalidate_filter`), and so the
number of steps makes no difference (`ScalingRule.revalidateAlong_eq`).  The reason is that a
reference is replaced by the first candidate only, which stays the first one as long as it stays at
all.

That an exclusion does take candidates away by their ids, for each latent variable including the
higher-order construct, is `Model.exists_candidates_exclude`.
-/

namespace Psychometrics

/-! ### Checks against fewer and fewer candidates -/

namespace ScalingRule

variable {rule : ScalingRule} {candidates rest : List Candidate} {first : Candidate} {id : String}
  {keep : String → Bool}

/-- The candidates that are kept are those whose ids are kept. -/
lemma isCandidate_filter :
    isCandidate (candidates.filter fun c => keep c.id) id =
      (keep id && isCandidate candidates id) := by
  rw [Bool.eq_iff_iff, Bool.and_eq_true, isCandidate_iff, isCandidate_iff]
  simp only [List.mem_filter]
  constructor
  · rintro ⟨c, ⟨hc, hkeep⟩, rfl⟩
    exact ⟨hkeep, c, hc, rfl⟩
  · rintro ⟨hkeep, c, hc, rfl⟩
    exact ⟨c, ⟨hc, hkeep⟩, rfl⟩

/-- With too few candidates every rule gives way to a fixed variance. -/
lemma revalidate_of_few (h : candidates.length < minCandidates) :
    rule.revalidate candidates = .fixVariance := by
  cases rule with
  | fixVariance => rfl
  | fixLoading r => rw [revalidate, if_pos h]

/-- A rule stays when its reference is one of enough candidates. -/
lemma revalidate_of_kept (h : minCandidates ≤ candidates.length) (href : rule.reference = some id)
    (hmem : isCandidate candidates id = true) : rule.revalidate candidates = rule := by
  cases rule with
  | fixVariance => rfl
  | fixLoading r =>
    have hkept : ((ScalingRule.fixLoading r).reference.any fun id => isCandidate candidates id) =
        true := by simp [href, hmem]
    rw [revalidate, if_neg (not_lt.mpr h), if_pos hkept]

/-- A fixed loading falls to the first of enough candidates when its reference is none of them. -/
lemma revalidate_of_lost {r : Option String} (h : minCandidates ≤ (first :: rest).length)
    (hlost : ∀ id, (ScalingRule.fixLoading r).reference = some id →
      isCandidate (first :: rest) id = false) :
    (ScalingRule.fixLoading r).revalidate (first :: rest) = .fixingLoadingOf first.id := by
  have hnone : ¬ ((ScalingRule.fixLoading r).reference.any fun id =>
      isCandidate (first :: rest) id) = true := by
    rw [Option.any_eq_true]
    rintro ⟨id, hid, hmem⟩
    exact Bool.false_ne_true ((hlost id hid).symm.trans hmem)
  rw [revalidate, if_neg (not_lt.mpr h), if_neg hnone]
  rfl

/-- The first candidate stays the reference, whether its id is blank or not. -/
lemma revalidate_first (h : minCandidates ≤ (first :: rest).length) :
    (fixingLoadingOf first.id).revalidate (first :: rest) = .fixingLoadingOf first.id := by
  cases hblank : Text.isBlankText first.id with
  | true =>
    have href := reference_fixingLoadingOf first.id
    rw [if_pos hblank, fixingLoadingOf] at href
    exact revalidate_of_lost h fun id hid => by simp [href] at hid
  | false =>
    have href := reference_fixingLoadingOf first.id
    rw [hblank, if_neg Bool.false_ne_true] at href
    exact revalidate_of_kept h href (isCandidate_iff.mpr ⟨first, List.mem_cons_self, rfl⟩)

/-- A check against some candidates leaves no trace once the rule is checked against those of them
whose ids are kept. -/
lemma revalidate_filter (rule : ScalingRule) (candidates : List Candidate) (keep : String → Bool) :
    (rule.revalidate candidates).revalidate (candidates.filter fun c => keep c.id) =
      rule.revalidate (candidates.filter fun c => keep c.id) := by
  by_cases hfew : (candidates.filter fun c => keep c.id).length < minCandidates
  · rw [revalidate_of_few hfew, revalidate_of_few hfew]
  have henough := not_lt.mp hfew
  have henough' : minCandidates ≤ candidates.length :=
    henough.trans (List.length_filter_le _ _)
  cases rule with
  | fixVariance => rfl
  | fixLoading r =>
    by_cases hkept : ∃ id, (ScalingRule.fixLoading r).reference = some id ∧
        isCandidate candidates id = true
    · obtain ⟨id, href, hmem⟩ := hkept
      rw [revalidate_of_kept henough' href hmem]
    have hlost : ∀ id, (ScalingRule.fixLoading r).reference = some id →
        isCandidate candidates id = false := by
      intro id href
      by_contra hmem
      exact hkept ⟨id, href, by simpa using hmem⟩
    cases candidates with
    | nil => simp [minCandidates] at henough'
    | cons first rest =>
      rw [revalidate_of_lost henough' hlost]
      cases hkeep : keep first.id with
      | true =>
        -- The first candidate stays the first one.
        have hfilter : (first :: rest).filter (fun c => keep c.id) =
            first :: rest.filter fun c => keep c.id := List.filter_cons_of_pos hkeep
        rw [hfilter] at henough ⊢
        rw [revalidate_first henough, revalidate_of_lost henough]
        intro id href
        rw [← hfilter, isCandidate_filter, hlost id href, Bool.and_false]
      | false =>
        have hgone : isCandidate ((first :: rest).filter fun c => keep c.id) first.id = false := by
          rw [isCandidate_filter, hkeep, Bool.false_and]
        have hstill : ∀ id, (ScalingRule.fixLoading r).reference = some id →
            isCandidate ((first :: rest).filter fun c => keep c.id) id = false := by
          intro id href
          rw [isCandidate_filter, hlost id href, Bool.and_false]
        generalize (first :: rest).filter (fun c => keep c.id) = left at henough hgone hstill ⊢
        cases left with
        | nil => simp [minCandidates] at henough
        | cons next others =>
          rw [revalidate_of_lost henough hstill, fixingLoadingOf, revalidate_of_lost henough]
          intro id href
          rwa [← Option.some.inj (reference_fixLoading_eq_some href)]

/-- Checks a rule against the candidates at hand, and again each time when only those with certain
ids are kept. -/
def revalidateAlong (rule : ScalingRule) (candidates : List Candidate) :
    List (String → Bool) → ScalingRule
  | [] => rule.revalidate candidates
  | keep :: path =>
    (rule.revalidate candidates).revalidateAlong (candidates.filter fun c => keep c.id) path

/-- Checks along the way come to what a single check against the last candidates gives. -/
lemma revalidateAlong_eq (rule : ScalingRule) (candidates : List Candidate)
    (path : List (String → Bool)) :
    rule.revalidateAlong candidates path =
      rule.revalidate (candidates.filter fun c => path.all fun keep => keep c.id) := by
  induction path generalizing rule candidates with
  | nil => simp [revalidateAlong]
  | cons keep path ih =>
    have hlast : (candidates.filter fun c => keep c.id).filter
          (fun c => path.all fun keep => keep c.id) =
        candidates.filter fun c => (keep :: path).all fun keep => keep c.id := by
      rw [List.filter_filter]
      exact List.filter_congr fun c _ => by rw [List.all_cons, Bool.and_comm]
    rw [revalidateAlong, ih, hlast]
    exact rule.revalidate_filter candidates fun id => (keep :: path).all fun keep => keep id

/-- The check of a rule does not depend on the path by which candidates disappear.  Checking it
first and once more without the candidates with certain ids is checking it without them at once; as
a special case, a second check against the same candidates changes nothing; and so it is with
candidates disappearing in any number of steps. -/
theorem revalidate_pathIndependent (rule : ScalingRule) (candidates : List Candidate) :
    (∀ (gone : Set String) [DecidablePred (· ∈ gone)],
      (rule.revalidate candidates).revalidate (candidates.filter fun c => c.id ∉ gone) =
        rule.revalidate (candidates.filter fun c => c.id ∉ gone)) ∧
      (rule.revalidate candidates).revalidate candidates = rule.revalidate candidates ∧
      ∀ path, rule.revalidateAlong candidates path =
        rule.revalidate (candidates.filter fun c => path.all fun keep => keep c.id) :=
  ⟨fun gone _ => rule.revalidate_filter candidates fun id => id ∉ gone,
    revalidate_revalidate rule candidates, revalidateAlong_eq rule candidates⟩

end ScalingRule

/-! ### Exclusions take candidates away -/

namespace Model

@[simp] lemma scalingRule?_exclude (m : Model) (key : String) (itemId : Int64) (latent : Latent) :
    (m.exclude key itemId).scalingRule? latent = m.scalingRule? latent := by
  cases latent <;> rfl

@[simp] lemma mode?_exclude (m : Model) (key : String) (itemId : Int64) (latent : Latent) :
    (m.exclude key itemId).mode? latent = m.mode? latent := by
  cases latent <;> rfl

/-- After an exclusion one item more is excluded. -/
lemma isExcluded_exclude (m : Model) (key other : String) (itemId id : Int64) :
    (m.exclude key itemId).isExcluded other id =
      (m.isExcluded other id || (other == key && id == itemId)) := by
  have hset : (m.exclude key itemId).configuration.excluded[other]? =
      if key = other then some ((m.excludedFrom key).insert itemId)
      else m.configuration.excluded[other]? := by
    simp [exclude, Std.ExtTreeMap.getElem?_insert]
  by_cases heq : key = other
  · subst heq
    rw [isExcluded, hset, if_pos rfl, isExcluded, excludedFrom,
      Std.ExtTreeMap.getD_eq_getD_getElem?]
    have hcompare : (compare itemId id == .eq) = (id == itemId) := by
      rw [Bool.eq_iff_iff, beq_iff_eq, beq_iff_eq, Std.LawfulEqCmp.compare_eq_iff_eq, eq_comm]
    cases m.configuration.excluded[key]? <;>
      simp [Std.ExtTreeSet.contains_insert, Bool.or_comm, hcompare]
  · have hne : (other == key) = false := by simpa using Ne.symm heq
    rw [isExcluded, hset, if_neg heq, hne, Bool.false_and, Bool.or_false, isExcluded]

/-- After an exclusion one item less is active. -/
lemma activeItems_exclude (m : Model) (key : String) (itemId : Int64) (latent : Latent) :
    (m.exclude key itemId).activeItems latent =
      (m.activeItems latent).filter fun item => !(latent.key == key && item.id == itemId) := by
  have hown : (m.exclude key itemId).ownItems latent = m.ownItems latent := by
    cases latent <;> rfl
  rw [activeItems, activeItems, hown, List.filter_filter]
  refine List.filter_congr fun item _ => ?_
  rw [isExcluded_exclude, Bool.not_or, Bool.and_comm]

/-- A facet that is compiled after an exclusion was compiled before. -/
lemma isEmitted_of_isEmitted_exclude {m : Model} {key : String} {itemId : Int64} {facet : Facet}
    (h : (m.exclude key itemId).isEmitted facet = true) : m.isEmitted facet = true := by
  have hmode : (m.exclude key itemId).facetMode? facet.id = m.facetMode? facet.id := rfl
  rw [isEmitted, hmode, activeItems_exclude] at h
  rw [isEmitted]
  cases hm : m.facetMode? facet.id with
  | none => simp [hm] at h
  | some mode =>
    cases mode with
    | formative => rfl
    | reflective =>
      simp only [hm, Bool.not_eq_true', List.isEmpty_eq_false_iff] at h ⊢
      exact fun hnil => h (by rw [hnil]; rfl)

/-- The facets that are compiled after an exclusion. -/
lemma emittedFacets_exclude (m : Model) (key : String) (itemId : Int64) :
    (m.exclude key itemId).emittedFacets =
      m.emittedFacets.filter fun facet => (m.exclude key itemId).isEmitted facet := by
  rw [emittedFacets, emittedFacets, List.filter_filter]
  refine List.filter_congr fun facet _ => ?_
  cases h : (m.exclude key itemId).isEmitted facet with
  | false => rfl
  | true => rw [isEmitted_of_isEmitted_exclude h, Bool.and_self]

/-- Where active items are candidates, an exclusion takes the excluded one away. -/
lemma candidates_exclude {m : Model} {latent : Latent} (hlatent : latent ≠ .secondOrder)
    (hmode : m.mode? latent ≠ some .formative) (key : String) (itemId : Int64) :
    (m.exclude key itemId).candidates latent = (m.candidates latent).filter fun c =>
      !(latent.key == key && c.id == Text.ofInt itemId.toInt) := by
  have hid : ∀ item : Item,
      (Text.ofInt item.id.toInt == Text.ofInt itemId.toInt) = (item.id == itemId) := by
    intro item
    rw [Bool.eq_iff_iff, beq_iff_eq, beq_iff_eq, Text.ofInt_toInt_inj]
  have hitems : ((m.exclude key itemId).activeItems latent).map itemCandidate =
      ((m.activeItems latent).map itemCandidate).filter fun c =>
        !(latent.key == key && c.id == Text.ofInt itemId.toInt) := by
    rw [activeItems_exclude, List.filter_map]
    refine congrArg (List.map itemCandidate) (List.filter_congr fun item _ => ?_)
    simp [itemCandidate, hid]
  cases latent with
  | unidim => rwa [candidates_unidim, candidates_unidim]
  | facet id =>
    rwa [candidates_facet_of_not_formative hmode,
      candidates_facet_of_not_formative (by rwa [mode?_exclude])]
  | secondOrder => exact absurd rfl hlatent

/-- Excluding an item from a latent variable takes the candidate away that is the item. -/
lemma candidates_exclude_self {m : Model} {latent : Latent} (hlatent : latent ≠ .secondOrder)
    (hmode : m.mode? latent ≠ some .formative) (itemId : Int64) :
    (m.exclude latent.key itemId).candidates latent = (m.candidates latent).filter fun c =>
      c.id != Text.ofInt itemId.toInt := by
  simp only [candidates_exclude hlatent hmode, beq_self_eq_true, Bool.true_and, bne]

/-- The global items of a formative latent variable are no concern of an exclusion. -/
lemma candidates_exclude_of_formative {m : Model} {latent : Latent}
    (hmode : m.mode? latent = some .formative) (key : String) (itemId : Int64) :
    (m.exclude key itemId).candidates latent = m.candidates latent := by
  rw [candidates_of_formative hmode, candidates_of_formative (by rwa [mode?_exclude])]
  cases latent <;> rfl

/-- An exclusion takes candidates away by their ids, whatever the latent variable. -/
lemma exists_candidates_exclude (m : Model) (key : String) (itemId : Int64) (latent : Latent) :
    ∃ keep : String → Bool, (m.exclude key itemId).candidates latent =
      (m.candidates latent).filter fun c => keep c.id := by
  by_cases hformative : m.mode? latent = some .formative
  · exact ⟨fun _ => true,
      by rw [candidates_exclude_of_formative hformative, List.filter_true]⟩
  · by_cases hlatent : latent = .secondOrder
    · subst hlatent
      refine ⟨fun id => (m.exclude key itemId).isEmitted { id }, ?_⟩
      rw [candidates_secondOrder_of_not_formative hformative,
        candidates_secondOrder_of_not_formative (by rwa [mode?_exclude]), emittedFacets_exclude,
        List.filter_map]
      rfl
    · exact ⟨fun id => !(latent.key == key && id == Text.ofInt itemId.toInt),
        candidates_exclude hlatent hformative key itemId⟩

/-- An exclusion under another key leaves the candidates of a latent variable below the higher-order
construct alone. -/
lemma candidates_exclude_of_ne {m : Model} {key : String} {latent : Latent}
    (hkey : key ≠ latent.key) (hlatent : latent ≠ .secondOrder) (itemId : Int64) :
    (m.exclude key itemId).candidates latent = m.candidates latent := by
  have hexcluded := m.excluded_exclude_of_ne hkey itemId
  cases latent with
  | unidim => exact candidates_unidim_congr rfl hexcluded
  | facet id => exact candidates_facet_congr rfl rfl hexcluded rfl
  | secondOrder => exact absurd rfl hlatent

/-- An exclusion under a key that no facet bears leaves the compiled facets alone. -/
lemma emittedFacets_exclude_of_ne {m : Model} {key : String}
    (hkey : ∀ facet ∈ m.instrument.facets, facet.id ≠ key) (itemId : Int64) :
    (m.exclude key itemId).emittedFacets = m.emittedFacets := by
  refine List.filter_congr fun facet hfacet => ?_
  have hitems : (m.exclude key itemId).activeItems (.facet facet.id) =
      m.activeItems (.facet facet.id) :=
    activeItems_congr rfl (m.excluded_exclude_of_ne (hkey facet hfacet).symm itemId)
  rw [isEmitted, isEmitted, hitems]
  rfl

/-- An exclusion under a key that no facet bears is no concern of the higher-order construct. -/
lemma candidates_secondOrder_exclude_of_ne {m : Model} {key : String}
    (hkey : ∀ facet ∈ m.instrument.facets, facet.id ≠ key) (itemId : Int64) :
    (m.exclude key itemId).candidates .secondOrder = m.candidates .secondOrder ∧
      (m.exclude key itemId).defaultRule .secondOrder = m.defaultRule .secondOrder := by
  have hfacets := emittedFacets_exclude_of_ne hkey itemId
  have hcandidates : (m.exclude key itemId).candidates .secondOrder = m.candidates .secondOrder :=
    candidates_secondOrder_congr hfacets rfl rfl
  have hpreferred : (m.exclude key itemId).preferredFacet? = m.preferredFacet? := by
    rw [preferredFacet?, preferredFacet?, hfacets]
    rfl
  refine ⟨hcandidates, ?_⟩
  rw [defaultRule, defaultRule, hcandidates, hpreferred, mode?_exclude]

end Model

end Psychometrics
