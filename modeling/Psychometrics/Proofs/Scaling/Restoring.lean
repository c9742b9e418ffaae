import Mathlib
import Psychometrics.Proofs.Model.Excluded
import Psychometrics.Proofs.Scaling.Drawn
import Psychometrics.Proofs.Scaling.Exclusion
import Psychometrics.Proofs.Session.Named

/-!
# Excluding an item and taking it back

When an item is excluded and taken back, the same items are excluded as before, and so everything
that does not look at stored rules is as it was (`Model.eq_afterDetour`).  The rules of the latent
variable of the item and of the higher-order construct have been checked twice on the way, the first
time without the item.

A rule survives this as long as it does not have to give up its reference
(`ScalingRule.revalidate_filter_revalidate`).  What remains is a stored rule whose reference is no
candidate to begin with.  Its place is taken by the first candidate; if that one is excluded, the
next one is stored instead, and stays when the first one is back.  `Model.StandsIn` describes this
situation for the single latent variable of a unidimensional model.
-/

namespace Psychometrics

/-! ### Rules without and with some candidates -/

namespace ScalingRule

variable {rule : ScalingRule} {candidates : List Candidate}

/-- A rule is lost among candidates when it fixes a loading, and that of none of them. -/
def IsLost (rule : ScalingRule) (candidates : List Candidate) : Prop :=
  rule ≠ .fixVariance ∧ ∀ id, rule.reference = some id → isCandidate candidates id = false

/-- A lost rule is replaced by the first of enough candidates. -/
lemma IsLost.revalidate {first : Candidate} {rest : List Candidate}
    (h : rule.IsLost (first :: rest)) (henough : minCandidates ≤ (first :: rest).length) :
    rule.revalidate (first :: rest) = .fixingLoadingOf first.id := by
  cases rule with
  | fixVariance => exact absurd rfl h.1
  | fixLoading r => exact revalidate_of_lost henough h.2

/-- What is lost among some candidates is lost among fewer of them. -/
lemma IsLost.filter (h : rule.IsLost candidates) (keep : String → Bool) :
    rule.IsLost (candidates.filter fun c => keep c.id) := by
  refine ⟨h.1, fun id href => ?_⟩
  rw [isCandidate_filter, h.2 id href, Bool.and_false]

/-- A rule that fixes a loading of a candidate is not lost. -/
lemma exists_reference_of_not_isLost (h : ¬ rule.IsLost candidates) (hrule : rule ≠ .fixVariance) :
    ∃ id, rule.reference = some id ∧ isCandidate candidates id = true := by
  by_contra hnone
  refine h ⟨hrule, fun id href => ?_⟩
  by_contra hcandidate
  exact hnone ⟨id, href, by simpa using hcandidate⟩

/-- A rule that draws on named candidates is not lost among them. -/
lemma DrawsOn.not_isLost (h : rule.DrawsOn candidates)
    (hnamed : ∀ c ∈ candidates, Text.isBlankText c.id = false) : ¬ rule.IsLost candidates := by
  rintro ⟨hvariance, hlost⟩
  cases rule with
  | fixVariance => exact hvariance rfl
  | fixLoading r =>
    obtain ⟨c, hc, rfl⟩ := h r rfl
    have href := reference_fixingLoadingOf c.id
    rw [hnamed c hc, if_neg Bool.false_ne_true] at href
    exact Bool.false_ne_true ((hlost c.id href).symm.trans (isCandidate_iff.mpr ⟨c, hc, rfl⟩))

/-- A check against some of the candidates makes no difference to a check against all of them, if
there are enough of them and neither a reference nor what takes the place of a lost one is
missing. -/
lemma revalidate_filter_revalidate (keep : String → Bool)
    (henough : minCandidates ≤ (candidates.filter fun c => keep c.id).length)
    (href : ∀ id, rule.reference = some id → isCandidate candidates id = true → keep id = true)
    (hfirst : rule.IsLost candidates → ∃ c ∈ candidates.head?, keep c.id = true) :
    (rule.revalidate (candidates.filter fun c => keep c.id)).revalidate candidates =
      rule.revalidate candidates := by
  have henough' : minCandidates ≤ candidates.length := henough.trans (List.length_filter_le _ _)
  by_cases hvariance : rule = .fixVariance
  · subst hvariance
    rfl
  by_cases hlost : rule.IsLost candidates
  · obtain ⟨first, hhead, hkeep⟩ := hfirst hlost
    obtain ⟨rest, rfl⟩ := List.head?_eq_some_iff.mp hhead
    have hfilter : (first :: rest).filter (fun c => keep c.id) =
        first :: rest.filter fun c => keep c.id := List.filter_cons_of_pos hkeep
    have hlost' := hlost.filter keep
    rw [hfilter] at henough hlost' ⊢
    rw [hlost'.revalidate henough, hlost.revalidate henough', revalidate_first henough']
  · obtain ⟨id, hid, hcandidate⟩ := exists_reference_of_not_isLost hlost hvariance
    have hkept : isCandidate (candidates.filter fun c => keep c.id) id = true := by
      rw [isCandidate_filter, href id hid hcandidate, hcandidate, Bool.and_self]
    rw [revalidate_of_kept henough hid hkept]

/-- If what takes the place of a lost reference is missing, the next candidate takes it for good. -/
lemma IsLost.revalidate_filter_revalidate (h : rule.IsLost candidates) (keep : String → Bool)
    (henough : minCandidates ≤ (candidates.filter fun c => keep c.id).length)
    (hnamed : ∀ c ∈ candidates, Text.isBlankText c.id = false) :
    ∃ c ∈ candidates, keep c.id = true ∧
      (rule.revalidate (candidates.filter fun c => keep c.id)).revalidate candidates =
        .fixingLoadingOf c.id := by
  have henough' : minCandidates ≤ candidates.length := henough.trans (List.length_filter_le _ _)
  have hlost := h.filter keep
  have hmem : ∀ c ∈ candidates.filter (fun c => keep c.id), c ∈ candidates ∧ keep c.id = true :=
    fun c hc => List.mem_filter.mp hc
  generalize candidates.filter (fun c => keep c.id) = left at henough hlost hmem ⊢
  cases left with
  | nil => simp [minCandidates] at henough
  | cons next others =>
    obtain ⟨hnext, hkeep⟩ := hmem next List.mem_cons_self
    refine ⟨next, hnext, hkeep, ?_⟩
    have href := reference_fixingLoadingOf next.id
    rw [hnamed next hnext, if_neg Bool.false_ne_true] at href
    rw [hlost.revalidate henough]
    exact revalidate_of_kept henough' href (isCandidate_iff.mpr ⟨next, hnext, rfl⟩)

end ScalingRule

namespace Model

variable {m : Model} {i : Int64} {a l : Latent} {rule : ScalingRule}

/-! ### The model after an item was excluded and taken back -/

/-- The model after an item has been taken back. -/
def afterRestoration (m : Model) (itemId : Int64) : Model :=
  m.afterEdit (.exclusion itemId false)

/-- The model after an item has been excluded and taken back. -/
def afterDetour (m : Model) (itemId : Int64) : Model :=
  (m.afterExclusion itemId).afterRestoration itemId

/-- No item belongs to the higher-order construct. -/
lemma ne_secondOrder_of_itemLatent? (hi : m.itemLatent? i = some a) : a ≠ .secondOrder := by
  rcases itemLatent?_eq_some hi with ⟨-, rfl⟩ | ⟨-, id, rfl⟩ <;> exact nofun

/-- Rules and exclusions are kept apart when an item is taken back, too. -/
lemma unscaled_restore {n : Model} (h : m.unscaled = n.unscaled) (key : String) (itemId : Int64) :
    (m.restore key itemId).unscaled = (n.restore key itemId).unscaled := by
  have hrestore : ∀ k : Model, (k.restore key itemId).unscaled = k.unscaled.restore key itemId := by
    intro k
    have hexcluded : k.unscaled.configuration.excluded = k.configuration.excluded := rfl
    rw [restore, restore, hexcluded]
    split
    · rfl
    · split <;> rfl
  rw [hrestore, hrestore, h]

/-- Taking an item back leaves the stored rules alone. -/
@[simp] lemma scalingRule?_restore (m : Model) (key : String) (itemId : Int64) (l : Latent) :
    (m.restore key itemId).scalingRule? l = m.scalingRule? l := by
  obtain ⟨table, htable⟩ := m.exists_restore_eq key itemId
  rw [htable]
  cases l <;> rfl

/-- Taking an item back leaves all modes alone. -/
@[simp] lemma mode?_restore (m : Model) (key : String) (itemId : Int64) (l : Latent) :
    (m.restore key itemId).mode? l = m.mode? l := by
  obtain ⟨table, htable⟩ := m.exists_restore_eq key itemId
  rw [htable]
  cases l <;> rfl

/-- A facet that keeps a candidate without an item is compiled without it, too, if at all. -/
lemma emittedFacets_exclude_of_candidates {id : String}
    (hne : (m.exclude id i).candidates (.facet id) ≠ []) :
    (m.exclude id i).emittedFacets = m.emittedFacets := by
  rw [emittedFacets_exclude, List.filter_eq_self]
  intro facet hfacet
  have hemitted : m.isEmitted facet = true := List.of_mem_filter hfacet
  have hmode : (m.exclude id i).facetMode? facet.id = m.facetMode? facet.id := rfl
  rw [isEmitted, hmode]
  rw [isEmitted] at hemitted
  cases hfacetMode : m.facetMode? facet.id with
  | none => simp [hfacetMode] at hemitted
  | some mode =>
    cases mode with
    | formative => rfl
    | reflective =>
      rw [hfacetMode] at hemitted
      by_cases hid : id = facet.id
      · subst hid
        have hcandidates : (m.exclude facet.id i).candidates (.facet facet.id) =
            ((m.exclude facet.id i).activeItems (.facet facet.id)).map itemCandidate := by
          refine candidates_facet_of_not_formative ?_
          rw [mode?, hmode, hfacetMode]
          decide
        simpa [hcandidates] using hne
      · have hitems : (m.exclude id i).activeItems (.facet facet.id) =
            m.activeItems (.facet facet.id) :=
          activeItems_congr rfl (m.excluded_exclude_of_ne hid i)
        rwa [hitems]

section Detour

variable (hi : m.itemLatent? i = some a)

include hi

/-- In terms of choices, the item is excluded, taken back, and two rules are brought up to date. -/
lemma choices_afterDetour : (m.afterDetour i).choices =
    ((((m.afterExclusion i).restore a.key i).refresh a).refresh .secondOrder).choices := by
  have hi' := (itemLatent?_afterExclusion m i i).trans hi
  rw [afterDetour, afterRestoration, choices_afterEdit]
  simp only [Edit.result, Edit.apply, chooseExclusion, hi']
  rfl

/-- The rules after the detour are those that have been brought up to date last. -/
lemma scalingRule?_afterDetour (l : Latent) : (m.afterDetour i).scalingRule? l =
    ((((m.afterExclusion i).restore a.key i).refresh a).refresh .secondOrder).scalingRule? l := by
  rw [← scalingRule?_choices, choices_afterDetour hi, scalingRule?_choices]

/-- The same items are excluded as at the beginning, and apart from stored rules and derived data
nothing else has changed. -/
lemma unscaled_afterDetour (hin : m.isExcluded a.key i = false) :
    ∃ table, (m.afterDetour i).unscaled = (m.withExcluded table).unscaled ∧
      (m.withExcluded table).isExcluded = m.isExcluded := by
  obtain ⟨table, htable⟩ := (m.exclude a.key i).exists_restore_eq a.key i
  have hwith : (m.exclude a.key i).restore a.key i = m.withExcluded table := htable
  refine ⟨table, ?_, hwith ▸ isExcluded_restore_exclude hin⟩
  rw [unscaled_eq_of_choices_eq (choices_afterDetour hi), unscaled_refresh, unscaled_refresh,
    ← hwith]
  exact unscaled_restore (unscaled_afterExclusion hi) _ _

/-- What looks neither at stored rules and derived data, nor at exclusions but by asking for items,
is as it was. -/
lemma eq_afterDetour (hin : m.isExcluded a.key i = false) {α : Type} (query : Model → α)
    (hunscaled : ∀ n : Model, query n.unscaled = query n)
    (hexcluded : ∀ {table : Table ItemSet}, (m.withExcluded table).isExcluded = m.isExcluded →
      query (m.withExcluded table) = query m) : query (m.afterDetour i) = query m := by
  obtain ⟨table, htable, hsame⟩ := unscaled_afterDetour hi hin
  exact (eq_of_unscaled_eq htable query hunscaled).trans (hexcluded hsame)

/-- All candidates are as they were. -/
lemma candidates_afterDetour (hin : m.isExcluded a.key i = false) :
    (m.afterDetour i).candidates = m.candidates :=
  eq_afterDetour hi hin candidates (fun n => by funext l; cases l <;> rfl)
    fun h => candidates_withExcluded h

/-! ### Rules -/

/-- Rules in other slots stay, except for that of the higher-order construct. -/
lemma scalingRule?_afterDetour_of_slot_ne (hslot : a.slot ≠ l.slot) (hl : l ≠ .secondOrder) :
    (m.afterDetour i).scalingRule? l = m.scalingRule? l := by
  rw [scalingRule?_afterDetour hi, scalingRule?_refresh_refresh_of_slot_ne hslot hl,
    scalingRule?_restore, scalingRule?_afterExclusion hi,
    scalingRule?_refresh_refresh_of_slot_ne hslot hl, scalingRule?_exclude]

/-- The rules that are brought up to date have been checked without the item and then with it. -/
lemma scalingRule?_afterDetour_of_refreshes (hin : m.isExcluded a.key i = false)
    (hrule : m.scalingRule? l = some rule) (h : m.Refreshes a l) :
    (m.afterDetour i).scalingRule? l =
      some ((rule.revalidate ((m.exclude a.key i).candidates l)).revalidate (m.candidates l)) := by
  have ha := ne_secondOrder_of_itemLatent? hi
  have hone : ((m.afterExclusion i).restore a.key i).scalingRule? l =
      some (rule.revalidate ((m.exclude a.key i).candidates l)) := by
    rw [scalingRule?_restore, scalingRule?_afterExclusion_of_refreshes hi ha h,
      effectiveRule_of_some ((scalingRule?_exclude ..).trans hrule)]
  have hcandidates : ((m.afterExclusion i).restore a.key i).candidates l = m.candidates l := by
    rw [← congrFun (candidates_afterDetour hi hin) l]
    refine eq_of_unscaled_eq ?_ (candidates · l) fun n => by cases l <;> rfl
    rw [unscaled_eq_of_choices_eq (choices_afterDetour hi), unscaled_refresh, unscaled_refresh]
  have hrefreshes : ((m.afterExclusion i).restore a.key i).Refreshes a l := by
    rw [Refreshes, mode?_restore]
    exact refreshes_afterExclusion_iff.mpr h
  rw [scalingRule?_afterDetour hi, scalingRule?_refresh_refresh ha hrefreshes,
    effectiveRule_of_some hone, hcandidates]

/-! ### Effective rules -/

/-- Stored rules in other slots are in effect as they were, that of the higher-order construct
apart. -/
lemma effectiveRule_afterDetour_of_slot_ne (hin : m.isExcluded a.key i = false)
    (hrule : m.scalingRule? l = some rule) (hslot : a.slot ≠ l.slot) (hl : l ≠ .secondOrder) :
    (m.afterDetour i).effectiveRule l = m.effectiveRule l := by
  rw [effectiveRule_of_some ((scalingRule?_afterDetour_of_slot_ne hi hslot hl).trans hrule),
    effectiveRule_of_some hrule, candidates_afterDetour hi hin]

/-- A stored rule that has been brought up to date twice is in effect as it was after the second
time. -/
lemma effectiveRule_afterDetour_of_refreshes (hin : m.isExcluded a.key i = false)
    (hrule : m.scalingRule? l = some rule) (h : m.Refreshes a l) :
    (m.afterDetour i).effectiveRule l =
      (rule.revalidate ((m.exclude a.key i).candidates l)).revalidate (m.candidates l) := by
  rw [effectiveRule_of_some (scalingRule?_afterDetour_of_refreshes hi hin hrule h),
    candidates_afterDetour hi hin, ScalingRule.revalidate_revalidate]

/-- The rules of other latent variables come out the same, if enough candidates are left without the
item. -/
lemma effectiveRule_afterDetour_of_ne (hin : m.isExcluded a.key i = false)
    (henough : minCandidates ≤ ((m.exclude a.key i).candidates a).length)
    (hrule : m.scalingRule? l = some rule) (hl : l ∈ m.scaledLatents) (hne : l ≠ a) :
    (m.afterDetour i).effectiveRule l = m.effectiveRule l := by
  rcases itemLatent?_eq_some hi with ⟨hu, rfl⟩ | ⟨hmulti, id, rfl⟩
  · exact absurd (eq_unidim_of_mem_scaledLatents hu hl) hne
  · cases l with
    | unidim => simp [isUnidimensional_of_unidim_mem hl] at hmulti
    | facet other =>
      refine effectiveRule_afterDetour_of_slot_ne hi hin hrule (fun hslot => hne ?_) nofun
      exact congrArg Latent.facet (Option.some.inj hslot).symm
    | secondOrder =>
      -- The facet keeps a candidate, so that it is still compiled without the item.
      have hleft : (m.exclude id i).candidates (.facet id) ≠ [] := by
        intro hnil
        simp [Latent.key, hnil, minCandidates] at henough
      have hcandidates : (m.exclude id i).candidates .secondOrder = m.candidates .secondOrder :=
        candidates_secondOrder_congr (emittedFacets_exclude_of_candidates hleft) rfl rfl
      rw [effectiveRule_afterDetour_of_refreshes hi hin hrule
          ⟨.inr rfl, isSome_mode?_of_mem_scaledLatents hl⟩, Latent.key, hcandidates,
        ScalingRule.revalidate_revalidate, effectiveRule_of_some hrule]

/-- The rule of the latent variable of the item comes out the same, if the item is not its
reference, nor the first candidate when the reference is lost. -/
lemma effectiveRule_afterDetour_self (hin : m.isExcluded a.key i = false)
    (henough : minCandidates ≤ ((m.exclude a.key i).candidates a).length)
    (hrule : m.scalingRule? a = some rule) (hscaled : a ∈ m.scaledLatents)
    (href : rule.reference ≠ some (Text.ofInt i.toInt))
    (hfirst : m.mode? a ≠ some .formative → rule.IsLost (m.candidates a) →
      ∃ c ∈ (m.candidates a).head?, c.id ≠ Text.ofInt i.toInt) :
    (m.afterDetour i).effectiveRule a = m.effectiveRule a := by
  rw [effectiveRule_afterDetour_of_refreshes hi hin hrule
    ⟨.inl rfl, isSome_mode?_of_mem_scaledLatents hscaled⟩, effectiveRule_of_some hrule]
  by_cases hmode : m.mode? a = some .formative
  · rw [candidates_exclude_of_formative hmode, ScalingRule.revalidate_revalidate]
  · rw [candidates_exclude_self (ne_secondOrder_of_itemLatent? hi) hmode] at henough ⊢
    refine ScalingRule.revalidate_filter_revalidate (· != Text.ofInt i.toInt) henough ?_ ?_
    · rintro id hid -
      exact bne_iff_ne.mpr fun heq => href (heq ▸ hid)
    · intro hlost
      obtain ⟨c, hc, hne⟩ := hfirst hmode hlost
      exact ⟨c, hc, bne_iff_ne.mpr hne⟩

end Detour

/-! ### What is as before -/

/-- What excluding an item from a latent variable and taking it back does not change: the active
items and the candidates of all latent variables, the relations, the names, and the stored rules but
that of the latent variable and that of the higher-order construct. -/
structure Reversed (m n : Model) (own : Latent) : Prop where
  activeItems : n.activeItems = m.activeItems
  candidates : n.candidates = m.candidates
  indicators : n.indicators = m.indicators
  names : n.names = m.names
  rules : ∀ latent : Latent, latent.slot ≠ own.slot → latent ≠ .secondOrder →
    n.scalingRule? latent = m.scalingRule? latent

/-- Excluding an item and taking it back changes only two rules. -/
lemma reversed_afterDetour (hi : m.itemLatent? i = some a)
    (hin : m.isExcluded a.key i = false) : m.Reversed (m.afterDetour i) a where
  activeItems := eq_afterDetour hi hin Model.activeItems
    (fun n => by funext l; cases l <;> rfl) activeItems_withExcluded
  candidates := candidates_afterDetour hi hin
  indicators := eq_afterDetour hi hin Model.indicators (fun _ => rfl) indicators_withExcluded
  names := eq_afterDetour hi hin Model.names (fun _ => rfl) fun _ => rfl
  rules _ hslot hsecond := scalingRule?_afterDetour_of_slot_ne hi hslot.symm hsecond

/-! ### Standing in for a lost reference -/

/-- An item stands in for the reference of the single latent variable of a unidimensional model: the
stored reference is lost, and the item is the first one that is active. -/
structure StandsIn (m : Model) (itemId : Int64) : Prop where
  single : m.isUnidimensional = true
  lost : ∃ rule, m.scalingRule? .unidim = some rule ∧ rule.IsLost (m.candidates .unidim)
  first : ∃ item ∈ (m.activeItems .unidim).head?, item.id = itemId

/-- The ids of items are never blank. -/
lemma isBlankText_of_mem_map_itemCandidate {items : List Item} {c : Candidate}
    (hc : c ∈ items.map itemCandidate) : Text.isBlankText c.id = false := by
  obtain ⟨item, -, rfl⟩ := List.mem_map.mp hc
  exact Text.isBlankText_ofInt _

/-- All effective rules come out the same, unless the item stands in for a lost reference. -/
lemma effectiveRule_afterDetour (hi : m.itemLatent? i = some a)
    (hin : m.isExcluded a.key i = false)
    (henough : minCandidates ≤ ((m.exclude a.key i).candidates a).length)
    (hrules : m.HasRules)
    (href : (m.scalingRule? a).bind ScalingRule.reference ≠ some (Text.ofInt i.toInt))
    (hdrawn : m.isUnidimensional = false → m.HasDrawnRules)
    (hstands : ¬ m.StandsIn i) (hl : l ∈ m.scaledLatents) :
    (m.afterDetour i).effectiveRule l = m.effectiveRule l := by
  obtain ⟨rule, hrule⟩ := Option.isSome_iff_exists.mp (hrules l hl)
  by_cases hne : l = a
  · subst hne
    rw [hrule, Option.bind_some] at href
    refine effectiveRule_afterDetour_self hi hin henough hrule hl href fun hmode hlost => ?_
    rcases itemLatent?_eq_some hi with ⟨hu, rfl⟩ | ⟨hmulti, id, rfl⟩
    · -- The first active item is the first candidate, and it does not stand in for the reference.
      have hne : m.activeItems .unidim ≠ [] := by
        intro hnil
        have hcandidates : (m.exclude Latent.unidimKey i).candidates .unidim = [] := by
          rw [candidates_unidim, activeItems_exclude, hnil]
          rfl
        simp [Latent.key, hcandidates, minCandidates] at henough
      obtain ⟨first, rest, hitems⟩ := List.exists_cons_of_ne_nil hne
      have hhead : itemCandidate first ∈ (m.candidates .unidim).head? := by
        rw [candidates_unidim, hitems]
        rfl
      refine ⟨_, hhead, fun heq => hstands ⟨hu, ⟨rule, hrule, hlost⟩, first, ?_, ?_⟩⟩
      · rw [hitems]
        rfl
      · exact Text.ofInt_toInt_inj.mp heq
    · -- With several dimensions a stored reference is never lost.
      refine absurd hlost ((hdrawn hmulti _ hl rule hrule).not_isLost fun c hc => ?_)
      rw [candidates_facet_of_not_formative hmode] at hc
      exact isBlankText_of_mem_map_itemCandidate hc
  · exact effectiveRule_afterDetour_of_ne hi hin henough hrule hl hne

/-- An item that stands in for a lost reference has a fixed loading, and after it was excluded and
taken back another item has it. -/
lemma StandsIn.effectiveRule (h : m.StandsIn i) (hi : m.itemLatent? i = some .unidim)
    (hin : m.isExcluded Latent.unidimKey i = false)
    (henough : minCandidates ≤ ((m.exclude Latent.unidimKey i).candidates .unidim).length) :
    ∃ first ∈ m.activeItems .unidim, ∃ other ∈ m.activeItems .unidim, other.id ≠ first.id ∧
      m.effectiveRule .unidim = .fixingLoadingOf (Text.ofInt first.id.toInt) ∧
      (m.afterDetour i).effectiveRule .unidim =
        .fixingLoadingOf (Text.ofInt other.id.toInt) := by
  obtain ⟨-, ⟨rule, hrule, hlost⟩, first, hhead, rfl⟩ := h
  obtain ⟨rest, hitems⟩ := List.head?_eq_some_iff.mp hhead
  have hcandidates : m.candidates .unidim = itemCandidate first :: rest.map itemCandidate := by
    rw [candidates_unidim, hitems, List.map_cons]
  have hmode : m.mode? .unidim ≠ some .formative := nofun
  have hfilter := candidates_exclude_self (ne_secondOrder_of_itemLatent? hi) hmode first.id
  rw [Latent.key] at hfilter
  rw [hfilter] at henough
  have hnamed : ∀ c ∈ m.candidates .unidim, Text.isBlankText c.id = false := fun c hc =>
    isBlankText_of_mem_map_itemCandidate (m.candidates_unidim ▸ hc)
  obtain ⟨c, hc, hkeep, hother⟩ :=
    hlost.revalidate_filter_revalidate (· != Text.ofInt first.id.toInt) henough hnamed
  rw [candidates_unidim] at hc
  obtain ⟨other, hmem, rfl⟩ := List.mem_map.mp hc
  refine ⟨first, List.mem_of_mem_head? hhead, other, hmem, fun heq => ?_, ?_, ?_⟩
  · exact bne_iff_ne.mp hkeep (Text.ofInt_toInt_inj.mpr heq)
  · have henough' := henough.trans (List.length_filter_le _ _)
    rw [effectiveRule_of_some hrule, hcandidates]
    rw [hcandidates] at hlost henough'
    exact hlost.revalidate henough'
  · rw [effectiveRule_afterDetour_of_refreshes hi hin hrule ⟨.inl rfl, rfl⟩, Latent.key, hfilter]
    exact hother

end Model

end Psychometrics
