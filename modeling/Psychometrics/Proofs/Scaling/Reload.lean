import Mathlib
import Psychometrics.Proofs.Model.Slots
import Psychometrics.Proofs.Scaling.Edits

/-!
# Loading a model again

Loading brings a stored configuration up to date, and one should expect that there is nothing left
to be done when the result is loaded again.  Slots and relations do settle in one pass.  Rules need
not: the default rule may name a reference with a blank id, which counts as no reference when the
rule is checked, so that the second pass puts the first candidate in its place.

`Model.load_load_eq_iff` says that this is the only way in which loading again makes a difference,
and `Model.upgrade_upgrade_upgrade` that the difference is made up for by one more pass.
-/

namespace Psychometrics

namespace ScalingRule

variable {candidates : List Candidate}

/-! ### Checking a rule twice -/

/-- A rule names a blank reference that is not the first candidate. -/
def IsUnsteady (rule : ScalingRule) (candidates : List Candidate) : Prop :=
  ∃ id first rest, rule = .fixingLoadingOf id ∧ Text.isBlankText id = true ∧
    candidates = first :: rest ∧ first.id ≠ id

/-- The reference of a rule that fixes a loading, if its id is not blank. -/
lemma reference_fixingLoadingOf (id : String) :
    (fixingLoadingOf id).reference = if Text.isBlankText id then none else some id := by
  cases h : Text.isBlankText id <;> simp [fixingLoadingOf, reference, h]

/-- A check keeps the loading of a candidate with a name, and falls to the first candidate when the
reference is blank. -/
lemma revalidate_fixingLoadingOf {first second : Candidate} {rest : List Candidate}
    {id : String} (h : isCandidate (first :: second :: rest) id = true) :
    (fixingLoadingOf id).revalidate (first :: second :: rest) =
      if Text.isBlankText id then .fixingLoadingOf first.id else .fixingLoadingOf id := by
  have hlen : ¬ (first :: second :: rest).length < minCandidates := by simp [minCandidates]
  have href := reference_fixingLoadingOf id
  unfold fixingLoadingOf at href ⊢
  simp only [revalidate, if_neg hlen, href, List.head?_cons]
  cases Text.isBlankText id <;> simp [h, fixingLoadingOf]

/-- An admissible rule stands the check exactly when it is steady. -/
lemma IsAdmissible.revalidate_eq_self_iff {rule : ScalingRule} (h : rule.IsAdmissible candidates) :
    rule.revalidate candidates = rule ↔ ¬ rule.IsUnsteady candidates := by
  cases h with
  | fixVariance =>
    refine iff_of_true rfl ?_
    rintro ⟨id, first, rest, hrule, -⟩
    cases hrule
  | @fixLoading c enough mem =>
    match candidates with
    | [] => simp at mem
    | [_] => simp [minCandidates] at enough
    | first :: second :: rest =>
      rw [revalidate_fixingLoadingOf (isCandidate_iff.mpr ⟨c, mem, rfl⟩)]
      cases hblank : Text.isBlankText c.id with
      | false =>
        refine iff_of_true (by simp) ?_
        rintro ⟨id, first', rest', hrule, hid, -⟩
        obtain rfl := Option.some.inj (ScalingRule.fixLoading.inj hrule)
        exact absurd (hblank.symm.trans hid) Bool.false_ne_true
      | true =>
        simp only [if_true]
        constructor
        · rintro heq ⟨id, first', rest', hrule, -, hcandidates, hne⟩
          obtain ⟨rfl, -⟩ := List.cons.inj hcandidates
          exact hne (Option.some.inj (ScalingRule.fixLoading.inj (heq.trans hrule)))
        · intro hsteady
          by_contra hne
          refine hsteady ⟨c.id, first, _, rfl, hblank, rfl, fun heq => hne ?_⟩
          rw [heq]

/-- A checked rule is steady. -/
lemma not_isUnsteady_revalidate (rule : ScalingRule) (candidates : List Candidate) :
    ¬ (rule.revalidate candidates).IsUnsteady candidates := by
  rintro ⟨id, first, rest, hrule, hblank, rfl, hne⟩
  unfold revalidate at hrule
  cases rule with
  | fixVariance => cases hrule
  | fixLoading r =>
    dsimp only at hrule
    split at hrule
    · cases hrule
    · split at hrule
      · -- A reference that was kept is not blank.
        next hkept =>
        rw [fixingLoadingOf] at hrule
        obtain rfl := ScalingRule.fixLoading.inj hrule
        have href := reference_fixingLoadingOf id
        rw [fixingLoadingOf, if_pos hblank] at href
        rw [href] at hkept
        cases hkept
      · exact hne (Option.some.inj (ScalingRule.fixLoading.inj hrule))

/-- Checking a rule twice is checking it once. -/
lemma revalidate_revalidate (rule : ScalingRule) (candidates : List Candidate) :
    (rule.revalidate candidates).revalidate candidates = rule.revalidate candidates :=
  (isAdmissible_revalidate rule candidates).revalidate_eq_self_iff.mpr
    (not_isUnsteady_revalidate rule candidates)

end ScalingRule

namespace Model

variable {m n : Model} {latent : Latent} {latents : List Latent} {rule : ScalingRule}

/-! ### Storing rules once more -/

/-- Storing the rule that is stored already changes nothing. -/
lemma setScalingRule_eq_self (h : m.scalingRule? latent = some rule) :
    m.setScalingRule latent rule = m := by
  have htable : ∀ key, m.configuration.scaling[key]? = some rule →
      m.configuration.scaling.insert key rule = m.configuration.scaling := by
    intro key hkey
    refine Std.ExtTreeMap.ext_getElem? fun other => ?_
    rw [Std.ExtTreeMap.getElem?_insert]
    split
    · next heq => rw [← Std.LawfulEqCmp.eq_of_compare heq, hkey]
    · rfl
  cases latent with
  | unidim => simp only [setScalingRule, htable _ h]
  | facet id => simp only [setScalingRule, htable _ h]
  | secondOrder =>
    rw [setScalingRule, ← h]
    rfl

@[simp] lemma defaultRule_setScalingRule (m : Model) (latent other : Latent) (rule : ScalingRule) :
    (m.setScalingRule latent rule).defaultRule other = m.defaultRule other := by
  cases latent <;> cases other <;> rfl

/-- A stored rule is in effect as far as the candidates allow. -/
lemma effectiveRule_of_some (h : m.scalingRule? latent = some rule) :
    m.effectiveRule latent = rule.revalidate (m.candidates latent) := by
  rw [effectiveRule, h]

/-- Without a stored rule the default one is in effect. -/
lemma effectiveRule_of_none (h : m.scalingRule? latent = none) :
    m.effectiveRule latent = m.defaultRule latent := by
  rw [effectiveRule, h]

/-- A stored rule has been checked after a pass over some latent variables if its own was among
them. -/
lemma scalingRule?_foldl_of_some (hslot : ∀ l ∈ latents, l.slot = latent.slot → l = latent)
    (h : m.scalingRule? latent = some rule) :
    (latents.foldl resolveScaling m).scalingRule? latent =
      some (if latent ∈ latents then rule.revalidate (m.candidates latent) else rule) := by
  induction latents generalizing m rule with
  | nil => simpa using h
  | cons first rest ih =>
    have hrest : ∀ l ∈ rest, l.slot = latent.slot → l = latent :=
      fun l hl => hslot l (List.mem_cons_of_mem _ hl)
    rw [List.foldl_cons]
    by_cases heq : first = latent
    · subst heq
      have hstored : (m.resolveScaling first).scalingRule? first =
          some (rule.revalidate (m.candidates first)) := by
        rw [scalingRule?_resolveScaling_self, effectiveRule_of_some h]
      rw [ih hrest hstored, candidates_resolveScaling, ScalingRule.revalidate_revalidate, ite_self,
        if_pos List.mem_cons_self]
    · have hne : first.slot ≠ latent.slot := fun hs => heq (hslot first List.mem_cons_self hs)
      have hstored : (m.resolveScaling first).scalingRule? latent = some rule := by
        rw [scalingRule?_resolveScaling_of_slot_ne hne, h]
      rw [ih hrest hstored, candidates_resolveScaling]
      simp [List.mem_cons, Ne.symm heq]

/-- Storing effective rules leaves the checked rule for a latent variable that has one. -/
lemma scalingRule?_resolveAll_of_some (hl : latent ∈ m.scaledLatents)
    (hrule : m.scalingRule? latent = some rule) :
    m.resolveAll.scalingRule? latent = some (rule.revalidate (m.candidates latent)) := by
  rw [resolveAll, scalingRule?_foldl_of_some (fun o ho hs => eq_of_slot_eq ho hl hs) hrule,
    if_pos hl]

/-- A latent variable without a rule gets the default one in such a pass, which has been checked if
the pass comes to it again. -/
lemma scalingRule?_foldl_of_none (hslot : ∀ l ∈ latents, l.slot = latent.slot → l = latent)
    (h : m.scalingRule? latent = none) (hmem : latent ∈ latents) :
    (latents.foldl resolveScaling m).scalingRule? latent =
      some (if latents.count latent = 1 then m.defaultRule latent
        else (m.defaultRule latent).revalidate (m.candidates latent)) := by
  induction latents generalizing m with
  | nil => cases hmem
  | cons first rest ih =>
    have hrest : ∀ l ∈ rest, l.slot = latent.slot → l = latent :=
      fun l hl => hslot l (List.mem_cons_of_mem _ hl)
    rw [List.foldl_cons]
    by_cases heq : first = latent
    · subst heq
      -- The default rule is stored at the first turn and checked at all later ones.
      have hstored : (m.resolveScaling first).scalingRule? first = some (m.defaultRule first) := by
        rw [scalingRule?_resolveScaling_self, effectiveRule_of_none h]
      rw [scalingRule?_foldl_of_some hrest hstored, candidates_resolveScaling]
      by_cases hagain : first ∈ rest
      · have hcount : ¬ (first :: rest).count first = 1 := by
          have hpos := List.count_pos_iff.mpr hagain
          rw [List.count_cons_self]
          omega
        rw [if_pos hagain, if_neg hcount]
      · have hcount : (first :: rest).count first = 1 := by
          rw [List.count_cons_self, List.count_eq_zero.mpr hagain]
        rw [if_neg hagain, if_pos hcount]
    · have hne : first.slot ≠ latent.slot := fun hs => heq (hslot first List.mem_cons_self hs)
      have hstored : (m.resolveScaling first).scalingRule? latent = none := by
        rw [scalingRule?_resolveScaling_of_slot_ne hne, h]
      have hmem' : latent ∈ rest := (List.mem_cons.mp hmem).resolve_left (Ne.symm heq)
      rw [ih hrest hstored hmem', candidates_resolveScaling, List.count_cons_of_ne heq,
        resolveScaling, defaultRule_setScalingRule]

/-- When every latent variable that needs a rule has one, storing the effective ones changes nothing
exactly when all of them stand the check. -/
lemma resolveAll_eq_self_iff (h : ∀ l ∈ m.scaledLatents, ∃ rule, m.scalingRule? l = some rule) :
    m.resolveAll = m ↔ ∀ l ∈ m.scaledLatents, ∀ rule, m.scalingRule? l = some rule →
      rule.revalidate (m.candidates l) = rule := by
  constructor
  · intro hsame l hl rule hrule
    have hpass := scalingRule?_resolveAll_of_some hl hrule
    rw [hsame, hrule] at hpass
    exact (Option.some.inj hpass).symm
  · intro hsteady
    refine List.foldlRecOn (motive := (· = m)) _ _ rfl ?_
    rintro _ rfl l hl
    obtain ⟨rule, hrule⟩ := h l hl
    rw [resolveScaling, effectiveRule_of_some hrule, hsteady l hl rule hrule,
      setScalingRule_eq_self hrule]

/-! ### Relations once more -/

/-- A model has its relations, unless some are stored or no facet has a mode. -/
def HasIndicators (m : Model) : Prop :=
  m.configuration.indicators.isEmpty = true → m.configuration.modes.isEmpty = false →
    m.configuration.indicators = m.indicators

/-- A model that has its relations is given no others. -/
lemma HasIndicators.withIndicators_eq_self (h : m.HasIndicators) : m.withIndicators = m := by
  unfold withIndicators
  split
  · next hmissing =>
    simp only [Bool.and_eq_true, Bool.not_eq_true'] at hmissing
    rw [← h hmissing.1 hmissing.2]
  · rfl

/-- A model has its relations once they have been filled in. -/
lemma hasIndicators_withIndicators (m : Model) : m.withIndicators.HasIndicators := by
  unfold withIndicators
  split
  · exact fun _ _ => rfl
  · next hpresent =>
    intro hempty hmodes
    simp [hempty, hmodes] at hpresent

/-- Relations do not depend on stored rules. -/
lemma HasIndicators.setScalingRule (h : m.HasIndicators) (latent : Latent) (rule : ScalingRule) :
    (m.setScalingRule latent rule).HasIndicators := by
  cases latent <;> exact h

/-- A loaded model has its relations, since the rules that are stored last are no part of them. -/
lemma hasIndicators_upgrade (m : Model) : m.upgrade.HasIndicators :=
  resolveAll_of_setScalingRule _ (fun _ _ _ hn => hn.setScalingRule _ _)
    (hasIndicators_withIndicators _)

/-! ### What the rules of a loaded model are made from -/

/-- Two models from which the same rules are made. -/
structure SameRules (m n : Model) : Prop where
  scaledLatents : n.scaledLatents = m.scaledLatents
  scalingRule? : n.scalingRule? = m.scalingRule?
  candidates : n.candidates = m.candidates
  defaultRule : n.defaultRule = m.defaultRule

/-- Three models in a row, of which neighbours have the same rules, all have the same. -/
lemma SameRules.trans {o : Model} (h : SameRules m n) (h' : SameRules n o) : SameRules m o :=
  ⟨h'.scaledLatents.trans h.scaledLatents, h'.scalingRule?.trans h.scalingRule?,
    h'.candidates.trans h.candidates, h'.defaultRule.trans h.defaultRule⟩

/-- A model has the same rules as itself. -/
lemma sameRules_refl (m : Model) : SameRules m m :=
  ⟨rfl, rfl, rfl, rfl⟩

/-- Creating slots changes no rule, since blank global items are no candidates. -/
lemma sameRules_withSlots (m : Model) (latent : Latent) : SameRules m (m.withSlots latent) where
  scaledLatents := scaledLatents_withSlots m latent
  scalingRule? := funext fun other => scalingRule?_withSlots m latent other
  candidates := funext fun other => candidates_withSlots m latent other
  defaultRule := by
    funext other
    have hfacets : (m.withSlots latent).emittedFacets = m.emittedFacets :=
      emittedFacets_congr (by simp) (by simp) (by simp)
    have hmode : ∀ id, (m.withSlots latent).facetMode? id = m.facetMode? id := by
      simp [facetMode?]
    simp only [Model.defaultRule, preferredFacet?, hfacets, hmode, mode?_withSlots,
      candidates_withSlots]

/-- Creating the slots of all formative latent variables changes no rule. -/
lemma sameRules_withAllSlots (m : Model) : SameRules m m.withAllSlots := by
  have hfacets : SameRules m (m.formativeFacets.foldl withSlots m) := by
    refine List.foldlRecOn (motive := SameRules m) _ _ m.sameRules_refl ?_
    intro n hn latent _
    exact hn.trans (n.sameRules_withSlots latent)
  unfold withAllSlots
  dsimp only
  split
  · exact hfacets.trans (sameRules_withSlots _ _)
  · exact hfacets

/-- Filling in the relations changes no rule. -/
lemma sameRules_withIndicators (m : Model) : SameRules m m.withIndicators := by
  unfold withIndicators
  split
  · refine ⟨rfl, ?_, ?_, ?_⟩ <;>
      · funext latent
        cases latent <;> rfl
  · exact m.sameRules_refl

/-- Storing all rules changes nothing about which latent variables need one. -/
lemma scaledLatents_resolveAll (m : Model) : m.resolveAll.scaledLatents = m.scaledLatents := by
  refine resolveAll_of_setScalingRule (P := fun n => n.scaledLatents = m.scaledLatents) m ?_ rfl
  intro n latent rule hn
  rw [scaledLatents_setScalingRule, hn]

/-- Storing all rules leaves the candidates alone. -/
lemma candidates_resolveAll (m : Model) (latent : Latent) :
    m.resolveAll.candidates latent = m.candidates latent := by
  refine resolveAll_of_setScalingRule (P := fun n => n.candidates latent = m.candidates latent) m
    ?_ rfl
  intro n other rule hn
  rw [candidates_setScalingRule, hn]

/-! ### Loading again -/

/-- A latent variable is unsteady when it has no rule, gets its default once, and that default names
a blank reference other than the first candidate. -/
structure IsUnsteady (m : Model) (latent : Latent) : Prop where
  unruled : m.scalingRule? latent = none
  once : m.scaledLatents.count latent = 1
  blank : (m.defaultRule latent).IsUnsteady (m.candidates latent)

/-- The rule that storing effective rules leaves for a latent variable stands the check exactly when
the latent variable is not unsteady. -/
lemma exists_scalingRule?_resolveAll (h : latent ∈ m.scaledLatents) :
    ∃ rule, m.resolveAll.scalingRule? latent = some rule ∧
      (rule.revalidate (m.candidates latent) = rule ↔ ¬ m.IsUnsteady latent) := by
  have hslot : ∀ l ∈ m.scaledLatents, l.slot = latent.slot → l = latent :=
    fun l hl hs => eq_of_slot_eq hl h hs
  cases hrule : m.scalingRule? latent with
  | some rule =>
    refine ⟨_, scalingRule?_resolveAll_of_some h hrule, ?_⟩
    exact iff_of_true (ScalingRule.revalidate_revalidate _ _)
      fun hunsteady => by simp [hunsteady.unruled] at hrule
  | none =>
    refine ⟨_, scalingRule?_foldl_of_none hslot hrule h, ?_⟩
    split
    · next honce =>
      rw [(m.isAdmissible_defaultRule latent).revalidate_eq_self_iff, not_iff_not]
      exact ⟨fun hblank => ⟨hrule, honce, hblank⟩, IsUnsteady.blank⟩
    · next hagain =>
      exact iff_of_true (ScalingRule.revalidate_revalidate _ _)
        fun hunsteady => hagain hunsteady.once

/-- Storing effective rules twice is storing them once, exactly when no latent variable is
unsteady. -/
lemma resolveAll_resolveAll_eq_iff (m : Model) :
    m.resolveAll.resolveAll = m.resolveAll ↔ ∀ l ∈ m.scaledLatents, ¬ m.IsUnsteady l := by
  have hstored : ∀ l ∈ m.resolveAll.scaledLatents,
      ∃ rule, m.resolveAll.scalingRule? l = some rule := by
    intro l hl
    rw [scaledLatents_resolveAll] at hl
    obtain ⟨rule, hrule, -⟩ := exists_scalingRule?_resolveAll hl
    exact ⟨rule, hrule⟩
  rw [resolveAll_eq_self_iff hstored, scaledLatents_resolveAll]
  refine forall₂_congr fun l hl => ?_
  obtain ⟨rule, hrule, hsteady⟩ := exists_scalingRule?_resolveAll hl
  rw [candidates_resolveAll, ← hsteady, hrule]
  simp

/-- Of a loaded model, a second pass can change the rules only. -/
lemma upgrade_upgrade (m : Model) : m.upgrade.upgrade = m.upgrade.resolveAll := by
  have hslots : m.upgrade.withAllSlots = m.upgrade := m.hasSlots_upgrade.withAllSlots_eq_self
  have hindicators : m.upgrade.withIndicators = m.upgrade :=
    m.hasIndicators_upgrade.withIndicators_eq_self
  rw [upgrade, hslots, hindicators]

/-- A model that has been loaded once is stable exactly when no latent variable is unsteady. -/
lemma upgrade_upgrade_eq_iff (m : Model) :
    m.upgrade.upgrade = m.upgrade ↔ ∀ l ∈ m.scaledLatents, ¬ m.IsUnsteady l := by
  have hsame : SameRules m m.withAllSlots.withIndicators :=
    m.sameRules_withAllSlots.trans (sameRules_withIndicators _)
  have hunsteady : ∀ l, m.withAllSlots.withIndicators.IsUnsteady l ↔ m.IsUnsteady l := by
    intro l
    constructor
    · rintro ⟨hrule, honce, hblank⟩
      rw [hsame.scalingRule?] at hrule
      rw [hsame.scaledLatents] at honce
      rw [hsame.defaultRule, hsame.candidates] at hblank
      exact ⟨hrule, honce, hblank⟩
    · rintro ⟨hrule, honce, hblank⟩
      refine ⟨?_, ?_, ?_⟩
      · rwa [hsame.scalingRule?]
      · rwa [hsame.scaledLatents]
      · rwa [hsame.defaultRule, hsame.candidates]
  rw [upgrade_upgrade, upgrade, resolveAll_resolveAll_eq_iff, hsame.scaledLatents]
  simp only [hunsteady]

/-- A second pass leaves nothing to be done. -/
lemma upgrade_upgrade_upgrade (m : Model) : m.upgrade.upgrade.upgrade = m.upgrade.upgrade := by
  rw [upgrade_upgrade_eq_iff]
  intro latent hl hunsteady
  have hidentified : m.upgrade.IsIdentified := isIdentified_resolveAll _
  obtain ⟨rule, hrule, -⟩ := hidentified latent hl
  rw [hunsteady.unruled] at hrule
  cases hrule

/-- Loading a loaded model again yields the same model with nothing upgraded, exactly when the model
as it was stored has no unsteady latent variable: one without a rule whose default names a reference
with a blank id other than that of the first candidate. -/
theorem load_load_eq_iff (instrument : Instrument) (stored : Option Configuration) :
    load (load instrument stored).1.instrument (some (load instrument stored).1.configuration) =
        ((load instrument stored).1, false) ↔
      ∀ latent ∈ scaledLatents ⟨instrument, stored.getD {}⟩,
        ¬ IsUnsteady ⟨instrument, stored.getD {}⟩ latent := by
  rw [← upgrade_upgrade_eq_iff]
  constructor
  · intro h
    exact congrArg Prod.fst h
  · intro h
    have hload : load (load instrument stored).1.instrument
        (some (load instrument stored).1.configuration) =
          ((load instrument stored).1.upgrade,
            (load instrument stored).1.upgrade.configuration !=
              (load instrument stored).1.configuration) := rfl
    have hsame : (load instrument stored).1.upgrade = (load instrument stored).1 := h
    rw [hload, hsame, bne_self_eq_false]

/-- An instrument with a single facet and no items. -/
def bareFacet : Instrument :=
  { facets := [{ id := "f" }] }

/-- A configuration in which that facet is formative, and the shorter one of its two global items
has a blank id. -/
def blankShorter : Configuration where
  modes := (∅ : Table Mode).insert "f" .formative
  globals := (∅ : Table (List GlobalItem)).insert "f" [⟨"a", "a longer text"⟩, ⟨" ", "short"⟩]

/-- The first pass makes the global item with the blank id the reference, and the second one puts
the other in its place. -/
theorem load_load_blankShorter :
    ∃ m₁ upgraded m₂, load bareFacet (some blankShorter) = (m₁, upgraded) ∧
      load m₁.instrument (some m₁.configuration) = (m₂, true) ∧ m₂ ≠ m₁ ∧
      m₁.scalingRule? (.facet "f") = some (.fixingLoadingOf " ") ∧
      m₂.scalingRule? (.facet "f") = some (.fixingLoadingOf "a") := by
  have hfirst : (upgrade ⟨bareFacet, blankShorter⟩).scalingRule? (.facet "f") =
      some (.fixingLoadingOf " ") := by cbv
  have hsecond : (upgrade ⟨bareFacet, blankShorter⟩).upgrade.scalingRule? (.facet "f") =
      some (.fixingLoadingOf "a") := by cbv
  have hne : (upgrade ⟨bareFacet, blankShorter⟩).upgrade.configuration ≠
      (upgrade ⟨bareFacet, blankShorter⟩).configuration := by
    intro heq
    have hrules : some (ScalingRule.fixingLoadingOf "a") = some (.fixingLoadingOf " ") := by
      rw [← hsecond, ← hfirst]
      simp only [scalingRule?, heq]
    revert hrules
    decide
  have hload : load (upgrade ⟨bareFacet, blankShorter⟩).instrument
      (some (upgrade ⟨bareFacet, blankShorter⟩).configuration) =
        ((upgrade ⟨bareFacet, blankShorter⟩).upgrade, true) := by
    rw [← bne_iff_ne.mpr hne]
    rfl
  exact ⟨_, _, _, rfl, hload, fun heq => hne (congrArg configuration heq), hfirst, hsecond⟩

end Model

end Psychometrics
