import Mathlib
import Psychometrics.Proofs.Scaling.Identified
import Psychometrics.Proofs.Session.Run

/-!
# Rules after an edit

Edits differ in what they check and in what they change, but to a latent variable that needs a
scaling rule after an edit one of a few things has happened (`Model.Follows`).  As a rule the edit
has left its stored rule and its candidates alone, or has left it with a rule that its candidates
admit.  There are two exceptions:

* choosing a reference checks that it is a candidate, but not that there are enough candidates,
* choosing the mode of a facet stores a rule under the id of the facet, even in a unidimensional
  model, where a facet that bears the reserved key shares its slot with the single latent variable.

`Model.follows_result` says that this is all, also for edits that are refused.  What is to be shown
of stored rules and their candidates throughout a session is shown case by case.
-/

namespace Psychometrics

namespace Model

variable {m n : Model} {latent other : Latent}

/-- A latent variable that needs a rule has a mode. -/
lemma isSome_mode?_of_mem_scaledLatents (h : latent ∈ m.scaledLatents) :
    (m.mode? latent).isSome = true := by
  have htakes := (mem_scaledLatents_iff.mp h).2
  cases latent with
  | unidim => rfl
  | facet id => exact (Bool.and_eq_true _ _ ▸ htakes).2
  | secondOrder => exact (Bool.and_eq_true _ _ ▸ htakes).2

/-! ### Choosing a mode -/

/-- A model in which the mode of a facet has been chosen, before any rule is brought up to date. -/
def withMode (m : Model) (id : String) (mode : Mode) : Model :=
  if mode = .formative then (m.setFacetMode id (some mode)).withSlots (.facet id)
  else m.setFacetMode id (some mode)

section WithMode

variable (m : Model) (id : String) (mode : Mode)

/-- Choosing the mode of a facet that exists stores its effective rule and that of the higher-order
construct. -/
lemma result_mode (h : (m.instrument.facet? id).isSome = true) :
    (Edit.mode id mode).result m =
      ((m.withMode id mode).resolveScaling (.facet id)).refreshSecondOrder := by
  have hnone : ¬ (m.instrument.facet? id).isNone = true := by
    rw [← Option.not_isSome, h]
    decide
  simp only [Edit.result, Edit.apply, chooseMode, if_neg hnone, withMode]
  split <;> rfl

/-- Choosing the mode of a facet that does not exist changes nothing. -/
lemma result_mode_of_unknown (h : ¬ (m.instrument.facet? id).isSome = true) :
    (Edit.mode id mode).result m = m := by
  have hnone : (m.instrument.facet? id).isNone = true := by simpa using h
  simp only [Edit.result, Edit.apply, chooseMode, if_pos hnone, finalState]

/-- A chosen mode leaves the instrument alone. -/
@[simp] lemma instrument_withMode : (m.withMode id mode).instrument = m.instrument := by
  have h : (m.setFacetMode id (some mode)).instrument = m.instrument := rfl
  unfold withMode
  split <;> simp [h]

/-- A chosen mode leaves the exclusions alone. -/
@[simp] lemma excluded_withMode :
    (m.withMode id mode).configuration.excluded = m.configuration.excluded := by
  have h : (m.setFacetMode id (some mode)).configuration.excluded = m.configuration.excluded :=
    rfl
  unfold withMode
  split <;> simp [h]

/-- A chosen mode is stored in the table of modes. -/
@[simp] lemma modes_withMode :
    (m.withMode id mode).configuration.modes = m.configuration.modes.insert id mode := by
  unfold withMode
  split <;> simp

/-- A chosen mode leaves the stored rules alone. -/
@[simp] lemma scalingRule?_withMode (latent : Latent) :
    (m.withMode id mode).scalingRule? latent = m.scalingRule? latent := by
  have h : (m.setFacetMode id (some mode)).scalingRule? latent = m.scalingRule? latent := by
    cases latent <;> rfl
  unfold withMode
  split <;> simp [h]

/-- The slots that come with a chosen mode are blank. -/
@[simp] lemma presentGlobals_withMode (latent : Latent) :
    (m.withMode id mode).presentGlobals latent = m.presentGlobals latent := by
  have h : (m.setFacetMode id (some mode)).presentGlobals latent = m.presentGlobals latent := by
    cases latent <;> rfl
  unfold withMode
  split <;> simp [h]

/-- A chosen mode is that of its facet, and other latent variables keep theirs. -/
lemma mode?_withMode (latent : Latent) :
    (m.withMode id mode).mode? latent =
      if latent = .facet id then some mode else m.mode? latent := by
  cases latent with
  | unidim => rfl
  | facet other =>
    simp only [mode?, facetMode?, modes_withMode, Std.ExtTreeMap.getElem?_insert,
      Std.LawfulEqCmp.compare_eq_iff_eq, Latent.facet.injEq, eq_comm (a := id)]
  | secondOrder =>
    unfold withMode
    split <;> simp [mode?, setFacetMode]

/-- A chosen mode leaves the number of dimensions alone. -/
lemma isUnidimensional_withMode : (m.withMode id mode).isUnidimensional = m.isUnidimensional := by
  simp [isUnidimensional]

end WithMode

/-- Choosing the mode of a facet leaves the candidates of other first-order latent variables. -/
lemma candidates_withMode {latent : Latent} (hs : latent ≠ .secondOrder) {id : String}
    (hne : latent ≠ .facet id) (mode : Mode) :
    (m.withMode id mode).candidates latent = m.candidates latent := by
  cases latent with
  | unidim => exact candidates_unidim_congr (by simp) (by simp)
  | secondOrder => exact absurd rfl hs
  | facet other =>
    have hid : id ≠ other := fun h => hne (by rw [h])
    exact candidates_facet_congr (by simp)
      (by simp [Std.ExtTreeMap.getElem?_insert, hid]) (by simp) (by simp)

/-- A latent variable other than the facet needed a rule before its mode was chosen. -/
lemma mem_scaledLatents_of_mem_withMode {latent : Latent} {id : String} (hne : latent ≠ .facet id)
    {mode : Mode} (h : latent ∈ (m.withMode id mode).scaledLatents) : latent ∈ m.scaledLatents := by
  rw [mem_scaledLatents_iff] at h ⊢
  cases latent <;> simpa [takesPart, isKnown, isUnidimensional, mode?_withMode, hne] using h

/-- The latent variable of an item: the single one in a unidimensional model, else a facet. -/
lemma itemLatent?_eq_some {itemId : Int64} {latent : Latent}
    (h : m.itemLatent? itemId = some latent) :
    (m.isUnidimensional = true ∧ latent = .unidim) ∨
      (m.isUnidimensional = false ∧ ∃ id, latent = .facet id) := by
  unfold itemLatent? at h
  split at h
  · cases h
  · split at h
    · next hu => exact .inl ⟨hu, (Option.some.inj h).symm⟩
    · next hu =>
      refine .inr ⟨by simpa using hu, ?_⟩
      split at h
      · cases h
      · split at h
        · exact ⟨_, (Option.some.inj h).symm⟩
        · cases h

/-- A change of the exclusions of the latent variable of an item is no concern of any other
first-order one that needs a rule. -/
lemma candidates_of_exclusions {itemId : Int64} {latent other : Latent}
    (hlatent : m.itemLatent? itemId = some latent) (ho : other ∈ m.scaledLatents)
    (hs : other ≠ .secondOrder) (hne : latent ≠ other) {excluded : Table ItemSet}
    (hother : ∀ key, latent.key ≠ key → excluded[key]? = m.configuration.excluded[key]?) :
    candidates { m with configuration.excluded := excluded } other = m.candidates other ∧
      latent.slot ≠ other.slot := by
  rcases itemLatent?_eq_some hlatent with ⟨hu, rfl⟩ | ⟨hu, id, rfl⟩
  · exact absurd (eq_unidim_of_mem_scaledLatents hu ho).symm hne
  · cases other with
    | unidim => simp [isUnidimensional_of_unidim_mem ho] at hu
    | secondOrder => exact absurd rfl hs
    | facet other =>
      have hid : id ≠ other := fun hid => hne (by rw [hid])
      exact ⟨candidates_facet_congr rfl rfl (hother other hid) rfl,
        by simpa [Latent.slot, Latent.key] using hid⟩

/-- Excluding an item or taking it back changes the exclusions under one key only. -/
lemma exists_exclusions_eq (m : Model) (key : String) (itemId : Int64) (excluded : Bool) :
    ∃ ids : Table ItemSet, (if excluded then m.exclude key itemId else m.restore key itemId) =
        { m with configuration.excluded := ids } ∧
      ∀ other, key ≠ other → ids[other]? = m.configuration.excluded[other]? := by
  cases excluded with
  | true => exact ⟨_, rfl, fun other hother => m.excluded_exclude_of_ne hother itemId⟩
  | false =>
    obtain ⟨ids, hids⟩ := m.exists_restore_eq key itemId
    refine ⟨ids, by simpa using hids, fun other hother => ?_⟩
    rw [← m.excluded_restore_of_ne hother itemId, hids]

/-! ### Slots for global items -/

/-- Replacing global items changes nothing about which latent variables need a rule. -/
lemma scaledLatents_setGlobals (m : Model) (latent : Latent) (items : List GlobalItem) :
    (m.setGlobals latent items).scaledLatents = m.scaledLatents := by
  cases latent <;> rfl

/-- Creating slots changes nothing about which latent variables need a rule. -/
lemma scaledLatents_withSlots (m : Model) (latent : Latent) :
    (m.withSlots latent).scaledLatents = m.scaledLatents := by
  rcases m.withSlots_eq latent with h | ⟨-, h⟩ <;> simp [h, scaledLatents_setGlobals]

/-- Creating slots leaves all candidates alone. -/
lemma candidates_withSlots (m : Model) (latent other : Latent) :
    (m.withSlots latent).candidates other = m.candidates other := by
  cases other with
  | unidim => exact candidates_unidim_congr (by simp) (by simp)
  | facet id => exact candidates_facet_congr (by simp) (by simp) (by simp) (by simp)
  | secondOrder =>
    exact candidates_secondOrder_congr (emittedFacets_congr (by simp) (by simp) (by simp))
      (by simp) (by simp)

/-- Writing the global items of one latent variable leaves the candidates of any other alone. -/
lemma candidates_setGlobals_of_ne {latent other : Latent} (h : latent ≠ other)
    (items : List GlobalItem) :
    (m.setGlobals latent items).candidates other = m.candidates other := by
  have hpresent : (m.setGlobals latent items).presentGlobals other = m.presentGlobals other := by
    rw [presentGlobals, presentGlobals, globals, globals, m.globals?_setGlobals_of_ne items h]
  cases other with
  | unidim => exact candidates_unidim_congr (by simp) (by simp)
  | facet id => exact candidates_facet_congr (by simp) (by simp) (by simp) hpresent
  | secondOrder =>
    exact candidates_secondOrder_congr (emittedFacets_congr (by simp) (by simp) (by simp))
      (by simp) hpresent
/-! ### Choosing a rule -/

/-- The rule that fixes a loading of a latent variable with enough candidates is admissible. -/
lemma isAdmissible_loadingRule {latent : Latent}
    (enough : minCandidates ≤ (m.candidates latent).length) :
    (m.loadingRule latent).IsAdmissible (m.candidates latent) := by
  unfold loadingRule
  split
  · next rule hrule =>
    split
    · next hkept =>
      obtain ⟨id, hid, hc⟩ := (Option.any_eq_true _ _).mp hkept
      cases rule with
      | fixVariance => exact .fixVariance
      | fixLoading r =>
        rw [ScalingRule.reference_fixLoading_eq_some hid]
        exact ScalingRule.isAdmissible_fixingLoadingOf_iff.mpr ⟨enough, hc⟩
    · exact m.isAdmissible_defaultRule latent
  · exact m.isAdmissible_defaultRule latent

/-- Choosing a candidate as the reference stores a rule that fixes its loading. -/
lemma result_reference {reference : String} (hactive : latent ∈ m.scaledLatents)
    (hcandidate : ScalingRule.isCandidate (m.candidates latent) reference = true) :
    (Edit.reference latent reference).result m =
      m.setScalingRule latent (.fixingLoadingOf reference) := by
  simp only [Edit.result, Edit.apply, chooseReference, checkActive_eq_ok_iff.mpr hactive,
    if_pos hcandidate, finalState]

/-- A choice of a reference that is refused changes nothing. -/
lemma result_reference_of_refused {reference : String}
    (h : ¬ (latent ∈ m.scaledLatents ∧
      ScalingRule.isCandidate (m.candidates latent) reference = true)) :
    (Edit.reference latent reference).result m = m := by
  simp only [Edit.result, Edit.apply, chooseReference]
  cases hc : m.checkActive latent with
  | error e => rfl
  | ok =>
    have hcandidate : ¬ ScalingRule.isCandidate (m.candidates latent) reference = true :=
      fun hcandidate => h ⟨checkActive_eq_ok_iff.mp hc, hcandidate⟩
    simp only [if_neg hcandidate, finalState]

/-! ### Carried latent variables -/

/-- A latent variable is carried from one model to another when it needed a rule and its rule and
its candidates are the same, or when it is settled in the other model. -/
inductive Carries (m n : Model) (latent : Latent) : Prop
  | kept (scaled : latent ∈ m.scaledLatents)
      (rule : n.scalingRule? latent = m.scalingRule? latent)
      (candidates : n.candidates latent = m.candidates latent)
  | settled (settled : n.IsSettled latent)

/-- A latent variable that needs a rule is carried over when nothing changes. -/
lemma carries_refl (h : latent ∈ m.scaledLatents) : m.Carries m latent :=
  .kept h rfl rfl

/-- Storing a rule in another slot makes no difference. -/
lemma Carries.setScalingRule (h : m.Carries n other) (hne : latent.slot ≠ other.slot)
    (rule : ScalingRule) : m.Carries (n.setScalingRule latent rule) other := by
  cases h with
  | kept scaled hrule hcandidates =>
    exact .kept scaled ((scalingRule?_setScalingRule_of_slot_ne hne rule).trans hrule)
      ((candidates_setScalingRule ..).trans hcandidates)
  | settled hsettled => exact .settled (hsettled.setScalingRule hne rule)

/-- Storing the effective rule of a latent variable settles it. -/
lemma carries_resolveScaling (h : other ≠ latent → m.Carries n other ∧ latent.slot ≠ other.slot) :
    m.Carries (n.resolveScaling latent) other := by
  by_cases heq : other = latent
  · subst heq
    exact .settled (n.isSettled_resolveScaling_self _)
  · exact (h heq).1.setScalingRule (h heq).2 _

/-- Storing a rule for a latent variable that needs one leaves the others alone. -/
lemma carries_setScalingRule_of_ne (hl : latent ∈ m.scaledLatents) (ho : other ∈ m.scaledLatents)
    (hne : other ≠ latent) (rule : ScalingRule) :
    m.Carries (m.setScalingRule latent rule) other :=
  (carries_refl ho).setScalingRule (fun hslot => hne (eq_of_slot_eq hl ho hslot).symm) rule

/-- Storing an admissible rule for a latent variable that needs one settles it. -/
lemma carries_setScalingRule (hl : latent ∈ m.scaledLatents) (ho : other ∈ m.scaledLatents)
    {rule : ScalingRule} (hadm : rule.IsAdmissible (m.candidates latent)) :
    m.Carries (m.setScalingRule latent rule) other := by
  by_cases heq : other = latent
  · subst heq
    exact .settled (isSettled_setScalingRule_self_iff.mpr hadm)
  · exact carries_setScalingRule_of_ne hl ho heq rule

/-- Bringing the rule of the higher-order construct up to date settles it. -/
lemma carries_refreshSecondOrder (ho : other ∈ n.scaledLatents)
    (h : other ≠ .secondOrder → m.Carries n other) : m.Carries n.refreshSecondOrder other := by
  by_cases hs : other = .secondOrder
  · subst hs
    have hmode : n.configuration.secondOrder.mode.isSome = true :=
      isSome_mode?_of_mem_scaledLatents ho
    rw [refreshSecondOrder, if_pos hmode]
    exact .settled (n.isSettled_resolveScaling_self _)
  · cases h hs with
    | kept scaled hrule hcandidates =>
      exact .kept scaled ((scalingRule?_refreshSecondOrder hs).trans hrule)
        ((candidates_refreshSecondOrder ..).trans hcandidates)
    | settled hsettled =>
      exact .settled (hsettled.congr (scalingRule?_refreshSecondOrder hs)
        (candidates_refreshSecondOrder ..))

/-! ### What an edit does to a latent variable -/

/-- What can have happened to a latent variable that needs a rule after an edit. -/
inductive Follows (m : Model) : Edit → Latent → Prop
  | carried {e : Edit} {latent : Latent} (carries : m.Carries (e.result m) latent) :
      Follows m e latent
  /-- One of its candidates has been chosen as its reference, however few there are. -/
  | chosen {latent : Latent} {reference : String} (scaled : latent ∈ m.scaledLatents)
      (candidate : ScalingRule.isCandidate (m.candidates latent) reference = true) :
      Follows m (.reference latent reference) latent
  /-- The single latent variable has got the effective rule of the facet with the reserved key. -/
  | reserved {mode : Mode} (single : m.isUnidimensional = true)
      (known : (m.instrument.facet? Latent.unidimKey).isSome = true) :
      Follows m (.mode Latent.unidimKey mode) .unidim

/-- The mode of a facet with the reserved key, in a unidimensional model: its effective rule is
stored for the single latent variable, whose candidates stay as they are. -/
lemma unidim_of_mode (hknown : (m.instrument.facet? Latent.unidimKey).isSome = true) (mode : Mode) :
    ((Edit.mode Latent.unidimKey mode).result m).scalingRule? .unidim =
        some ((m.withMode Latent.unidimKey mode).effectiveRule (.facet Latent.unidimKey)) ∧
      ((Edit.mode Latent.unidimKey mode).result m).candidates .unidim = m.candidates .unidim := by
  rw [result_mode m _ mode hknown]
  constructor
  · rw [scalingRule?_refreshSecondOrder (by simp), scalingRule?_eq_of_slot_eq
      (show Latent.unidim.slot = (Latent.facet Latent.unidimKey).slot from rfl)]
    exact scalingRule?_setScalingRule_self ..
  · simpa using candidates_withMode (by simp) (by simp) mode

/-- Choosing a mode carries latent variables over, unless the facet has the reserved key, under
which the single latent variable keeps its rule. -/
lemma follows_mode {id : String} {mode : Mode}
    (ho : other ∈ ((Edit.mode id mode).result m).scaledLatents) :
    m.Follows (.mode id mode) other := by
  by_cases hknown : (m.instrument.facet? id).isSome = true
  · rw [result_mode m id mode hknown, scaledLatents_refreshSecondOrder,
      scaledLatents_resolveScaling] at ho
    by_cases hreserved : other = .unidim ∧ id = Latent.unidimKey
    · obtain ⟨rfl, rfl⟩ := hreserved
      refine .reserved ?_ hknown
      rw [← isUnidimensional_withMode]
      exact isUnidimensional_of_unidim_mem ho
    · refine .carried ?_
      rw [result_mode m id mode hknown]
      refine carries_refreshSecondOrder (by simpa using ho) fun hs =>
        carries_resolveScaling fun hne => ⟨?_, fun hslot => ?_⟩
      · exact .kept (mem_scaledLatents_of_mem_withMode hne ho) (by simp)
          (candidates_withMode hs hne mode)
      · cases other with
        | secondOrder => exact hs rfl
        | facet id' => exact hne (by simpa [Latent.slot, Latent.key, eq_comm] using hslot)
        | unidim => exact hreserved ⟨rfl, by simpa [Latent.slot, Latent.key] using hslot⟩
  · rw [result_mode_of_unknown m id mode hknown] at ho
    refine .carried ?_
    rw [result_mode_of_unknown m id mode hknown]
    exact carries_refl ho

/-- Choosing a method carries latent variables over: it settles one of them and leaves the others
alone. -/
lemma follows_method {method : ScalingMethod}
    (ho : other ∈ ((Edit.method latent method).result m).scaledLatents) :
    m.Follows (.method latent method) other := by
  refine .carried ?_
  simp only [Edit.result, Edit.apply, chooseMethod] at ho ⊢
  cases hc : m.checkActive latent with
  | error e =>
    rw [hc] at ho
    exact carries_refl ho
  | ok =>
    have hactive := checkActive_eq_ok_iff.mp hc
    rw [hc] at ho
    cases method with
    | fixVariance =>
      exact carries_setScalingRule hactive (by simpa [finalState] using ho) .fixVariance
    | fixLoading =>
      by_cases hfew : (m.candidates latent).length < minCandidates
      · simp only [if_pos hfew] at ho ⊢
        exact carries_refl ho
      · simp only [if_neg hfew] at ho ⊢
        exact carries_setScalingRule hactive (by simpa [finalState] using ho)
          (isAdmissible_loadingRule (not_lt.mp hfew))

/-- Choosing a reference carries latent variables over, apart from the one that it is chosen for. -/
lemma follows_reference {reference : String}
    (ho : other ∈ ((Edit.reference latent reference).result m).scaledLatents) :
    m.Follows (.reference latent reference) other := by
  by_cases h : latent ∈ m.scaledLatents ∧
      ScalingRule.isCandidate (m.candidates latent) reference = true
  · have hresult := result_reference h.1 h.2
    rw [hresult, scaledLatents_setScalingRule] at ho
    by_cases heq : other = latent
    · subst heq
      exact .chosen h.1 h.2
    · refine .carried ?_
      rw [hresult]
      exact carries_setScalingRule_of_ne h.1 ho heq _
  · have hrefused := result_reference_of_refused h
    rw [hrefused] at ho
    refine .carried ?_
    rw [hrefused]
    exact carries_refl ho

/-- An exclusion carries latent variables over: those with other candidates are settled. -/
lemma follows_exclusion {itemId : Int64} {excluded : Bool}
    (ho : other ∈ ((Edit.exclusion itemId excluded).result m).scaledLatents) :
    m.Follows (.exclusion itemId excluded) other := by
  refine .carried ?_
  simp only [Edit.result, Edit.apply, chooseExclusion] at ho ⊢
  cases hlatent : m.itemLatent? itemId with
  | none =>
    rw [hlatent] at ho
    exact carries_refl ho
  | some latent =>
    rw [hlatent] at ho
    obtain ⟨ids, hids, hother⟩ := m.exists_exclusions_eq latent.key itemId excluded
    dsimp only [finalState] at ho ⊢
    rw [hids] at ho ⊢
    set n : Model := { m with configuration.excluded := ids } with hn
    rw [scaledLatents_refreshSecondOrder] at ho
    have hscaled : other ∈ m.scaledLatents := by
      split at ho
      · rwa [scaledLatents_resolveScaling] at ho
      · exact ho
    refine carries_refreshSecondOrder ho fun hs => ?_
    have hkept : other ≠ latent → m.Carries n other ∧ latent.slot ≠ other.slot := by
      intro hne
      obtain ⟨hcandidates, hslot⟩ := candidates_of_exclusions hlatent hscaled hs hne.symm hother
      exact ⟨.kept hscaled (by cases other <;> rfl) hcandidates, hslot⟩
    split
    · exact carries_resolveScaling hkept
    · next hnone =>
      -- A latent variable without a mode needs no rule.
      refine (hkept ?_).1
      rintro rfl
      exact hnone (isSome_mode?_of_mem_scaledLatents hscaled)

/-- Writing a global item carries latent variables over: its owner is settled. -/
lemma follows_globalText {index : Nat} {text : String}
    (ho : other ∈ ((Edit.globalText latent index text).result m).scaledLatents) :
    m.Follows (.globalText latent index text) other := by
  refine .carried ?_
  simp only [Edit.result, Edit.apply, writeGlobal] at ho ⊢
  cases hc : m.checkActive latent with
  | error e =>
    rw [hc] at ho
    exact carries_refl ho
  | ok =>
    have hactive := checkActive_eq_ok_iff.mp hc
    rw [hc] at ho
    dsimp only at ho ⊢
    split
    · next hmode =>
      rw [if_pos hmode] at ho
      exact carries_refl ho
    · next hmode =>
      rw [if_neg hmode] at ho
      have hslots : ∀ l ∈ m.scaledLatents, m.Carries (m.withSlots latent) l := fun l hl =>
        .kept hl (by simp) (candidates_withSlots m latent l)
      cases htext : (m.withSlots latent).setGlobalText? latent index text with
      | none =>
        rw [htext] at ho
        exact hslots other (by simpa [finalState, scaledLatents_withSlots] using ho)
      | some n =>
        -- The written slot is one of the global items of the latent variable.
        rw [htext] at ho
        obtain ⟨items, item, -, -, rfl⟩ := (setGlobalText?_eq_some_iff _).mp htext
        simp only [finalState, scaledLatents_resolveScaling, scaledLatents_setGlobals,
          scaledLatents_withSlots] at ho
        refine carries_resolveScaling fun hne =>
          ⟨.kept ho (by simp) ?_, fun hslot => hne (eq_of_slot_eq hactive ho hslot).symm⟩
        rw [candidates_setGlobals_of_ne hne.symm, candidates_withSlots]

/-- Choosing the mode of the higher-order construct settles it and carries the others over. -/
lemma follows_secondOrder {mode : Option Mode}
    (ho : other ∈ ((Edit.secondOrder mode).result m).scaledLatents) :
    m.Follows (.secondOrder mode) other := by
  refine .carried ?_
  have hkept : ∀ (settings : SecondOrder) (l : Latent), l ≠ .secondOrder →
      l ∈ scaledLatents { m with configuration.secondOrder := settings } →
        m.Carries { m with configuration.secondOrder := settings } l := by
    intro settings l hne hl
    rw [mem_scaledLatents_iff] at hl
    cases l with
    | secondOrder => exact absurd rfl hne
    | unidim => exact .kept (mem_scaledLatents_iff.mpr hl) rfl rfl
    | facet id => exact .kept (mem_scaledLatents_iff.mpr hl) rfl rfl
  simp only [Edit.result, Edit.apply, chooseSecondOrder] at ho ⊢
  cases mode with
  | none =>
    refine hkept {} other ?_ ho
    rintro rfl
    simpa [takesPart, mode?, finalState] using (mem_scaledLatents_iff.mp ho).2
  | some mode =>
    simp only [finalState, scaledLatents_resolveScaling] at ho
    refine carries_resolveScaling fun hne => ⟨?_, by cases other <;> simp_all [Latent.slot]⟩
    split
    · next hmode =>
      rw [if_pos hmode, scaledLatents_withSlots] at ho
      cases hkept _ other hne ho with
      | kept scaled hrule hcandidates =>
        exact .kept scaled (by simpa using hrule)
          ((candidates_withSlots ..).trans hcandidates)
      | settled hsettled => exact .settled (hsettled.congr (by simp) (candidates_withSlots ..))
    · next hmode =>
      rw [if_neg hmode] at ho
      exact hkept _ other hne ho

/-- What an edit, carried out or refused, does to a latent variable that needs a rule afterwards. -/
lemma follows_result {e : Edit} (ho : other ∈ (e.result m).scaledLatents) : m.Follows e other := by
  cases e with
  | mode id mode => exact follows_mode ho
  | method latent method => exact follows_method ho
  | reference latent reference => exact follows_reference ho
  | exclusion itemId excluded => exact follows_exclusion ho
  | globalText latent index text => exact follows_globalText ho
  | secondOrder mode => exact follows_secondOrder ho
  | shortCode code => exact .carried (.kept ho (by cases other <;> rfl) (by cases other <;> rfl))

end Model

end Psychometrics
