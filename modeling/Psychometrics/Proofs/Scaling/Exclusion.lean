import Mathlib
import Psychometrics.Proofs.Listing.Rules
import Psychometrics.Proofs.Scaling.Shrinking
import Psychometrics.Proofs.Scaling.Stored

/-!
# Rules after exclusions

Excluding an item brings the rule of its latent variable and that of the higher-order construct up
to date, so that rules are checked over and over while items are excluded one after the other.
Still the order makes no difference: two exclusions commute (`Model.HasRules.afterExclusion_comm`),
because a rule that is checked twice is as good as checked against the candidates that are left in
the end (`ScalingRule.revalidate_filter`).

A default rule, in contrast, would depend on the moment at which it is stored.  In a model with all
the rules it needs only the higher-order construct of a unidimensional model can still lack one, and
its candidates are no concern of the items, unless a facet bears the reserved key under which items
are excluded from the single latent variable.
-/

namespace Psychometrics

/-- Every latent variable but the higher-order construct keeps its rule under its key. -/
lemma Latent.slot_eq_some_key {latent : Latent} (h : latent ≠ .secondOrder) :
    latent.slot = some latent.key := by
  cases latent with
  | secondOrder => exact absurd rfl h
  | unidim => rfl
  | facet id => rfl

namespace Model

variable {m n : Model} {latent other l a b : Latent} {rule : ScalingRule} {i j : Int64}

/-! ### The model after an exclusion -/

/-- The model that an edit leaves in a session: if it is carried out, the relations are rebuilt. -/
def afterEdit (m : Model) (e : Edit) : Model :=
  match e.apply m with
  | .ok _ n => { n with configuration.indicators := n.indicators }
  | .error _ n => n

/-- The choices after an edit are those that the edit leaves, since relations are derived. -/
lemma choices_afterEdit (m : Model) (e : Edit) :
    (m.afterEdit e).choices = (e.result m).choices := by
  rw [afterEdit, Edit.result]
  cases e.apply m <;> rfl

/-- The model after an item has been excluded. -/
def afterExclusion (m : Model) (itemId : Int64) : Model :=
  m.afterEdit (.exclusion itemId true)

/-- Brings the rule of a latent variable up to date if it has a mode. -/
def refresh (m : Model) (latent : Latent) : Model :=
  if (m.mode? latent).isSome then m.resolveScaling latent else m

/-- The exclusion of an item that belongs nowhere is refused and changes nothing. -/
lemma afterExclusion_of_unknown (h : m.itemLatent? i = none) : m.afterExclusion i = m := by
  simp only [afterExclusion, afterEdit, Edit.apply, chooseExclusion, h]

/-- An exclusion that is carried out brings two rules up to date, the one of the latent variable
first, and rebuilds the relations. -/
lemma afterExclusion_of_known (h : m.itemLatent? i = some a) :
    m.afterExclusion i =
      { ((m.exclude a.key i).refresh a).refresh .secondOrder with
        configuration.indicators :=
          (((m.exclude a.key i).refresh a).refresh .secondOrder).indicators } := by
  simp only [afterExclusion, afterEdit, Edit.apply, chooseExclusion, h, if_true]
  rfl

/-- After an exclusion all rules are complete if they were before. -/
lemma HasCompleteRules.afterExclusion (h : m.HasCompleteRules) (itemId : Int64) :
    (m.afterExclusion itemId).HasCompleteRules := by
  rw [← hasCompleteRules_choices_iff, Model.afterExclusion, choices_afterEdit,
    hasCompleteRules_choices_iff]
  exact h.result _

/-! ### Everything but rules -/

/-- Models are equal when they agree on stored rules, on derived data and on everything else.  The
facet with the reserved key need not be considered, since it shares its slot. -/
lemma eq_of_rules_eq (h : m.unscaled = n.unscaled)
    (hrules : ∀ l, l ≠ .facet Latent.unidimKey → m.scalingRule? l = n.scalingRule? l)
    (hindicators : m.configuration.indicators = n.configuration.indicators)
    (hcompiled : m.configuration.compiled = n.configuration.compiled)
    (hupdated : m.configuration.updatedAt = n.configuration.updatedAt) : m = n := by
  have hscaling : m.configuration.scaling = n.configuration.scaling := by
    refine Std.ExtTreeMap.ext_getElem? fun key => ?_
    by_cases hkey : key = Latent.unidimKey
    · subst hkey
      exact hrules .unidim nofun
    · exact hrules (.facet key) fun heq => hkey (Latent.facet.inj heq)
  have hsecondOrder : m.configuration.secondOrder.scaling = n.configuration.secondOrder.scaling :=
    hrules .secondOrder nofun
  obtain ⟨mi, mm, ms, me, mg, ⟨mso1, mso2, mso3⟩, mc, _, _, _⟩ := m
  obtain ⟨ni, nm, ns, ne, ng, ⟨nso1, nso2, nso3⟩, nc, _, _, _⟩ := n
  simp only [unscaled, choices, Model.mk.injEq, Configuration.mk.injEq, SecondOrder.mk.injEq] at *
  simp_all

/-- Bringing a rule up to date changes nothing that is not about scaling. -/
lemma unscaled_refresh (m : Model) (latent : Latent) :
    (m.refresh latent).unscaled = m.unscaled := by
  unfold refresh
  split
  · exact unscaled_setScalingRule _ _ _
  · rfl

/-- Apart from scaling, an exclusion adds the item to those that are excluded. -/
lemma unscaled_afterExclusion (h : m.itemLatent? i = some a) :
    (m.afterExclusion i).unscaled = (m.exclude a.key i).unscaled := by
  rw [afterExclusion_of_known h]
  exact (unscaled_refresh _ _).trans (unscaled_refresh _ _)

/-- The candidates after an exclusion are those without the item, whatever the rules are. -/
lemma candidates_afterExclusion (h : m.itemLatent? i = some a) (l : Latent) :
    (m.afterExclusion i).candidates l = (m.exclude a.key i).candidates l :=
  eq_of_unscaled_eq (unscaled_afterExclusion h) (candidates · l) fun _ => by cases l <;> rfl

/-- Rules and exclusions are kept apart. -/
lemma unscaled_exclude (h : m.unscaled = n.unscaled) (key : String) (itemId : Int64) :
    (m.exclude key itemId).unscaled = (n.exclude key itemId).unscaled := by
  calc (m.exclude key itemId).unscaled = m.unscaled.exclude key itemId := rfl
    _ = n.unscaled.exclude key itemId := by rw [h]
    _ = (n.exclude key itemId).unscaled := rfl

/-- Exclusions commute before rules are brought up to date. -/
lemma exclude_exclude_comm (m : Model) (key other : String) (i j : Int64) :
    (m.exclude key i).exclude other j = (m.exclude other j).exclude key i := by
  have hset : ∀ key other i, (m.exclude key i).excludedFrom other =
      if key = other then (m.excludedFrom key).insert i else m.excludedFrom other := by
    intro key other i
    simp only [excludedFrom, exclude, Std.ExtTreeMap.getD_insert, Std.LawfulEqCmp.compare_eq_iff_eq]
  have htable : ((m.exclude key i).exclude other j).configuration.excluded =
      ((m.exclude other j).exclude key i).configuration.excluded := by
    have hexclude : ∀ (n : Model) (key : String) (i : Int64) (k : String),
        (n.exclude key i).configuration.excluded[k]? =
          if key = k then some ((n.excludedFrom key).insert i)
          else n.configuration.excluded[k]? := by
      intro n key i k
      simp [exclude, Std.ExtTreeMap.getElem?_insert]
    refine Std.ExtTreeMap.ext_getElem? fun k => ?_
    simp only [hexclude, hset]
    -- Under different keys the two insertions do not meet.
    by_cases hkey : key = other
    · subst hkey
      have hcomm : ((m.excludedFrom key).insert i).insert j =
          ((m.excludedFrom key).insert j).insert i := by
        refine Std.ExtTreeSet.ext_mem fun id => ?_
        simp only [Std.ExtTreeSet.mem_insert]
        tauto
      by_cases hk : key = k
      · subst hk
        simp [hcomm]
      · simp [hk]
    · split <;> split <;> simp_all
  simp only [exclude] at htable ⊢
  rw [htable]

/-- Excluding an item leaves the latent variables of items as they are. -/
lemma itemLatent?_afterExclusion (m : Model) (i j : Int64) :
    (m.afterExclusion i).itemLatent? j = m.itemLatent? j := by
  cases hi : m.itemLatent? i with
  | none => rw [afterExclusion_of_unknown hi]
  | some a => exact eq_of_unscaled_eq (unscaled_afterExclusion hi) (itemLatent? · j) fun _ => rfl

/-! ### Rules after an exclusion -/

/-- A rule that is brought up to date is the effective one. -/
lemma scalingRule?_refresh_self (h : (m.mode? l).isSome = true) :
    (m.refresh l).scalingRule? l = some (m.effectiveRule l) := by
  rw [refresh, if_pos h, scalingRule?_resolveScaling_self]

/-- Bringing a rule up to date leaves the rules in other slots alone. -/
lemma scalingRule?_refresh_of_slot_ne (h : latent.slot ≠ l.slot) :
    (m.refresh latent).scalingRule? l = m.scalingRule? l := by
  unfold refresh
  split
  · exact scalingRule?_resolveScaling_of_slot_ne h
  · rfl

/-- The effective rule of a latent variable depends on its own stored rule only. -/
lemma effectiveRule_refresh_of_slot_ne (h : latent.slot ≠ l.slot) :
    (m.refresh latent).effectiveRule l = m.effectiveRule l := by
  have hcandidates : (m.refresh latent).candidates l = m.candidates l := by
    unfold refresh
    split
    · exact candidates_resolveScaling ..
    · rfl
  have hdefault : (m.refresh latent).defaultRule l = m.defaultRule l := by
    unfold refresh
    split
    · exact defaultRule_setScalingRule ..
    · rfl
  rw [effectiveRule, effectiveRule, scalingRule?_refresh_of_slot_ne h, hcandidates, hdefault]

/-- An exclusion from a latent variable brings rules up to date: that of the latent variable, and
that of the higher-order construct, if they have a mode. -/
def Refreshes (m : Model) (a l : Latent) : Prop :=
  (l = a ∨ l = .secondOrder) ∧ (m.mode? l).isSome = true

/-- Bringing a rule up to date leaves all modes alone. -/
lemma mode?_refresh (m : Model) (latent other : Latent) :
    (m.refresh latent).mode? other = m.mode? other := by
  unfold refresh
  split
  · exact eq_of_unscaled_eq (unscaled_setScalingRule m latent _) (mode? · other)
      fun _ => by cases other <;> rfl
  · rfl

/-- The rules that are brought up to date are the effective ones. -/
lemma scalingRule?_refresh_refresh (ha : a ≠ .secondOrder) (h : m.Refreshes a l) :
    ((m.refresh a).refresh .secondOrder).scalingRule? l = some (m.effectiveRule l) := by
  have hslot : a.slot ≠ Latent.secondOrder.slot := by
    rw [Latent.slot_eq_some_key ha]
    exact Option.some_ne_none _
  rcases h.1 with rfl | rfl
  · rw [scalingRule?_refresh_of_slot_ne hslot.symm, scalingRule?_refresh_self h.2]
  · rw [scalingRule?_refresh_self (by rw [mode?_refresh]; exact h.2),
      effectiveRule_refresh_of_slot_ne hslot]

/-- Rules in other slots stay. -/
lemma scalingRule?_refresh_refresh_of_slot_ne (hslot : a.slot ≠ l.slot) (hl : l ≠ .secondOrder) :
    ((m.refresh a).refresh .secondOrder).scalingRule? l = m.scalingRule? l := by
  have hsecond : Latent.secondOrder.slot ≠ l.slot := by
    rw [Latent.slot_eq_some_key hl]
    exact (Option.some_ne_none _).symm
  rw [scalingRule?_refresh_of_slot_ne hsecond, scalingRule?_refresh_of_slot_ne hslot]

/-- The latent variable of an item keeps its slot to itself, unless it bears the reserved key. -/
structure IsOwner (a : Latent) : Prop where
  ne_secondOrder : a ≠ .secondOrder
  ne_reserved : a ≠ .facet Latent.unidimKey

/-- The latent variable of an item exists. -/
lemma isKnown_of_itemLatent? (h : m.itemLatent? i = some a) : m.isKnown a = true := by
  unfold itemLatent? at h
  split at h
  · cases h
  · split at h
    · obtain rfl := Option.some.inj h
      rfl
    · split at h
      · cases h
      · split at h
        · next hknown =>
          obtain rfl := Option.some.inj h
          exact hknown
        · cases h

/-- If no facet bears the reserved key, the latent variable of an item keeps its slot to itself. -/
lemma isOwner_of_itemLatent? (hfree : ∀ facet ∈ m.instrument.facets, facet.id ≠ Latent.unidimKey)
    (h : m.itemLatent? i = some a) : IsOwner a := by
  have hknown := isKnown_of_itemLatent? h
  rcases itemLatent?_eq_some h with ⟨-, rfl⟩ | ⟨-, id, rfl⟩
  · exact ⟨nofun, nofun⟩
  · refine ⟨nofun, fun heq => ?_⟩
    obtain ⟨facet, hfacet, hid⟩ := List.find?_isSome.mp hknown
    exact hfree facet hfacet ((beq_iff_eq.mp hid).trans (Latent.facet.inj heq))

/-- A latent variable of items shares its slot with no other one, the facet with the reserved key
apart. -/
lemma IsOwner.slot_ne (ha : IsOwner a) (hl : l ≠ .facet Latent.unidimKey) (hne : l ≠ a) :
    a.slot ≠ l.slot := by
  obtain ⟨hsecond, hreserved⟩ := ha
  cases a <;> cases l <;> simp_all [Latent.slot, Latent.key, eq_comm]

/-- The rules after an exclusion are those that have been brought up to date: relations are no part
of them. -/
lemma scalingRule?_afterExclusion (hi : m.itemLatent? i = some a) (l : Latent) :
    (m.afterExclusion i).scalingRule? l =
      (((m.exclude a.key i).refresh a).refresh .secondOrder).scalingRule? l := by
  rw [afterExclusion_of_known hi]
  cases l <;> rfl

/-- The rules that an exclusion brings up to date are effective ones. -/
lemma scalingRule?_afterExclusion_of_refreshes (hi : m.itemLatent? i = some a)
    (ha : a ≠ .secondOrder) (h : m.Refreshes a l) :
    (m.afterExclusion i).scalingRule? l = some ((m.exclude a.key i).effectiveRule l) := by
  have hrefreshes : (m.exclude a.key i).Refreshes a l := by rwa [Refreshes, mode?_exclude]
  rw [scalingRule?_afterExclusion hi, scalingRule?_refresh_refresh ha hrefreshes]

/-- The other rules stay. -/
lemma scalingRule?_afterExclusion_of_not_refreshes (hi : m.itemLatent? i = some a) (ha : IsOwner a)
    (hl : l ≠ .facet Latent.unidimKey) (h : ¬ m.Refreshes a l) :
    (m.afterExclusion i).scalingRule? l = m.scalingRule? l := by
  have hstays : ∀ (n : Model) (latent : Latent), latent = a ∨ latent = .secondOrder →
      n.mode? l = m.mode? l → (n.refresh latent).scalingRule? l = n.scalingRule? l := by
    intro n latent hlatent hmode
    by_cases heq : l = latent
    · subst heq
      rw [refresh, if_neg fun hsome => h ⟨hlatent, hmode ▸ hsome⟩]
    · refine scalingRule?_refresh_of_slot_ne ?_
      rcases hlatent with rfl | rfl
      · exact ha.slot_ne hl heq
      · cases l <;> simp_all [Latent.slot]
  have hmode := m.mode?_exclude a.key i l
  rw [scalingRule?_afterExclusion hi, hstays _ _ (.inr rfl) (by rw [mode?_refresh, hmode]),
    hstays _ _ (.inl rfl) hmode, scalingRule?_exclude]

/-- After an exclusion the relations are rebuilt, and what was stamped at a save stays. -/
lemma derived_afterExclusion (hi : m.itemLatent? i = some a) :
    (m.afterExclusion i).configuration.indicators = (m.afterExclusion i).indicators ∧
      (m.afterExclusion i).configuration.compiled = m.configuration.compiled ∧
      (m.afterExclusion i).configuration.updatedAt = m.configuration.updatedAt := by
  have hrefresh : ∀ (n : Model) (latent : Latent),
      (n.refresh latent).configuration.compiled = n.configuration.compiled ∧
        (n.refresh latent).configuration.updatedAt = n.configuration.updatedAt := by
    intro n latent
    unfold refresh
    split
    · cases latent <;> exact ⟨rfl, rfl⟩
    · exact ⟨rfl, rfl⟩
  rw [afterExclusion_of_known hi]
  refine ⟨rfl, ?_, ?_⟩
  · exact (hrefresh _ _).1.trans (hrefresh _ _).1
  · exact (hrefresh _ _).2.trans (hrefresh _ _).2

/-- An exclusion leaves all modes alone. -/
lemma mode?_afterExclusion (m : Model) (i : Int64) (l : Latent) :
    (m.afterExclusion i).mode? l = m.mode? l := by
  cases hi : m.itemLatent? i with
  | none => rw [afterExclusion_of_unknown hi]
  | some a =>
    exact (eq_of_unscaled_eq (unscaled_afterExclusion hi) (mode? · l)
      fun _ => by cases l <;> rfl).trans (mode?_exclude ..)

/-- An exclusion does not change which rules an exclusion brings up to date. -/
lemma refreshes_afterExclusion_iff : (m.afterExclusion i).Refreshes a l ↔ m.Refreshes a l := by
  rw [Refreshes, Refreshes, mode?_afterExclusion]

/-! ### Two exclusions -/

section TwoExclusions

variable (hi : m.itemLatent? i = some a) (hj : m.itemLatent? j = some b)

include hi hj

/-- After two exclusions everything but rules is as if both were made before any rule is brought up
to date. -/
lemma unscaled_afterExclusion_afterExclusion :
    ((m.afterExclusion i).afterExclusion j).unscaled =
      ((m.exclude a.key i).exclude b.key j).unscaled := by
  rw [unscaled_afterExclusion ((itemLatent?_afterExclusion m i j).trans hj)]
  exact unscaled_exclude (unscaled_afterExclusion hi) _ _

variable (ha : IsOwner a) (hb : IsOwner b)

include ha hb

/-- Rules that neither exclusion brings up to date stay. -/
lemma scalingRule?_afterExclusion_of_neither (hl : l ≠ .facet Latent.unidimKey)
    (h : ¬ (m.Refreshes a l ∨ m.Refreshes b l)) :
    ((m.afterExclusion i).afterExclusion j).scalingRule? l = m.scalingRule? l := by
  rw [not_or] at h
  rw [scalingRule?_afterExclusion_of_not_refreshes ((itemLatent?_afterExclusion m i j).trans hj) hb
      hl (refreshes_afterExclusion_iff.not.mpr h.2),
    scalingRule?_afterExclusion_of_not_refreshes hi ha hl h.1]

/-- A stored rule that one of two exclusions brings up to date has been checked against the
candidates that are left in the end. -/
lemma scalingRule?_afterExclusion_of_some (hrule : m.scalingRule? l = some rule)
    (hl : l ≠ .facet Latent.unidimKey) (h : m.Refreshes a l ∨ m.Refreshes b l) :
    ((m.afterExclusion i).afterExclusion j).scalingRule? l =
      some (rule.revalidate (((m.exclude a.key i).exclude b.key j).candidates l)) := by
  have hj' : (m.afterExclusion i).itemLatent? j = some b :=
    (itemLatent?_afterExclusion m i j).trans hj
  have hcandidates : ((m.afterExclusion i).exclude b.key j).candidates l =
      ((m.exclude a.key i).exclude b.key j).candidates l :=
    eq_of_unscaled_eq (unscaled_exclude (unscaled_afterExclusion hi) _ _) (candidates · l)
      fun _ => by cases l <;> rfl
  have hrefreshes : (m.afterExclusion i).Refreshes b l ↔ m.Refreshes b l :=
    refreshes_afterExclusion_iff
  by_cases hfirst : m.Refreshes a l
  · have hone : (m.afterExclusion i).scalingRule? l =
        some (rule.revalidate ((m.exclude a.key i).candidates l)) := by
      rw [scalingRule?_afterExclusion_of_refreshes hi ha.ne_secondOrder hfirst,
        effectiveRule_of_some ((scalingRule?_exclude ..).trans hrule)]
    by_cases hsecond : m.Refreshes b l
    · obtain ⟨keep, hkeep⟩ := exists_candidates_exclude (m.exclude a.key i) b.key j l
      rw [scalingRule?_afterExclusion_of_refreshes hj' hb.ne_secondOrder (hrefreshes.mpr hsecond),
        effectiveRule_of_some ((scalingRule?_exclude ..).trans hone), hcandidates, hkeep,
        ScalingRule.revalidate_filter]
    · -- The second exclusion is no concern of this latent variable.
      have hne : l ≠ b ∧ l ≠ .secondOrder :=
        ⟨fun heq => hsecond ⟨.inl heq, hfirst.2⟩, fun heq => hsecond ⟨.inr heq, hfirst.2⟩⟩
      have hkey : b.key ≠ l.key := by
        intro heq
        refine hb.slot_ne hl hne.1 ?_
        rw [Latent.slot_eq_some_key hb.ne_secondOrder, Latent.slot_eq_some_key hne.2, heq]
      rw [scalingRule?_afterExclusion_of_not_refreshes hj' hb hl
          (hrefreshes.not.mpr hsecond), hone, candidates_exclude_of_ne hkey hne.2]
  · have hsecond : m.Refreshes b l := h.resolve_left hfirst
    have hone : (m.afterExclusion i).scalingRule? l = some rule :=
      (scalingRule?_afterExclusion_of_not_refreshes hi ha hl hfirst).trans hrule
    rw [scalingRule?_afterExclusion_of_refreshes hj' hb.ne_secondOrder (hrefreshes.mpr hsecond),
      effectiveRule_of_some ((scalingRule?_exclude ..).trans hone), hcandidates]

end TwoExclusions

/-- In a model with all the rules it needs, the only rule that an exclusion stores without having
one to check is that of the higher-order construct of a unidimensional model. -/
lemma HasRules.eq_secondOrder_of_refreshes (hrules : m.HasRules) (hi : m.itemLatent? i = some a)
    (hrule : m.scalingRule? l = none) (h : m.Refreshes a l) :
    m.isUnidimensional = true ∧ l = .secondOrder := by
  have hscaled : l ∉ m.scaledLatents := by
    intro hl
    have hsome := hrules l hl
    rw [hrule] at hsome
    cases hsome
  obtain ⟨rfl | rfl, hmode⟩ := h
  · refine absurd (mem_scaledLatents_iff.mpr ⟨isKnown_of_itemLatent? hi, ?_⟩) hscaled
    rcases itemLatent?_eq_some hi with ⟨hu, rfl⟩ | ⟨hmulti, id, rfl⟩
    · exact hu
    · simp [takesPart, hmulti, hmode]
  · refine ⟨by_contra fun hmulti => hscaled (mem_scaledLatents_iff.mpr ⟨rfl, ?_⟩), rfl⟩
    simp [takesPart, hmulti, hmode]

/-- The missing rule of the higher-order construct of a unidimensional model becomes the default
one, checked by the second exclusion. -/
lemma scalingRule?_afterExclusion_of_none
    (hfree : ∀ facet ∈ m.instrument.facets, facet.id ≠ Latent.unidimKey)
    (hu : m.isUnidimensional = true) (hi : m.itemLatent? i = some a) (hj : m.itemLatent? j = some b)
    (hrule : m.scalingRule? .secondOrder = none) (hmode : (m.mode? .secondOrder).isSome = true) :
    ((m.afterExclusion i).afterExclusion j).scalingRule? .secondOrder =
      some ((m.defaultRule .secondOrder).revalidate (m.candidates .secondOrder)) := by
  have howner : ∀ {k : Int64} {latent : Latent}, m.itemLatent? k = some latent →
      latent = .unidim := by
    intro k latent hk
    rcases itemLatent?_eq_some hk with ⟨-, rfl⟩ | ⟨hmulti, -⟩
    · rfl
    · exact absurd (hu.symm.trans hmulti) nofun
  obtain rfl := howner hi
  obtain rfl := howner hj
  have hj' := (itemLatent?_afterExclusion m i j).trans hj
  have hunscaled := unscaled_afterExclusion hi
  have hinstrument : (m.afterExclusion i).instrument = m.instrument :=
    eq_of_unscaled_eq hunscaled instrument fun _ => rfl
  have hcandidates := (candidates_secondOrder_exclude_of_ne hfree i).1
  have hone : (m.afterExclusion i).scalingRule? .secondOrder =
      some (m.defaultRule .secondOrder) := by
    rw [scalingRule?_afterExclusion_of_refreshes hi nofun ⟨.inr rfl, hmode⟩,
      effectiveRule_of_none ((scalingRule?_exclude ..).trans hrule)]
    exact congrArg some (candidates_secondOrder_exclude_of_ne hfree i).2
  have hcandidates' : (m.afterExclusion i).candidates .secondOrder = m.candidates .secondOrder :=
    (eq_of_unscaled_eq hunscaled (candidates · .secondOrder) fun _ => rfl).trans hcandidates
  -- The first exclusion stores the default rule, and the second one checks it.
  rw [scalingRule?_afterExclusion_of_refreshes hj' nofun
      (refreshes_afterExclusion_iff.mpr ⟨.inr rfl, hmode⟩),
    effectiveRule_of_some ((scalingRule?_exclude ..).trans hone),
    (candidates_secondOrder_exclude_of_ne (hinstrument ▸ hfree) j).1, hcandidates']

/-- Exclusions commute in a model with all the rules it needs, if no facet bears the reserved key of
the single latent variable. -/
lemma HasRules.afterExclusion_comm (hrules : m.HasRules)
    (hfree : ∀ facet ∈ m.instrument.facets, facet.id ≠ Latent.unidimKey) (i j : Int64) :
    (m.afterExclusion i).afterExclusion j = (m.afterExclusion j).afterExclusion i := by
  cases hi : m.itemLatent? i with
  | none =>
    rw [afterExclusion_of_unknown hi,
      afterExclusion_of_unknown ((itemLatent?_afterExclusion m j i).trans hi)]
  | some a =>
    cases hj : m.itemLatent? j with
    | none =>
      rw [afterExclusion_of_unknown hj,
        afterExclusion_of_unknown ((itemLatent?_afterExclusion m i j).trans hj)]
    | some b =>
      -- Both items are known.  The models agree apart from rules, which are compared one by one.
      have ha := isOwner_of_itemLatent? hfree hi
      have hb := isOwner_of_itemLatent? hfree hj
      have hi' := (itemLatent?_afterExclusion m j i).trans hi
      have hj' := (itemLatent?_afterExclusion m i j).trans hj
      have hunscaled : ((m.afterExclusion i).afterExclusion j).unscaled =
          ((m.afterExclusion j).afterExclusion i).unscaled := by
        rw [unscaled_afterExclusion_afterExclusion hi hj,
          unscaled_afterExclusion_afterExclusion hj hi, exclude_exclude_comm]
      obtain ⟨hindicators, hcompiled, hupdated⟩ := derived_afterExclusion hj'
      obtain ⟨hindicators', hcompiled', hupdated'⟩ := derived_afterExclusion hi'
      obtain ⟨-, hcompiledi, hupdatedi⟩ := derived_afterExclusion hi
      obtain ⟨-, hcompiledj, hupdatedj⟩ := derived_afterExclusion hj
      refine eq_of_rules_eq hunscaled (fun l hl => ?_) ?_ ?_ ?_
      · by_cases h : m.Refreshes a l ∨ m.Refreshes b l
        · cases hrule : m.scalingRule? l with
          | some rule =>
            rw [scalingRule?_afterExclusion_of_some hi hj ha hb hrule hl h,
              scalingRule?_afterExclusion_of_some hj hi hb ha hrule hl h.symm,
              exclude_exclude_comm]
          | none =>
            -- Only the higher-order construct of a unidimensional model can lack a rule.
            obtain ⟨hu, rfl⟩ : m.isUnidimensional = true ∧ l = .secondOrder :=
              h.elim (hrules.eq_secondOrder_of_refreshes hi hrule)
                (hrules.eq_secondOrder_of_refreshes hj hrule)
            have hmode : (m.mode? .secondOrder).isSome = true := h.elim And.right And.right
            rw [scalingRule?_afterExclusion_of_none hfree hu hi hj hrule hmode,
              scalingRule?_afterExclusion_of_none hfree hu hj hi hrule hmode]
        · rw [scalingRule?_afterExclusion_of_neither hi hj ha hb hl h,
            scalingRule?_afterExclusion_of_neither hj hi hb ha hl (mt Or.symm h)]
      · rw [hindicators, hindicators']
        exact eq_of_unscaled_eq hunscaled indicators fun _ => rfl
      · rw [hcompiled, hcompiled', hcompiledi, hcompiledj]
      · rw [hupdated, hupdated', hupdatedi, hupdatedj]

/-! ### Any order -/

/-- An exclusion leaves the instrument alone. -/
lemma instrument_afterExclusion (m : Model) (i : Int64) :
    (m.afterExclusion i).instrument = m.instrument := by
  cases hi : m.itemLatent? i with
  | none => rw [afterExclusion_of_unknown hi]
  | some a => exact eq_of_unscaled_eq (unscaled_afterExclusion hi) instrument fun _ => rfl

/-- The order in which items are excluded makes no difference. -/
lemma foldl_afterExclusion_perm {ids others : List Int64} (hperm : ids.Perm others) {m : Model}
    (h : m.HasCompleteRules)
    (hfree : ∀ facet ∈ m.instrument.facets, facet.id ≠ Latent.unidimKey) :
    ids.foldl afterExclusion m = others.foldl afterExclusion m := by
  induction hperm generalizing m with
  | nil => rfl
  | cons i _ ih => exact ih (h.afterExclusion i) (by rwa [instrument_afterExclusion])
  | swap i j ids =>
    rw [List.foldl_cons, List.foldl_cons, List.foldl_cons, List.foldl_cons,
      h.hasRules.afterExclusion_comm hfree]
  | trans _ _ ih ih' => exact (ih h hfree).trans (ih' h hfree)

end Model

end Psychometrics
