import Mathlib
import Psychometrics.Proofs.Listing.Reload
import Psychometrics.Proofs.Scaling.Exclusion

/-!
# What loading does

Loading creates slots, rebuilds relations and stores rules, one after the other on the same model.
No step disturbs what a later one reads: new slots are blank and make no global item present, so
that relations and candidates stay, and a stored rule is looked at for its own slot only.  What
comes out can therefore be described in terms of the model that went in (`Model.UpgradesTo`).

The description covers the whole configuration, so that it determines the result
(`Model.UpgradesTo.unique`).  It presupposes that the ids of facets are distinct: otherwise a facet
is passed more than once, and a default rule that has been stored in the first pass is checked in
the next.
-/

namespace Psychometrics.Model

variable {m n o : Model} {latent other : Latent}

/-! ### Slots -/

/-- Creating the slots of a latent variable gives it blank ones if it has none. -/
lemma globals?_withSlots (h : latent ≠ .unidim) (other : Latent) :
    (m.withSlots latent).globals? other =
      (m.globals? other).or (if other = latent then some (blankSlots other) else none) := by
  by_cases heq : other = latent
  · subst heq
    rw [if_pos rfl]
    cases hslots : m.globals? other with
    | some items => rw [withSlots_eq_self (by simp [hslots]), hslots, Option.some_or]
    | none =>
      rw [withSlots, if_pos (by simp [lacksSlots, h, hslots])]
      cases other with
      | unidim => exact absurd rfl h
      | facet id => simp [setGlobals, globals?]
      | secondOrder => rfl
  · rw [if_neg heq, Option.or_none]
    rcases m.withSlots_eq latent with hkeep | ⟨-, hnew⟩
    · rw [hkeep]
    · rw [hnew, m.globals?_setGlobals_of_ne _ (Ne.symm heq)]

/-- Creating slots for some latent variables gives slots to those of them that have none. -/
lemma globals?_foldl_withSlots {latents : List Latent} (h : .unidim ∉ latents) (m : Model)
    (other : Latent) :
    (latents.foldl withSlots m).globals? other =
      (m.globals? other).or (if other ∈ latents then some (blankSlots other) else none) := by
  induction latents generalizing m with
  | nil => simp
  | cons first rest ih =>
    obtain ⟨hfirst, hrest⟩ := not_or.mp (List.mem_cons.not.mp h)
    rw [List.foldl_cons, ih hrest, globals?_withSlots (Ne.symm hfirst), Option.or_assoc]
    by_cases heq : other = first <;> simp [heq]

/-- A loaded model has the slots that were there, and blank ones for the formative latent variables
that had none. -/
lemma globals?_withAllSlots (m : Model) (latent : Latent) :
    m.withAllSlots.globals? latent =
      (m.globals? latent).or
        (if m.isKnown latent = true ∧ m.mode? latent = some .formative then
          some (blankSlots latent) else none) := by
  have hfacets : Latent.unidim ∉ m.formativeFacets ∧ Latent.secondOrder ∉ m.formativeFacets := by
    simp [formativeFacets]
  have hmode := (frame_foldl_withSlots m.formativeFacets m).1
  have hglobals := globals?_foldl_withSlots hfacets.1 m latent
  unfold withAllSlots
  dsimp only
  generalize m.formativeFacets.foldl withSlots m = k at hmode hglobals ⊢
  have hsecond : k.configuration.secondOrder.mode = m.mode? .secondOrder :=
    congrFun hmode .secondOrder
  rw [hsecond]
  cases latent with
  | unidim => split <;> simp [globals?, mode?]
  | facet id =>
    simp only [mem_formativeFacets_iff] at hglobals
    split
    · have hsecond : Latent.secondOrder ≠ .unidim := by decide
      rw [globals?_withSlots hsecond, if_neg (by simp), Option.or_none, hglobals]
    · exact hglobals
  | secondOrder =>
    rw [if_neg hfacets.2, Option.or_none] at hglobals
    split
    · next hform => simp [globals?_withSlots, hglobals, hform, isKnown]
    · next hform => simp [hglobals, hform]

/-- What creating the slots of one latent variable keeps is kept when those of all are created. -/
lemma withAllSlots_of_withSlots {P : Model → Prop}
    (hslots : ∀ n latent, P n → P (withSlots n latent)) (h : P m) : P m.withAllSlots := by
  have hfacets : P (m.formativeFacets.foldl withSlots m) := by
    refine List.foldlRecOn (motive := P) _ _ h ?_
    intro n hn latent _
    exact hslots n latent hn
  unfold withAllSlots
  dsimp only
  split
  · exact hslots _ _ hfacets
  · exact hfacets

/-! ### Relations -/

/-- New slots are blank, and blank global items have no relations. -/
lemma indicators_withSlots (m : Model) (latent : Latent) :
    (m.withSlots latent).indicators = m.indicators := by
  have hitems : (m.withSlots latent).activeItems = m.activeItems :=
    funext fun _ => activeItems_congr (by simp) (by simp)
  have hfacet : (m.withSlots latent).facetIndicators = m.facetIndicators := by
    funext facet
    simp only [facetIndicators, facetMode?, modes_withSlots, hitems, presentGlobals_withSlots]
  simp only [indicators, secondOrderIndicators, hfacet, instrument_withSlots,
    secondOrder_mode_withSlots, presentGlobals_withSlots]

/-- Blank slots add no relations. -/
lemma indicators_withAllSlots (m : Model) : m.withAllSlots.indicators = m.indicators := by
  refine withAllSlots_of_withSlots (P := fun n => n.indicators = m.indicators) ?_ rfl
  intro n latent hn
  rw [indicators_withSlots, hn]

/-- The stored relations of a loaded model. -/
lemma configuration_indicators_upgrade (m : Model) :
    m.upgrade.configuration.indicators =
      if m.configuration.indicators = [] ∧ ¬ m.configuration.modes.isEmpty then m.indicators
      else m.configuration.indicators := by
  have hrules : m.upgrade.configuration.indicators =
      m.withAllSlots.withIndicators.configuration.indicators := by
    refine resolveAll_of_setScalingRule (P := fun n => n.configuration.indicators =
      m.withAllSlots.withIndicators.configuration.indicators) _ ?_ rfl
    intro n latent rule hn
    rw [← hn]
    cases latent <;> rfl
  have hslots : m.withAllSlots.configuration.indicators = m.configuration.indicators ∧
      m.withAllSlots.configuration.modes = m.configuration.modes := by
    refine withAllSlots_of_withSlots (P := fun n => n.configuration.indicators =
      m.configuration.indicators ∧ n.configuration.modes = m.configuration.modes) ?_ ⟨rfl, rfl⟩
    rintro n latent ⟨hindicators, hmodes⟩
    refine ⟨?_, by rw [modes_withSlots, hmodes]⟩
    rcases n.withSlots_eq latent with h | ⟨-, h⟩
    · rw [h, hindicators]
    · rw [h, ← hindicators]
      cases latent <;> rfl
  rw [hrules, withIndicators, indicators_withAllSlots, hslots.1, hslots.2]
  split <;> simp_all

/-! ### Rules -/

/-- With distinct ids of facets no latent variable is passed twice. -/
lemma nodup_scaledLatents (h : (m.instrument.facets.map Facet.id).Nodup) :
    m.scaledLatents.Nodup := by
  unfold scaledLatents
  split
  · exact List.nodup_singleton _
  · have hfacets : ((m.instrument.facets.filter fun facet =>
        (m.facetMode? facet.id).isSome).map fun facet => Latent.facet facet.id).Nodup := by
      have hlatents := h.map fun _ _ => Latent.facet.inj
      rw [List.map_map] at hlatents
      exact hlatents.sublist (List.filter_sublist.map _)
    rw [List.nodup_append]
    refine ⟨hfacets, by split <;> simp, ?_⟩
    intro latent hfacet other hother
    obtain ⟨facet, -, rfl⟩ := List.mem_map.mp hfacet
    split at hother
    · obtain rfl := List.mem_singleton.mp hother
      exact nofun
    · cases hother

/-- A pass over distinct latent variables stores the effective rule of each. -/
lemma scalingRule?_resolveAll (hnodup : m.scaledLatents.Nodup) (hl : latent ∈ m.scaledLatents) :
    m.resolveAll.scalingRule? latent = some (m.effectiveRule latent) := by
  cases hrule : m.scalingRule? latent with
  | some rule => rw [scalingRule?_resolveAll_of_some hl hrule, effectiveRule_of_some hrule]
  | none =>
    have honce := List.count_eq_one_of_mem hnodup hl
    have hslot : ∀ l ∈ m.scaledLatents, l.slot = latent.slot → l = latent :=
      fun l hmem => eq_of_slot_eq hmem hl
    rw [resolveAll, scalingRule?_foldl_of_none hslot hrule hl, if_pos honce,
      effectiveRule_of_none hrule]

/-- Slots in which no latent variable keeps a rule that is needed are left alone. -/
lemma scalingRule?_resolveAll_of_slot_ne (h : ∀ l ∈ m.scaledLatents, l.slot ≠ latent.slot) :
    m.resolveAll.scalingRule? latent = m.scalingRule? latent := by
  refine List.foldlRecOn
    (motive := fun n : Model => n.scalingRule? latent = m.scalingRule? latent) _ _ rfl ?_
  intro n hn l hl
  rw [scalingRule?_resolveScaling_of_slot_ne (h l hl), hn]

/-- Models with the same rules to store have the same effective rules. -/
lemma SameRules.effectiveRule (h : SameRules m n) : n.effectiveRule = m.effectiveRule := by
  funext latent
  rw [Model.effectiveRule, Model.effectiveRule, h.scalingRule?, h.candidates, h.defaultRule]

/-! ### Everything else -/

/-- What neither slots nor relations nor rules can change is the same after loading. -/
lemma query_upgrade {α : Type} (query : Model → α)
    (hglobals : ∀ n latent items, query (setGlobals n latent items) = query n)
    (hindicators : ∀ (n : Model) relations,
      query { n with configuration.indicators := relations } = query n)
    (hrules : ∀ n latent rule, query (setScalingRule n latent rule) = query n) (m : Model) :
    query m.upgrade = query m := by
  have hslots : query m.withAllSlots = query m := by
    refine withAllSlots_of_withSlots (P := fun n => query n = query m) ?_ rfl
    intro n latent hn
    rcases n.withSlots_eq latent with h | ⟨-, h⟩
    · rw [h, hn]
    · rw [h, hglobals, hn]
  have hrebuilt : query m.withAllSlots.withIndicators = query m := by
    unfold withIndicators
    split
    · rw [hindicators, hslots]
    · exact hslots
  refine resolveAll_of_setScalingRule (P := fun n => query n = query m) _ ?_ hrebuilt
  intro n latent rule hn
  rw [hrules, hn]

/-! ### Loading -/

/-- What loading makes of a model: it stores the effective rules of the latent variables that need
one, creates blank slots for the formative latent variables without, and rebuilds the relations if
there are none although some facet has a mode.  Everything else stays. -/
structure UpgradesTo (m n : Model) : Prop where
  rules : ∀ latent ∈ m.scaledLatents, n.scalingRule? latent = some (m.effectiveRule latent)
  otherRules : ∀ latent, (∀ l ∈ m.scaledLatents, l.slot ≠ latent.slot) →
    n.scalingRule? latent = m.scalingRule? latent
  globals : ∀ latent, n.globals? latent = (m.globals? latent).or
    (if m.isKnown latent = true ∧ m.mode? latent = some .formative then
      some (blankSlots latent) else none)
  indicators : n.configuration.indicators =
    if m.configuration.indicators = [] ∧ ¬ m.configuration.modes.isEmpty then m.indicators
    else m.configuration.indicators
  instrument : n.instrument = m.instrument
  modes : n.configuration.modes = m.configuration.modes
  excluded : n.configuration.excluded = m.configuration.excluded
  secondOrderMode : n.configuration.secondOrder.mode = m.configuration.secondOrder.mode
  shortCode : n.configuration.shortCode = m.configuration.shortCode
  compiled : n.configuration.compiled = m.configuration.compiled
  updatedAt : n.configuration.updatedAt = m.configuration.updatedAt

/-- The description of a loaded model leaves nothing open. -/
lemma UpgradesTo.unique (hn : UpgradesTo m n) (ho : UpgradesTo m o) : n = o := by
  have hglobals : n.configuration.globals = o.configuration.globals :=
    Std.ExtTreeMap.ext_getElem? fun key =>
      (hn.globals (.facet key)).trans (ho.globals (.facet key)).symm
  have hsecondOrder : n.configuration.secondOrder.globals = o.configuration.secondOrder.globals :=
    (hn.globals .secondOrder).trans (ho.globals .secondOrder).symm
  have hunscaled : n.unscaled = o.unscaled := by
    simp only [unscaled, choices, hn.instrument, ho.instrument, hn.modes, ho.modes, hn.excluded,
      ho.excluded, hn.secondOrderMode, ho.secondOrderMode, hn.shortCode, ho.shortCode, hglobals,
      hsecondOrder]
  have hrules : ∀ latent, n.scalingRule? latent = o.scalingRule? latent := by
    intro latent
    by_cases hshared : ∃ l ∈ m.scaledLatents, l.slot = latent.slot
    · obtain ⟨l, hl, hslot⟩ := hshared
      rw [← scalingRule?_eq_of_slot_eq hslot, ← scalingRule?_eq_of_slot_eq hslot, hn.rules l hl,
        ho.rules l hl]
    · have hother : ∀ l ∈ m.scaledLatents, l.slot ≠ latent.slot :=
        fun l hl hslot => hshared ⟨l, hl, hslot⟩
      rw [hn.otherRules latent hother, ho.otherRules latent hother]
  exact eq_of_rules_eq hunscaled (fun latent _ => hrules latent)
    (hn.indicators.trans ho.indicators.symm) (hn.compiled.trans ho.compiled.symm)
    (hn.updatedAt.trans ho.updatedAt.symm)

/-- Loading does what is described when the ids of facets are distinct. -/
lemma upgradesTo_upgrade (hids : (m.instrument.facets.map Facet.id).Nodup) :
    m.UpgradesTo m.upgrade := by
  have hsame : SameRules m m.withAllSlots.withIndicators :=
    m.sameRules_withAllSlots.trans (sameRules_withIndicators _)
  have hframe := query_upgrade (fun n => (n.instrument, n.configuration.modes,
      n.configuration.excluded, n.configuration.secondOrder.mode, n.configuration.shortCode,
      n.configuration.compiled, n.configuration.updatedAt))
    (fun _ latent _ => by cases latent <;> rfl) (fun _ _ => rfl)
    (fun _ latent _ => by cases latent <;> rfl) m
  simp only [Prod.mk.injEq] at hframe
  obtain ⟨hinstrument, hmodes, hexcluded, hmode, hshortCode, hcompiled, hupdated⟩ := hframe
  refine ⟨fun latent hl => ?_, fun latent hother => ?_, fun latent => ?_,
    m.configuration_indicators_upgrade, hinstrument, hmodes, hexcluded, hmode, hshortCode,
    hcompiled, hupdated⟩
  · have hnodup := hsame.scaledLatents ▸ nodup_scaledLatents hids
    rw [upgrade, scalingRule?_resolveAll hnodup (hsame.scaledLatents ▸ hl), hsame.effectiveRule]
  · rw [← hsame.scaledLatents] at hother
    rw [upgrade, scalingRule?_resolveAll_of_slot_ne hother, hsame.scalingRule?]
  · have hunscaled : m.upgrade.unscaled = m.withAllSlots.unscaled := by simp [upgrade]
    rw [← globals?_withAllSlots]
    exact eq_of_unscaled_eq hunscaled (globals? · latent) fun _ => by cases latent <;> rfl

/-- What loading makes of an instrument with distinct facets and a stored configuration: exactly the
model that is described, and the news that it was upgraded if and only if the configuration is not
the stored one. -/
theorem load_eq_iff (hids : (m.instrument.facets.map Facet.id).Nodup) (n : Model)
    (upgraded : Bool) :
    load m.instrument (some m.configuration) = (n, upgraded) ↔
      m.UpgradesTo n ∧ (upgraded = true ↔ n.configuration ≠ m.configuration) := by
  have hload : load m.instrument (some m.configuration) =
      (m.upgrade, m.upgrade.configuration != m.configuration) := rfl
  rw [hload, Prod.mk.injEq]
  constructor
  · rintro ⟨rfl, rfl⟩
    exact ⟨upgradesTo_upgrade hids, bne_iff_ne⟩
  · rintro ⟨hn, hupgraded⟩
    obtain rfl := (upgradesTo_upgrade hids).unique hn
    exact ⟨rfl, Bool.eq_iff_iff.mpr (bne_iff_ne.trans hupgraded.symm)⟩

/-- A configuration in which the facet is formative and nothing else has been stored yet. -/
def unslotted : Configuration where
  modes := (∅ : Table Mode).insert "f" .formative

/-- Loading that configuration gives the facet its two slots and a rule. -/
theorem load_unslotted :
    ∃ n, load bareFacet (some unslotted) = (n, true) ∧ UpgradesTo ⟨bareFacet, unslotted⟩ n ∧
      n.globals? (.facet "f") = some [⟨"g_f_1", ""⟩, ⟨"g_f_2", ""⟩] ∧
      n.scalingRule? (.facet "f") = some .fixVariance := by
  have hbefore : globals? ⟨bareFacet, unslotted⟩ (.facet "f") = none := by cbv
  have hafter : (upgrade ⟨bareFacet, unslotted⟩).globals? (.facet "f") =
      some [⟨"g_f_1", ""⟩, ⟨"g_f_2", ""⟩] := by cbv
  have hne : (upgrade ⟨bareFacet, unslotted⟩).configuration ≠ unslotted := by
    intro heq
    have hslots : (upgrade ⟨bareFacet, unslotted⟩).globals? (.facet "f") =
        globals? ⟨bareFacet, unslotted⟩ (.facet "f") := by
      simp only [globals?, heq]
    rw [hbefore, hafter] at hslots
    cases hslots
  have hload : load bareFacet (some unslotted) = (upgrade ⟨bareFacet, unslotted⟩, true) := by
    rw [← bne_iff_ne.mpr hne]
    rfl
  have hids : (bareFacet.facets.map Facet.id).Nodup := by decide
  have hupgraded := (load_eq_iff (m := ⟨bareFacet, unslotted⟩) hids _ true).mp hload
  exact ⟨_, hload, hupgraded.1, hafter, by cbv⟩

end Psychometrics.Model
