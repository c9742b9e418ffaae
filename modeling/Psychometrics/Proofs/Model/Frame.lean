import Mathlib
import Psychometrics.Model.Scaling

/-!
# What the queries of a model depend on

Each elementary change of a configuration touches one place of it.  This file says which places the
queries of a latent variable look at, so that a change elsewhere leaves them as they are:

* active items depend on the instrument and on the exclusions under the key of the latent variable
  (`Model.activeItems_congr`),
* the candidates of a facet depend on the entries under its id, never on other facets
  (`Model.candidates_facet_congr`),
* the candidates of the higher-order construct depend on the compiled facets and on its own settings
  (`Model.candidates_secondOrder_congr`),
* stored rules matter to none of them (`Model.candidates_setScalingRule`).

A stored rule has its place too, the slot of its latent variable, and storing a rule changes that
slot only (`Model.scalingRule?_setScalingRule_of_slot_ne`).
-/

namespace Psychometrics

/-! ### Slots of stored rules -/

/-- Where the rule of a latent variable is stored: under a key of the table, or among the settings
of the higher-order construct. -/
def Latent.slot : Latent → Option String
  | .secondOrder => none
  | latent => some latent.key

namespace Model

variable {m m' : Model}

/-- A rule that was stored is found again. -/
@[simp] lemma scalingRule?_setScalingRule_self (m : Model) (latent : Latent) (rule : ScalingRule) :
    (m.setScalingRule latent rule).scalingRule? latent = some rule := by
  cases latent with
  | secondOrder => rfl
  | unidim => simp [setScalingRule, scalingRule?]
  | facet id => simp [setScalingRule, scalingRule?]

/-- Storing a rule leaves every other slot alone. -/
lemma scalingRule?_setScalingRule_of_slot_ne {latent other : Latent} (h : latent.slot ≠ other.slot)
    (rule : ScalingRule) :
    (m.setScalingRule latent rule).scalingRule? other = m.scalingRule? other := by
  cases latent <;> cases other <;>
    simp_all [setScalingRule, scalingRule?, Latent.slot, Std.ExtTreeMap.getElem?_insert]

/-- Resolving a latent variable stores its effective rule. -/
lemma scalingRule?_resolveScaling_self (m : Model) (latent : Latent) :
    (m.resolveScaling latent).scalingRule? latent = some (m.effectiveRule latent) := by
  rw [resolveScaling, scalingRule?_setScalingRule_self]

/-- Storing the effective rule of a latent variable leaves the other slots alone. -/
lemma scalingRule?_resolveScaling_of_slot_ne {latent other : Latent}
    (h : latent.slot ≠ other.slot) :
    (m.resolveScaling latent).scalingRule? other = m.scalingRule? other :=
  scalingRule?_setScalingRule_of_slot_ne h _

/-- Latent variables with one slot share their stored rule. -/
lemma scalingRule?_eq_of_slot_eq {latent other : Latent} (h : latent.slot = other.slot) :
    m.scalingRule? latent = m.scalingRule? other := by
  cases latent <;> cases other <;> simp_all [scalingRule?, Latent.slot]

/-! ### Active items -/

/-- Active items depend on the instrument and on the exclusions under one key. -/
lemma activeItems_congr {latent : Latent} (hi : m'.instrument = m.instrument)
    (he : m'.configuration.excluded[latent.key]? = m.configuration.excluded[latent.key]?) :
    m'.activeItems latent = m.activeItems latent := by
  have hx : ∀ id, m'.isExcluded latent.key id = m.isExcluded latent.key id := by
    intro id
    rw [isExcluded, isExcluded, he]
  have ho : m'.ownItems latent = m.ownItems latent := by
    cases latent <;> simp [ownItems, hi]
  simp only [activeItems, ho, hx]

/-! ### Candidates -/

/-- The candidates of the single latent variable depend on its active items. -/
lemma candidates_unidim (m : Model) :
    m.candidates .unidim = (m.activeItems .unidim).map itemCandidate := by
  simp [candidates, mode?]

/-- The candidates of the single latent variable depend on the instrument and its exclusions. -/
lemma candidates_unidim_congr (hi : m'.instrument = m.instrument)
    (he : m'.configuration.excluded[Latent.unidimKey]? =
      m.configuration.excluded[Latent.unidimKey]?) :
    m'.candidates .unidim = m.candidates .unidim := by
  have hitems : m'.activeItems .unidim = m.activeItems .unidim := activeItems_congr hi he
  rw [candidates_unidim, candidates_unidim, hitems]

/-- The candidates of a formative latent variable are its present global items. -/
lemma candidates_of_formative {latent : Latent} (h : m.mode? latent = some .formative) :
    m.candidates latent = (m.presentGlobals latent).map globalCandidate := by
  unfold candidates
  rw [if_pos h]

/-- The candidates of a facet that is not formative are its active items. -/
lemma candidates_facet_of_not_formative {id : String}
    (h : m.mode? (.facet id) ≠ some .formative) :
    m.candidates (.facet id) = (m.activeItems (.facet id)).map itemCandidate := by
  unfold candidates
  rw [if_neg h]

/-- Compiled facets are the candidates of a higher-order construct that is not formative. -/
lemma candidates_secondOrder_of_not_formative (h : m.mode? .secondOrder ≠ some .formative) :
    m.candidates .secondOrder = m.emittedFacets.map facetCandidate := by
  unfold candidates
  rw [if_neg h]

/-- The candidates of a facet depend on what belongs to that facet. -/
lemma candidates_facet_congr {id : String} (hi : m'.instrument = m.instrument)
    (hm : m'.configuration.modes[id]? = m.configuration.modes[id]?)
    (he : m'.configuration.excluded[id]? = m.configuration.excluded[id]?)
    (hg : m'.presentGlobals (.facet id) = m.presentGlobals (.facet id)) :
    m'.candidates (.facet id) = m.candidates (.facet id) := by
  have hmode : m'.mode? (.facet id) = m.mode? (.facet id) := hm
  have hitems : m'.activeItems (.facet id) = m.activeItems (.facet id) := activeItems_congr hi he
  simp only [candidates, hmode, hg, hitems]

/-- Whether a facet is compiled depends on its mode and its active items. -/
lemma emittedFacets_congr (hi : m'.instrument = m.instrument)
    (hm : m'.configuration.modes = m.configuration.modes)
    (he : m'.configuration.excluded = m.configuration.excluded) :
    m'.emittedFacets = m.emittedFacets := by
  have hemitted : m'.isEmitted = m.isEmitted := by
    funext facet
    simp only [isEmitted, facetMode?, hm, activeItems_congr hi (congrArg (·[_]?) he)]
  rw [emittedFacets, emittedFacets, hemitted, hi]

/-- The candidates of the higher-order construct depend on the compiled facets and on its own
settings. -/
lemma candidates_secondOrder_congr (hf : m'.emittedFacets = m.emittedFacets)
    (hm : m'.configuration.secondOrder.mode = m.configuration.secondOrder.mode)
    (hg : m'.presentGlobals .secondOrder = m.presentGlobals .secondOrder) :
    m'.candidates .secondOrder = m.candidates .secondOrder := by
  have hmode : m'.mode? .secondOrder = m.mode? .secondOrder := hm
  simp only [candidates, hmode, hg, hf]

/-! ### Storing a rule -/

section StoredRules

variable (m : Model) (latent other : Latent) (rule : ScalingRule)

@[simp] lemma instrument_setScalingRule :
    (m.setScalingRule latent rule).instrument = m.instrument := by
  cases latent <;> rfl

/-- Candidates do not depend on stored rules. -/
@[simp] lemma candidates_setScalingRule :
    (m.setScalingRule latent rule).candidates other = m.candidates other := by
  cases latent <;> cases other <;> rfl

@[simp] lemma scaledLatents_setScalingRule :
    (m.setScalingRule latent rule).scaledLatents = m.scaledLatents := by
  cases latent <;> rfl

@[simp] lemma candidates_resolveScaling :
    (m.resolveScaling latent).candidates other = m.candidates other :=
  candidates_setScalingRule ..

@[simp] lemma scaledLatents_resolveScaling :
    (m.resolveScaling latent).scaledLatents = m.scaledLatents :=
  scaledLatents_setScalingRule ..

/-- What storing a rule keeps is kept when all effective rules are stored. -/
lemma resolveAll_of_setScalingRule {P : Model → Prop}
    (hset : ∀ (n : Model) (latent : Latent) (rule : ScalingRule), P n →
      P (n.setScalingRule latent rule)) (h : P m) : P m.resolveAll := by
  refine List.foldlRecOn (motive := P) _ _ h ?_
  intro n hn latent _
  exact hset n latent _ hn

end StoredRules

/-! ### Slots for global items -/

section Slots

variable (m : Model) (latent other : Latent) (items : List GlobalItem)

@[simp] lemma instrument_setGlobals : (m.setGlobals latent items).instrument = m.instrument := by
  cases latent <;> rfl

@[simp] lemma modes_setGlobals :
    (m.setGlobals latent items).configuration.modes = m.configuration.modes := by
  cases latent <;> rfl

@[simp] lemma excluded_setGlobals :
    (m.setGlobals latent items).configuration.excluded = m.configuration.excluded := by
  cases latent <;> rfl

/-- Replacing global items leaves the mode of the higher-order construct alone. -/
@[simp] lemma secondOrder_mode_setGlobals :
    (m.setGlobals latent items).configuration.secondOrder.mode =
      m.configuration.secondOrder.mode := by
  cases latent <;> rfl

@[simp] lemma scalingRule?_setGlobals :
    (m.setGlobals latent items).scalingRule? other = m.scalingRule? other := by
  cases latent <;> cases other <;> rfl

/-- Writing the global items of one latent variable leaves those of any other alone. -/
lemma globals?_setGlobals_of_ne {latent other : Latent} (h : latent ≠ other) :
    (m.setGlobals latent items).globals? other = m.globals? other := by
  cases latent <;> cases other <;>
    simp_all [setGlobals, globals?, Std.ExtTreeMap.getElem?_insert]

/-- Writing the text of a global item succeeds exactly where the slot exists, and replaces that item
among the others. -/
lemma setGlobalText?_eq_some_iff {latent : Latent} {index : Nat} {text : String} {n : Model} :
    m.setGlobalText? latent index text = some n ↔
      ∃ items item, m.globals? latent = some items ∧ items[index]? = some item ∧
        n = m.setGlobals latent (items.set index { item with text }) := by
  unfold setGlobalText?
  cases m.globals? latent with
  | none => simp
  | some items =>
    cases hitem : items[index]? with
    | none => simp [hitem]
    | some item => simp [hitem, eq_comm (a := n)]

/-- New slots are blank, so that no global item of them is present. -/
lemma filter_isPresent_blankSlots : (blankSlots latent).filter GlobalItem.isPresent = [] := by
  rw [List.filter_eq_nil_iff]
  intro item hitem
  obtain ⟨id, -, rfl⟩ := List.mem_map.mp hitem
  simp [GlobalItem.isPresent, Text.isBlankText]

/-- The change of a model by which missing slots are created: nothing, or blank slots. -/
lemma withSlots_eq : m.withSlots latent = m ∨
    (m.globals? latent = none ∧ m.withSlots latent = m.setGlobals latent (blankSlots latent)) := by
  unfold withSlots
  split
  · next h =>
    simp only [lacksSlots, Bool.and_eq_true, Option.isNone_iff_eq_none] at h
    exact .inr ⟨h.2, rfl⟩
  · exact .inl rfl

@[simp] lemma instrument_withSlots : (m.withSlots latent).instrument = m.instrument := by
  rcases m.withSlots_eq latent with h | ⟨-, h⟩ <;> simp [h]

@[simp] lemma modes_withSlots :
    (m.withSlots latent).configuration.modes = m.configuration.modes := by
  rcases m.withSlots_eq latent with h | ⟨-, h⟩ <;> simp [h]

@[simp] lemma excluded_withSlots :
    (m.withSlots latent).configuration.excluded = m.configuration.excluded := by
  rcases m.withSlots_eq latent with h | ⟨-, h⟩ <;> simp [h]

@[simp] lemma secondOrder_mode_withSlots :
    (m.withSlots latent).configuration.secondOrder.mode = m.configuration.secondOrder.mode := by
  rcases m.withSlots_eq latent with h | ⟨-, h⟩ <;> simp [h]

@[simp] lemma scalingRule?_withSlots :
    (m.withSlots latent).scalingRule? other = m.scalingRule? other := by
  rcases m.withSlots_eq latent with h | ⟨-, h⟩ <;> simp [h]

/-- Creating slots makes no global item present. -/
@[simp] lemma presentGlobals_withSlots :
    (m.withSlots latent).presentGlobals other = m.presentGlobals other := by
  rcases m.withSlots_eq latent with h | ⟨hnone, h⟩
  · rw [h]
  · rw [h, presentGlobals, presentGlobals, globals, globals]
    by_cases hl : latent = other
    · subst hl
      rw [hnone]
      cases latent with
      | unidim => rfl
      | facet id =>
        simpa [setGlobals, globals?] using filter_isPresent_blankSlots (.facet id)
      | secondOrder =>
        simpa [setGlobals, globals?] using filter_isPresent_blankSlots .secondOrder
    · rw [m.globals?_setGlobals_of_ne _ hl]

end Slots

/-! ### Modes and exclusions -/

@[simp] lemma modes_setFacetMode (m : Model) (id : String) (mode : Mode) :
    (m.setFacetMode id (some mode)).configuration.modes = m.configuration.modes.insert id mode :=
  rfl

/-- Excluding an item changes the exclusions under one key only. -/
lemma excluded_exclude_of_ne (m : Model) {key other : String} (h : key ≠ other) (itemId : Int64) :
    (m.exclude key itemId).configuration.excluded[other]? =
      m.configuration.excluded[other]? := by
  simp [exclude, Std.ExtTreeMap.getElem?_insert, h]

/-- Taking an item back changes the exclusions under one key only. -/
lemma excluded_restore_of_ne (m : Model) {key other : String} (h : key ≠ other) (itemId : Int64) :
    (m.restore key itemId).configuration.excluded[other]? =
      m.configuration.excluded[other]? := by
  unfold restore
  split
  · rfl
  · split <;> simp [Std.ExtTreeMap.getElem?_insert, Std.ExtTreeMap.getElem?_erase, h]

/-- Taking an item back changes nothing but exclusions. -/
lemma exists_restore_eq (m : Model) (key : String) (itemId : Int64) :
    ∃ excluded, m.restore key itemId = { m with configuration.excluded := excluded } := by
  unfold restore
  split
  · exact ⟨m.configuration.excluded, rfl⟩
  · split
    · exact ⟨_, rfl⟩
    · exact ⟨_, rfl⟩

/-! ### Derived data -/

/-- A model without what is derived from its choices or stamped at a save. -/
def choices (m : Model) : Model :=
  { m with
    configuration.indicators := []
    configuration.compiled := none
    configuration.updatedAt := none }

/-- Models have the same choices when they agree in the instrument and in what the user has set of
the configuration. -/
lemma choices_eq_iff {m n : Model} :
    m.choices = n.choices ↔
      m.instrument = n.instrument ∧
      m.configuration.modes = n.configuration.modes ∧
      m.configuration.scaling = n.configuration.scaling ∧
      m.configuration.excluded = n.configuration.excluded ∧
      m.configuration.globals = n.configuration.globals ∧
      m.configuration.secondOrder = n.configuration.secondOrder ∧
      m.configuration.shortCode = n.configuration.shortCode := by
  simp only [choices, Model.mk.injEq, Configuration.mk.injEq, and_true]

@[simp] lemma scalingRule?_choices (m : Model) (latent : Latent) :
    m.choices.scalingRule? latent = m.scalingRule? latent := by
  cases latent <;> rfl

@[simp] lemma mode?_choices (m : Model) (latent : Latent) :
    m.choices.mode? latent = m.mode? latent := by
  cases latent <;> rfl

@[simp] lemma globals?_choices (m : Model) (latent : Latent) :
    m.choices.globals? latent = m.globals? latent := by
  cases latent <;> rfl

@[simp] lemma candidates_choices (m : Model) (latent : Latent) :
    m.choices.candidates latent = m.candidates latent := by
  cases latent <;> rfl

@[simp] lemma scaledLatents_choices (m : Model) : m.choices.scaledLatents = m.scaledLatents :=
  rfl

end Model

end Psychometrics
