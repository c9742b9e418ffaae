import Mathlib
import Psychometrics.Model.Scaling
import Psychometrics.Proofs.Model.Frame

/-!
# Renaming facets

The id of a facet is a key: facets, items and the tables of a configuration are connected by it, and
it should matter for nothing else.  This file renames the facets of a model by a permutation of
texts (`Model.renamed`) and follows the renaming through the queries on a model.  Each query under a
renamed key has the answer that it had under the key itself, renamed where the answer holds facets.

The permutation has to leave alone what is more than a key: blank texts, which stand for a missing
facet or reference, and the two reserved words for the other latent variables
(`KeepsReserved`).
-/

namespace Psychometrics

open Equiv (Perm)

/-! ### Renamed models -/

/-- A table under renamed keys. -/
def Table.renamed {α : Type} (p : Perm String) (table : Table α) : Table α :=
  .ofList (table.toList.map fun entry => (p entry.1, entry.2))

/-- A renamed key leads to the entry that the key led to. -/
lemma Table.getElem?_renamed {α : Type} (p : Perm String) (table : Table α) (key : String) :
    (Table.renamed p table)[p key]? = table[key]? := by
  have hmem : ∀ value, (p key, value) ∈ (table.toList.map fun entry => (p entry.1, entry.2)) ↔
      table[key]? = some value := by
    intro value
    rw [← Std.ExtTreeMap.mem_toList_iff_getElem?_eq_some, List.mem_map]
    constructor
    · rintro ⟨⟨other, _⟩, hother, heq⟩
      obtain ⟨hkey, rfl⟩ := Prod.mk.inj heq
      rwa [← p.injective hkey]
    · exact fun h => ⟨_, h, rfl⟩
  have hdistinct : (table.toList.map fun entry => (p entry.1, entry.2)).Pairwise
      fun a b => ¬ compare a.1 b.1 = .eq := by
    refine List.Pairwise.map _ (fun a b hne heq => hne ?_) Std.ExtTreeMap.distinct_keys_toList
    rw [p.injective (Std.LawfulEqCmp.eq_of_compare heq)]
    exact Std.ReflCmp.compare_self
  cases h : table[key]? with
  | some value =>
    exact Std.ExtTreeMap.getElem?_ofList_of_mem Std.ReflCmp.compare_self hdistinct
      ((hmem value).mpr h)
  | none =>
    refine Std.ExtTreeMap.getElem?_ofList_of_contains_eq_false ?_
    rw [Bool.eq_false_iff, ne_eq, List.contains_iff_mem]
    intro hkey
    obtain ⟨⟨_, value⟩, hentry, rfl⟩ := List.mem_map.mp hkey
    rw [(hmem value).mp hentry] at h
    cases h

/-- A facet under its new id. -/
def Facet.renamed (p : Perm String) (facet : Facet) : Facet :=
  { facet with id := p facet.id }

@[simp] lemma Facet.id_renamed (p : Perm String) (facet : Facet) :
    (facet.renamed p).id = p facet.id := rfl

/-- An item with the new id of its facet. -/
def Item.renamed (p : Perm String) (item : Item) : Item :=
  { item with facetId := item.facetId.map p }

@[simp] lemma Item.id_renamed (p : Perm String) (item : Item) :
    (item.renamed p).id = item.id := rfl

/-- A rule whose reference is a facet. -/
def ScalingRule.renamed (p : Perm String) : ScalingRule → ScalingRule
  | .fixLoading reference => .fixLoading (reference.map p)
  | .fixVariance => .fixVariance

/-- The settings of the higher-order construct.  Only a reflective one refers to facets. -/
def SecondOrder.renamed (p : Perm String) (settings : SecondOrder) : SecondOrder :=
  if settings.mode = some .reflective then
    { settings with scaling := settings.scaling.map (ScalingRule.renamed p) }
  else settings

/-- A model under new ids of facets. -/
def Model.renamed (p : Perm String) (m : Model) : Model where
  instrument :=
    { m.instrument with
      facets := m.instrument.facets.map (Facet.renamed p)
      items := m.instrument.items.map (Item.renamed p) }
  configuration :=
    { m.configuration with
      modes := Table.renamed p m.configuration.modes
      scaling := Table.renamed p m.configuration.scaling
      excluded := Table.renamed p m.configuration.excluded
      globals := Table.renamed p m.configuration.globals
      secondOrder := SecondOrder.renamed p m.configuration.secondOrder }

/-- A latent variable under the new id of its facet. -/
def Latent.renamed (p : Perm String) : Latent → Latent
  | .facet id => .facet (p id)
  | latent => latent

/-- A facet is renamed by its id. -/
lemma Latent.renamed_facet (p : Perm String) (id : String) :
    (Latent.facet id).renamed p = .facet (p id) := rfl

@[simp] lemma Latent.renamed_eq_secondOrder_iff {p : Perm String} {latent : Latent} :
    latent.renamed p = .secondOrder ↔ latent = .secondOrder := by
  cases latent <;> simp [renamed]

/-- A renaming leaves blank texts and the reserved words alone. -/
structure KeepsReserved (p : Perm String) : Prop where
  blank : ∀ s, Text.isBlankText s = true → p s = s
  unidim : p Latent.unidimKey = Latent.unidimKey
  secondOrder : p Latent.secondOrderKey = Latent.secondOrderKey

/-- No other text becomes blank. -/
lemma KeepsReserved.isBlankText_eq {p : Perm String} (hp : KeepsReserved p) (s : String) :
    Text.isBlankText (p s) = Text.isBlankText s := by
  rw [Bool.eq_iff_iff]
  constructor
  · intro h
    rwa [← p.injective (hp.blank _ h)]
  · intro h
    rwa [hp.blank s h]

/-- The key of a renamed latent variable is its renamed key. -/
lemma KeepsReserved.key_renamed {p : Perm String} (hp : KeepsReserved p) (latent : Latent) :
    (latent.renamed p).key = p latent.key := by
  cases latent with
  | unidim => exact hp.unidim.symm
  | facet id => rfl
  | secondOrder => exact hp.secondOrder.symm

/-- Two ids that are neither blank nor reserved can be swapped. -/
lemma keepsReserved_swap {id other : String} (hid : Text.isBlankText id = false)
    (hother : Text.isBlankText other = false)
    (hunidim : Latent.unidimKey ≠ id ∧ Latent.unidimKey ≠ other)
    (hsecondOrder : Latent.secondOrderKey ≠ id ∧ Latent.secondOrderKey ≠ other) :
    KeepsReserved (Equiv.swap id other) := by
  refine ⟨fun s hs => Equiv.swap_apply_of_ne_of_ne ?_ ?_,
    Equiv.swap_apply_of_ne_of_ne hunidim.1 hunidim.2,
    Equiv.swap_apply_of_ne_of_ne hsecondOrder.1 hsecondOrder.2⟩ <;>
    rintro rfl <;> simp_all

namespace Model

variable {p : Perm String} {m : Model}

/-! ### Modes and facets -/

section Queries

variable (p m)

@[simp] lemma isUnidimensional_renamed :
    (m.renamed p).isUnidimensional = m.isUnidimensional := by
  simp [isUnidimensional, Instrument.isUnidimensional, renamed]

@[simp] lemma facets_renamed :
    (m.renamed p).instrument.facets = m.instrument.facets.map (Facet.renamed p) := rfl

/-- A renamed facet keeps its mode. -/
@[simp] lemma facetMode?_renamed (id : String) :
    (m.renamed p).facetMode? (p id) = m.facetMode? id :=
  Table.getElem?_renamed p _ id

/-- Renaming facets leaves the mode of the higher-order construct alone. -/
@[simp] lemma secondOrder_mode_renamed :
    (m.renamed p).configuration.secondOrder.mode = m.configuration.secondOrder.mode := by
  simp only [renamed, SecondOrder.renamed]
  split <;> rfl

/-- A renamed latent variable keeps its mode. -/
@[simp] lemma mode?_renamed (latent : Latent) :
    (m.renamed p).mode? (latent.renamed p) = m.mode? latent := by
  cases latent with
  | unidim => rfl
  | facet id => exact m.facetMode?_renamed p id
  | secondOrder => exact m.secondOrder_mode_renamed p

/-- The first facet with a renamed id is the renamed first facet with the id. -/
lemma facet?_renamed (id : String) :
    (m.renamed p).instrument.facet? (p id) = (m.instrument.facet? id).map (Facet.renamed p) := by
  simp only [Instrument.facet?, renamed, List.find?_map]
  refine congrArg (Option.map _) (congrArg (List.find? · _) (funext fun facet => ?_))
  simp [Facet.renamed]

/-! ### Items -/

/-- Items are sorted by their own ids, which do not change. -/
lemma sortById_map_renamed (items : List Item) :
    Instrument.sortById (items.map (Item.renamed p)) =
      (Instrument.sortById items).map (Item.renamed p) := by
  symm
  exact List.map_mergeSort (r := fun a b : Item => decide (a.id ≤ b.id)) fun _ _ _ _ => rfl

/-- All items in ascending order are the renamed ones in the same order. -/
lemma sortedItems_renamed :
    (m.renamed p).instrument.sortedItems = m.instrument.sortedItems.map (Item.renamed p) :=
  sortById_map_renamed p _

/-- The items of a renamed facet are those of the facet. -/
lemma facetItems_renamed (id : String) :
    (m.renamed p).instrument.facetItems (p id) =
      (m.instrument.facetItems id).map (Item.renamed p) := by
  rw [Instrument.facetItems, Instrument.facetItems, ← sortById_map_renamed]
  refine congrArg Instrument.sortById ?_
  simp only [renamed, List.filter_map]
  refine congrArg (List.map _) (List.filter_congr fun item _ => ?_)
  cases hfacet : item.facetId <;> simp [Item.renamed, hfacet]

/-- A renamed latent variable keeps its items. -/
lemma ownItems_renamed (latent : Latent) :
    (m.renamed p).ownItems (latent.renamed p) = (m.ownItems latent).map (Item.renamed p) := by
  cases latent with
  | unidim => exact m.sortedItems_renamed p
  | facet id => exact m.facetItems_renamed p id
  | secondOrder => rfl

/-- An item is excluded from a renamed latent variable when it was excluded from the variable. -/
lemma isExcluded_renamed (key : String) (itemId : Int64) :
    (m.renamed p).isExcluded (p key) itemId = m.isExcluded key itemId := by
  have hentry : (m.renamed p).configuration.excluded[p key]? = m.configuration.excluded[key]? :=
    Table.getElem?_renamed p _ key
  rw [isExcluded, isExcluded, hentry]

/-! ### Global items -/

/-- A renamed latent variable keeps its slots. -/
lemma globals?_renamed (latent : Latent) :
    (m.renamed p).globals? (latent.renamed p) = m.globals? latent := by
  cases latent with
  | unidim => rfl
  | facet id => exact Table.getElem?_renamed p _ id
  | secondOrder =>
    simp only [globals?, Latent.renamed, renamed, SecondOrder.renamed]
    split <;> rfl

@[simp] lemma globals_renamed (latent : Latent) :
    (m.renamed p).globals (latent.renamed p) = m.globals latent := by
  rw [globals, globals, globals?_renamed]

@[simp] lemma presentGlobals_renamed (latent : Latent) :
    (m.renamed p).presentGlobals (latent.renamed p) = m.presentGlobals latent := by
  rw [presentGlobals, presentGlobals, globals_renamed]

end Queries

variable (hp : KeepsReserved p)

include hp

/-- A renamed latent variable keeps its active items. -/
lemma activeItems_renamed (latent : Latent) :
    (m.renamed p).activeItems (latent.renamed p) =
      (m.activeItems latent).map (Item.renamed p) := by
  rw [activeItems, activeItems, ownItems_renamed, List.filter_map, hp.key_renamed]
  refine congrArg (List.map _) (List.filter_congr fun item _ => ?_)
  exact congrArg not (m.isExcluded_renamed p latent.key item.id)

end Model

end Psychometrics
