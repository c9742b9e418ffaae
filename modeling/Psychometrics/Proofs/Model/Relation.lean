import Mathlib
import Psychometrics.Statement.OfModel

/-!
# The relations of one latent variable

The relations of a model form one flat list.  This file takes it apart again: filtering by the id of
a facet gives back the relations of that facet (`Model.filter_latentKey_indicators`), and the global
relations of the higher-order construct are its present global items
(`Model.map_text_filter_indicators`).

Among the relations of a facet, the direction and the global mark tell the active items from the
present global items.  Where facets share an id, or one bears the key of the higher-order construct,
this still says which items and which global items are referred to
(`Model.mem_filterMap_itemId?_iff`, `Model.mem_map_text_filter_latentKey_iff`).
-/

namespace Psychometrics

namespace Model

variable {m : Model} {facet other : Facet} {r : Indicator}

/-! ### Marks of a relation -/

/-- The relations of a facet carry its id, and belong to no higher-order construct. -/
lemma marks_of_mem_facetIndicators (h : r ∈ m.facetIndicators facet) :
    r.latentKey = facet.id ∧ r.isSecondOrder = false := by
  unfold facetIndicators at h
  split at h
  · simp at h
  · obtain ⟨item, -, rfl⟩ := List.mem_map.mp h
    exact ⟨rfl, rfl⟩
  · rcases List.mem_append.mp h with h | h
    · obtain ⟨item, -, rfl⟩ := List.mem_map.mp h
      exact ⟨rfl, rfl⟩
    · obtain ⟨item, -, rfl⟩ := List.mem_map.mp h
      exact ⟨rfl, rfl⟩

/-- The relations of the higher-order construct carry its key and its mark. -/
lemma marks_of_mem_secondOrderIndicators (h : r ∈ m.secondOrderIndicators) :
    r.latentKey = Latent.secondOrderKey ∧ r.isSecondOrder = true := by
  unfold secondOrderIndicators at h
  split at h
  · rcases List.mem_append.mp h with h | h
    · obtain ⟨other, -, rfl⟩ := List.mem_map.mp h
      exact ⟨rfl, rfl⟩
    · obtain ⟨item, -, rfl⟩ := List.mem_map.mp h
      exact ⟨rfl, rfl⟩
  · simp at h

/-! ### Relations by latent variable -/

/-- A list to which one element contributes is what this element contributes. -/
lemma flatMap_eq_of_forall_ne {α β : Type} {xs : List α} {x : α} {f : α → List β}
    (hnodup : xs.Nodup) (hx : x ∈ xs) (h : ∀ y ∈ xs, y ≠ x → f y = []) : xs.flatMap f = f x := by
  induction xs with
  | nil => cases hx
  | cons first rest ih =>
    rw [List.nodup_cons] at hnodup
    obtain ⟨hfirst, hrest⟩ := List.forall_mem_cons.mp h
    rw [List.flatMap_cons]
    rcases List.mem_cons.mp hx with rfl | hx
    · have hnil : rest.flatMap f = [] := by
        refine List.flatMap_eq_nil_iff.mpr fun y hy => hrest y hy ?_
        rintro rfl
        exact hnodup.1 hy
      rw [hnil, List.append_nil]
    · have hne : first ≠ x := by
        rintro rfl
        exact hnodup.1 hx
      rw [hfirst hne, List.nil_append, ih hnodup.2 hx hrest]

/-- Among the relations of facets with different ids, those with the id of one of them are its
own. -/
lemma filter_latentKey_flatMap {facets : List Facet} (hnodup : (facets.map Facet.id).Nodup)
    (hfacet : facet ∈ facets) :
    (facets.flatMap m.facetIndicators).filter (fun r => r.latentKey == facet.id) =
      m.facetIndicators facet := by
  have hforeign : ∀ other ∈ facets, other ≠ facet →
      (m.facetIndicators other).filter (fun r => r.latentKey == facet.id) = [] := by
    intro other hother hne
    refine List.filter_eq_nil_iff.mpr fun r hr => ?_
    rw [(marks_of_mem_facetIndicators hr).1, beq_iff_eq]
    exact fun hid => hne (List.inj_on_of_nodup_map hnodup hother hfacet hid)
  rw [List.filter_flatMap, flatMap_eq_of_forall_ne (.of_map _ hnodup) hfacet hforeign]
  refine List.filter_eq_self.mpr fun r hr => ?_
  rw [(marks_of_mem_facetIndicators hr).1]
  exact beq_self_eq_true _

/-- The relations that carry the id of a facet are those of the facet, and if the id is the key of
the higher-order construct, also those of that construct. -/
lemma filter_latentKey_indicators (hnodup : (m.instrument.facets.map Facet.id).Nodup)
    (hfacet : facet ∈ m.instrument.facets) :
    m.indicators.filter (fun r => r.latentKey == facet.id) =
      m.facetIndicators facet ++
        (if facet.id = Latent.secondOrderKey then m.secondOrderIndicators else []) := by
  rw [indicators, List.filter_append, filter_latentKey_flatMap hnodup hfacet]
  congr 1
  split
  · next hid =>
    refine List.filter_eq_self.mpr fun r hr => ?_
    rw [(marks_of_mem_secondOrderIndicators hr).1, hid]
    exact beq_self_eq_true _
  · next hid =>
    refine List.filter_eq_nil_iff.mpr fun r hr => ?_
    rw [(marks_of_mem_secondOrderIndicators hr).1, beq_iff_eq]
    exact fun heq => hid heq.symm

/-- The global relations of a formative higher-order construct are its present global items. -/
lemma map_text_filter_indicators (h : m.configuration.secondOrder.mode = some .formative) :
    (m.indicators.filter fun r => r.isSecondOrder && r.isGlobal).map (fun r => r.ref.text) =
      (m.presentGlobals .secondOrder).map GlobalItem.id := by
  have hfacets : (m.instrument.facets.flatMap m.facetIndicators).filter
      (fun r => r.isSecondOrder && r.isGlobal) = [] := by
    refine List.filter_eq_nil_iff.mpr fun r hr => ?_
    obtain ⟨facet, -, hr⟩ := List.mem_flatMap.mp hr
    simp [(marks_of_mem_facetIndicators hr).2]
  rw [indicators, List.filter_append, hfacets, List.nil_append, secondOrderIndicators, if_pos h,
    List.filter_append, List.filter_map, List.filter_map]
  simp [Function.comp_def, IndicatorRef.text]

/-- No relation of the higher-order construct refers to an item. -/
lemma filterMap_itemId?_filter_secondOrderIndicators (p : Indicator → Bool) :
    (m.secondOrderIndicators.filter p).filterMap Indicator.itemId? = [] := by
  refine List.filterMap_eq_nil_iff.mpr fun r hr => ?_
  have hr := List.mem_of_mem_filter hr
  unfold secondOrderIndicators at hr
  split at hr
  · rcases List.mem_append.mp hr with hr | hr
    · obtain ⟨other, -, rfl⟩ := List.mem_map.mp hr
      rfl
    · obtain ⟨item, -, rfl⟩ := List.mem_map.mp hr
      rfl
  · cases hr

/-- The global relations of a higher-order construct of its own are those of a formative one. -/
lemma map_text_filter_secondOrderIndicators :
    (m.secondOrderIndicators.filter fun r => r.isGlobal).map (fun r => r.ref.text) =
      if m.configuration.secondOrder.mode = some .formative then
        (m.presentGlobals .secondOrder).map GlobalItem.id
      else [] := by
  unfold secondOrderIndicators
  split
  · simp [List.filter_map, Function.comp_def, IndicatorRef.text]
  · rfl

/-! ### Relations of a facet -/

/-- The relations by which a reflective facet shows in items are its active items. -/
lemma filterMap_itemId?_facetIndicators_of_reflective
    (h : m.facetMode? facet.id = some .reflective) :
    ((m.facetIndicators facet).filter fun r => r.direction == .outward && !r.isGlobal).filterMap
        Indicator.itemId? =
      (m.activeItems (.facet facet.id)).map Item.id := by
  simp [facetIndicators, h, List.filter_map, List.filterMap_map, Function.comp_def,
    Indicator.itemId?]

/-- The causes of a formative facet are its active items. -/
lemma filterMap_itemId?_facetIndicators_of_formative (h : m.facetMode? facet.id = some .formative) :
    ((m.facetIndicators facet).filter fun r => r.direction == .inward).filterMap
        Indicator.itemId? =
      (m.activeItems (.facet facet.id)).map Item.id := by
  simp [facetIndicators, h, List.filter_map, List.filterMap_map, Function.comp_def,
    Indicator.itemId?]

/-- The global relations of a formative facet are its present global items. -/
lemma map_text_facetIndicators_of_formative (h : m.facetMode? facet.id = some .formative) :
    ((m.facetIndicators facet).filter fun r => r.isGlobal).map (fun r => r.ref.text) =
      (m.presentGlobals (.facet facet.id)).map GlobalItem.id := by
  simp [facetIndicators, h, List.filter_map, Function.comp_def, IndicatorRef.text]

/-! ### Relations under a shared id -/

/-- The relations of a facet depend on its id. -/
lemma facetIndicators_congr (h : other.id = facet.id) :
    m.facetIndicators other = m.facetIndicators facet := by
  unfold facetIndicators
  rw [h]

/-- The relations that carry the id of a facet, whoever else bears it, are those of the facet and,
if the id is the key of the higher-order construct, those of that construct. -/
lemma mem_filter_latentKey_iff (hfacet : facet ∈ m.instrument.facets) :
    r ∈ m.indicators.filter (fun r => r.latentKey == facet.id) ↔
      r ∈ m.facetIndicators facet ∨
        facet.id = Latent.secondOrderKey ∧ r ∈ m.secondOrderIndicators := by
  rw [List.mem_filter, indicators, List.mem_append, List.mem_flatMap, beq_iff_eq]
  constructor
  · rintro ⟨⟨other, -, hr⟩ | hr, hkey⟩
    · rw [(marks_of_mem_facetIndicators hr).1] at hkey
      exact .inl (facetIndicators_congr hkey ▸ hr)
    · rw [(marks_of_mem_secondOrderIndicators hr).1] at hkey
      exact .inr ⟨hkey.symm, hr⟩
  · rintro (hr | ⟨hkey, hr⟩)
    · exact ⟨.inl ⟨facet, hfacet, hr⟩, (marks_of_mem_facetIndicators hr).1⟩
    · exact ⟨.inr hr, (marks_of_mem_secondOrderIndicators hr).1.trans hkey.symm⟩

/-- The items that the relations with the id of a facet refer to are those of the facet. -/
lemma mem_filterMap_itemId?_iff (hfacet : facet ∈ m.instrument.facets) (p : Indicator → Bool)
    {id : Int64} :
    id ∈ ((m.indicators.filter fun r => r.latentKey == facet.id).filter p).filterMap
        Indicator.itemId? ↔
      id ∈ ((m.facetIndicators facet).filter p).filterMap Indicator.itemId? := by
  simp only [List.mem_filterMap, List.mem_filter (p := p), mem_filter_latentKey_iff hfacet]
  constructor
  · rintro ⟨r, ⟨hr | ⟨-, hr⟩, hp⟩, hid⟩
    · exact ⟨r, ⟨hr, hp⟩, hid⟩
    · have hnone := List.filterMap_eq_nil_iff.mp
        (filterMap_itemId?_filter_secondOrderIndicators p) r (List.mem_filter.mpr ⟨hr, hp⟩)
      rw [hnone] at hid
      cases hid
  · rintro ⟨r, ⟨hr, hp⟩, hid⟩
    exact ⟨r, ⟨.inl hr, hp⟩, hid⟩

/-- The global items that the relations with the id of a facet refer to are those of the facet, and
if the id is the key of the higher-order construct, those of that construct. -/
lemma mem_map_text_filter_latentKey_iff (hfacet : facet ∈ m.instrument.facets) {id : String} :
    id ∈ ((m.indicators.filter fun r => r.latentKey == facet.id).filter fun r =>
        r.isGlobal).map (fun r => r.ref.text) ↔
      id ∈ ((m.facetIndicators facet).filter fun r => r.isGlobal).map (fun r => r.ref.text) ∨
        facet.id = Latent.secondOrderKey ∧
          id ∈ (m.secondOrderIndicators.filter fun r => r.isGlobal).map (fun r => r.ref.text) := by
  simp only [List.mem_map, List.mem_filter (p := fun r => Indicator.isGlobal r),
    mem_filter_latentKey_iff hfacet]
  constructor
  · rintro ⟨r, ⟨hr | ⟨hkey, hr⟩, hglobal⟩, hid⟩
    · exact .inl ⟨r, ⟨hr, hglobal⟩, hid⟩
    · exact .inr ⟨hkey, r, ⟨hr, hglobal⟩, hid⟩
  · rintro (⟨r, ⟨hr, hglobal⟩, hid⟩ | ⟨hkey, r, ⟨hr, hglobal⟩, hid⟩)
    · exact ⟨r, ⟨.inl hr, hglobal⟩, hid⟩
    · exact ⟨r, ⟨.inr ⟨hkey, hr⟩, hglobal⟩, hid⟩

end Model

end Psychometrics
