import Mathlib
import Psychometrics.Proofs.Renaming.Naming
import Psychometrics.Proofs.Renaming.Scaling
import Psychometrics.Statement.OfModel

/-!
# Statements under renamed facets

A model is compiled from its relations, which carry the ids of facets, and the facets below a
higher-order construct are indicators with ids of facets.  Neither shows in a statement: relations
are only looked up by these ids (`Indicator.IsRenamed`), and of an indicator the statements have
nothing but the name.  So the statements of a renamed model are those of the model itself
(`Model.statements_renamed`), and where a name is missing, it is the same one.
-/

namespace Psychometrics

open Equiv (Perm)

variable {p : Perm String}

/-! ### Named indicators -/

/-- A named indicator that is a facet, under its new id. -/
def NamedIndicator.renamed (p : Perm String) (indicator : NamedIndicator) : NamedIndicator :=
  { indicator with id := p indicator.id }

/-- Renamed indicators keep their names. -/
lemma map_name_renamed (p : Perm String) (indicators : List NamedIndicator) :
    (indicators.map (NamedIndicator.renamed p)).map NamedIndicator.name =
      indicators.map NamedIndicator.name := by
  rw [List.map_map]
  rfl

/-- The indicator that is picked as the reference is the same under its new id. -/
lemma pickReference_renamed (p : Perm String) (id : String) (indicators : List NamedIndicator) :
    pickReference (p id) (indicators.map (NamedIndicator.renamed p)) =
      pickReference id indicators := by
  induction indicators with
  | nil => rfl
  | cons first rest ih =>
    rw [List.map_cons, pickReference, pickReference, ih, map_name_renamed]
    simp [NamedIndicator.renamed]

/-- A measurement by facets does not show their ids. -/
lemma measurementBlock_renamed (hp : KeepsReserved p) (latent : String)
    (indicators : List NamedIndicator) (rule : ScalingRule) :
    measurementBlock latent (indicators.map (NamedIndicator.renamed p)) (rule.renamed p) =
      measurementBlock latent indicators rule := by
  have hpick : ((rule.renamed p).reference.bind fun id =>
      pickReference id (indicators.map (NamedIndicator.renamed p))) =
        rule.reference.bind fun id => pickReference id indicators := by
    rw [rule.reference_renamed hp, Option.bind_map]
    exact congrArg _ (funext fun id => pickReference_renamed p id indicators)
  rw [measurementBlock, measurementBlock, hpick, List.isEmpty_map, map_name_renamed]

/-- Causes are stated by their names, not by their ids. -/
lemma causeBlock_renamed (p : Perm String) (latent : String) (causes : List NamedIndicator) :
    causeBlock latent (causes.map (NamedIndicator.renamed p)) = causeBlock latent causes := by
  rw [causeBlock, causeBlock, List.isEmpty_map, map_name_renamed]

namespace Names.IsRenamed

variable {names names' : Names} (h : names.IsRenamed p names')

include h

/-- Indicators of renamed symbols are found under the same names. -/
lemma mapM_eq {α β : Type} (id : α → String) (symbol : α → Symbol) (id' : β → String)
    (symbol' : β → Symbol) {g : α → β} {k : NamedIndicator → NamedIndicator}
    (hsymbol : ∀ x, symbol' (g x) = (symbol x).renamed p)
    (hid : ∀ x name, ⟨id' (g x), name⟩ = k ⟨id x, name⟩) (xs : List α) :
    ((xs.map g).mapM fun y => do
      return (⟨id' y, ← names'.get (symbol' y)⟩ : NamedIndicator)) =
        ((xs.mapM fun x => do
          return (⟨id x, ← names.get (symbol x)⟩ : NamedIndicator)).map
            (List.map k)).mapError (CompileError.renamed p) := by
  refine mapM_map_eq_map_mapError fun x _ => ?_
  rw [hsymbol, h.get_eq]
  cases names.get (symbol x) with
  | error e => rfl
  | ok name => exact congrArg Except.ok (hid x name)

/-- Indicators are found under the same names when nothing but their symbols is renamed. -/
lemma mapM_eq_of_id {α : Type} (id : α → String) (symbol symbol' : α → Symbol)
    (hsymbol : ∀ x, symbol' x = (symbol x).renamed p) (xs : List α) :
    (xs.mapM fun x => do return (⟨id x, ← names'.get (symbol' x)⟩ : NamedIndicator)) =
      (xs.mapM fun x => do
        return (⟨id x, ← names.get (symbol x)⟩ : NamedIndicator)).mapError
          (CompileError.renamed p) := by
  have hmap := h.mapM_eq id symbol id symbol' (g := fun x => x) (k := fun i => i) hsymbol
    (fun _ _ => rfl) xs
  simpa using hmap

/-- Items keep their names. -/
lemma items_eq (ids : List Int64) :
    names'.items ids = (names.items ids).mapError (CompileError.renamed p) :=
  h.mapM_eq_of_id _ Symbol.item Symbol.item (fun _ => rfl) ids

/-- Global items keep their names. -/
lemma globals_eq (hp : KeepsReserved p) (latent : Latent) (ids : List String) :
    names'.globals (latent.renamed p) ids =
      (names.globals latent ids).mapError (CompileError.renamed p) :=
  h.mapM_eq_of_id _ (Symbol.global latent.key) (Symbol.global (latent.renamed p).key)
    (fun id => by rw [hp.key_renamed]; rfl) ids

/-- Facets keep their names under their new ids. -/
lemma facets_eq (facets : List Facet) :
    names'.facets (facets.map (Facet.renamed p)) =
      ((names.facets facets).map (List.map (NamedIndicator.renamed p))).mapError
        (CompileError.renamed p) :=
  h.mapM_eq Facet.id (fun facet => .facet facet.id) Facet.id (fun facet => .facet facet.id)
    (fun _ => rfl) (fun _ _ => rfl) facets

end Names.IsRenamed

/-! ### Relations -/

/-- Two relations that carry the same key of a facet, renamed, and show the same.  The id by which a
relation refers to a facet is never shown. -/
structure Indicator.IsRenamed (p : Perm String) (r r' : Indicator) : Prop where
  latentKey : r'.latentKey = p r.latentKey
  direction : r'.direction = r.direction
  isGlobal : r'.isGlobal = r.isGlobal
  isSecondOrder : r'.isSecondOrder = r.isSecondOrder
  itemId? : r'.itemId? = r.itemId?
  text : r.isGlobal = true → r'.ref.text = r.ref.text

namespace Indicator.IsRenamed

variable {relations relations' : List Indicator}
  (h : List.Forall₂ (Indicator.IsRenamed p) relations relations')

include h

/-- The relations with a renamed key are the renamed relations with the key. -/
lemma filter_latentKey (key : String) :
    List.Forall₂ (Indicator.IsRenamed p) (relations.filter fun r => r.latentKey == key)
      (relations'.filter fun r => r.latentKey == p key) :=
  List.rel_filter (fun r r' hr => by simp [hr.latentKey]) h

/-- Renamed relations refer to the same items. -/
lemma filterMap_itemId?_filter {shown : Indicator → Bool}
    (hshown : ∀ r r', Indicator.IsRenamed p r r' → shown r' = shown r) :
    (relations'.filter shown).filterMap Indicator.itemId? =
      (relations.filter shown).filterMap Indicator.itemId? := by
  induction h with
  | nil => rfl
  | @cons r r' relations relations' hr _ ih =>
    rw [List.filter_cons, List.filter_cons, hshown r r' hr]
    split
    · rw [List.filterMap_cons, List.filterMap_cons, hr.itemId?, ih]
    · exact ih

/-- Renamed relations refer to the same global items. -/
lemma map_text_filter {shown : Indicator → Bool}
    (hshown : ∀ r r', Indicator.IsRenamed p r r' → shown r' = shown r)
    (hglobal : ∀ r, shown r = true → r.isGlobal = true) :
    ((relations'.filter shown).map fun r => r.ref.text) =
      (relations.filter shown).map fun r => r.ref.text := by
  induction h with
  | nil => rfl
  | @cons r r' relations relations' hr _ ih =>
    rw [List.filter_cons, List.filter_cons, hshown r r' hr]
    split
    · next hr' => rw [List.map_cons, List.map_cons, hr.text (hglobal r hr'), ih]
    · exact ih

end Indicator.IsRenamed

namespace Model

variable {m : Model} (hp : KeepsReserved p)

include hp

/-- The relations of a renamed facet are its renamed relations. -/
lemma facetIndicators_renamed (facet : Facet) :
    List.Forall₂ (Indicator.IsRenamed p) (m.facetIndicators facet)
      ((m.renamed p).facetIndicators (facet.renamed p)) := by
  rw [facetIndicators, facetIndicators, Facet.id_renamed, facetMode?_renamed,
    ← Latent.renamed_facet, activeItems_renamed hp, presentGlobals_renamed, List.map_map,
    List.map_map]
  split
  · exact .nil
  · refine List.forall₂_map_left_iff.mpr (List.forall₂_map_right_iff.mpr ?_)
    exact List.forall₂_same.mpr fun item _ => ⟨rfl, rfl, rfl, rfl, rfl, nofun⟩
  · refine List.rel_append ?_ ?_ <;>
      refine List.forall₂_map_left_iff.mpr (List.forall₂_map_right_iff.mpr ?_)
    · exact List.forall₂_same.mpr fun item _ => ⟨rfl, rfl, rfl, rfl, rfl, nofun⟩
    · exact List.forall₂_same.mpr fun item _ => ⟨rfl, rfl, rfl, rfl, rfl, fun _ => rfl⟩

/-- The relations of the higher-order construct are renamed. -/
lemma secondOrderIndicators_renamed :
    List.Forall₂ (Indicator.IsRenamed p) m.secondOrderIndicators
      (m.renamed p).secondOrderIndicators := by
  have hglobals : (m.renamed p).presentGlobals .secondOrder = m.presentGlobals .secondOrder :=
    m.presentGlobals_renamed p .secondOrder
  rw [secondOrderIndicators, secondOrderIndicators, secondOrder_mode_renamed, hglobals,
    facets_renamed, List.map_map]
  split
  · refine List.rel_append ?_ ?_ <;>
      refine List.forall₂_map_left_iff.mpr (List.forall₂_map_right_iff.mpr ?_)
    · exact List.forall₂_same.mpr fun facet _ => ⟨hp.secondOrder.symm, rfl, rfl, rfl, rfl, nofun⟩
    · exact List.forall₂_same.mpr fun item _ =>
        ⟨hp.secondOrder.symm, rfl, rfl, rfl, rfl, fun _ => rfl⟩
  · exact .nil

/-- The relations of a renamed model are its relations, renamed. -/
lemma indicators_renamed :
    List.Forall₂ (Indicator.IsRenamed p) m.indicators (m.renamed p).indicators := by
  refine List.rel_append ?_ (secondOrderIndicators_renamed hp)
  rw [facets_renamed, List.flatMap_map]
  refine List.rel_flatMap (List.forall₂_same.mpr fun facet _ => rfl) ?_
  rintro facet _ rfl
  exact facetIndicators_renamed hp facet

/-! ### Sections -/

variable {names names' : Names} {relations relations' : List Indicator}

/-- A renamed facet is compiled to the same section, or lacks the same name. -/
lemma facetSection_renamed (h : names.IsRenamed p names')
    (hrelations : List.Forall₂ (Indicator.IsRenamed p) relations relations') {facet : Facet}
    (hnamed : Text.isBlankText facet.name = false) (mode : Mode) :
    (m.renamed p).facetSection names' relations' (facet.renamed p) mode =
      (m.facetSection names relations facet mode).mapError (CompileError.renamed p) := by
  have hname : names'.get (.facet (facet.renamed p).id) =
      (names.get (.facet facet.id)).mapError (CompileError.renamed p) :=
    h.get_eq (.facet facet.id)
  have hrule : (m.renamed p).effectiveRule (.facet (facet.renamed p).id) =
      m.effectiveRule (.facet facet.id) :=
    effectiveRule_renamed hp (.facet facet.id) (.inl nofun)
  have hown : List.Forall₂ (Indicator.IsRenamed p)
      (relations.filter fun r => r.latentKey == facet.id)
      (relations'.filter fun r => r.latentKey == (facet.renamed p).id) :=
    Indicator.IsRenamed.filter_latentKey hrelations facet.id
  have hlabel := facet.label_renamed (p := p) hnamed
  cases mode with
  | reflective =>
    -- Items are looked up by their own ids, global items by their ids under the key of the facet.
    have hitems := Indicator.IsRenamed.filterMap_itemId?_filter hown
      fun r r' hr => congrArg₂ (fun d b => d == Direction.outward && !b) hr.direction hr.isGlobal
    simp only [facetSection, hname, hrule, hlabel, hitems, h.items_eq, mapError_bind]
    refine bind_congr fun name => bind_congr fun items => ?_
    split <;> rfl
  | formative =>
    have hitems := Indicator.IsRenamed.filterMap_itemId?_filter hown
      fun r r' hr => congrArg (· == Direction.inward) hr.direction
    have hids := Indicator.IsRenamed.map_text_filter hown (fun r r' hr => hr.isGlobal)
      fun r hr => hr
    have hglobals : ∀ ids, names'.globals (.facet (facet.renamed p).id) ids =
        (names.globals (.facet facet.id) ids).mapError (CompileError.renamed p) :=
      h.globals_eq hp (.facet facet.id)
    simp only [facetSection, hname, hrule, hlabel, hitems, hids, hglobals, h.items_eq,
      mapError_bind]
    rfl

/-- Renamed facets are compiled to the same sections, or lack the same name. -/
lemma facetSections_renamed (h : names.IsRenamed p names')
    (hrelations : List.Forall₂ (Indicator.IsRenamed p) relations relations')
    (hnamed : ∀ facet ∈ m.instrument.facets, Text.isBlankText facet.name = false) :
    (m.renamed p).facetSections names' relations' =
      (m.facetSections names relations).mapError (CompileError.renamed p) := by
  rw [facetSections, facetSections, facets_renamed, mapError_bind]
  refine congrArg (· >>= fun sections : List (List Section) => pure sections.flatten) ?_
  refine mapM_map_eq_mapError fun facet hfacet => ?_
  rw [Facet.id_renamed, facetMode?_renamed]
  cases m.facetMode? facet.id with
  | none => rfl
  | some mode => exact facetSection_renamed hp h hrelations (hnamed facet hfacet) mode

/-- The section of the higher-order construct. -/
lemma secondOrderSection_renamed (h : names.IsRenamed p names')
    (hrelations : List.Forall₂ (Indicator.IsRenamed p) relations relations')
    (hnamed : ∀ facet ∈ m.instrument.facets, Text.isBlankText facet.name = false) :
    (m.renamed p).secondOrderSection names' relations' =
      (m.secondOrderSection names relations).mapError (CompileError.renamed p) := by
  -- The facets are the only indicators that are found under other ids.
  have hfacets : names'.facets (m.renamed p).emittedFacets =
      ((names.facets m.emittedFacets).map (List.map (NamedIndicator.renamed p))).mapError
        (CompileError.renamed p) := by
    rw [emittedFacets_renamed hp, h.facets_eq]
  unfold secondOrderSection
  rw [m.secondOrder_mode_renamed p, hfacets]
  cases hmode : m.configuration.secondOrder.mode with
  | none => rfl
  | some mode =>
    cases names.facets m.emittedFacets with
    | error e => rfl
    | ok facets =>
      cases mode with
      | reflective =>
        have hrule := effectiveRule_secondOrder_renamed hp hmode hnamed
        have hblock := measurementBlock_renamed hp names.overall facets
          (m.effectiveRule .secondOrder)
        simp only [Except.map, Except.mapError, bind, Except.bind, List.isEmpty_map, hrule,
          h.overall, hblock]
        split <;> rfl
      | formative =>
        have hrule : (m.renamed p).effectiveRule .secondOrder = m.effectiveRule .secondOrder :=
          effectiveRule_renamed hp .secondOrder (.inr hmode)
        have hids := Indicator.IsRenamed.map_text_filter hrelations
          (fun r r' hr => congrArg₂ (· && ·) hr.isSecondOrder hr.isGlobal)
          fun r hr => (Bool.and_eq_true_iff.mp hr).2
        have hglobals : ∀ ids, names'.globals .secondOrder ids =
            (names.globals .secondOrder ids).mapError (CompileError.renamed p) :=
          h.globals_eq hp .secondOrder
        simp only [Except.map, Except.mapError, bind, Except.bind, List.isEmpty_map, hrule,
          h.overall, hids, hglobals, causeBlock_renamed]
        split
        · rfl
        · cases names.globals .secondOrder _ <;> rfl

/-- The single block of a unidimensional model. -/
lemma unidimBlock_renamed (h : names.IsRenamed p names') :
    (m.renamed p).unidimBlock names' =
      (m.unidimBlock names).mapError (CompileError.renamed p) := by
  have hitems : ((m.renamed p).activeItems .unidim).map Item.id =
      (m.activeItems .unidim).map Item.id := by
    have hactive : (m.renamed p).activeItems .unidim =
        (m.activeItems .unidim).map (Item.renamed p) := activeItems_renamed hp .unidim
    rw [hactive, List.map_map]
    rfl
  have hrule : (m.renamed p).effectiveRule .unidim = m.effectiveRule .unidim :=
    effectiveRule_renamed hp .unidim (.inl nofun)
  rw [unidimBlock, unidimBlock, hitems, hrule, h.items_eq, h.overall, mapError_bind]
  rfl

/-- The statements of a renamed model are those of the model. -/
lemma statements_renamed (h : names.IsRenamed p names')
    (hnamed : ∀ facet ∈ m.instrument.facets, Text.isBlankText facet.name = false)
    (comments : Bool) :
    (m.renamed p).statements names' comments =
      (m.statements names comments).mapError (CompileError.renamed p) := by
  have htitle : (m.renamed p).titleSections = m.titleSections := rfl
  have hrelations := indicators_renamed (m := m) hp
  simp only [statements, m.isUnidimensional_renamed p, htitle, unidimBlock_renamed hp h,
    facetSections_renamed hp h hrelations hnamed, secondOrderSection_renamed hp h hrelations hnamed]
  split <;> simp only [mapError_bind] <;> rfl

end Model

end Psychometrics
