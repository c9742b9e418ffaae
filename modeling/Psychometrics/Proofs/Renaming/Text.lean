import Mathlib
import Psychometrics.Proofs.Listing.Failure
import Psychometrics.Proofs.Renaming.Statements

/-!
# Texts under renamed facets

The legend explains a facet by its name and a global item by the name of its owner.  So nothing in a
compiled text tells what ids the facets have, as long as they have names: a model and the model with
renamed facets have the same text, or neither can be compiled and the reason is worded alike
(`Model.text?_renamed`).  The order of the facets is that of their declaration, and no table is ever
walked through by its keys.
-/

namespace Psychometrics

open Equiv (Perm)

variable {p : Perm String}

/-- An entry of the legend about a renamed symbol. -/
def LegendEntry.renamed (p : Perm String) (entry : LegendEntry) : LegendEntry :=
  { entry with symbol := entry.symbol.renamed p }

/-- A failure to name a symbol is worded by what the symbol is and by the name that it wants. -/
lemma CompileError.message_renamed (p : Perm String) (symbol : Symbol) (wanted : String) :
    (CompileError.renamed p (.nameExhausted symbol wanted)).message =
      (CompileError.nameExhausted symbol wanted).message := by
  cases symbol <;> rfl

/-- How a failure reads is all that a text has of it. -/
lemma Listing.failureText_eq_of_message_eq {e e' : CompileError} (h : e.message = e'.message) :
    failureText e = failureText e' := by
  rw [failureText, failureText, h]

namespace Model

variable {m : Model} {names names' : Names} (hp : KeepsReserved p)
  (h : names.IsRenamed p names')
  (hnamed : ∀ facet ∈ m.instrument.facets, Text.isBlankText facet.name = false)

/-! ### The legend -/

include hp in
/-- An item of no facet has the blank key, which is not renamed. -/
lemma ownerKey_renamed (item : Item) :
    (m.renamed p).ownerKey (item.renamed p) = p (m.ownerKey item) := by
  rw [ownerKey, ownerKey, m.isUnidimensional_renamed p]
  split
  · exact hp.unidim.symm
  · cases hfacet : item.facetId with
    | none => simpa [Item.renamed, hfacet] using (hp.blank "" rfl).symm
    | some id => simp [Item.renamed, hfacet]

include hp h in
/-- Items are explained as before, under the new ids of their facets. -/
lemma itemEntries_renamed (width : ℕ) :
    (m.renamed p).itemEntries names' width =
      (m.itemEntries names width).map (LegendEntry.renamed p) := by
  rw [itemEntries, itemEntries, sortedItems_renamed, List.filterMap_map, List.map_filterMap]
  refine List.filterMap_congr fun item _ => ?_
  have hfind : names'.find? (.item item.id) = names.find? (.item item.id) := h.find? (.item item.id)
  have hexcluded : (m.renamed p).isExcluded ((m.renamed p).ownerKey (item.renamed p)) item.id =
      m.isExcluded (m.ownerKey item) item.id := by
    rw [ownerKey_renamed hp, isExcluded_renamed]
  simp only [Function.comp_apply, Option.map_map, Item.id_renamed, hexcluded, hfind]
  rfl

include hnamed in
/-- The owner of a global item is called by the name of a facet, if it is a facet. -/
lemma ownerLabel_renamed {latent : Latent} (howner : latent ∈ m.globalOwners) :
    (m.renamed p).ownerLabel (latent.renamed p) = m.ownerLabel latent := by
  cases latent with
  | facet id =>
    have hfound := m.facet?_renamed p id
    cases hfacet : m.instrument.facet? id with
    | some facet =>
      have hlabel := facet.label_renamed (p := p) (hnamed facet (List.mem_of_find?_eq_some hfacet))
      rw [hfacet] at hfound
      simp only [ownerLabel, Latent.renamed, hfound, hfacet, Option.map_some, hlabel]
    | none =>
      -- The label would be the id itself, but an owner that is a facet is found.
      obtain ⟨facet, hmem, heq⟩ := List.mem_map.mp
        ((List.mem_append.mp howner).resolve_right (by simp))
      obtain rfl := Latent.facet.inj heq
      exact absurd (beq_self_eq_true _) (List.find?_eq_none.mp hfacet facet hmem)
  | _ => rfl

include hp h hnamed in
/-- Global items are explained as before, under the new ids of their owners. -/
lemma globalEntries_renamed (width : ℕ) :
    (m.renamed p).globalEntries names' width =
      (m.globalEntries names width).map (LegendEntry.renamed p) := by
  rw [globalEntries, globalEntries, globalOwners_renamed, List.flatMap_map, List.map_flatMap]
  refine List.flatMap_congr fun latent howner => ?_
  rw [presentGlobals_renamed, List.map_filterMap]
  refine List.filterMap_congr fun item _ => ?_
  have hfind : names'.find? (.global (p latent.key) item.id) =
      names.find? (.global latent.key item.id) := h.find? (.global latent.key item.id)
  simp only [hp.key_renamed, hfind, ownerLabel_renamed hnamed howner, Option.map_map]
  rfl

include h hnamed in
/-- Facets are explained as before, under their new ids. -/
lemma facetEntries_renamed :
    (m.renamed p).facetEntries names' = (m.facetEntries names).map (LegendEntry.renamed p) := by
  rw [facetEntries, facetEntries, facets_renamed, List.filterMap_map, List.map_filterMap]
  refine List.filterMap_congr fun facet hfacet => ?_
  have hfind : names'.find? (.facet (facet.renamed p).id) = names.find? (.facet facet.id) :=
    h.find? (.facet facet.id)
  have hlabel := facet.label_renamed (p := p) (hnamed facet hfacet)
  have hcode : (facet.renamed p).shortCode = facet.shortCode := rfl
  simp only [Function.comp_apply, hcode, hfind, hlabel]
  split
  · rfl
  · rw [Option.map_map]
    rfl

include hp h hnamed in
/-- The legend of a renamed model has the same lines. -/
lemma legendLines_renamed (width : ℕ) :
    (m.renamed p).legendLines names' width = m.legendLines names width := by
  have hconstruct : [(m.renamed p).overallEntry names'] =
      [m.overallEntry names].map (LegendEntry.renamed p) := by
    have hname : (m.renamed p).instrument.construct.name = m.instrument.construct.name := rfl
    rw [overallEntry, overallEntry, hname, h.overall]
    rfl
  have hentries : (m.renamed p).legendEntries names' width =
      (m.legendEntries names width).map (LegendEntry.renamed p) := by
    rw [legendEntries, legendEntries, m.isUnidimensional_renamed p, itemEntries_renamed hp h,
      globalEntries_renamed hp h hnamed, facetEntries_renamed h hnamed, hconstruct]
    split <;> simp only [List.map_append, List.map_nil]
  rw [legendLines, legendLines, hentries, List.map_map]
  rfl

/-! ### Texts -/

include hp hnamed in
/-- The text of a renamed model, or the failure to name a renamed symbol. -/
lemma text?_renamed_eq_mapError (options : ListingOptions) :
    (m.renamed p).text? options = (m.text? options).mapError (CompileError.renamed p) := by
  have hnames := isRenamedNaming_names hp hnamed
  rw [text?, text?, mapError_bind]
  generalize m.names = result, (m.renamed p).names = result' at hnames
  cases hnames with
  | error e => rfl
  | @ok names names' h =>
    simp only [Except.mapError, bind, Except.bind, statements_renamed hp h hnamed,
      legendLines_renamed hp h hnamed]
    cases m.statements names options.comments <;> rfl

/-- The ids of facets do not matter.  A model whose facets have names may have its facets renamed by
any permutation that leaves blank texts and the reserved words alone: under all options the text
stays the same, or there is none for a reason that is worded the same. -/
theorem text?_renamed (hp : KeepsReserved p)
    (hnamed : ∀ facet ∈ m.instrument.facets, Text.isBlankText facet.name = false)
    (options : ListingOptions) :
    ((m.renamed p).text? options).mapError CompileError.message =
        (m.text? options).mapError CompileError.message ∧
      (m.renamed p).text options = m.text options := by
  have hrenamed := text?_renamed_eq_mapError hp hnamed options
  rcases m.text?_eq_ok_or_nameExhausted options with
    ⟨text, htext⟩ | ⟨symbol, wanted, herror, -⟩
  · rw [htext] at hrenamed
    rw [Model.text, Model.text, hrenamed, htext]
    exact ⟨rfl, rfl⟩
  · have hmessage := CompileError.message_renamed p symbol wanted
    rw [herror] at hrenamed
    rw [Model.text, Model.text, hrenamed, herror]
    exact ⟨congrArg Except.error hmessage, Listing.failureText_eq_of_message_eq hmessage⟩

/-- A model with two facets below a higher-order construct whose reference is the second facet.  The
first facet has a reference item and an excluded item, the second is formative and has a global
item. -/
def paired : Model where
  instrument :=
    { construct := { name := "Joy at work" }
      facets := [{ id := "f", name := "Vigor" }, { id := "g", name := "Calm", code := some "C" }]
      items := [{ id := 1, text := "I am awake", facetId := some "f" },
        { id := 2, text := "I run", facetId := some "f" },
        { id := 3, text := "I jump", facetId := some "f" },
        { id := 4, text := "I sleep well", facetId := some "g" }] }
  configuration :=
    { modes := ((∅ : Table Mode).insert "f" .reflective).insert "g" .formative
      scaling := (∅ : Table ScalingRule).insert "f" (.fixingLoadingOf "2")
      excluded := (∅ : Table ItemSet).insert "f" ((∅ : ItemSet).insert 3)
      globals := (∅ : Table (List GlobalItem)).insert "g" [⟨"g_1", "I am calm"⟩]
      secondOrder := { mode := some .reflective, scaling := some (.fixingLoadingOf "g") } }

lemma length_nameRequests_paired : paired.nameRequests.length = 7 := by
  simp [nameRequests, Instrument.sortedItems, Instrument.sortById, paired, globalOwners, globals,
    globals?, Std.ExtTreeMap.getElem?_insert]

/-- The facets of this model can swap their ids. -/
theorem text?_renamed_paired :
    KeepsReserved (Equiv.swap "f" "g") ∧
      (paired.renamed (Equiv.swap "f" "g")).instrument.facets.map Facet.id = ["g", "f"] ∧
      ∀ options, ∃ text, paired.text? options = .ok text ∧
        (paired.renamed (Equiv.swap "f" "g")).text options = text := by
  have hp : KeepsReserved (Equiv.swap "f" "g") := keepsReserved_swap rfl rfl (by decide) (by decide)
  obtain ⟨names, hnames⟩ := exists_names_eq_ok_of_length length_nameRequests_paired (by omega)
  refine ⟨hp, rfl, fun options => ?_⟩
  obtain ⟨text, htext⟩ := exists_text?_eq_ok_of_names hnames options
  refine ⟨text, htext, ?_⟩
  rw [(text?_renamed hp (by decide) options).2, Model.text, htext]

end Model

end Psychometrics
