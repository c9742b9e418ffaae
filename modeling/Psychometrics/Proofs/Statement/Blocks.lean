import Psychometrics.Proofs.Model.Items
import Psychometrics.Proofs.Model.Relation
import Psychometrics.Proofs.Naming.Distinct
import Psychometrics.Proofs.Outcome
import Psychometrics.Proofs.Statement.Description

/-!
# Statements block by block

A model is compiled from a flat list of relations that is filtered again for each latent variable,
names are looked up on the way, and rules are resolved.  The theorem of this file
(`Model.filter_statements_eq_blocks`) says that nothing else comes out than the direct description
has (`Model.blocks`): the statements with a meaning are those of the blocks, with or without
comments.

In between stand the sections of a model, made from the names of its symbols without any lookup
(`Model.facetParts`, `Model.secondOrderParts`).  A name table that has all symbols of a model yields
these sections (`Model.statements_eq_ok`).
-/

namespace Psychometrics

open Statement (isMeaningful)

/-! ### Sections -/

namespace Model

section Sections

variable (m : Model) (nameOf : Symbol → String)

/-- The compiled facets with their names. -/
def namedFacets : List NamedIndicator :=
  m.emittedFacets.map fun facet => ⟨facet.id, nameOf (.facet facet.id)⟩

/-- The section of a facet, under its heading. -/
def facetParts (facet : Facet) : List Section :=
  let latent := Latent.facet facet.id
  let name := nameOf (.facet facet.id)
  let rule := m.effectiveRule latent
  match m.facetMode? facet.id with
  | none => []
  | some .reflective =>
    if m.namedItems nameOf latent = [] then []
    else
      [⟨Text.oneLine facet.label ++ " (" ++ Mode.reflective.name ++ ")",
        measurementBlock name (m.namedItems nameOf latent) rule⟩]
  | some .formative =>
    [⟨Text.oneLine facet.label ++ " (" ++ Mode.formative.name ++ ")",
      causeBlock name (m.namedItems nameOf latent) ++
        anchorBlock name (m.namedGlobals nameOf latent) rule⟩]

/-- The section of the higher-order construct, under its heading. -/
def secondOrderParts : List Section :=
  let name := nameOf .overall
  let rule := m.effectiveRule .secondOrder
  if m.emittedFacets = [] then []
  else
    match m.configuration.secondOrder.mode with
    | none => []
    | some .reflective =>
      [⟨"Higher-order construct (" ++ Mode.reflective.name ++ ")",
        measurementBlock name (m.namedFacets nameOf) rule⟩]
    | some .formative =>
      [⟨"Higher-order construct (" ++ Mode.formative.name ++ ")",
        causeBlock name (m.namedFacets nameOf) ++
          anchorBlock name (m.namedGlobals nameOf .secondOrder) rule⟩]

end Sections

end Model

/-! ### Meaningful statements -/

/-- Every statement of a measurement block has a meaning. -/
lemma filter_isMeaningful_measurementBlock (latent : String) (indicators : List NamedIndicator)
    (rule : ScalingRule) :
    (measurementBlock latent indicators rule).filter isMeaningful =
      measurementBlock latent indicators rule := by
  unfold measurementBlock
  split
  · rfl
  · split <;> rfl

/-- Causes and anchors, comments apart, are the formation of a latent variable. -/
lemma filter_isMeaningful_causeBlock_append (latent : String) (causes globals : List NamedIndicator)
    (rule : ScalingRule) :
    (causeBlock latent causes ++ anchorBlock latent globals rule).filter isMeaningful =
      formation latent causes globals rule.reference := by
  rw [List.filter_append, formation]
  congr 1
  · cases causes with
    | nil => rfl
    | cons cause causes => rfl
  · cases globals with
    | nil => rfl
    | cons item items =>
      exact (filter_isMeaningful_measurementBlock latent (item :: items) rule).trans
        (measurementBlock_eq_measurement latent (item :: items) rule)

/-- Headings and the blank lines between sections have no meaning. -/
lemma Section.filter_isMeaningful_layOut (comments : Bool) (sections : List Section) :
    (Section.layOut comments sections).filter isMeaningful =
      sections.flatMap fun s => s.body.filter isMeaningful := by
  have hheaded : ∀ s : Section, s.headed.filter isMeaningful = s.body.filter isMeaningful := by
    intro s
    rfl
  cases comments with
  | false => rw [layOut, if_neg Bool.false_ne_true, List.filter_flatMap]
  | true =>
    rw [layOut, if_pos rfl]
    induction sections with
    | nil => rfl
    | cons s rest ih =>
      cases rest with
      | nil => simp [hheaded]
      | cons next rest =>
        have hblank : [Statement.blank].filter isMeaningful = [] := rfl
        rw [List.flatMap_cons, ← ih, List.map_cons, List.map_cons, List.intercalate_cons_cons,
          List.filter_append, List.filter_append, hheaded, hblank, List.append_nil]

namespace Model

variable {m : Model} {nameOf : Symbol → String}

/-- The sections of a facet hold its block. -/
lemma flatMap_facetParts (facet : Facet) :
    ((m.facetParts nameOf facet).flatMap fun s => s.body.filter isMeaningful) =
      m.facetBlock nameOf facet := by
  have hreference {listed : List Candidate} (h : m.candidates (.facet facet.id) = listed) :
      (m.effectiveRule (.facet facet.id)).reference =
        referenceAmong listed (shortestId listed) m.configuration.scaling[facet.id]? :=
    reference_effectiveRule h fun h => Latent.noConfusion h.1
  unfold facetParts facetBlock
  cases hmode : m.facetMode? facet.id with
  | none => rfl
  | some mode =>
    cases mode with
    | reflective =>
      have hlisted : m.candidates (.facet facet.id) = m.listedItems (.facet facet.id) :=
        candidates_facet_of_not_formative (by rw [mode?, hmode]; decide)
      dsimp only
      split
      · next hitems => rw [hitems]; rfl
      · rw [List.flatMap_singleton, filter_isMeaningful_measurementBlock,
          measurementBlock_eq_measurement, hreference hlisted]
    | formative =>
      have hlisted : m.candidates (.facet facet.id) = m.listedGlobals (.facet facet.id) :=
        candidates_of_formative hmode
      dsimp only
      rw [List.flatMap_singleton, filter_isMeaningful_causeBlock_append, hreference hlisted]

/-- The sections of the higher-order construct hold its block. -/
lemma flatMap_secondOrderParts :
    ((m.secondOrderParts nameOf).flatMap fun s => s.body.filter isMeaningful) =
      m.secondOrderBlock nameOf := by
  unfold secondOrderParts secondOrderBlock
  rw [← describedFacets_eq_emittedFacets, namedFacets, ← describedFacets_eq_emittedFacets]
  dsimp only
  split
  · rfl
  · cases hmode : m.configuration.secondOrder.mode with
    | none => rfl
    | some mode =>
      cases mode with
      | reflective =>
        dsimp only
        rw [List.flatMap_singleton, filter_isMeaningful_measurementBlock,
          measurementBlock_eq_measurement, reference_effectiveRule_secondOrder hmode]
      | formative =>
        have hlisted : m.candidates .secondOrder = m.listedGlobals .secondOrder :=
          candidates_of_formative hmode
        have hnot : ¬ (Latent.secondOrder = .secondOrder ∧
            m.mode? .secondOrder = some .reflective) := by
          rw [mode?, hmode]
          decide
        dsimp only
        rw [List.flatMap_singleton, filter_isMeaningful_causeBlock_append,
          reference_effectiveRule hlisted hnot]
        rfl

end Model

/-! ### Names that are found -/

/-- A table of names gives the symbols of a model the names of a function. -/
def Model.IsNamed (m : Model) (names : Names) (nameOf : Symbol → String) : Prop :=
  names.overall = nameOf .overall ∧
    ∀ symbol, m.HasSymbol symbol → names.find? symbol = some (nameOf symbol)

namespace Model.IsNamed

variable {m : Model} {names : Names} {nameOf : Symbol → String} {facet : Facet}

/-- A symbol of the model is looked up without fail. -/
lemma get_eq_ok (hnamed : m.IsNamed names nameOf) {symbol : Symbol} (h : m.HasSymbol symbol) :
    names.get symbol = .ok (nameOf symbol) := by
  rw [Names.get, hnamed.2 symbol h]

/-- Indicators whose symbols belong to the model are found. -/
lemma mapM_eq_ok (hnamed : m.IsNamed names nameOf) {α : Type} {id : α → String}
    {symbol : α → Symbol} {xs : List α} (h : ∀ x ∈ xs, m.HasSymbol (symbol x)) :
    (xs.mapM fun x => do return (⟨id x, ← names.get (symbol x)⟩ : NamedIndicator)) =
      .ok (xs.map fun x => ⟨id x, nameOf (symbol x)⟩) := by
  refine mapM_eq_ok_map fun x hx => ?_
  rw [hnamed.get_eq_ok (h x hx)]
  rfl

/-- Active items are items of the instrument. -/
lemma mem_items_of_mem_activeItems {latent : Latent} {item : Item}
    (h : item ∈ m.activeItems latent) : item ∈ m.instrument.items := by
  have hown : item ∈ m.ownItems latent := List.mem_of_mem_filter h
  cases latent with
  | unidim => exact List.mem_mergeSort.mp hown
  | facet id => exact List.mem_of_mem_filter (List.mem_mergeSort.mp hown)
  | secondOrder => exact absurd hown List.not_mem_nil

/-- The active items of a latent variable are found. -/
lemma items_eq_ok (hnamed : m.IsNamed names nameOf) (latent : Latent) :
    names.items ((m.activeItems latent).map Item.id) = .ok (m.namedItems nameOf latent) := by
  have hsymbol : ∀ id ∈ (m.activeItems latent).map Item.id, m.HasSymbol (.item id) :=
    List.forall_mem_map.mpr fun item hitem => .item (mem_items_of_mem_activeItems hitem)
  rw [Names.items, hnamed.mapM_eq_ok hsymbol, List.map_map]
  rfl

/-- The present global items of a latent variable that may have some are found. -/
lemma globals_eq_ok (hnamed : m.IsNamed names nameOf) {latent : Latent}
    (h : latent ∈ m.globalOwners) :
    names.globals latent ((m.presentGlobals latent).map GlobalItem.id) =
      .ok (m.namedGlobals nameOf latent) := by
  have hsymbol : ∀ id ∈ (m.presentGlobals latent).map GlobalItem.id,
      m.HasSymbol (.global latent.key id) :=
    List.forall_mem_map.mpr fun item hitem => .global h (List.mem_of_mem_filter hitem)
  rw [Names.globals, hnamed.mapM_eq_ok hsymbol, List.map_map]
  rfl

/-- The compiled facets are found. -/
lemma facets_eq_ok (hnamed : m.IsNamed names nameOf) :
    names.facets m.emittedFacets = .ok (m.namedFacets nameOf) :=
  hnamed.mapM_eq_ok fun _ hfacet => .facet (List.mem_of_mem_filter hfacet)

/-- The block of a unidimensional model. -/
lemma unidimBlock_eq_ok (hnamed : m.IsNamed names nameOf) :
    m.unidimBlock names =
      .ok (measurementBlock names.overall (m.namedItems nameOf .unidim)
        (m.effectiveRule .unidim)) := by
  simp only [unidimBlock, hnamed.items_eq_ok, bind, Except.bind]
  rfl

end Model.IsNamed

/-! ### Compiling -/

namespace Model

variable {m : Model} {names : Names} {nameOf : Symbol → String} {facet : Facet}

/-- A facet with a mode is compiled to its section. -/
lemma facetSection_eq_ok (hnamed : m.IsNamed names nameOf)
    (hnodup : (m.instrument.facets.map Facet.id).Nodup) (hfacet : facet ∈ m.instrument.facets)
    (hreserved : facet.id ≠ Latent.secondOrderKey) {mode : Mode}
    (hmode : m.facetMode? facet.id = some mode) :
    m.facetSection names m.indicators facet mode = .ok (m.facetParts nameOf facet) := by
  have hname : names.get (.facet facet.id) = .ok (nameOf (.facet facet.id)) :=
    hnamed.get_eq_ok (.facet hfacet)
  have howner : Latent.facet facet.id ∈ m.globalOwners :=
    List.mem_append_left _ (List.mem_map_of_mem hfacet)
  have hown : m.indicators.filter (fun r => r.latentKey == facet.id) = m.facetIndicators facet := by
    rw [filter_latentKey_indicators hnodup hfacet, if_neg hreserved, List.append_nil]
  unfold facetSection facetParts
  cases mode with
  | reflective =>
    simp only [hname, hown, hmode, filterMap_itemId?_facetIndicators_of_reflective hmode,
      hnamed.items_eq_ok, List.isEmpty_iff, bind, Except.bind]
    split
    · rfl
    · rfl
  | formative =>
    simp only [hname, hown, hmode, filterMap_itemId?_facetIndicators_of_formative hmode,
      map_text_facetIndicators_of_formative hmode, hnamed.items_eq_ok,
      hnamed.globals_eq_ok howner, bind, Except.bind]
    rfl

/-- The facets are compiled to their sections, in declaration order. -/
lemma facetSections_eq_ok (hnamed : m.IsNamed names nameOf)
    (hnodup : (m.instrument.facets.map Facet.id).Nodup)
    (hreserved : ∀ facet ∈ m.instrument.facets, facet.id ≠ Latent.secondOrderKey) :
    m.facetSections names m.indicators =
      .ok (m.instrument.facets.flatMap (m.facetParts nameOf)) := by
  unfold facetSections
  rw [@mapM_eq_ok_map _ _ _ _ (m.facetParts nameOf) _ ?_]
  · rw [List.flatMap_def]
    rfl
  · intro facet hfacet
    cases hmode : m.facetMode? facet.id with
    | none => simp only [facetParts, hmode]
    | some mode => exact facetSection_eq_ok hnamed hnodup hfacet (hreserved facet hfacet) hmode

/-- The higher-order construct is compiled to its section. -/
lemma secondOrderSection_eq_ok (hnamed : m.IsNamed names nameOf) :
    m.secondOrderSection names m.indicators = .ok (m.secondOrderParts nameOf) := by
  have howner : Latent.secondOrder ∈ m.globalOwners :=
    List.mem_append_right _ (List.mem_singleton_self _)
  have hempty : m.namedFacets nameOf = [] ↔ m.emittedFacets = [] := List.map_eq_nil_iff
  unfold secondOrderSection secondOrderParts
  cases hmode : m.configuration.secondOrder.mode with
  | none =>
    dsimp only
    split
    · rfl
    · rfl
  | some mode =>
    simp only [hnamed.facets_eq_ok, bind, Except.bind, List.isEmpty_iff, hempty]
    split
    · rfl
    · cases mode with
      | reflective =>
        rw [← hnamed.1]
        rfl
      | formative =>
        simp only [map_text_filter_indicators hmode, hnamed.globals_eq_ok howner, ← hnamed.1]
        rfl

/-- A model with facets is compiled to the sections of its latent variables. -/
lemma statements_eq_ok (hnamed : m.IsNamed names nameOf) (hmulti : m.isUnidimensional = false)
    (hnodup : (m.instrument.facets.map Facet.id).Nodup)
    (hreserved : ∀ facet ∈ m.instrument.facets, facet.id ≠ Latent.secondOrderKey)
    (comments : Bool) :
    m.statements names comments =
      .ok (Section.layOut comments (m.titleSections ++
        m.instrument.facets.flatMap (m.facetParts nameOf) ++ m.secondOrderParts nameOf)) := by
  simp only [statements, hmulti, Bool.false_eq_true, if_false,
    facetSections_eq_ok hnamed hnodup hreserved, secondOrderSection_eq_ok hnamed, bind, Except.bind]
  rfl

/-- The names of a model as a function. -/
lemma isNamed_of_names_eq_ok (h : m.names = .ok names) :
    m.IsNamed names fun symbol => (names.find? symbol).getD "" := by
  constructor
  · dsimp only
    rw [(isConsistent_of_names_eq_ok h).overall, Option.getD_some]
  · intro symbol hsymbol
    obtain ⟨name, hname⟩ := hsymbol.exists_find?_eq_some h
    dsimp only
    rw [hname, Option.getD_some]

/-- The items of a latent variable are in ascending order of ids. -/
lemma pairwise_activeItems (m : Model) (latent : Latent) :
    (m.activeItems latent).Pairwise fun a b => a.id ≤ b.id := by
  refine List.Pairwise.filter _ ?_
  cases latent with
  | unidim => exact Instrument.pairwise_sortById _
  | facet id => exact Instrument.pairwise_sortById _
  | secondOrder => exact List.Pairwise.nil

/-- The active items of a facet are those items of the instrument that belong to the facet and are
not excluded from it. -/
lemma perm_activeItems_facet (m : Model) (id : String) :
    (m.activeItems (.facet id)).Perm
      (m.instrument.items.filter fun item =>
        item.facetId == some id && !m.isExcluded id item.id) := by
  have hown : (m.instrument.facetItems id).Perm
      (m.instrument.items.filter fun item => item.facetId == some id) :=
    List.mergeSort_perm _ _
  refine (hown.filter fun item => !m.isExcluded id item.id).trans (List.Perm.of_eq ?_)
  rw [List.filter_filter]
  exact List.filter_congr fun item _ => Bool.and_comm _ _

/-- The statements of a model with facets are, comments and blank lines apart, the blocks of its
facets and of its higher-order construct, as the direct description has them.  Items are listed in
ascending order of ids, and those of a facet are the ones that belong to it without being
excluded. -/
theorem filter_statements_eq_blocks {m : Model} {names : Names}
    (hmulti : m.isUnidimensional = false) (hnodup : (m.instrument.facets.map Facet.id).Nodup)
    (hreserved : ∀ facet ∈ m.instrument.facets, facet.id ≠ Latent.secondOrderKey)
    (hnames : m.names = .ok names) :
    (∀ latent, (m.activeItems latent).Pairwise fun a b => a.id ≤ b.id) ∧
      (∀ id, (m.activeItems (.facet id)).Perm
        (m.instrument.items.filter fun item =>
          item.facetId == some id && !m.isExcluded id item.id)) ∧
      ∃ nameOf, m.IsNamed names nameOf ∧
        ∀ comments, ∃ statements, m.statements names comments = .ok statements ∧
          statements.filter isMeaningful = m.blocks nameOf := by
  refine ⟨m.pairwise_activeItems, m.perm_activeItems_facet, _, isNamed_of_names_eq_ok hnames,
    fun comments => ?_⟩
  refine ⟨_, statements_eq_ok (isNamed_of_names_eq_ok hnames) hmulti hnodup hreserved comments, ?_⟩
  have htitle : (m.titleSections.flatMap fun s => s.body.filter isMeaningful) = [] := by
    unfold titleSections
    dsimp only
    split
    · rfl
    · rfl
  rw [Section.filter_isMeaningful_layOut, List.flatMap_append, List.flatMap_append, htitle,
    List.nil_append, flatMap_secondOrderParts, List.flatMap_assoc]
  simp only [flatMap_facetParts]
  rfl

/-- A reflective facet with an excluded item and a stale reference, a formative facet of which one
global item is blank, a formative one without items, and a formative higher-order construct. -/
def mixed : Model where
  instrument :=
    { facets := [{ id := "a" }, { id := "b" }, { id := "c" }, { id := "d" }]
      items := [{ id := 4, facetId := some "a" }, { id := -1, facetId := some "a" },
        { id := 3, facetId := some "a" }, { id := 2, facetId := some "b" }] }
  configuration :=
    { modes := (((∅ : Table Mode).insert "a" .reflective).insert "b" .formative).insert "c"
        .formative
      scaling := (∅ : Table ScalingRule).insert "a" (.fixingLoadingOf "3")
      excluded := (∅ : Table ItemSet).insert "a" ((∅ : ItemSet).insert 3)
      globals := (∅ : Table (List GlobalItem)).insert "b"
        [⟨"p", "Overall"⟩, ⟨"q", " "⟩, ⟨"r", "In general"⟩]
      secondOrder := { mode := some .formative } }

lemma length_nameRequests_mixed : mixed.nameRequests.length = 11 := by
  simp [nameRequests, Instrument.sortedItems, Instrument.sortById, mixed, globalOwners, globals,
    globals?]

/-- The stale reference gives way to the first active item, and where nothing is stored the shorter
global item is preferred. -/
lemma blocks_mixed (nameOf : Symbol → String) :
    mixed.blocks nameOf =
      [.reflective (nameOf (.facet "a")) [nameOf (.item (-1)), nameOf (.item 4)] true,
        .formative (nameOf (.facet "b")) [nameOf (.item 2)],
        .reflective (nameOf (.facet "b"))
          [nameOf (.global "b" "p"), nameOf (.global "b" "r")] true,
        .fixVariance (nameOf (.facet "c")),
        .formative (nameOf .overall)
          [nameOf (.facet "a"), nameOf (.facet "b"), nameOf (.facet "c")],
        .fixVariance (nameOf .overall)] := by
  cbv

/-- The mixed model is compiled to its blocks. -/
theorem filter_statements_eq_blocks_mixed :
    ∃ names, mixed.names = .ok names ∧
      (∀ latent, (mixed.activeItems latent).Pairwise fun a b => a.id ≤ b.id) ∧
      (∀ id, (mixed.activeItems (.facet id)).Perm
        (mixed.instrument.items.filter fun item =>
          item.facetId == some id && !mixed.isExcluded id item.id)) ∧
      ∃ nameOf, mixed.IsNamed names nameOf ∧
        ∀ comments, ∃ statements, mixed.statements names comments = .ok statements ∧
          statements.filter isMeaningful =
            [.reflective (nameOf (.facet "a")) [nameOf (.item (-1)), nameOf (.item 4)] true,
              .formative (nameOf (.facet "b")) [nameOf (.item 2)],
              .reflective (nameOf (.facet "b"))
                [nameOf (.global "b" "p"), nameOf (.global "b" "r")] true,
              .fixVariance (nameOf (.facet "c")),
              .formative (nameOf .overall)
                [nameOf (.facet "a"), nameOf (.facet "b"), nameOf (.facet "c")],
              .fixVariance (nameOf .overall)] := by
  have hfew : mixed.nameRequests.length < Names.numbers.length := by
    rw [length_nameRequests_mixed, Names.length_numbers]
    decide
  obtain ⟨names, hnames⟩ := exists_names_eq_ok hfew
  obtain ⟨hsorted, hactive, nameOf, hnamed, hblocks⟩ :=
    filter_statements_eq_blocks rfl (by decide) (by decide) hnames
  simp only [blocks_mixed] at hblocks
  exact ⟨names, hnames, hsorted, hactive, nameOf, hnamed, hblocks⟩

end Model

end Psychometrics
