import Psychometrics.Proofs.Statement.Blocks

/-!
# Every variable that is mentioned has a name

A model is compiled from relations that are looked up by the id of a facet, and nothing keeps that
id from being the key of the higher-order construct, or two facets from sharing one.  All the same,
whatever a relation refers to is a symbol of the model, under the key that the relation carries
(`Model.HasSymbol.of_itemId?`, `Model.HasSymbol.of_isGlobal`).  So once the symbols of a model are
named, no section misses a name, and the statements of the model exist
(`Model.exists_statements_eq_ok`).
-/

namespace Psychometrics

/-! ### Layouts -/

/-- Laying out keeps all statements with a meaning, in their order. -/
lemma Section.filter_layOut {p : Statement → Bool} (hp : ∀ s, p s = true → s.isMeaningful = true)
    (comments : Bool) (sections : List Section) :
    (layOut comments sections).filter p = sections.flatMap fun part => part.body.filter p := by
  have hsame : ∀ statements : List Statement,
      (statements.filter Statement.isMeaningful).filter p = statements.filter p := by
    intro statements
    rw [List.filter_filter]
    refine List.filter_congr fun s _ => ?_
    rw [Bool.and_eq_left_iff_imp]
    exact hp s
  rw [← hsame, filter_isMeaningful_layOut, List.filter_flatMap]
  simp only [hsame]

/-- Laying out neither adds nor drops statements with a meaning. -/
lemma Section.mem_layOut_iff {comments : Bool} {sections : List Section} {s : Statement}
    (h : s.isMeaningful = true) :
    s ∈ layOut comments sections ↔ ∃ part ∈ sections, s ∈ part.body := by
  have hfilter : s ∈ layOut comments sections ↔
      s ∈ (layOut comments sections).filter Statement.isMeaningful := by
    rw [List.mem_filter, and_iff_left h]
  rw [hfilter, filter_isMeaningful_layOut, List.mem_flatMap]
  simp only [List.mem_filter, and_iff_left h]

namespace Model

variable {m : Model} {names : Names} {nameOf : Symbol → String} {facet : Facet} {r : Indicator}

/-! ### What relations refer to -/

/-- An item that a relation refers to is a symbol of the model. -/
lemma HasSymbol.of_itemId? (h : r ∈ m.indicators) {id : Int64} (hid : r.itemId? = some id) :
    m.HasSymbol (.item id) := by
  have hactive : ∀ facet : Facet, ∀ item ∈ m.activeItems (.facet facet.id),
      m.HasSymbol (.item item.id) :=
    fun _ _ hitem => .item (IsNamed.mem_items_of_mem_activeItems hitem)
  rcases List.mem_append.mp h with h | h
  · obtain ⟨facet, -, h⟩ := List.mem_flatMap.mp h
    unfold facetIndicators at h
    split at h
    · cases h
    · obtain ⟨item, hitem, rfl⟩ := List.mem_map.mp h
      exact Option.some.inj hid ▸ hactive facet item hitem
    · rcases List.mem_append.mp h with h | h
      · obtain ⟨item, hitem, rfl⟩ := List.mem_map.mp h
        exact Option.some.inj hid ▸ hactive facet item hitem
      · obtain ⟨item, -, rfl⟩ := List.mem_map.mp h
        cases hid
  · have hnone : r.itemId? = none :=
      List.filterMap_eq_nil_iff.mp (filterMap_itemId?_filter_secondOrderIndicators fun _ => true) r
        (List.mem_filter.mpr ⟨h, rfl⟩)
    rw [hnone] at hid
    cases hid

/-- A global item that a relation refers to is a symbol of the model under the key of the
relation. -/
lemma HasSymbol.of_isGlobal (h : r ∈ m.indicators) (hglobal : r.isGlobal = true) :
    m.HasSymbol (.global r.latentKey r.ref.text) := by
  rcases List.mem_append.mp h with h | h
  · obtain ⟨facet, hfacet, h⟩ := List.mem_flatMap.mp h
    unfold facetIndicators at h
    split at h
    · cases h
    · obtain ⟨item, -, rfl⟩ := List.mem_map.mp h
      cases hglobal
    · rcases List.mem_append.mp h with h | h
      · obtain ⟨item, -, rfl⟩ := List.mem_map.mp h
        cases hglobal
      · obtain ⟨item, hitem, rfl⟩ := List.mem_map.mp h
        exact .facetGlobal hfacet (List.mem_of_mem_filter hitem)
  · unfold secondOrderIndicators at h
    split at h
    · rcases List.mem_append.mp h with h | h
      · obtain ⟨other, -, rfl⟩ := List.mem_map.mp h
        cases hglobal
      · obtain ⟨item, hitem, rfl⟩ := List.mem_map.mp h
        exact .secondOrderGlobal (List.mem_of_mem_filter hitem)
    · cases h

/-! ### Sections -/

namespace IsNamed

/-- The items that some of the relations of a model refer to are found. -/
lemma exists_items_eq_ok (hnamed : m.IsNamed names nameOf) {relations : List Indicator}
    (h : relations ⊆ m.indicators) :
    ∃ items, names.items (relations.filterMap Indicator.itemId?) = .ok items := by
  refine ⟨_, hnamed.mapM_eq_ok fun id hid => ?_⟩
  obtain ⟨r, hr, hid⟩ := List.mem_filterMap.mp hid
  exact .of_itemId? (h hr) hid

/-- The global items that some of the relations with one key refer to are found. -/
lemma exists_globals_eq_ok (hnamed : m.IsNamed names nameOf) {latent : Latent}
    {relations : List Indicator} (h : relations ⊆ m.indicators)
    (hkey : ∀ r ∈ relations, r.latentKey = latent.key ∧ r.isGlobal = true) :
    ∃ globals, names.globals latent (relations.map fun r => r.ref.text) = .ok globals := by
  refine ⟨_, hnamed.mapM_eq_ok fun id hid => ?_⟩
  obtain ⟨r, hr, rfl⟩ := List.mem_map.mp hid
  obtain ⟨hlatent, hglobal⟩ := hkey r hr
  exact hlatent ▸ .of_isGlobal (h hr) hglobal

end IsNamed

/-- A facet with a mode has its section, if perhaps an empty one. -/
lemma exists_facetSection_eq (hnamed : m.IsNamed names nameOf)
    (hfacet : facet ∈ m.instrument.facets) (mode : Mode) :
    ∃ sections, m.facetSection names m.indicators facet mode = .ok sections := by
  have hname : names.get (.facet facet.id) = .ok (nameOf (.facet facet.id)) :=
    hnamed.get_eq_ok (.facet hfacet)
  have hsub : ∀ p : Indicator → Bool,
      (m.indicators.filter fun r => r.latentKey == facet.id).filter p ⊆ m.indicators :=
    fun p _ hr => List.mem_of_mem_filter (List.mem_of_mem_filter hr)
  unfold facetSection
  cases mode with
  | reflective =>
    obtain ⟨items, hitems⟩ := hnamed.exists_items_eq_ok
      (hsub fun r => r.direction == .outward && !r.isGlobal)
    simp only [hname, hitems, bind, Except.bind]
    split <;> exact ⟨_, rfl⟩
  | formative =>
    obtain ⟨items, hitems⟩ := hnamed.exists_items_eq_ok (hsub fun r => r.direction == .inward)
    have hkey : ∀ r ∈ (m.indicators.filter fun r => r.latentKey == facet.id).filter
        fun r => r.isGlobal, r.latentKey = (Latent.facet facet.id).key ∧ r.isGlobal = true := by
      intro r hr
      obtain ⟨hr, hglobal⟩ := List.mem_filter.mp hr
      exact ⟨beq_iff_eq.mp (List.mem_filter.mp hr).2, hglobal⟩
    obtain ⟨globals, hglobals⟩ := hnamed.exists_globals_eq_ok (hsub fun r => r.isGlobal) hkey
    simp only [hname, hitems, hglobals, bind, Except.bind]
    exact ⟨_, rfl⟩

/-- The facets have their sections. -/
lemma exists_facetSections_eq (hnamed : m.IsNamed names nameOf) :
    ∃ sections, m.facetSections names m.indicators = .ok sections := by
  suffices h : ∃ parts, _ = Except.ok parts from
    h.imp' List.flatten fun parts hparts => bind_eq_ok_iff.mpr ⟨parts, hparts, rfl⟩
  refine exists_mapM_eq_ok fun facet hfacet => ?_
  split
  · exact ⟨[], rfl⟩
  · exact exists_facetSection_eq hnamed hfacet _

/-! ### Statements -/

/-- The statements of a unidimensional model are those of its block, below its title. -/
lemma statements_eq_ok_of_isUnidimensional (hnamed : m.IsNamed names nameOf)
    (hsingle : m.isUnidimensional = true) (comments : Bool) :
    m.statements names comments =
      .ok (Section.layOut comments m.titleSections ++
        measurementBlock names.overall (m.namedItems nameOf .unidim)
          (m.effectiveRule .unidim)) := by
  simp only [statements, hsingle, if_true, hnamed.unidimBlock_eq_ok, bind, Except.bind]
  rfl

/-- The statements of a model with facets are laid out from the sections of its facets and that of
its higher-order construct. -/
lemma statements_eq_ok_of_facetSections (hnamed : m.IsNamed names nameOf)
    (hmulti : m.isUnidimensional = false) {sections : List Section}
    (hfacets : m.facetSections names m.indicators = .ok sections) (comments : Bool) :
    m.statements names comments =
      .ok (Section.layOut comments
        (m.titleSections ++ sections ++ m.secondOrderParts nameOf)) := by
  simp only [statements, hmulti, Bool.false_eq_true, if_false, hfacets,
    secondOrderSection_eq_ok hnamed, bind, Except.bind]
  rfl

/-- The title states nothing. -/
lemma body_eq_nil_of_mem_titleSections {part : Section} (h : part ∈ m.titleSections) :
    part.body = [] := by
  unfold titleSections at h
  dsimp only at h
  split at h
  · cases h
  · obtain rfl := List.mem_singleton.mp h
    rfl

/-- The title section states nothing, so that nothing of it is kept. -/
lemma flatMap_filter_titleSections (m : Model) (p : Statement → Bool) :
    (m.titleSections.flatMap fun part => part.body.filter p) = [] := by
  rw [List.flatMap_eq_nil_iff]
  intro part hpart
  rw [body_eq_nil_of_mem_titleSections hpart, List.filter_nil]

/-- The title of a layout has no meaning, with comments or without. -/
lemma filter_layOut_titleSections (m : Model) (comments : Bool) {p : Statement → Bool}
    (hp : ∀ s, p s = true → s.isMeaningful = true) :
    (Section.layOut comments m.titleSections).filter p = [] := by
  rw [Section.filter_layOut hp, flatMap_filter_titleSections]

/-- Statements with a meaning of a unidimensional model are chosen from its block. -/
lemma filter_statements_of_isUnidimensional (hnamed : m.IsNamed names nameOf)
    (hsingle : m.isUnidimensional = true) {comments : Bool} {statements : List Statement}
    (hstatements : m.statements names comments = .ok statements) {p : Statement → Bool}
    (hp : ∀ s, p s = true → s.isMeaningful = true) :
    statements.filter p =
      (measurementBlock names.overall (m.namedItems nameOf .unidim)
        (m.effectiveRule .unidim)).filter p := by
  rw [statements_eq_ok_of_isUnidimensional hnamed hsingle] at hstatements
  obtain rfl := Except.ok.inj hstatements
  rw [List.filter_append, filter_layOut_titleSections m comments hp, List.nil_append]

/-- Statements with a meaning of a model with facets are chosen from the sections of its facets and
from that of its higher-order construct. -/
lemma filter_statements_of_facetSections (hnamed : m.IsNamed names nameOf)
    (hmulti : m.isUnidimensional = false) {sections : List Section}
    (hfacets : m.facetSections names m.indicators = .ok sections) {comments : Bool}
    {statements : List Statement} (hstatements : m.statements names comments = .ok statements)
    {p : Statement → Bool} (hp : ∀ s, p s = true → s.isMeaningful = true) :
    statements.filter p =
      (sections.flatMap fun part => part.body.filter p) ++
        (m.secondOrderParts nameOf).flatMap fun part => part.body.filter p := by
  rw [statements_eq_ok_of_facetSections hnamed hmulti hfacets] at hstatements
  obtain rfl := Except.ok.inj hstatements
  rw [Section.filter_layOut hp, List.flatMap_append, List.flatMap_append,
    flatMap_filter_titleSections, List.nil_append]

/-- A statement with a meaning stands in a section of a facet or in that of the higher-order
construct. -/
lemma mem_statements_iff_of_facetSections (hnamed : m.IsNamed names nameOf)
    (hmulti : m.isUnidimensional = false) {sections : List Section}
    (hfacets : m.facetSections names m.indicators = .ok sections) {comments : Bool}
    {statements : List Statement} (hstatements : m.statements names comments = .ok statements)
    {s : Statement} (hs : s.isMeaningful = true) :
    s ∈ statements ↔
      (∃ part ∈ sections, s ∈ part.body) ∨ ∃ part ∈ m.secondOrderParts nameOf, s ∈ part.body := by
  rw [statements_eq_ok_of_facetSections hnamed hmulti hfacets] at hstatements
  obtain rfl := Except.ok.inj hstatements
  rw [Section.mem_layOut_iff hs]
  constructor
  · rintro ⟨part, hpart, hs⟩
    rw [List.mem_append, List.mem_append] at hpart
    rcases hpart with (hpart | hpart) | hpart
    · rw [body_eq_nil_of_mem_titleSections hpart] at hs
      cases hs
    · exact .inl ⟨part, hpart, hs⟩
    · exact .inr ⟨part, hpart, hs⟩
  · rintro (⟨part, hpart, hs⟩ | ⟨part, hpart, hs⟩)
    · exact ⟨part, List.mem_append_left _ (List.mem_append_right _ hpart), hs⟩
    · exact ⟨part, List.mem_append_right _ hpart, hs⟩

/-- A model whose symbols are named has its statements. -/
lemma exists_statements_eq_ok (hnames : m.names = .ok names) (comments : Bool) :
    ∃ statements, m.statements names comments = .ok statements := by
  have hnamed := isNamed_of_names_eq_ok hnames
  cases hdimension : m.isUnidimensional with
  | true => exact ⟨_, statements_eq_ok_of_isUnidimensional hnamed hdimension comments⟩
  | false =>
    obtain ⟨sections, hsections⟩ := exists_facetSections_eq hnamed
    exact ⟨_, statements_eq_ok_of_facetSections hnamed hdimension hsections comments⟩

end Model

end Psychometrics
