import Mathlib
import Psychometrics.Proofs.Statement.HigherOrder

/-!
# The variables that occur in the statements

A variable occurs in a statement as what it is about or as one of its terms
(`Statement.mentioned`).  Which variables occur in the compiled text can be read off the model: they
stand for the symbols that the model uses (`Model.occurs_statements_iff`), and a symbol is used when
it is mentioned for a latent variable that is compiled (`Model.Mentions`).  In this form it does not
matter in how many statements the variables occur, what is fixed in them, and which facets share an
id or bear the key of the higher-order construct.
-/

namespace Psychometrics

namespace Statement

/-- The variables that occur in a statement: the one that it is about, and its terms. -/
def mentioned (s : Statement) : List String :=
  s.subject?.toList ++ s.terms

/-- A variable occurs in one of several statements. -/
def Occurs (name : String) (statements : List Statement) : Prop :=
  ∃ s ∈ statements, name ∈ s.mentioned

variable {name latent : String} {statements : List Statement}

/-- Only statements with a meaning mention names. -/
lemma isMeaningful_of_mem_mentioned {s : Statement} (h : name ∈ s.mentioned) :
    s.isMeaningful = true := by
  cases s with
  | comment text => cases h
  | blank => cases h
  | _ => rfl

/-- A name occurs in two lists of statements when it occurs in either of them. -/
lemma occurs_append {first second : List Statement} :
    Occurs name (first ++ second) ↔ Occurs name first ∨ Occurs name second := by
  simp only [Occurs, List.mem_append, or_and_right, exists_or]

/-- Laying out makes no difference to what occurs. -/
lemma occurs_layOut_iff {comments : Bool} {sections : List Section} :
    Occurs name (Section.layOut comments sections) ↔ ∃ part ∈ sections, Occurs name part.body := by
  constructor
  · rintro ⟨s, hs, hname⟩
    obtain ⟨part, hpart, hs⟩ :=
      (Section.mem_layOut_iff (isMeaningful_of_mem_mentioned hname)).mp hs
    exact ⟨part, hpart, s, hs, hname⟩
  · rintro ⟨part, hpart, s, hs, hname⟩
    exact ⟨s, (Section.mem_layOut_iff (isMeaningful_of_mem_mentioned hname)).mpr
      ⟨part, hpart, hs⟩, hname⟩

variable {indicators causes globals : List NamedIndicator} {rule : ScalingRule}

/-- In a measurement occur the latent variable and all its indicators. -/
lemma occurs_measurementBlock_iff (h : indicators ≠ []) :
    Occurs name (measurementBlock latent indicators rule) ↔
      name = latent ∨ name ∈ indicators.map NamedIndicator.name := by
  obtain ⟨listed, fixedFirst, rest, hblock, hperm, hrest⟩ :=
    exists_measurementBlock_eq h latent rule
  rw [hblock]
  constructor
  · rintro ⟨s, hs, hname⟩
    rcases List.mem_cons.mp hs with rfl | hs
    · rcases List.mem_cons.mp hname with hname | hname
      · exact .inl hname
      · exact .inr (hperm.mem_iff.mp hname)
    · rw [hrest s hs] at hname
      exact .inl (List.mem_singleton.mp hname)
  · rintro (hname | hname)
    · exact ⟨_, List.mem_cons_self, List.mem_cons.mpr (.inl hname)⟩
    · exact ⟨_, List.mem_cons_self, List.mem_cons_of_mem _ (hperm.mem_iff.mpr hname)⟩

/-- In the measurement of a formative latent variable occur the variable and all its global
items. -/
lemma occurs_anchorBlock_iff :
    Occurs name (anchorBlock latent globals rule) ↔
      name = latent ∨ name ∈ globals.map NamedIndicator.name := by
  by_cases hnil : globals = []
  · subst hnil
    simp [Occurs, anchorBlock, unanchoredBlock, mentioned, subject?, terms, eq_comm]
  · rw [anchorBlock, if_neg (by simpa using hnil), occurs_measurementBlock_iff hnil]

/-- In the statements of a formative latent variable occur the variable, its causes and its global
items. -/
lemma occurs_causeBlock_append_iff :
    Occurs name (causeBlock latent causes ++ anchorBlock latent globals rule) ↔
      name = latent ∨ name ∈ causes.map NamedIndicator.name ∨
        name ∈ globals.map NamedIndicator.name := by
  have hcauses : Occurs name (causeBlock latent causes) ↔
      causes ≠ [] ∧ (name = latent ∨ name ∈ causes.map NamedIndicator.name) := by
    cases causes with
    | nil => simp [Occurs, causeBlock]
    | cons first rest => simp [Occurs, causeBlock, mentioned, subject?, terms, eq_comm]
  rw [occurs_append, hcauses, occurs_anchorBlock_iff]
  constructor
  · rintro (⟨-, hname | hname⟩ | hname | hname)
    · exact .inl hname
    · exact .inr (.inl hname)
    · exact .inl hname
    · exact .inr (.inr hname)
  · rintro (hname | hname | hname)
    · exact .inr (.inl hname)
    · exact .inl ⟨List.map_eq_nil_iff.not.mp (List.ne_nil_of_mem hname), .inr hname⟩
    · exact .inr (.inr hname)

end Statement

/-- The names in a list of named indicators are those of the symbols that were looked up. -/
lemma Names.mem_map_name_iff {names : Names} {α : Type} {id : α → String} {symbol : α → Symbol}
    {xs : List α} {indicators : List NamedIndicator}
    (h : (xs.mapM fun x => do return (⟨id x, ← names.get (symbol x)⟩ : NamedIndicator)) =
      .ok indicators) {name : String} :
    name ∈ indicators.map NamedIndicator.name ↔ ∃ x ∈ xs, names.find? (symbol x) = some name := by
  have hstep : ∀ {x i}, (do return (⟨id x, ← names.get (symbol x)⟩ : NamedIndicator)) =
      Except.ok i → names.find? (symbol x) = some i.name := by
    intro x i hi
    obtain ⟨found, hfound, hi⟩ := bind_eq_ok_iff.mp hi
    obtain rfl := Except.ok.inj hi
    exact Names.find?_of_get_eq_ok hfound
  rw [List.mem_map]
  constructor
  · rintro ⟨i, hi, rfl⟩
    obtain ⟨x, hx, hxi⟩ := exists_mem_of_mapM_eq_ok h i hi
    exact ⟨x, hx, hstep hxi⟩
  · rintro ⟨x, hx, hname⟩
    obtain ⟨i, hi, hxi⟩ := exists_eq_ok_of_mapM_eq_ok h x hx
    exact ⟨i, hi, Option.some.inj ((hstep hxi).symm.trans hname)⟩

namespace Model

variable {m : Model} {names : Names} {nameOf : Symbol → String} {facet : Facet} {mode : Mode}
  {name : String} {sections : List Section} {statements : List Statement} {comments : Bool}

/-! ### Symbols that are mentioned -/

/-- The latent variables that are compiled: the single one if it has active items, the compiled
facets, and a higher-order construct above at least one of them. -/
def IsCompiled (m : Model) : Latent → Prop
  | .unidim => m.isUnidimensional = true ∧ m.activeItems .unidim ≠ []
  | .facet id => m.isUnidimensional = false ∧ ∃ facet ∈ m.emittedFacets, facet.id = id
  | .secondOrder => m.isUnidimensional = false ∧
      m.configuration.secondOrder.mode.isSome = true ∧ m.emittedFacets ≠ []

/-- The symbols that are mentioned where a latent variable is compiled: its own, its active items,
its present global items if it is formative, and the compiled facets if it is the higher-order
construct. -/
inductive Mentions (m : Model) : Latent → Symbol → Prop
  | self (latent : Latent) : m.Mentions latent (latentSymbol latent)
  | item {latent : Latent} {item : Item} (h : item ∈ m.activeItems latent) :
      m.Mentions latent (.item item.id)
  | global {latent : Latent} {item : GlobalItem} (formative : m.mode? latent = some .formative)
      (h : item ∈ m.presentGlobals latent) : m.Mentions latent (.global latent.key item.id)
  | facet {facet : Facet} (h : facet ∈ m.emittedFacets) : m.Mentions .secondOrder (.facet facet.id)

/-- The symbols that are mentioned for some compiled latent variable. -/
def Uses (m : Model) (symbol : Symbol) : Prop :=
  ∃ latent, m.IsCompiled latent ∧ m.Mentions latent symbol

/-! ### What occurs in a section -/

/-- The global items that the relations with the id of a formative facet refer to. -/
lemma mem_map_text_iff_mem_keyedGlobals (hfacet : facet ∈ m.instrument.facets)
    (hmode : m.facetMode? facet.id = some .formative) {id : String} :
    id ∈ ((m.indicators.filter fun r => r.latentKey == facet.id).filter fun r =>
        r.isGlobal).map (fun r => r.ref.text) ↔ id ∈ (m.keyedGlobals facet).map GlobalItem.id := by
  rw [mem_map_text_filter_latentKey_iff hfacet, map_text_facetIndicators_of_formative hmode,
    map_text_filter_secondOrderIndicators, keyedGlobals, List.map_append, List.mem_append]
  refine or_congr_right ?_
  by_cases hkey : facet.id = Latent.secondOrderKey
  · simp only [hkey, true_and]
    split <;> rfl
  · simp [hkey]

/-- A facet with a mode and an active item is compiled. -/
lemma isEmitted_of_mem_activeItems {item : Item} (hmode : (m.facetMode? facet.id).isSome = true)
    (hitem : item ∈ m.activeItems (.facet facet.id)) : m.isEmitted facet = true := by
  unfold isEmitted
  cases hm : m.facetMode? facet.id with
  | none => simp [hm] at hmode
  | some mode =>
    cases mode with
    | reflective => simpa using List.ne_nil_of_mem hitem
    | formative => rfl

/-- A variable belongs to the section of a facet: it is that of the facet, of an active item of the
facet, or, if the facet is formative, of a global item that carries its key. -/
def BelongsTo (m : Model) (names : Names) (facet : Facet) (name : String) : Prop :=
  names.find? (.facet facet.id) = some name ∨
    (∃ item ∈ m.activeItems (.facet facet.id), names.find? (.item item.id) = some name) ∨
    m.facetMode? facet.id = some .formative ∧
      ∃ item ∈ m.keyedGlobals facet, names.find? (.global facet.id item.id) = some name

/-- In the section of a facet occur the variables that belong to it, if the facet is compiled. -/
lemma occurs_facetSection_iff (hfacet : facet ∈ m.instrument.facets)
    (hmode : m.facetMode? facet.id = some mode)
    (h : m.facetSection names m.indicators facet mode = .ok sections) :
    (∃ part ∈ sections, Statement.Occurs name part.body) ↔
      m.isEmitted facet = true ∧ m.BelongsTo names facet name := by
  have hemitted := isEmitted_iff_of_facetSection hfacet hmode h
  have hself : ∀ latent, names.get (.facet facet.id) = .ok latent →
      (name = latent ↔ names.find? (.facet facet.id) = some name) := by
    intro latent hlatent
    rw [Names.find?_of_get_eq_ok hlatent, Option.some_inj, eq_comm]
  cases compilesFacet_of_eq_ok h with
  | silent => simp [hemitted]
  | @reflective latent items hlatent hitems hne =>
    have hmem : ∀ v, v ∈ items.map NamedIndicator.name ↔
        ∃ item ∈ m.activeItems (.facet facet.id), names.find? (.item item.id) = some v := by
      intro v
      simp only [Names.mem_map_name_iff hitems, mem_filterMap_itemId?_iff hfacet,
        filterMap_itemId?_facetIndicators_of_reflective hmode, List.mem_map,
        exists_exists_and_eq_and]
    have hactive : m.isEmitted facet = true := by
      obtain ⟨i, hi⟩ := List.exists_mem_of_ne_nil items hne
      obtain ⟨item, hitem, -⟩ := (hmem i.name).mp (List.mem_map_of_mem hi)
      exact isEmitted_of_mem_activeItems (by rw [hmode, Option.isSome_some]) hitem
    simp only [List.mem_singleton, exists_eq_left, Statement.occurs_measurementBlock_iff hne,
      hself latent hlatent, hmem, hactive, true_and, BelongsTo, hmode, Option.some.injEq,
      reduceCtorEq, false_and, or_false]
  | @formative latent items globals hlatent hitems hglobals =>
    have hactive : m.isEmitted facet = true := by simp [isEmitted, hmode]
    simp only [List.mem_singleton, exists_eq_left, Statement.occurs_causeBlock_append_iff,
      hself latent hlatent, hactive, true_and, Names.mem_map_name_iff hitems,
      Names.mem_map_name_iff hglobals, mem_filterMap_itemId?_iff hfacet,
      filterMap_itemId?_facetIndicators_of_formative hmode,
      mem_map_text_iff_mem_keyedGlobals hfacet hmode, List.mem_map, exists_exists_and_eq_and,
      BelongsTo, hmode]
    rfl

/-- In the sections of the facets occur the variables that belong to that of a compiled one. -/
lemma occurs_facetSections_iff (h : m.facetSections names m.indicators = .ok sections) :
    (∃ part ∈ sections, Statement.Occurs name part.body) ↔
      ∃ facet ∈ m.emittedFacets, m.BelongsTo names facet name := by
  constructor
  · rintro ⟨part, hpart, hname⟩
    obtain ⟨facet, hfacet, mode, hmode, own, hown, hpart⟩ := exists_facetSection_of_mem h hpart
    obtain ⟨hemitted, hname⟩ :=
      (occurs_facetSection_iff hfacet hmode hown).mp ⟨part, hpart, hname⟩
    exact ⟨facet, List.mem_filter.mpr ⟨hfacet, hemitted⟩, hname⟩
  · rintro ⟨facet, hfacet, hname⟩
    obtain ⟨hfacet, hemitted⟩ := List.mem_filter.mp hfacet
    obtain ⟨mode, hmode⟩ := exists_facetMode?_of_isEmitted hemitted
    obtain ⟨own, hown, hsub⟩ := exists_facetSection_subset h hfacet hmode
    obtain ⟨part, hpart, hname⟩ :=
      (occurs_facetSection_iff hfacet hmode hown).mpr ⟨hemitted, hname⟩
    exact ⟨part, hsub hpart, hname⟩

/-- In the section of the higher-order construct occur the construct, the compiled facets, and its
present global items if it is formative. -/
lemma occurs_secondOrderParts_iff :
    (∃ part ∈ m.secondOrderParts nameOf, Statement.Occurs name part.body) ↔
      m.emittedFacets ≠ [] ∧ m.configuration.secondOrder.mode.isSome = true ∧
        (name = nameOf .overall ∨ (∃ facet ∈ m.emittedFacets, name = nameOf (.facet facet.id)) ∨
          m.configuration.secondOrder.mode = some .formative ∧
            ∃ item ∈ m.presentGlobals .secondOrder,
              name = nameOf (.global Latent.secondOrderKey item.id)) := by
  have hfacets : name ∈ (m.namedFacets nameOf).map NamedIndicator.name ↔
      ∃ facet ∈ m.emittedFacets, name = nameOf (.facet facet.id) := by
    simp [namedFacets, eq_comm]
  have hglobals : name ∈ (m.namedGlobals nameOf .secondOrder).map NamedIndicator.name ↔
      ∃ item ∈ m.presentGlobals .secondOrder,
        name = nameOf (.global Latent.secondOrderKey item.id) := by
    simp [namedGlobals, eq_comm, Latent.key]
  unfold secondOrderParts
  by_cases hnil : m.emittedFacets = []
  · simp [hnil]
  · have hne : m.namedFacets nameOf ≠ [] := by simpa [namedFacets] using hnil
    cases hmode : m.configuration.secondOrder.mode with
    | none => simp [hnil]
    | some mode =>
      cases mode with
      | reflective =>
        simp only [if_neg hnil, List.mem_singleton, exists_eq_left,
          Statement.occurs_measurementBlock_iff hne, hfacets]
        simp [hnil]
      | formative =>
        simp only [if_neg hnil, List.mem_singleton, exists_eq_left,
          Statement.occurs_causeBlock_append_iff, hfacets, hglobals]
        simp [hnil]

/-- In the measurement of a unidimensional model occur the construct and the active items, if there
are any. -/
lemma occurs_unidimBlock_iff {rule : ScalingRule} :
    Statement.Occurs name
        (measurementBlock (nameOf .overall) (m.namedItems nameOf .unidim) rule) ↔
      m.activeItems .unidim ≠ [] ∧ (name = nameOf .overall ∨
        ∃ item ∈ m.activeItems .unidim, name = nameOf (.item item.id)) := by
  by_cases hnil : m.activeItems .unidim = []
  · simp [hnil, namedItems, measurementBlock, Statement.Occurs]
  · have hne : m.namedItems nameOf .unidim ≠ [] := by simpa [namedItems] using hnil
    rw [Statement.occurs_measurementBlock_iff hne]
    simp [hnil, namedItems, eq_comm]

/-! ### What occurs in the statements -/

/-- What is mentioned for a latent variable that is compiled is a symbol of the model. -/
lemma Uses.hasSymbol {symbol : Symbol} (h : m.Uses symbol) : m.HasSymbol symbol := by
  obtain ⟨latent, hcompiled, hmentions⟩ := h
  cases hmentions with
  | self =>
    cases latent with
    | unidim => exact .overall
    | secondOrder => exact .overall
    | facet id =>
      obtain ⟨-, facet, hfacet, rfl⟩ := hcompiled
      exact .facet (List.mem_of_mem_filter hfacet)
  | item hitem => exact .item (IsNamed.mem_items_of_mem_activeItems hitem)
  | global formative hitem =>
    cases latent with
    | unidim => cases formative
    | secondOrder => exact .secondOrderGlobal (List.mem_of_mem_filter hitem)
    | facet id =>
      obtain ⟨-, facet, hfacet, rfl⟩ := hcompiled
      exact .facetGlobal (List.mem_of_mem_filter hfacet) (List.mem_of_mem_filter hitem)
  | facet hfacet => exact .facet (List.mem_of_mem_filter hfacet)

/-- A title mentions nothing. -/
lemma not_occurs_titleSections (m : Model) (name : String) :
    ¬ ∃ part ∈ m.titleSections, Statement.Occurs name part.body := by
  rintro ⟨part, hpart, s, hs, -⟩
  rw [body_eq_nil_of_mem_titleSections hpart] at hs
  cases hs

/-- What belongs to the section of a compiled facet is used by the model. -/
lemma BelongsTo.exists_uses (h : m.BelongsTo names facet name) (hmulti : m.isUnidimensional = false)
    (hfacet : facet ∈ m.emittedFacets) :
    ∃ symbol, m.Uses symbol ∧ names.find? symbol = some name := by
  have hcompiled : m.IsCompiled (.facet facet.id) := ⟨hmulti, facet, hfacet, rfl⟩
  rcases h with hname | ⟨item, hitem, hname⟩ | ⟨hmode, item, hitem, hname⟩
  · exact ⟨_, ⟨_, hcompiled, .self _⟩, hname⟩
  · exact ⟨_, ⟨_, hcompiled, .item hitem⟩, hname⟩
  · rcases List.mem_append.mp hitem with hitem | hitem
    · exact ⟨_, ⟨_, hcompiled, .global hmode hitem⟩, hname⟩
    · -- The facet lists the global items of the construct whose key it bears.
      split at hitem
      · next hkey =>
        have hsecond : m.IsCompiled .secondOrder :=
          ⟨hmulti, by rw [hkey.2]; rfl, List.ne_nil_of_mem hfacet⟩
        rw [hkey.1] at hname
        exact ⟨_, ⟨_, hsecond, .global hkey.2 hitem⟩, hname⟩
      · cases hitem

/-- What the section of the higher-order construct mentions is used by the model. -/
lemma exists_uses_of_occurs_secondOrder (hmulti : m.isUnidimensional = false)
    (h : ∃ part ∈ m.secondOrderParts nameOf, Statement.Occurs name part.body) :
    ∃ symbol, m.Uses symbol ∧ name = nameOf symbol := by
  obtain ⟨hne, hmode, hname⟩ := occurs_secondOrderParts_iff.mp h
  have hcompiled : m.IsCompiled .secondOrder := ⟨hmulti, hmode, hne⟩
  rcases hname with hname | ⟨facet, hfacet, hname⟩ | ⟨hformative, item, hitem, hname⟩
  · exact ⟨_, ⟨_, hcompiled, .self _⟩, hname⟩
  · exact ⟨_, ⟨_, hcompiled, .facet hfacet⟩, hname⟩
  · exact ⟨_, ⟨_, hcompiled, .global hformative hitem⟩, hname⟩

/-- What a unidimensional model uses belongs to its single latent variable. -/
lemma uses_iff_of_isUnidimensional (huni : m.isUnidimensional = true) {symbol : Symbol} :
    m.Uses symbol ↔ m.activeItems .unidim ≠ [] ∧
      (symbol = .overall ∨ ∃ item ∈ m.activeItems .unidim, symbol = .item item.id) := by
  constructor
  · rintro ⟨latent, hcompiled, hmentions⟩
    cases latent with
    | unidim =>
      refine ⟨hcompiled.2, ?_⟩
      cases hmentions with
      | self => exact .inl rfl
      | item hitem => exact .inr ⟨_, hitem, rfl⟩
      | global formative => cases formative
    | facet id => cases huni.symm.trans hcompiled.1
    | secondOrder => cases huni.symm.trans hcompiled.1
  · rintro ⟨hne, rfl | ⟨item, hitem, rfl⟩⟩
    · exact ⟨.unidim, ⟨huni, hne⟩, .self _⟩
    · exact ⟨.unidim, ⟨huni, hne⟩, .item hitem⟩

/-- What a model with facets uses is mentioned in a section of a facet or in that of the
higher-order construct. -/
lemma occurs_of_uses (hnamed : m.IsNamed names nameOf)
    (hsections : m.facetSections names m.indicators = .ok sections)
    (hmulti : m.isUnidimensional = false) {symbol : Symbol} (h : m.Uses symbol) :
    (∃ part ∈ sections, Statement.Occurs (nameOf symbol) part.body) ∨
      ∃ part ∈ m.secondOrderParts nameOf, Statement.Occurs (nameOf symbol) part.body := by
  have hfind := hnamed.2 symbol h.hasSymbol
  obtain ⟨latent, hcompiled, hmentions⟩ := h
  rw [occurs_facetSections_iff hsections, occurs_secondOrderParts_iff]
  cases latent with
  | unidim => cases hmulti.symm.trans hcompiled.1
  | facet id =>
    obtain ⟨-, facet, hfacet, rfl⟩ := hcompiled
    refine .inl ⟨facet, hfacet, ?_⟩
    cases hmentions with
    | self => exact .inl hfind
    | item hitem => exact .inr (.inl ⟨_, hitem, hfind⟩)
    | global formative hitem =>
      exact .inr (.inr ⟨formative, _, List.mem_append_left _ hitem, hfind⟩)
  | secondOrder =>
    obtain ⟨-, hmode, hne⟩ := hcompiled
    refine .inr ⟨hne, hmode, ?_⟩
    cases hmentions with
    | self => exact .inl rfl
    | item hitem => cases hitem
    | global formative hitem => exact .inr (.inr ⟨formative, _, hitem, rfl⟩)
    | facet hfacet => exact .inr (.inl ⟨_, hfacet, rfl⟩)

/-- The variables that occur in the statements of a model are those of the symbols it uses. -/
lemma occurs_statements_iff (hnames : m.names = .ok names)
    (hstatements : m.statements names comments = .ok statements) :
    Statement.Occurs name statements ↔
      ∃ symbol, m.Uses symbol ∧ names.find? symbol = some name := by
  obtain ⟨nameOf, hnamed⟩ : ∃ nameOf, m.IsNamed names nameOf := ⟨_, isNamed_of_names_eq_ok hnames⟩
  have hname : (∃ symbol, m.Uses symbol ∧ names.find? symbol = some name) ↔
      ∃ symbol, m.Uses symbol ∧ name = nameOf symbol := by
    refine exists_congr fun symbol => and_congr_right fun huses => ?_
    rw [hnamed.2 symbol huses.hasSymbol, Option.some_inj, eq_comm]
  cases hu : m.isUnidimensional with
  | true =>
    rw [statements_eq_ok_of_isUnidimensional hnamed hu] at hstatements
    obtain rfl := Except.ok.inj hstatements
    rw [Statement.occurs_append, Statement.occurs_layOut_iff, or_iff_right
      (m.not_occurs_titleSections name), hnamed.1, occurs_unidimBlock_iff, hname]
    simp only [uses_iff_of_isUnidimensional hu]
    constructor
    · rintro ⟨hne, rfl | ⟨item, hitem, rfl⟩⟩
      · exact ⟨_, ⟨hne, .inl rfl⟩, rfl⟩
      · exact ⟨_, ⟨hne, .inr ⟨item, hitem, rfl⟩⟩, rfl⟩
    · rintro ⟨_, ⟨hne, rfl | ⟨item, hitem, rfl⟩⟩, rfl⟩
      · exact ⟨hne, .inl rfl⟩
      · exact ⟨hne, .inr ⟨item, hitem, rfl⟩⟩
  | false =>
    -- A name that occurs stands in the title, in a section of a facet, or in that of the construct.
    obtain ⟨sections, hsections⟩ := exists_facetSections_eq hnamed
    rw [statements_eq_ok_of_facetSections hnamed hu hsections] at hstatements
    obtain rfl := Except.ok.inj hstatements
    rw [Statement.occurs_layOut_iff]
    constructor
    · rintro ⟨part, hpart, hoccurs⟩
      rw [List.mem_append, List.mem_append] at hpart
      rcases hpart with (hpart | hpart) | hpart
      · exact absurd ⟨part, hpart, hoccurs⟩ (m.not_occurs_titleSections name)
      · obtain ⟨facet, hfacet, hbelongs⟩ :=
          (occurs_facetSections_iff hsections).mp ⟨part, hpart, hoccurs⟩
        exact hbelongs.exists_uses hu hfacet
      · exact hname.mpr (exists_uses_of_occurs_secondOrder hu ⟨part, hpart, hoccurs⟩)
    · intro h
      obtain ⟨symbol, huses, rfl⟩ := hname.mp h
      rcases occurs_of_uses hnamed hsections hu huses with
        ⟨part, hpart, hoccurs⟩ | ⟨part, hpart, hoccurs⟩
      · exact ⟨part, List.mem_append_left _ (List.mem_append_right _ hpart), hoccurs⟩
      · exact ⟨part, List.mem_append_right _ hpart, hoccurs⟩

/-- The variable of a symbol occurs in the statements exactly when the model uses the symbol. -/
lemma occurs_iff_uses {symbol : Symbol} (hnames : m.names = .ok names)
    (hstatements : m.statements names comments = .ok statements)
    (hname : names.find? symbol = some name) :
    Statement.Occurs name statements ↔ m.Uses symbol := by
  rw [occurs_statements_iff hnames hstatements]
  constructor
  · rintro ⟨other, huses, hother⟩
    exact (isConsistent_of_names_eq_ok hnames).injective _ _ _ hother hname ▸ huses
  · exact fun huses => ⟨symbol, huses, hname⟩

end Model

end Psychometrics
