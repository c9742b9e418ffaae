import Mathlib
import Psychometrics.Proofs.Listing.Unidimensional
import Psychometrics.Proofs.Report.HigherOrder

/-!
# The facets of the higher-order construct

Two parts of the compiler decide whether a facet is there.  The sections of facets are made from
relations that are looked up by the id of the facet, and the higher-order construct lists the
compiled facets, which are told by their modes and their active items.  Were the two to differ, the
construct would stand on a variable that nothing is said about, or leave one out.

They do not (`Model.listsStated_of_names_eq_ok`): what the construct lists is what was stated
before, in declaration order with the reference in front, and with nothing to list there is nothing
to say about the construct either.  Facets may share an id, or bear the reserved key of the
construct.
-/

namespace Psychometrics

/-- A formative latent variable is measured or has its variance fixed. -/
lemma exists_mem_anchorBlock (latent : String) (globals : List NamedIndicator)
    (rule : ScalingRule) : ∃ s ∈ anchorBlock latent globals rule, s.subject? = some latent := by
  by_cases hnil : globals = []
  · exact ⟨.fixVariance latent, by simp [hnil, anchorBlock, unanchoredBlock], rfl⟩
  · obtain ⟨listed, fixedFirst, rest, hblock, -⟩ := exists_measurementBlock_eq hnil latent rule
    refine ⟨.reflective latent listed fixedFirst, ?_, rfl⟩
    rw [anchorBlock, if_neg (by simpa using hnil), hblock]
    exact List.mem_cons_self

namespace Statement

variable {s : Statement} {names : Names} {symbol : Symbol} {mode : Mode} {overall : String}

/-- A statement is about the variable that stands for a symbol. -/
def isAbout (names : Names) (symbol : Symbol) (s : Statement) : Bool :=
  s.subject?.any fun name => names.find? symbol == some name

/-- A statement in which a higher-order construct of some mode lists its facets: a reflective one
shows in them, and a formative one is formed by them. -/
def listsFacets (mode : Mode) (overall : String) : Statement → Bool
  | .reflective latent _ _ => mode == .reflective && latent == overall
  | .formative latent _ => mode == .formative && latent == overall
  | _ => false

/-- A statement is about a symbol when its subject is the name of the symbol. -/
lemma isAbout_iff :
    s.isAbout names symbol = true ↔
      ∃ name, s.subject? = some name ∧ names.find? symbol = some name := by
  simp [isAbout, Option.any_eq_true]

/-- A statement that lists facets is about the construct. -/
lemma subject?_of_listsFacets (h : s.listsFacets mode overall = true) :
    s.subject? = some overall := by
  cases s with
  | reflective latent indicators fixedFirst =>
    exact congrArg some (beq_iff_eq.mp (Bool.and_eq_true_iff.mp h).2)
  | formative latent causes =>
    exact congrArg some (beq_iff_eq.mp (Bool.and_eq_true_iff.mp h).2)
  | _ => cases h

/-- Every statement with a meaning has a subject. -/
lemma exists_subject?_of_isMeaningful (h : s.isMeaningful = true) :
    ∃ name, s.subject? = some name := by
  cases s with
  | comment text => cases h
  | blank => cases h
  | _ => exact ⟨_, rfl⟩

/-- Statements that list facets have a meaning, so that the others can be left out first. -/
lemma filter_listsFacets_filter_isMeaningful (statements : List Statement) :
    (statements.filter isMeaningful).filter (listsFacets mode overall) =
      statements.filter (listsFacets mode overall) := by
  rw [List.filter_filter]
  refine List.filter_congr fun s _ => ?_
  rw [Bool.and_eq_left_iff_imp]
  exact fun h => isMeaningful_of_subject?_eq_some (subject?_of_listsFacets h)

end Statement

namespace Model

variable {m : Model} {names : Names} {nameOf : Symbol → String} {facet : Facet} {mode : Mode}
  {s : Statement} {sections : List Section} {statements : List Statement}

/-! ### Facets that are stated -/

/-- The facets that some statement is about, in declaration order. -/
def statedFacets (m : Model) (names : Names) (statements : List Statement) : List Facet :=
  m.instrument.facets.filter fun facet =>
    statements.any (Statement.isAbout names (.facet facet.id))

/-- Which facets are stated depends on statements with a meaning. -/
lemma statedFacets_filter_isMeaningful (statements : List Statement) :
    m.statedFacets names (statements.filter Statement.isMeaningful) =
      m.statedFacets names statements := by
  refine List.filter_congr fun facet _ => ?_
  rw [List.any_filter]
  refine congrArg statements.any (funext fun s => ?_)
  rw [Bool.and_eq_right_iff_imp]
  intro habout
  obtain ⟨name, hsubject, -⟩ := Statement.isAbout_iff.mp habout
  exact Statement.isMeaningful_of_subject?_eq_some hsubject

/-- A reflective facet has relations with items exactly when it has active items, whoever else bears
its id. -/
lemma filterMap_itemId?_eq_nil_iff (hfacet : facet ∈ m.instrument.facets)
    (hmode : m.facetMode? facet.id = some .reflective) :
    ((m.indicators.filter fun r => r.latentKey == facet.id).filter fun r =>
      r.direction == .outward && !r.isGlobal).filterMap Indicator.itemId? = [] ↔
        m.activeItems (.facet facet.id) = [] := by
  rw [List.eq_nil_iff_forall_not_mem, ← List.map_eq_nil_iff (f := Item.id),
    List.eq_nil_iff_forall_not_mem]
  simp only [mem_filterMap_itemId?_iff hfacet,
    filterMap_itemId?_facetIndicators_of_reflective hmode]

/-- A facet is compiled exactly when its section states something about it. -/
lemma isEmitted_iff_of_facetSection (hfacet : facet ∈ m.instrument.facets)
    (hmode : m.facetMode? facet.id = some mode)
    (h : m.facetSection names m.indicators facet mode = .ok sections) :
    m.isEmitted facet = true ↔
      ∃ part ∈ sections, ∃ s ∈ part.body, s.isAbout names (.facet facet.id) = true := by
  have habout : ∀ latent, names.get (.facet facet.id) = .ok latent → ∀ s : Statement,
      s.subject? = some latent → s.isAbout names (.facet facet.id) = true := by
    intro latent hlatent s hs
    exact Statement.isAbout_iff.mpr ⟨latent, hs, Names.find?_of_get_eq_ok hlatent⟩
  cases compilesFacet_of_eq_ok h with
  | silent hname hitems =>
    have hactive : m.activeItems (.facet facet.id) = [] :=
      (filterMap_itemId?_eq_nil_iff hfacet hmode).mp ((eq_nil_iff_of_mapM_eq_ok hitems).mp rfl)
    simp [isEmitted, hmode, hactive]
  | @reflective latent items hname hitems hne =>
    have hactive : m.activeItems (.facet facet.id) ≠ [] := fun hnil => hne
      ((eq_nil_iff_of_mapM_eq_ok hitems).mpr ((filterMap_itemId?_eq_nil_iff hfacet hmode).mpr hnil))
    obtain ⟨listed, fixedFirst, rest, hblock, -⟩ := exists_measurementBlock_eq hne latent
      (m.effectiveRule (.facet facet.id))
    refine iff_of_true (by simpa [isEmitted, hmode] using hactive) ⟨_, List.mem_singleton_self _,
      .reflective latent listed fixedFirst, ?_, habout latent hname _ rfl⟩
    dsimp only
    rw [hblock]
    exact List.mem_cons_self
  | @formative latent items globals hname =>
    obtain ⟨s, hs, hsubject⟩ := exists_mem_anchorBlock latent globals
      (m.effectiveRule (.facet facet.id))
    refine iff_of_true (by simp [isEmitted, hmode]) ⟨_, List.mem_singleton_self _, s,
      List.mem_append_right _ hs, habout latent hname s hsubject⟩

/-- The sections of the facets state something about the compiled facets, and about no others. -/
lemma isEmitted_iff_of_facetSections (hconsistent : names.IsConsistent)
    (h : m.facetSections names m.indicators = .ok sections)
    (hfacet : facet ∈ m.instrument.facets) :
    m.isEmitted facet = true ↔
      ∃ part ∈ sections, ∃ s ∈ part.body, s.isAbout names (.facet facet.id) = true := by
  constructor
  · intro hemitted
    obtain ⟨mode, hmode⟩ := exists_facetMode?_of_isEmitted hemitted
    obtain ⟨own, hown, hsub⟩ := exists_facetSection_subset h hfacet hmode
    obtain ⟨part, hpart, hs⟩ := (isEmitted_iff_of_facetSection hfacet hmode hown).mp hemitted
    exact ⟨part, hsub hpart, hs⟩
  · rintro ⟨part, hpart, s, hs, habout⟩
    obtain ⟨other, hother, mode, hmode, own, hown, hpart⟩ := exists_facetSection_of_mem h hpart
    -- The statement is about the facet that it was compiled for.
    obtain ⟨name, hsubject, hname⟩ := Statement.isAbout_iff.mp habout
    have hget := get_eq_ok_of_mem_facetSection hown hpart hs hsubject
    have hid : other.id = facet.id :=
      Symbol.facet.inj (hconsistent.injective _ _ _ (Names.find?_of_get_eq_ok hget) hname)
    rw [← hid] at habout
    have hemitted := (isEmitted_iff_of_facetSection hother hmode hown).mpr
      ⟨part, hpart, s, hs, habout⟩
    rwa [isEmitted, hid] at hemitted

/-- What is stated before the higher-order construct, and perhaps of the construct itself, states
the compiled facets. -/
lemma statedFacets_append (hconsistent : names.IsConsistent)
    (h : m.facetSections names m.indicators = .ok sections) {others : List Statement}
    (hothers : ∀ s ∈ others, s.subject? = some names.overall) :
    m.statedFacets names
      ((sections.flatMap fun part => part.body.filter Statement.isMeaningful) ++ others) =
        m.emittedFacets := by
  refine List.filter_congr fun facet hfacet => ?_
  rw [Bool.eq_iff_iff, isEmitted_iff_of_facetSections hconsistent h hfacet, List.any_eq_true]
  constructor
  · rintro ⟨s, hs, habout⟩
    rcases List.mem_append.mp hs with hs | hs
    · obtain ⟨part, hpart, hs⟩ := List.mem_flatMap.mp hs
      exact ⟨part, hpart, s, List.mem_of_mem_filter hs, habout⟩
    · -- No facet is called like the construct.
      obtain ⟨name, hsubject, hname⟩ := Statement.isAbout_iff.mp habout
      rw [hothers s hs] at hsubject
      obtain rfl := Option.some.inj hsubject
      cases hconsistent.injective _ _ _ hname hconsistent.overall
  · rintro ⟨part, hpart, s, hs, habout⟩
    obtain ⟨name, hsubject, -⟩ := Statement.isAbout_iff.mp habout
    have hmeaningful := Statement.isMeaningful_of_subject?_eq_some hsubject
    exact ⟨s, List.mem_append_left _ (List.mem_flatMap.mpr
      ⟨part, hpart, List.mem_filter.mpr ⟨hs, hmeaningful⟩⟩), habout⟩

/-! ### What the construct lists -/

section Blocks

variable {indicators : List NamedIndicator} (latent : String) (reference : Option String)

/-- A measured variable is not formed by anything. -/
lemma filter_listsFacets_formative_measurement (indicators : List NamedIndicator) :
    (measurement latent indicators reference).filter (Statement.listsFacets .formative latent) =
      [] := by
  unfold measurement
  split
  · rfl
  · split <;> rfl

/-- A formation lists what the variable is formed by. -/
lemma filter_listsFacets_formation {causes : List NamedIndicator} (h : causes ≠ [])
    (globals : List NamedIndicator) :
    (formation latent causes globals reference).filter (Statement.listsFacets .formative latent) =
      [.formative latent (causes.map NamedIndicator.name)] := by
  have hscale : (if globals = [] then [.fixVariance latent]
      else measurement latent globals reference).filter
        (Statement.listsFacets .formative latent) = [] := by
    split
    · rfl
    · exact filter_listsFacets_formative_measurement latent reference globals
  rw [formation, if_neg h, List.filter_append, hscale, List.append_nil]
  exact List.filter_cons_of_pos (by simp [Statement.listsFacets])

/-- A measurement lists what the variable shows in, the reference first. -/
lemma exists_filter_listsFacets_measurement (h : indicators ≠ []) :
    ∃ before first after fixedFirst, indicators = before ++ first :: after ∧
      (measurement latent indicators reference).filter
          (Statement.listsFacets .reflective latent) =
        [.reflective latent ((first :: (before ++ after)).map NamedIndicator.name) fixedFirst] ∧
      (before ≠ [] → reference = some first.id) := by
  obtain ⟨before, first, after, fixedFirst, rest, hsplit, hblock, hfixed, hfree, hrest⟩ :=
    exists_measurement_eq_split h latent reference
  refine ⟨before, first, after, fixedFirst, hsplit, ?_, fun hbefore => ?_⟩
  · have hnone : ∀ s ∈ rest, ¬ s.listsFacets .reflective latent = true := by
      intro s hs
      rw [hrest s hs]
      exact Bool.false_ne_true
    rw [hblock, List.filter_cons_of_pos (by simp [Statement.listsFacets]),
      List.filter_eq_nil_iff.mpr hnone]
  · cases fixedFirst with
    | true => exact hfixed rfl
    | false => exact absurd (hfree rfl) hbefore

end Blocks

/-- Compiled facets are listed in one statement of the higher-order construct, in their order except
that the reference of a reflective construct is moved to the front. -/
lemma exists_filter_listsFacets_secondOrderBlock (nameOf : Symbol → String)
    (hmode : m.configuration.secondOrder.mode = some mode) (h : m.emittedFacets ≠ []) :
    ∃ s front first back,
      (m.secondOrderBlock nameOf).filter (Statement.listsFacets mode (nameOf .overall)) = [s] ∧
        m.emittedFacets = front ++ first :: back ∧
        s.terms = (first :: (front ++ back)).map (fun facet => nameOf (.facet facet.id)) ∧
        (front ≠ [] → mode = .reflective ∧
          (m.effectiveRule .secondOrder).reference = some first.id) := by
  rw [← describedFacets_eq_emittedFacets] at h ⊢
  unfold secondOrderBlock
  dsimp only
  rw [if_neg h, hmode]
  cases mode with
  | reflective =>
    dsimp only
    rw [← reference_effectiveRule_secondOrder hmode]
    obtain ⟨before, i, after, fixedFirst, hsplit, hfilter, hreference⟩ :=
      exists_filter_listsFacets_measurement (nameOf .overall)
        (m.effectiveRule .secondOrder).reference (mt List.map_eq_nil_iff.mp h)
    obtain ⟨front, others, hfacets, rfl, hothers⟩ := List.map_eq_append_iff.mp hsplit
    obtain ⟨first, back, rfl, rfl, rfl⟩ := List.map_eq_cons_iff.mp hothers
    refine ⟨_, front, first, back, hfilter, hfacets, ?_, fun hfront => ⟨rfl, hreference ?_⟩⟩
    · simp [Statement.terms, Function.comp_def]
    · simpa using hfront
  | formative =>
    obtain ⟨first, back, hfacets⟩ := List.exists_cons_of_ne_nil h
    refine ⟨_, [], first, back, filter_listsFacets_formation (nameOf .overall) _
      (mt List.map_eq_nil_iff.mp h) _, hfacets, ?_, fun hfront => absurd rfl hfront⟩
    simp [Statement.terms, hfacets]

/-! ### Statements -/

/-- The statements of a model with a higher-order construct list the facets that were stated: in one
statement, and in declaration order except that the reference of a reflective construct is moved to
the front.  Without facets there is no statement about the construct. -/
structure ListsStated (m : Model) (names : Names) (mode : Mode) (statements : List Statement) :
    Prop where
  listed : ∀ before s after, statements = before ++ s :: after →
    s.listsFacets mode names.overall = true → ∃ front first back,
      m.statedFacets names before = front ++ first :: back ∧
        s.terms.map some =
          (first :: (front ++ back)).map (fun facet => names.find? (.facet facet.id)) ∧
        (front ≠ [] → mode = .reflective ∧
          (m.effectiveRule .secondOrder).reference = some first.id)
  atMostOnce : (statements.filter (Statement.listsFacets mode names.overall)).length ≤ 1
  exists_iff : (∃ s ∈ statements, s.listsFacets mode names.overall = true) ↔
    m.statedFacets names statements ≠ []
  silent : (∀ s ∈ statements, s.listsFacets mode names.overall = false) →
    ∀ s ∈ statements, s.subject? ≠ some names.overall

/-- Without compiled facets nothing is stated about the higher-order construct. -/
lemma secondOrderBlock_eq_nil (h : m.emittedFacets = []) : m.secondOrderBlock nameOf = [] := by
  rw [secondOrderBlock, describedFacets_eq_emittedFacets, if_pos h]

/-- The higher-order construct is all that its statements are about. -/
lemma subject?_of_mem_secondOrderBlock (hs : s ∈ m.secondOrderBlock nameOf) :
    s.subject? = some (nameOf .overall) := by
  rw [← flatMap_secondOrderParts] at hs
  obtain ⟨part, hpart, hs⟩ := List.mem_flatMap.mp hs
  obtain ⟨hs, hmeaningful⟩ := List.mem_filter.mp hs
  obtain ⟨name, hsubject⟩ := Statement.exists_subject?_of_isMeaningful hmeaningful
  rw [hsubject, (mention_of_mem_secondOrderParts hpart hs hsubject).1]

/-- The statements with a meaning stand in two parts: those below the higher-order construct, which
state the compiled facets, and then those about the construct. -/
structure IsStacked (m : Model) (names : Names) (nameOf : Symbol → String)
    (below statements : List Statement) : Prop where
  filter_isMeaningful : statements.filter Statement.isMeaningful =
    below ++ m.secondOrderBlock nameOf
  subject?_ne : ∀ s ∈ below, s.subject? ≠ some names.overall
  subject?_eq : ∀ s ∈ m.secondOrderBlock nameOf, s.subject? = some names.overall
  stated : ∀ others : List Statement, (∀ s ∈ others, s.subject? = some names.overall) →
    m.statedFacets names (below ++ others) = m.emittedFacets

/-- What is generated is stacked. -/
lemma exists_isStacked (hnames : m.names = .ok names) (hnamed : m.IsNamed names nameOf)
    (hmulti : m.isUnidimensional = false) {comments : Bool}
    (hstatements : m.statements names comments = .ok statements) :
    ∃ below, m.IsStacked names nameOf below statements := by
  have hconsistent := isConsistent_of_names_eq_ok hnames
  obtain ⟨sections, hsections⟩ := exists_facetSections_eq hnamed
  refine ⟨sections.flatMap fun part => part.body.filter Statement.isMeaningful, ?_, ?_,
    fun s hs => hnamed.1 ▸ subject?_of_mem_secondOrderBlock hs,
    fun others => statedFacets_append hconsistent hsections⟩
  · rw [filter_statements_of_facetSections hnamed hmulti hsections hstatements fun _ => id,
      flatMap_secondOrderParts]
  · intro s hs hsubject
    obtain ⟨part, hpart, hs⟩ := List.mem_flatMap.mp hs
    obtain ⟨facet, -, hname⟩ := exists_facet_of_mem_facetSections hsections hpart
      (List.mem_of_mem_filter hs) hsubject
    cases hconsistent.injective _ _ _ hname hconsistent.overall

/-- A statement in which facets are listed comes after all that is stated of facets. -/
lemma exists_append_of_split {below block before after : List Statement}
    (h : before ++ s :: after = below ++ block) (hs : s ∉ below) :
    ∃ others, before = below ++ others ∧ block = others ++ s :: after := by
  rcases List.append_eq_append_iff.mp h with ⟨others, rfl, hafter⟩ | ⟨others, rfl, hblock⟩
  · cases others with
    | nil => exact ⟨[], by simp, hafter.symm⟩
    | cons first rest =>
      obtain ⟨rfl, -⟩ := List.cons.inj hafter
      exact absurd (List.mem_append_right _ List.mem_cons_self) hs
  · exact ⟨others, rfl, hblock⟩

namespace IsStacked

variable {below : List Statement}

/-- The facets that are stated below the block of the construct are the compiled ones. -/
lemma statedFacets_eq (h : m.IsStacked names nameOf below statements) :
    m.statedFacets names statements = m.emittedFacets := by
  rw [← statedFacets_filter_isMeaningful, h.filter_isMeaningful, h.stated _ h.subject?_eq]

/-- Facets are listed in the block of the construct. -/
lemma filter_listsFacets_eq (h : m.IsStacked names nameOf below statements) (mode : Mode) :
    statements.filter (Statement.listsFacets mode names.overall) =
      (m.secondOrderBlock nameOf).filter (Statement.listsFacets mode names.overall) := by
  have hnone : below.filter (Statement.listsFacets mode names.overall) = [] :=
    List.filter_eq_nil_iff.mpr fun s hs hlists =>
      h.subject?_ne s hs (Statement.subject?_of_listsFacets hlists)
  rw [← Statement.filter_listsFacets_filter_isMeaningful, h.filter_isMeaningful,
    List.filter_append, hnone, List.nil_append]

/-- Before a statement in which facets are listed, all compiled facets are stated. -/
lemma statedFacets_eq_of_split {before after : List Statement}
    (h : m.IsStacked names nameOf below (before ++ s :: after))
    (hs : s.listsFacets mode names.overall = true) :
    m.statedFacets names before = m.emittedFacets := by
  have hsubject := Statement.subject?_of_listsFacets hs
  have hmeaningful := Statement.isMeaningful_of_subject?_eq_some hsubject
  have hsplit := h.filter_isMeaningful
  rw [List.filter_append, List.filter_cons_of_pos hmeaningful] at hsplit
  obtain ⟨others, hbefore, hothers⟩ :=
    exists_append_of_split hsplit fun hmem => h.subject?_ne s hmem hsubject
  rw [← statedFacets_filter_isMeaningful, hbefore]
  exact h.stated others fun t ht => h.subject?_eq t (hothers ▸ List.mem_append_left _ ht)

/-- Facets are listed exactly when there are some. -/
lemma filter_listsFacets_eq_nil_iff (h : m.IsStacked names nameOf below statements)
    (hnamed : m.IsNamed names nameOf) (hmode : m.configuration.secondOrder.mode = some mode) :
    statements.filter (Statement.listsFacets mode names.overall) = [] ↔ m.emittedFacets = [] := by
  rw [h.filter_listsFacets_eq]
  constructor
  · intro hfilter
    by_contra hne
    obtain ⟨s, -, -, -, hlisted, -⟩ :=
      exists_filter_listsFacets_secondOrderBlock nameOf hmode hne
    rw [← hnamed.1, hfilter] at hlisted
    cases hlisted
  · intro hnil
    rw [secondOrderBlock_eq_nil hnil, List.filter_nil]

/-- One statement lists the facets, the reference first. -/
lemma exists_filter_listsFacets_eq (h : m.IsStacked names nameOf below statements)
    (hnamed : m.IsNamed names nameOf) (hmode : m.configuration.secondOrder.mode = some mode)
    (hne : m.emittedFacets ≠ []) :
    ∃ s, statements.filter (Statement.listsFacets mode names.overall) = [s] ∧
      ∃ front first back, m.emittedFacets = front ++ first :: back ∧
        s.terms.map some =
          (first :: (front ++ back)).map (fun facet => names.find? (.facet facet.id)) ∧
        (front ≠ [] → mode = .reflective ∧
          (m.effectiveRule .secondOrder).reference = some first.id) := by
  obtain ⟨s, front, first, back, hfilter, hfacets, hterms, hreference⟩ :=
    exists_filter_listsFacets_secondOrderBlock nameOf hmode hne
  refine ⟨s, ?_, front, first, back, hfacets, ?_, hreference⟩
  · rw [h.filter_listsFacets_eq, ← hfilter, hnamed.1]
  · rw [hterms, List.map_map]
    refine List.map_congr_left fun facet hfacet => ?_
    have hmem : facet ∈ m.emittedFacets := by
      rw [hfacets]
      exact List.perm_middle.symm.subset hfacet
    exact (hnamed.2 _ (.facet (List.mem_of_mem_filter hmem))).symm

end IsStacked

/-- In a named model with a higher-order construct, the construct lists exactly the facets that were
stated before. -/
theorem listsStated_of_names_eq_ok (hmulti : m.isUnidimensional = false)
    (hmode : m.configuration.secondOrder.mode = some mode) (hnames : m.names = .ok names)
    (comments : Bool) :
    ∃ statements, m.statements names comments = .ok statements ∧
      m.ListsStated names mode statements := by
  obtain ⟨nameOf, hnamed⟩ : ∃ nameOf, m.IsNamed names nameOf := ⟨_, isNamed_of_names_eq_ok hnames⟩
  obtain ⟨statements, hstatements⟩ := exists_statements_eq_ok hnames comments
  obtain ⟨below, hstacked⟩ := exists_isStacked hnames hnamed hmulti hstatements
  have hnil := hstacked.filter_listsFacets_eq_nil_iff hnamed hmode
  have hlisted := hstacked.exists_filter_listsFacets_eq hnamed hmode
  refine ⟨statements, hstatements, ?_, ?_, ?_, ?_⟩
  · rintro before s after rfl hs
    -- No other statement lists facets, and the facets are stated in front of it.
    have hmem : s ∈ (before ++ s :: after).filter (Statement.listsFacets mode names.overall) :=
      List.mem_filter.mpr ⟨List.mem_append_right before List.mem_cons_self, hs⟩
    have hne : m.emittedFacets ≠ [] := fun hempty => List.ne_nil_of_mem hmem (hnil.mpr hempty)
    obtain ⟨t, hfilter, front, first, back, hfacets, hterms, hreference⟩ := hlisted hne
    obtain rfl : s = t := List.mem_singleton.mp (hfilter ▸ hmem)
    exact ⟨front, first, back, (hstacked.statedFacets_eq_of_split hs).trans hfacets, hterms,
      hreference⟩
  · by_cases hempty : m.emittedFacets = []
    · rw [hnil.mpr hempty]
      exact Nat.zero_le 1
    · obtain ⟨s, hfilter, -⟩ := hlisted hempty
      rw [hfilter, List.length_singleton]
  · rw [hstacked.statedFacets_eq, ne_eq, ← hnil, List.filter_eq_nil_iff]
    simp
  · intro hnone s hs hsubject
    have hempty : m.emittedFacets = [] :=
      hnil.mp (List.filter_eq_nil_iff.mpr fun t ht => by simp [hnone t ht])
    have hmem := List.mem_filter.mpr
      ⟨hs, Statement.isMeaningful_of_subject?_eq_some hsubject⟩
    rw [hstacked.filter_isMeaningful, secondOrderBlock_eq_nil hempty, List.append_nil] at hmem
    exact hstacked.subject?_ne s hmem hsubject

/-- The formative higher-order construct of the mixed model lists its facets. -/
theorem listsStated_mixed :
    mixed.isUnidimensional = false ∧
      mixed.configuration.secondOrder.mode = some .formative ∧
      ∃ names, mixed.names = .ok names ∧ ∀ comments, ∃ statements,
        mixed.statements names comments = .ok statements ∧
          mixed.ListsStated names .formative statements := by
  obtain ⟨names, hnames⟩ := exists_names_eq_ok_of_length length_nameRequests_mixed (by decide)
  exact ⟨rfl, rfl, names, hnames, listsStated_of_names_eq_ok rfl rfl hnames⟩

end Model

end Psychometrics
