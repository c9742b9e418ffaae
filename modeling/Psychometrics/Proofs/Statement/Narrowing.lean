import Mathlib
import Psychometrics.Proofs.Scaling.Shrinking
import Psychometrics.Proofs.Statement.Occurrence

/-!
# The compiled text after an exclusion

Excluding one item can change a lot: the reference of its latent variable moves, a loading that was
fixed gives way to a fixed variance, a facet without items is dropped, and with it an indicator of
the higher-order construct, which may lose its own reference or disappear.  Still nothing new comes
in.  The variables keep their names, one relation is taken away, every variable that still occurs
has occurred before, and the other facets are stated as they were (`Model.narrows_exclude`).
-/

namespace Psychometrics

/-- A relation is one between an item and the latent variable with the given key. -/
def Indicator.relates (key : String) (itemId : Int64) (r : Indicator) : Bool :=
  r.latentKey == key && r.ref == .item itemId

namespace Model

variable {m : Model} {key : String} {itemId : Int64} {latent : Latent} {symbol : Symbol}
  {facet other : Facet} {names : Names} {mode : Mode}

/-! ### What is used -/

/-- A latent variable that is compiled after an exclusion was compiled before. -/
lemma isCompiled_of_isCompiled_exclude (h : (m.exclude key itemId).IsCompiled latent) :
    m.IsCompiled latent := by
  have hfacets : (m.exclude key itemId).emittedFacets ⊆ m.emittedFacets := by
    rw [emittedFacets_exclude]
    exact List.filter_subset_self _
  cases latent with
  | unidim =>
    obtain ⟨huni, hne⟩ := h
    rw [activeItems_exclude] at hne
    exact ⟨huni, fun hnil => hne (by rw [hnil, List.filter_nil])⟩
  | facet id =>
    obtain ⟨hmulti, facet, hfacet, hid⟩ := h
    exact ⟨hmulti, facet, hfacets hfacet, hid⟩
  | secondOrder =>
    obtain ⟨hmulti, hmode, hne⟩ := h
    exact ⟨hmulti, hmode, fun hnil => hne (List.subset_nil.mp (hnil ▸ hfacets))⟩

/-- What is mentioned for a latent variable after an exclusion was mentioned before. -/
lemma mentions_of_mentions_exclude (h : (m.exclude key itemId).Mentions latent symbol) :
    m.Mentions latent symbol := by
  cases h with
  | self => exact .self _
  | item hitem =>
    rw [activeItems_exclude] at hitem
    exact .item (List.mem_of_mem_filter hitem)
  | global formative hitem =>
    rw [mode?_exclude] at formative
    have hglobals : (m.exclude key itemId).presentGlobals latent = m.presentGlobals latent := by
      cases latent <;> rfl
    exact .global formative (hglobals ▸ hitem)
  | facet hfacet =>
    rw [emittedFacets_exclude] at hfacet
    exact .facet (List.mem_of_mem_filter hfacet)

/-- What is used after an exclusion was used before. -/
lemma uses_of_uses_exclude (h : (m.exclude key itemId).Uses symbol) : m.Uses symbol := by
  obtain ⟨latent, hcompiled, hmentions⟩ := h
  exact ⟨latent, isCompiled_of_isCompiled_exclude hcompiled, mentions_of_mentions_exclude hmentions⟩

/-! ### Relations -/

/-- Excluding an item takes its relation from those of each facet. -/
lemma facetIndicators_exclude (m : Model) (key : String) (itemId : Int64) (facet : Facet) :
    (m.exclude key itemId).facetIndicators facet =
      (m.facetIndicators facet).filter fun r => !r.relates key itemId := by
  have hmode : (m.exclude key itemId).facetMode? facet.id = m.facetMode? facet.id := rfl
  have hglobals : (m.exclude key itemId).presentGlobals (.facet facet.id) =
      m.presentGlobals (.facet facet.id) := rfl
  have hitems : ∀ direction : Direction,
      ((m.exclude key itemId).activeItems (.facet facet.id)).map
          (fun item => (⟨facet.id, .item item.id, direction, false, false⟩ : Indicator)) =
        ((m.activeItems (.facet facet.id)).map fun item =>
          (⟨facet.id, .item item.id, direction, false, false⟩ : Indicator)).filter
            fun r => !r.relates key itemId := by
    intro direction
    rw [activeItems_exclude, List.filter_map]
    refine congrArg (List.map _) (List.filter_congr fun item _ => ?_)
    rw [Bool.eq_iff_iff]
    simp [Indicator.relates, Latent.key]
  unfold facetIndicators
  rw [hmode, hglobals]
  split
  · rfl
  · exact hitems _
  · rw [hitems, List.filter_append]
    congr 1
    refine (List.filter_eq_self.mpr fun r hr => ?_).symm
    obtain ⟨item, -, rfl⟩ := List.mem_map.mp hr
    simp [Indicator.relates]

/-- The higher-order construct has no relation with an item to lose. -/
lemma filter_not_relates_secondOrderIndicators (m : Model) (key : String) (itemId : Int64) :
    (m.secondOrderIndicators.filter fun r => !r.relates key itemId) = m.secondOrderIndicators := by
  refine List.filter_eq_self.mpr fun r hr => ?_
  have hnone := List.filterMap_eq_nil_iff.mp
    (filterMap_itemId?_filter_secondOrderIndicators fun _ => true) r
    (List.mem_filter.mpr ⟨hr, rfl⟩)
  have hne : r.ref ≠ .item itemId := by
    intro href
    rw [Indicator.itemId?, href] at hnone
    cases hnone
  simp [Indicator.relates, hne]

/-- An exclusion takes one relation away. -/
lemma indicators_exclude (m : Model) (key : String) (itemId : Int64) :
    (m.exclude key itemId).indicators =
      m.indicators.filter fun r => !r.relates key itemId := by
  have hsecond : (m.exclude key itemId).secondOrderIndicators = m.secondOrderIndicators := rfl
  rw [indicators, indicators, List.filter_append, filter_not_relates_secondOrderIndicators,
    List.filter_flatMap, hsecond, funext (facetIndicators_exclude m key itemId)]
  rfl

/-! ### Other facets -/

/-- The relations with another key stay. -/
lemma filter_latentKey_indicators_exclude_of_ne (h : facet.id ≠ key) :
    (m.exclude key itemId).indicators.filter (fun r => r.latentKey == facet.id) =
      m.indicators.filter fun r => r.latentKey == facet.id := by
  rw [indicators_exclude, List.filter_filter]
  refine List.filter_congr fun r _ => ?_
  rw [Bool.and_eq_left_iff_imp]
  intro hkey
  simp [Indicator.relates, beq_iff_eq.mp hkey, h]

/-- The rule of another facet stays. -/
lemma effectiveRule_exclude_of_ne (h : facet.id ≠ key) :
    (m.exclude key itemId).effectiveRule (.facet facet.id) =
      m.effectiveRule (.facet facet.id) := by
  have hcandidates : (m.exclude key itemId).candidates (.facet facet.id) =
      m.candidates (.facet facet.id) := candidates_exclude_of_ne h.symm (by simp) itemId
  simp only [effectiveRule, defaultRule, scalingRule?_exclude, mode?_exclude, hcandidates,
    reduceCtorEq, false_and, if_false]

/-- The section of another facet stays, with its heading. -/
lemma facetSection_exclude_of_ne (h : facet.id ≠ key) :
    (m.exclude key itemId).facetSection names (m.exclude key itemId).indicators facet mode =
      m.facetSection names m.indicators facet mode := by
  simp only [facetSection, filter_latentKey_indicators_exclude_of_ne h,
    effectiveRule_exclude_of_ne h]

/-- The section of a facet says nothing about a facet with another id. -/
lemma filter_isAbout_facetSection_of_ne (hconsistent : names.IsConsistent) (h : other.id ≠ facet.id)
    {relations : List Indicator} {sections : List Section}
    (hsection : m.facetSection names relations other mode = .ok sections) :
    (sections.flatMap fun part => part.body.filter (Statement.isAbout names (.facet facet.id))) =
      [] := by
  refine List.flatMap_eq_nil_iff.mpr fun part hpart => List.filter_eq_nil_iff.mpr fun s hs => ?_
  intro habout
  obtain ⟨name, hsubject, hname⟩ := Statement.isAbout_iff.mp habout
  have hget := get_eq_ok_of_mem_facetSection hsection hpart hs hsubject
  exact h (Symbol.facet.inj (hconsistent.injective _ _ _ (Names.find?_of_get_eq_ok hget) hname))

/-- What is stated about a facet stands in the sections of the facets. -/
lemma filter_isAbout_statements (hnames : m.names = .ok names) (hmulti : m.isUnidimensional = false)
    {comments : Bool} {statements : List Statement}
    (hstatements : m.statements names comments = .ok statements) {sections : List Section}
    (hsections : m.facetSections names m.indicators = .ok sections) :
    statements.filter (Statement.isAbout names (.facet facet.id)) =
      sections.flatMap fun part =>
        part.body.filter (Statement.isAbout names (.facet facet.id)) := by
  obtain ⟨nameOf, hnamed⟩ : ∃ nameOf, m.IsNamed names nameOf := ⟨_, isNamed_of_names_eq_ok hnames⟩
  have hconsistent := isConsistent_of_names_eq_ok hnames
  have hmeaningful : ∀ s : Statement, s.isAbout names (.facet facet.id) = true →
      s.isMeaningful = true := by
    intro s habout
    obtain ⟨name, hsubject, -⟩ := Statement.isAbout_iff.mp habout
    exact Statement.isMeaningful_of_subject?_eq_some hsubject
  have hsecond : ((m.secondOrderParts nameOf).flatMap fun part =>
      part.body.filter (Statement.isAbout names (.facet facet.id))) = [] := by
    refine List.flatMap_eq_nil_iff.mpr fun part hpart => List.filter_eq_nil_iff.mpr ?_
    intro s hs habout
    obtain ⟨name, hsubject, hname⟩ := Statement.isAbout_iff.mp habout
    rw [(mention_of_mem_secondOrderParts hpart hs hsubject).1, ← hnamed.1] at hname
    cases hconsistent.injective _ _ _ hname hconsistent.overall
  rw [filter_statements_of_facetSections hnamed hmulti hsections hstatements hmeaningful, hsecond,
    List.append_nil]

/-- What is stated about another facet stays, in its order. -/
lemma filter_isAbout_exclude_of_ne (hnames : m.names = .ok names)
    (hmulti : m.isUnidimensional = false) (h : facet.id ≠ key) {comments : Bool}
    {before after : List Statement} (hbefore : m.statements names comments = .ok before)
    (hafter : (m.exclude key itemId).statements names comments = .ok after) :
    after.filter (Statement.isAbout names (.facet facet.id)) =
      before.filter (Statement.isAbout names (.facet facet.id)) := by
  have hconsistent := isConsistent_of_names_eq_ok hnames
  have hnames' : (m.exclude key itemId).names = .ok names := hnames
  obtain ⟨sections, hsections⟩ := exists_facetSections_eq (isNamed_of_names_eq_ok hnames)
  obtain ⟨sections', hsections'⟩ := exists_facetSections_eq (isNamed_of_names_eq_ok hnames')
  rw [filter_isAbout_statements hnames hmulti hbefore hsections,
    filter_isAbout_statements hnames' hmulti hafter hsections']
  obtain ⟨parts, hparts, heq⟩ := bind_eq_ok_iff.mp hsections
  obtain rfl := Except.ok.inj heq
  obtain ⟨parts', hparts', heq⟩ := bind_eq_ok_iff.mp hsections'
  obtain rfl := Except.ok.inj heq
  rw [List.flatten_eq_flatMap, List.flatten_eq_flatMap, List.flatMap_assoc, List.flatMap_assoc]
  refine flatMap_eq_of_mapM_eq_ok hparts' hparts fun other _ own' own hown' hown => ?_
  have hmode : (m.exclude key itemId).facetMode? other.id = m.facetMode? other.id := rfl
  cases hm : m.facetMode? other.id with
  | none =>
    simp only [hmode, hm] at hown hown'
    rw [← Except.ok.inj hown, ← Except.ok.inj hown']
  | some mode =>
    simp only [hmode, hm] at hown hown'
    by_cases hid : other.id = facet.id
    · -- A facet with the same id is stated as before, too.
      rw [facetSection_exclude_of_ne (hid ▸ h), hown] at hown'
      rw [Except.ok.inj hown']
    · rw [id, id, filter_isAbout_facetSection_of_ne hconsistent hid hown,
        filter_isAbout_facetSection_of_ne hconsistent hid hown']

/-! ### The whole model -/

/-- One model narrows to another by the relation of an item with the latent variable of some key.
The variables keep their names, this relation is the only one that is gone, no variable occurs that
did not occur before, and the facets with another key are stated as before. -/
structure Narrows (m n : Model) (key : String) (itemId : Int64) : Prop where
  names_eq : n.names = m.names
  indicators_eq : n.indicators = m.indicators.filter fun r => !r.relates key itemId
  facetSection_eq : ∀ facet ∈ m.instrument.facets, facet.id ≠ key → ∀ names mode,
    n.facetSection names n.indicators facet mode = m.facetSection names m.indicators facet mode
  exists_statements : ∀ names, m.names = .ok names → ∀ comments, ∃ before after,
    m.statements names comments = .ok before ∧ n.statements names comments = .ok after ∧
      (∀ name, Statement.Occurs name after → Statement.Occurs name before) ∧
      (m.isUnidimensional = false → ∀ facet ∈ m.instrument.facets, facet.id ≠ key →
        after.filter (Statement.isAbout names (.facet facet.id)) =
          before.filter (Statement.isAbout names (.facet facet.id)))

/-- An exclusion narrows a model by one relation. -/
theorem narrows_exclude (m : Model) (key : String) (itemId : Int64) :
    m.Narrows (m.exclude key itemId) key itemId := by
  refine ⟨rfl, m.indicators_exclude key itemId, ?_, ?_⟩
  · intro facet _ hkey names mode
    exact facetSection_exclude_of_ne hkey
  · intro names hnames comments
    have hnames' : (m.exclude key itemId).names = .ok names := hnames
    obtain ⟨before, hbefore⟩ := exists_statements_eq_ok hnames comments
    obtain ⟨after, hafter⟩ := exists_statements_eq_ok hnames' comments
    refine ⟨before, after, hbefore, hafter, fun name hoccurs => ?_, fun hmulti facet _ hkey => ?_⟩
    · obtain ⟨symbol, huses, hname⟩ := (occurs_statements_iff hnames' hafter).mp hoccurs
      exact (occurs_statements_iff hnames hbefore).mpr ⟨symbol, uses_of_uses_exclude huses, hname⟩
    · exact filter_isAbout_exclude_of_ne hnames hmulti hkey hbefore hafter

/-- A reflective facet of the mixed model loses its last item, and is dropped. -/
theorem narrows_exclude_mixed :
    (mixed.exclude "a" 4).emittedFacets.map Facet.id = ["a", "b", "c"] ∧
      ((mixed.exclude "a" 4).exclude "a" (-1)).emittedFacets.map Facet.id = ["b", "c"] ∧
      (∃ names, (mixed.exclude "a" 4).names = .ok names) ∧
      (mixed.exclude "a" 4).Narrows ((mixed.exclude "a" 4).exclude "a" (-1)) "a" (-1) := by
  obtain ⟨names, hnames⟩ := exists_names_eq_ok_of_length length_nameRequests_mixed (by decide)
  exact ⟨by cbv, by cbv, ⟨names, (narrows_exclude mixed "a" 4).names_eq.trans hnames⟩,
    narrows_exclude _ _ _⟩

end Model

end Psychometrics
