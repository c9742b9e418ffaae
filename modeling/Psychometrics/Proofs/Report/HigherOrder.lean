import Psychometrics.Proofs.Report.Valid
import Psychometrics.Proofs.Statement.Keyed

/-!
# Valid models and their higher-order construct

A higher-order construct is defined over first-order facets.  The report denies this only where the
model is unidimensional.  A valid model may still have facets without a mode, which are not
compiled, and with none that is compiled the higher-order construct is dropped.  So the construct of
a valid model is compiled, with a facet among its terms, exactly when some facet has a mode
(`Model.standsOnFacets_iff`).
-/

namespace Psychometrics

namespace Model

/-- A statement about the construct as a whole lists a facet. -/
def StandsOnFacets (m : Model) (names : Names) (statements : List Statement) : Prop :=
  ∃ s ∈ statements, s.subject? = some names.overall ∧
    ∃ facet ∈ m.instrument.facets, ∃ t ∈ s.terms, names.find? (.facet facet.id) = some t

variable {m : Model} {names : Names} {nameOf : Symbol → String} {facet : Facet} {mode : Mode}
  {s : Statement} {name : String}

/-! ### Sections of facets -/

/-- Whatever the relations are, the section of a facet is about the facet. -/
lemma get_eq_ok_of_mem_facetSection {relations : List Indicator} {sections : List Section}
    (h : m.facetSection names relations facet mode = .ok sections) {part : Section}
    (hpart : part ∈ sections) (hs : s ∈ part.body) (hsubject : s.subject? = some name) :
    names.get (.facet facet.id) = .ok name := by
  cases compilesFacet_of_eq_ok h with
  | silent => cases hpart
  | reflective hname =>
    obtain rfl := List.mem_singleton.mp hpart
    obtain rfl := Option.some.inj (hsubject.symm.trans (mention_of_mem_measurementBlock hs).1)
    exact hname
  | formative hname =>
    obtain rfl := List.mem_singleton.mp hpart
    obtain rfl := (mention_of_mem_causeBlock_append hs hsubject).1
    exact hname

/-- The sections of the facets are about facets of the model. -/
lemma exists_facet_of_mem_facetSections {relations : List Indicator} {sections : List Section}
    (h : m.facetSections names relations = .ok sections) {part : Section}
    (hpart : part ∈ sections) (hs : s ∈ part.body) (hsubject : s.subject? = some name) :
    ∃ facet ∈ m.instrument.facets, names.find? (.facet facet.id) = some name := by
  obtain ⟨facet, hfacet, mode, -, own, hown, hpart⟩ := exists_facetSection_of_mem h hpart
  have hname := get_eq_ok_of_mem_facetSection hown hpart hs hsubject
  exact ⟨facet, hfacet, Names.find?_of_get_eq_ok hname⟩

/-! ### The section of the higher-order construct -/

/-- The higher-order construct lists every facet that is compiled. -/
lemma exists_mem_secondOrderParts (nameOf : Symbol → String)
    (hmode : m.configuration.secondOrder.mode = some mode)
    (hfacet : facet ∈ m.emittedFacets) :
    ∃ part ∈ m.secondOrderParts nameOf, ∃ s ∈ part.body,
      s.subject? = some (nameOf .overall) ∧ nameOf (.facet facet.id) ∈ s.terms := by
  have hmem : ⟨facet.id, nameOf (.facet facet.id)⟩ ∈ m.namedFacets nameOf :=
    List.mem_map_of_mem hfacet
  have hne := List.ne_nil_of_mem hmem
  unfold secondOrderParts
  rw [if_neg (List.ne_nil_of_mem hfacet), hmode]
  cases mode with
  | reflective =>
    obtain ⟨listed, fixedFirst, rest, hblock, hperm, -⟩ :=
      exists_measurementBlock_eq hne (nameOf .overall) (m.effectiveRule .secondOrder)
    refine ⟨_, List.mem_singleton_self _, .reflective (nameOf .overall) listed fixedFirst, ?_, rfl,
      hperm.mem_iff.mpr (List.mem_map_of_mem hmem)⟩
    dsimp only
    rw [hblock]
    exact List.mem_cons_self
  | formative =>
    refine ⟨_, List.mem_singleton_self _, .formative (nameOf .overall)
      ((m.namedFacets nameOf).map NamedIndicator.name), ?_, rfl, List.mem_map_of_mem hmem⟩
    refine List.mem_append_left _ ?_
    unfold causeBlock
    rw [if_neg (by simpa [List.isEmpty_iff] using hne)]
    exact List.mem_singleton_self _

/-- Without compiled facets the higher-order construct is dropped. -/
lemma secondOrderParts_eq_nil (h : m.emittedFacets = []) : m.secondOrderParts nameOf = [] := by
  unfold secondOrderParts
  rw [if_pos h]

/-- The higher-order construct stands on facets exactly when some facet is compiled. -/
lemma standsOnFacets_iff_exists_emitted (hmode : m.configuration.secondOrder.mode = some mode)
    (hmulti : m.isUnidimensional = false) (hnames : m.names = .ok names) {comments : Bool}
    {statements : List Statement} (hstatements : m.statements names comments = .ok statements) :
    m.StandsOnFacets names statements ↔ ∃ facet, facet ∈ m.emittedFacets := by
  obtain ⟨nameOf, hnamed⟩ : ∃ nameOf, m.IsNamed names nameOf := ⟨_, isNamed_of_names_eq_ok hnames⟩
  obtain ⟨sections, hsections⟩ := exists_facetSections_eq hnamed
  constructor
  · rintro ⟨s, hs, hsubject, -⟩
    have hmeaningful := Statement.isMeaningful_of_subject?_eq_some hsubject
    rcases (mem_statements_iff_of_facetSections hnamed hmulti hsections hstatements
      hmeaningful).mp hs with ⟨part, hpart, hs⟩ | ⟨part, hpart, -⟩
    · -- No facet is called like the construct.
      obtain ⟨facet, -, hname⟩ := exists_facet_of_mem_facetSections hsections hpart hs hsubject
      have hconsistent := isConsistent_of_names_eq_ok hnames
      cases hconsistent.injective _ _ _ hname hconsistent.overall
    · refine List.exists_mem_of_ne_nil _ fun hempty => ?_
      rw [secondOrderParts_eq_nil hempty] at hpart
      cases hpart
  · rintro ⟨facet, hfacet⟩
    obtain ⟨part, hpart, s, hs, hsubject, ht⟩ :=
      exists_mem_secondOrderParts nameOf hmode hfacet
    have hmeaningful := Statement.isMeaningful_of_subject?_eq_some hsubject
    have hmem := List.mem_of_mem_filter hfacet
    rw [← hnamed.1] at hsubject
    exact ⟨s, (mem_statements_iff_of_facetSections hnamed hmulti hsections hstatements
      hmeaningful).mpr (.inr ⟨part, hpart, hs⟩), hsubject, facet, hmem, _, ht,
      hnamed.2 _ (.facet hmem)⟩

/-! ### Compiled facets of a valid model -/

/-- In a valid model every facet with a mode is compiled. -/
lemma exists_mem_emittedFacets_iff (hvalid : m.report.isValid = true)
    (hmulti : m.isUnidimensional = false) :
    (∃ facet, facet ∈ m.emittedFacets) ↔
      ∃ facet ∈ m.instrument.facets, (m.facetMode? facet.id).isSome = true := by
  constructor
  · rintro ⟨facet, hfacet⟩
    obtain ⟨hfacet, hemitted⟩ := List.mem_filter.mp hfacet
    refine ⟨facet, hfacet, ?_⟩
    unfold isEmitted at hemitted
    split at hemitted
    · cases hemitted
    · next hmode => rw [hmode]; rfl
    · next hmode => rw [hmode]; rfl
  · rintro ⟨facet, hfacet, hmode⟩
    refine ⟨facet, List.mem_filter.mpr ⟨hfacet, ?_⟩⟩
    unfold isEmitted
    split
    · next hnone => rw [hnone] at hmode; cases hmode
    · next hreflective =>
      have henough := minCandidates_le_activeItems hvalid hmulti hfacet hreflective
      rw [Bool.not_eq_true', List.isEmpty_eq_false_iff, ← List.length_pos_iff]
      exact lt_of_lt_of_le Nat.two_pos henough
    · rfl

/-- In a valid model with a higher-order construct, this is compiled over a facet exactly when some
facet has a mode. -/
theorem standsOnFacets_iff (hmode : m.configuration.secondOrder.mode = some mode)
    (hvalid : m.report.isValid = true) (hnames : m.names = .ok names) (comments : Bool) :
    ∃ statements, m.statements names comments = .ok statements ∧
      (m.StandsOnFacets names statements ↔
        ∃ facet ∈ m.instrument.facets, (m.facetMode? facet.id).isSome = true) := by
  have hmulti := isUnidimensional_eq_false_of_isValid hvalid hmode
  obtain ⟨statements, hstatements⟩ := exists_statements_eq_ok hnames comments
  refine ⟨statements, hstatements, ?_⟩
  rw [standsOnFacets_iff_exists_emitted hmode hmulti hnames hstatements]
  exact exists_mem_emittedFacets_iff hvalid hmulti

/-- A reflective facet with two items below a reflective higher-order construct of fixed
variance. -/
def twoItems : Model where
  instrument :=
    { facets := [{ id := "f" }]
      items := [{ id := 1, facetId := some "f" }, { id := 2, facetId := some "f" }] }
  configuration :=
    { modes := (∅ : Table Mode).insert "f" .reflective
      scaling := (∅ : Table ScalingRule).insert "f" (.fixingLoadingOf "1")
      secondOrder := { mode := some .reflective, scaling := some .fixVariance } }

lemma length_nameRequests_twoItems : twoItems.nameRequests.length = 3 := by
  simp [nameRequests, Instrument.sortedItems, Instrument.sortById, twoItems, globalOwners, globals,
    globals?]

/-- The higher-order construct of that model stands on the facet. -/
theorem standsOnFacets_iff_twoItems :
    ∃ names, twoItems.names = .ok names ∧ twoItems.report.isValid = true ∧
      twoItems.configuration.secondOrder.mode = some .reflective ∧ ∀ comments, ∃ statements,
        twoItems.statements names comments = .ok statements ∧
          (twoItems.StandsOnFacets names statements ↔
            ∃ facet ∈ twoItems.instrument.facets,
              (twoItems.facetMode? facet.id).isSome = true) := by
  have hvalid : twoItems.report.isValid = true := by cbv
  obtain ⟨names, hnames⟩ := exists_names_eq_ok_of_length length_nameRequests_twoItems (by decide)
  exact ⟨names, hnames, hvalid, rfl, standsOnFacets_iff rfl hvalid hnames⟩

/-- A higher-order construct with a rule above a facet without a mode. -/
def modeless : Model where
  instrument := { facets := [{ id := "f" }] }
  configuration := { secondOrder := { mode := some .reflective, scaling := some .fixVariance } }

lemma length_nameRequests_modeless : modeless.nameRequests.length = 1 := by
  simp [nameRequests, Instrument.sortedItems, Instrument.sortById, modeless, globalOwners, globals,
    globals?]

/-- Nothing is found wrong with that model, and yet its higher-order construct is dropped. -/
theorem exists_not_standsOnFacets :
    ∃ names, modeless.names = .ok names ∧ modeless.report.isValid = true ∧
      modeless.configuration.secondOrder.mode = some .reflective ∧ ∀ comments, ∃ statements,
        modeless.statements names comments = .ok statements ∧
          ¬ modeless.StandsOnFacets names statements := by
  have hemitted : modeless.emittedFacets = [] := by cbv
  obtain ⟨names, hnames⟩ := exists_names_eq_ok_of_length length_nameRequests_modeless (by decide)
  refine ⟨names, hnames, by cbv, rfl, fun comments => ?_⟩
  obtain ⟨statements, hstatements⟩ := exists_statements_eq_ok hnames comments
  refine ⟨statements, hstatements, ?_⟩
  rw [standsOnFacets_iff_exists_emitted rfl rfl hnames hstatements, hemitted]
  rintro ⟨facet, hfacet⟩
  cases hfacet

end Model

end Psychometrics
