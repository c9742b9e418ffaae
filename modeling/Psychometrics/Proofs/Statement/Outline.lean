import Psychometrics.Proofs.Statement.Printable

/-!
# The outline of a model

Whether comments are wanted or not, a model is compiled from the same sections (`Model.outline`).
Comments decide on the layout only, so that the statements with a meaning do not depend on them
(`Model.filter_statements_of_outline`).

Everything in the outline can be printed, for every model and every table of names that are
identifiers (`Model.isPrintable_outline`): each section has its heading on one line, and its body
consists of printable statements that are not blank.
-/

namespace Psychometrics

open Text (isIdentifier)

/-! ### Sections that can be printed -/

/-- A printable statement that leaves something on its line. -/
def Statement.IsVisible (s : Statement) : Prop :=
  s.IsPrintable ∧ s ≠ .blank

namespace Section

/-- A section whose heading and statements can be printed. -/
def IsPrintable (s : Section) : Prop :=
  '\n' ∉ s.heading.toList ∧ ∀ t ∈ s.body, t.IsVisible

/-- The heading of a printable section is visible, and so are its statements. -/
lemma IsPrintable.isVisible_of_mem_headed {s : Section} (h : s.IsPrintable) :
    ∀ t ∈ s.headed, t.IsVisible := by
  refine List.forall_mem_cons.mpr ⟨⟨h.1, ?_⟩, h.2⟩
  intro hblank
  simp at hblank

/-- Printable sections are laid out in printable statements. -/
lemma isPrintable_of_mem_layOut {sections : List Section} (h : ∀ s ∈ sections, s.IsPrintable)
    (comments : Bool) : ∀ t ∈ layOut comments sections, t.IsPrintable := by
  cases comments with
  | false =>
    intro t ht
    rw [layOut, if_neg Bool.false_ne_true] at ht
    obtain ⟨s, hs, ht⟩ := List.mem_flatMap.mp ht
    exact ((h s hs).2 t ht).1
  | true =>
    rw [layOut, if_pos rfl]
    refine Text.forall_mem_intercalate ?_ ?_
    · intro t ht
      obtain rfl := List.mem_singleton.mp ht
      exact trivial
    · intro part hpart t ht
      obtain ⟨s, hs, rfl⟩ := List.mem_map.mp hpart
      exact ((h s hs).isVisible_of_mem_headed t ht).1

/-- The layout of printable sections does not end in a blank line. -/
lemma getLast?_layOut_ne_blank {sections : List Section} (h : ∀ s ∈ sections, s.IsPrintable)
    (comments : Bool) : (layOut comments sections).getLast? ≠ some .blank := by
  cases comments with
  | false =>
    intro hlast
    have hblank : Statement.blank ∈ layOut false sections := List.mem_of_getLast? hlast
    rw [layOut, if_neg Bool.false_ne_true] at hblank
    obtain ⟨s, hs, hblank⟩ := List.mem_flatMap.mp hblank
    exact ((h s hs).2 _ hblank).2 rfl
  | true =>
    rw [layOut, if_pos rfl]
    induction sections with
    | nil =>
      intro hlast
      simp at hlast
    | cons s rest ih =>
      obtain ⟨hs, hrest⟩ := List.forall_mem_cons.mp h
      have hheaded : s.headed.getLast? ≠ some .blank := by
        intro hlast
        exact (hs.isVisible_of_mem_headed _ (List.mem_of_getLast? hlast)).2 rfl
      cases rest with
      | nil => rwa [List.map_cons, List.map_nil, List.intercalate_singleton]
      | cons next rest =>
        have htail : [Statement.blank].intercalate ((next :: rest).map headed) ≠ [] := by
          cases rest <;> simp [headed, List.intercalate_cons_cons]
        rw [List.map_cons, List.map_cons, List.intercalate_cons_cons, ← List.map_cons,
          List.getLast?_append_of_ne_nil _ htail]
        exact ih hrest

end Section

/-! ### The names in the blocks -/

namespace Names

variable {names : Names}

/-- A name that is found is an identifier. -/
lemma IsConsistent.isIdentifier_of_get (h : names.IsConsistent) {symbol : Symbol} {name : String}
    (hget : names.get symbol = .ok name) : Text.isIdentifier name = true :=
  h.isIdentifier symbol name (find?_of_get_eq_ok hget)

/-- Indicators whose names are looked up have identifiers for names. -/
lemma IsConsistent.isIdentifier_of_mapM (h : names.IsConsistent) {α : Type} {id : α → String}
    {symbol : α → Symbol} {xs : List α} {named : List NamedIndicator}
    (hnamed : (xs.mapM fun x => do
      return (⟨id x, ← names.get (symbol x)⟩ : NamedIndicator)) = .ok named) :
    ∀ i ∈ named, Text.isIdentifier i.name = true := by
  intro i hi
  obtain ⟨x, -, hx⟩ := exists_mem_of_mapM_eq_ok hnamed i hi
  obtain ⟨name, hname, heq⟩ := bind_eq_ok_iff.mp hx
  obtain rfl := Except.ok.inj heq
  exact h.isIdentifier_of_get hname

/-- In a consistent table the construct has an identifier. -/
lemma IsConsistent.isIdentifier_overall (h : names.IsConsistent) :
    Text.isIdentifier names.overall = true :=
  h.isIdentifier _ _ h.overall

end Names

/-! ### Blocks that can be printed -/

section Blocks

variable {latent : String} {indicators causes globals : List NamedIndicator} {rule : ScalingRule}

/-- A measurement over identifiers can be printed. -/
lemma isVisible_of_mem_measurementBlock (hlatent : isIdentifier latent = true)
    (hindicators : ∀ i ∈ indicators, isIdentifier i.name = true) :
    ∀ s ∈ measurementBlock latent indicators rule, s.IsVisible := by
  by_cases hnil : indicators = []
  · rw [hnil]
    exact fun s hs => absurd hs List.not_mem_nil
  · rcases measurementBlock_cases hnil latent rule with
      ⟨before, first, after, rfl, -, hblock⟩ | ⟨-, hblock⟩
    · rw [hblock]
      intro s hs
      obtain rfl := List.mem_singleton.mp hs
      refine ⟨⟨hlatent, List.cons_ne_nil _ _, List.forall_mem_map.mpr fun i hi => ?_⟩,
        Statement.noConfusion⟩
      exact hindicators i (List.perm_middle.mem_iff.mpr hi)
    · rw [hblock]
      refine List.forall_mem_cons.mpr ⟨⟨⟨hlatent, ?_, ?_⟩, Statement.noConfusion⟩, ?_⟩
      · exact mt List.map_eq_nil_iff.mp hnil
      · exact List.forall_mem_map.mpr hindicators
      · intro s hs
        obtain rfl := List.mem_singleton.mp hs
        exact ⟨hlatent, Statement.noConfusion⟩

/-- Causes and anchors over identifiers can be printed. -/
lemma isVisible_of_mem_causeBlock_append (hlatent : isIdentifier latent = true)
    (hcauses : ∀ i ∈ causes, isIdentifier i.name = true)
    (hglobals : ∀ i ∈ globals, isIdentifier i.name = true) :
    ∀ s ∈ causeBlock latent causes ++ anchorBlock latent globals rule, s.IsVisible := by
  rw [List.forall_mem_append]
  constructor
  · unfold causeBlock
    split
    · exact fun s hs => absurd hs List.not_mem_nil
    · next hne =>
      have hne : causes.map NamedIndicator.name ≠ [] := by
        simpa [List.isEmpty_iff] using hne
      intro s hs
      obtain rfl := List.mem_singleton.mp hs
      exact ⟨⟨hlatent, hne, List.forall_mem_map.mpr hcauses⟩, Statement.noConfusion⟩
  · unfold anchorBlock
    split
    · have hname : '\n' ∉ latent.toList := Statement.not_mem_of_isIdentifier hlatent (by decide)
      refine List.forall_mem_cons.mpr ⟨⟨?_, Statement.noConfusion⟩, ?_⟩
      · show '\n' ∉ String.toList _
        rw [String.toList_append, List.mem_append, not_or]
        exact ⟨hname, by decide⟩
      · intro s hs
        obtain rfl := List.mem_singleton.mp hs
        exact ⟨hlatent, Statement.noConfusion⟩
    · exact isVisible_of_mem_measurementBlock hlatent hglobals

end Blocks

/-! ### The outline -/

namespace Model

/-- The sections of a model, and the statements behind them that belong to no section. -/
def outline (m : Model) (names : Names) : Except CompileError (List Section × List Statement) :=
  if m.isUnidimensional then do
    return (m.titleSections, ← m.unidimBlock names)
  else do
    let facetSections ← m.facetSections names m.indicators
    let secondOrder ← m.secondOrderSection names m.indicators
    return (m.titleSections ++ facetSections ++ secondOrder, [])

/-- The statements of a model are its outline, laid out with or without comments. -/
lemma statements_eq_map_outline (m : Model) (names : Names) (comments : Bool) :
    m.statements names comments =
      (m.outline names).map fun parts => Section.layOut comments parts.1 ++ parts.2 := by
  unfold statements outline
  split
  · cases m.unidimBlock names <;> rfl
  · dsimp only
    cases m.facetSections names m.indicators with
    | error e => rfl
    | ok facetSections =>
      cases m.secondOrderSection names m.indicators with
      | error e => rfl
      | ok secondOrder =>
        simp [bind, Except.bind, pure, Except.pure, Except.map]

/-- Comments do not touch the statements with a meaning. -/
lemma filter_statements_of_outline {m : Model} {names : Names}
    {parts : List Section × List Statement} (h : m.outline names = .ok parts) (comments : Bool) :
    ∃ statements, m.statements names comments = .ok statements ∧
      statements = Section.layOut comments parts.1 ++ parts.2 ∧
      statements.filter Statement.isMeaningful =
        (parts.1.flatMap fun s => s.body.filter Statement.isMeaningful) ++
          parts.2.filter Statement.isMeaningful := by
  refine ⟨_, ?_, rfl, ?_⟩
  · rw [statements_eq_map_outline, h]
    rfl
  · rw [List.filter_append, Section.filter_isMeaningful_layOut]

variable {m : Model} {names : Names}

/-! ### Sections of facets -/

section Facet

variable (m names) (relations : List Indicator) (facet : Facet)

/-- How a facet with a mode comes to its sections, given the relations of the model: a reflective
facet without items has none, and any other facet has one. -/
inductive CompilesFacet : Mode → List Section → Prop
  | silent {name : String} (hname : names.get (.facet facet.id) = .ok name)
      (hitems : names.items (((relations.filter fun r => r.latentKey == facet.id).filter fun r =>
        r.direction == .outward && !r.isGlobal).filterMap Indicator.itemId?) = .ok []) :
      CompilesFacet .reflective []
  | reflective {name : String} {items : List NamedIndicator}
      (hname : names.get (.facet facet.id) = .ok name)
      (hitems : names.items (((relations.filter fun r => r.latentKey == facet.id).filter fun r =>
        r.direction == .outward && !r.isGlobal).filterMap Indicator.itemId?) = .ok items)
      (hne : items ≠ []) :
      CompilesFacet .reflective [⟨Text.oneLine facet.label ++ " (" ++ Mode.reflective.name ++ ")",
        measurementBlock name items (m.effectiveRule (.facet facet.id))⟩]
  | formative {name : String} {items globals : List NamedIndicator}
      (hname : names.get (.facet facet.id) = .ok name)
      (hitems : names.items (((relations.filter fun r => r.latentKey == facet.id).filter fun r =>
        r.direction == .inward).filterMap Indicator.itemId?) = .ok items)
      (hglobals : names.globals (.facet facet.id)
        (((relations.filter fun r => r.latentKey == facet.id).filter fun r => r.isGlobal).map
          fun r => r.ref.text) = .ok globals) :
      CompilesFacet .formative [⟨Text.oneLine facet.label ++ " (" ++ Mode.formative.name ++ ")",
        causeBlock name items ++ anchorBlock name globals (m.effectiveRule (.facet facet.id))⟩]

end Facet

/-- Compiling a facet goes one of these ways. -/
lemma compilesFacet_of_eq_ok {relations : List Indicator} {facet : Facet} {mode : Mode}
    {sections : List Section} (h : m.facetSection names relations facet mode = .ok sections) :
    m.CompilesFacet names relations facet mode sections := by
  unfold facetSection at h
  obtain ⟨name, hname, h⟩ := bind_eq_ok_iff.mp h
  cases mode with
  | reflective =>
    obtain ⟨items, hitems, h⟩ := bind_eq_ok_iff.mp h
    split at h
    · next hempty =>
      obtain rfl := Except.ok.inj h
      obtain rfl := List.isEmpty_iff.mp hempty
      exact .silent hname hitems
    · next hne =>
      obtain rfl := Except.ok.inj h
      exact .reflective hname hitems (by simpa using hne)
  | formative =>
    obtain ⟨items, hitems, h⟩ := bind_eq_ok_iff.mp h
    obtain ⟨globals, hglobals, h⟩ := bind_eq_ok_iff.mp h
    obtain rfl := Except.ok.inj h
    exact .formative hname hitems hglobals

/-- A section of the facets is one of a facet with a mode. -/
lemma exists_facetSection_of_mem {relations : List Indicator} {sections : List Section}
    (h : m.facetSections names relations = .ok sections) {part : Section}
    (hpart : part ∈ sections) :
    ∃ facet ∈ m.instrument.facets, ∃ mode, m.facetMode? facet.id = some mode ∧
      ∃ own, m.facetSection names relations facet mode = .ok own ∧ part ∈ own := by
  obtain ⟨parts, hparts, heq⟩ := bind_eq_ok_iff.mp h
  obtain rfl := Except.ok.inj heq
  obtain ⟨own, hown, hpart⟩ := List.mem_flatten.mp hpart
  obtain ⟨facet, hfacet, hsection⟩ := exists_mem_of_mapM_eq_ok hparts own hown
  split at hsection
  · obtain rfl := Except.ok.inj hsection
    cases hpart
  · next mode hmode => exact ⟨facet, hfacet, mode, hmode, own, hsection, hpart⟩

/-- The sections of a facet with a mode are among those of the facets. -/
lemma exists_facetSection_subset {relations : List Indicator} {sections : List Section}
    (h : m.facetSections names relations = .ok sections) {facet : Facet}
    (hfacet : facet ∈ m.instrument.facets) {mode : Mode}
    (hmode : m.facetMode? facet.id = some mode) :
    ∃ own, m.facetSection names relations facet mode = .ok own ∧ own ⊆ sections := by
  obtain ⟨parts, hparts, heq⟩ := bind_eq_ok_iff.mp h
  obtain rfl := Except.ok.inj heq
  obtain ⟨own, hown, hsection⟩ := exists_eq_ok_of_mapM_eq_ok hparts facet hfacet
  simp only [hmode] at hsection
  exact ⟨own, hsection, fun part hpart => List.mem_flatten.mpr ⟨own, hown, hpart⟩⟩

/-- A facet that is compiled has a mode. -/
lemma exists_facetMode?_of_isEmitted {facet : Facet} (h : m.isEmitted facet = true) :
    ∃ mode, m.facetMode? facet.id = some mode := by
  unfold isEmitted at h
  split at h
  · cases h
  · next hmode => exact ⟨_, hmode⟩
  · next hmode => exact ⟨_, hmode⟩

/-! ### Outlines that can be printed -/

/-- The title keeps to one line. -/
lemma isPrintable_of_mem_titleSections : ∀ s ∈ m.titleSections, s.IsPrintable := by
  unfold titleSections
  dsimp only
  split
  · exact fun s hs => absurd hs List.not_mem_nil
  · intro s hs
    obtain rfl := List.mem_singleton.mp hs
    refine ⟨?_, fun t ht => absurd ht List.not_mem_nil⟩
    rw [String.toList_append, List.mem_append, not_or]
    exact ⟨by decide, Text.newline_not_mem_oneLine _⟩

/-- The section of a facet can be printed. -/
lemma isPrintable_of_facetSection (h : names.IsConsistent) {relations : List Indicator}
    {facet : Facet} {mode : Mode} {sections : List Section}
    (hsections : m.facetSection names relations facet mode = .ok sections) :
    ∀ s ∈ sections, s.IsPrintable := by
  have hheading : '\n' ∉ (Text.oneLine facet.label ++ " (" ++ mode.name ++ ")").toList := by
    have hmode : '\n' ∉ mode.name.toList := by
      cases mode <;> decide
    simp [Text.newline_not_mem_oneLine, hmode]
  intro s hs
  cases compilesFacet_of_eq_ok hsections with
  | silent => cases hs
  | reflective hname hitems =>
    obtain rfl := List.mem_singleton.mp hs
    exact ⟨hheading, isVisible_of_mem_measurementBlock (h.isIdentifier_of_get hname)
      (h.isIdentifier_of_mapM hitems)⟩
  | formative hname hitems hglobals =>
    obtain rfl := List.mem_singleton.mp hs
    exact ⟨hheading, isVisible_of_mem_causeBlock_append (h.isIdentifier_of_get hname)
      (h.isIdentifier_of_mapM hitems) (h.isIdentifier_of_mapM hglobals)⟩

/-- The sections of all facets can be printed. -/
lemma isPrintable_of_facetSections (h : names.IsConsistent) {relations : List Indicator}
    {sections : List Section} (hsections : m.facetSections names relations = .ok sections) :
    ∀ s ∈ sections, s.IsPrintable := by
  intro s hs
  obtain ⟨facet, -, mode, -, own, hown, hs⟩ := exists_facetSection_of_mem hsections hs
  exact isPrintable_of_facetSection h hown s hs

/-- The section of the higher-order construct can be printed. -/
lemma isPrintable_of_secondOrderSection (h : names.IsConsistent) {relations : List Indicator}
    {sections : List Section} (hsections : m.secondOrderSection names relations = .ok sections) :
    ∀ s ∈ sections, s.IsPrintable := by
  unfold secondOrderSection at hsections
  split at hsections
  · obtain rfl := Except.ok.inj hsections
    exact fun s hs => absurd hs List.not_mem_nil
  · next mode hmode =>
    obtain ⟨facets, hfacets, hsections⟩ := bind_eq_ok_iff.mp hsections
    have hfacets := h.isIdentifier_of_mapM hfacets
    have hheading : '\n' ∉ ("Higher-order construct (" ++ mode.name ++ ")").toList := by
      cases mode <;> decide
    split at hsections
    · obtain rfl := Except.ok.inj hsections
      exact fun s hs => absurd hs List.not_mem_nil
    · dsimp only at hsections
      split at hsections
      · obtain rfl := Except.ok.inj hsections
        intro s hs
        obtain rfl := List.mem_singleton.mp hs
        exact ⟨hheading, isVisible_of_mem_measurementBlock h.isIdentifier_overall hfacets⟩
      · obtain ⟨globals, hglobals, hsections⟩ := bind_eq_ok_iff.mp hsections
        have hglobals := h.isIdentifier_of_mapM hglobals
        obtain rfl := Except.ok.inj hsections
        intro s hs
        obtain rfl := List.mem_singleton.mp hs
        exact ⟨hheading,
          isVisible_of_mem_causeBlock_append h.isIdentifier_overall hfacets hglobals⟩

/-- The outline of a model can be printed. -/
lemma isPrintable_outline (h : names.IsConsistent) {parts : List Section × List Statement}
    (hparts : m.outline names = .ok parts) :
    (∀ s ∈ parts.1, s.IsPrintable) ∧ ∀ t ∈ parts.2, t.IsVisible := by
  unfold outline at hparts
  split at hparts
  · obtain ⟨block, hblock, heq⟩ := bind_eq_ok_iff.mp hparts
    obtain rfl := Except.ok.inj heq
    obtain ⟨items, hitems, heq⟩ := bind_eq_ok_iff.mp hblock
    have hitems := h.isIdentifier_of_mapM hitems
    obtain rfl := Except.ok.inj heq
    exact ⟨isPrintable_of_mem_titleSections,
      isVisible_of_mem_measurementBlock h.isIdentifier_overall hitems⟩
  · obtain ⟨facetSections, hfacets, hparts⟩ := bind_eq_ok_iff.mp hparts
    obtain ⟨secondOrder, hsecond, heq⟩ := bind_eq_ok_iff.mp hparts
    obtain rfl := Except.ok.inj heq
    refine ⟨?_, fun t ht => absurd ht List.not_mem_nil⟩
    rw [List.forall_mem_append, List.forall_mem_append]
    exact ⟨⟨isPrintable_of_mem_titleSections, isPrintable_of_facetSections h hfacets⟩,
      isPrintable_of_secondOrderSection h hsecond⟩

/-- Statements come from an outline. -/
lemma exists_outline_of_statements_eq_ok {comments : Bool} {statements : List Statement}
    (h : m.statements names comments = .ok statements) :
    ∃ parts, m.outline names = .ok parts ∧
      statements = Section.layOut comments parts.1 ++ parts.2 := by
  rw [statements_eq_map_outline] at h
  cases hparts : m.outline names with
  | error e =>
    rw [hparts] at h
    cases h
  | ok parts =>
    rw [hparts] at h
    exact ⟨parts, rfl, (Except.ok.inj h).symm⟩

/-- The statements of a model can be printed, and the last one leaves something on its line. -/
lemma isPrintable_statements (h : names.IsConsistent) {comments : Bool}
    {statements : List Statement} (hstatements : m.statements names comments = .ok statements) :
    (∀ s ∈ statements, s.IsPrintable) ∧ statements.getLast? ≠ some .blank := by
  obtain ⟨parts, hparts, rfl⟩ := exists_outline_of_statements_eq_ok hstatements
  obtain ⟨hsections, hblock⟩ := isPrintable_outline h hparts
  constructor
  · rw [List.forall_mem_append]
    exact ⟨Section.isPrintable_of_mem_layOut hsections comments, fun t ht => (hblock t ht).1⟩
  · intro hlast
    rw [List.getLast?_append, Option.or_eq_some_iff] at hlast
    rcases hlast with hlast | ⟨-, hlast⟩
    · exact (hblock _ (List.mem_of_getLast? hlast)).2 rfl
    · exact Section.getLast?_layOut_ne_blank hsections comments hlast

end Model

end Psychometrics
