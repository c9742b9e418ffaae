import Psychometrics.Naming.Names
import Psychometrics.Statement.Basic

/-!
# The statements of a model

A model is compiled section by section: one section for each facet with a mode, in declaration
order, and one for the higher-order construct.  A unidimensional model has a single measurement
block and nothing else.

The indicators of a latent variable are those relations of the model that carry its key.  Every
variable that is mentioned has to have a name; the first one without a name is reported.
-/

namespace Psychometrics

/-- A part of the compiled text, with the comment that introduces it. -/
structure Section where
  heading : String
  body : List Statement
  deriving DecidableEq

namespace Section

/-- A section with its heading. -/
def headed (s : Section) : List Statement :=
  .comment s.heading :: s.body

/-- The statements of a list of sections: with their headings and a blank line between them, or the
bodies alone. -/
def layOut (comments : Bool) (sections : List Section) : List Statement :=
  if comments then [Statement.blank].intercalate (sections.map headed)
  else sections.flatMap body

end Section

/-! ### Named indicators -/

/-- The item that a relation refers to. -/
def Indicator.itemId? (indicator : Indicator) : Option Int64 :=
  match indicator.ref with
  | .item id => some id
  | .named _ => none

namespace Names

/-- The items with the given ids, with their names. -/
def items (names : Names) (ids : List Int64) : Except CompileError (List NamedIndicator) :=
  ids.mapM fun id => do return ⟨Text.ofInt id.toInt, ← names.get (.item id)⟩

/-- The global items with the given ids of a latent variable, with their names. -/
def globals (names : Names) (latent : Latent) (ids : List String) :
    Except CompileError (List NamedIndicator) :=
  ids.mapM fun id => do return ⟨id, ← names.get (.global latent.key id)⟩

/-- The given facets with their names. -/
def facets (names : Names) (facets : List Facet) : Except CompileError (List NamedIndicator) :=
  facets.mapM fun facet => do return ⟨facet.id, ← names.get (.facet facet.id)⟩

end Names

namespace Model

/-! ### Sections -/

/-- The section of a facet with a mode, given the relations of the whole model.  A reflective facet
without items has none. -/
def facetSection (m : Model) (names : Names) (relations : List Indicator) (facet : Facet)
    (mode : Mode) : Except CompileError (List Section) := do
  let latent := Latent.facet facet.id
  let name ← names.get (.facet facet.id)
  let own := relations.filter fun r => r.latentKey == facet.id
  let heading := Text.oneLine facet.label ++ " (" ++ mode.name ++ ")"
  match mode with
  | .reflective =>
    let shown := own.filter fun r => r.direction == .outward && !r.isGlobal
    let items ← names.items (shown.filterMap Indicator.itemId?)
    if items.isEmpty then return []
    return [⟨heading, measurementBlock name items (m.effectiveRule latent)⟩]
  | .formative =>
    let causes := own.filter fun r => r.direction == .inward
    let items ← names.items (causes.filterMap Indicator.itemId?)
    let anchors := own.filter fun r => r.isGlobal
    let globals ← names.globals latent (anchors.map fun r => r.ref.text)
    return [⟨heading, causeBlock name items ++ anchorBlock name globals (m.effectiveRule latent)⟩]

/-- The sections of all facets. -/
def facetSections (m : Model) (names : Names) (relations : List Indicator) :
    Except CompileError (List Section) := do
  let sections ← m.instrument.facets.mapM fun facet =>
    match m.facetMode? facet.id with
    | none => .ok []
    | some mode => m.facetSection names relations facet mode
  return sections.flatten

/-- The section of the higher-order construct, if there is one and some facet is compiled. -/
def secondOrderSection (m : Model) (names : Names) (relations : List Indicator) :
    Except CompileError (List Section) := do
  match m.configuration.secondOrder.mode with
  | none => return []
  | some mode =>
    let facets ← names.facets m.emittedFacets
    if facets.isEmpty then return []
    let heading := "Higher-order construct (" ++ mode.name ++ ")"
    let rule := m.effectiveRule .secondOrder
    match mode with
    | .reflective => return [⟨heading, measurementBlock names.overall facets rule⟩]
    | .formative =>
      let anchors := relations.filter fun r => r.isSecondOrder && r.isGlobal
      let globals ← names.globals .secondOrder (anchors.map fun r => r.ref.text)
      return [⟨heading, causeBlock names.overall facets ++ anchorBlock names.overall globals rule⟩]

/-- The section that states the construct, if it has a name. -/
def titleSections (m : Model) : List Section :=
  let construct := Text.oneLine m.instrument.construct.name
  if construct == "" then [] else [⟨"Measurement model: " ++ construct, []⟩]

/-! ### Statements -/

/-- The only block of a unidimensional model. -/
def unidimBlock (m : Model) (names : Names) : Except CompileError (List Statement) := do
  let items ← names.items ((m.activeItems .unidim).map Item.id)
  return measurementBlock names.overall items (m.effectiveRule .unidim)

/-- The statements of a model under given names, with or without introducing comments. -/
def statements (m : Model) (names : Names) (comments : Bool) :
    Except CompileError (List Statement) := do
  if m.isUnidimensional then
    return Section.layOut comments m.titleSections ++ (← m.unidimBlock names)
  else
    let relations := m.indicators
    let facetSections ← m.facetSections names relations
    let secondOrder ← m.secondOrderSection names relations
    return Section.layOut comments (m.titleSections ++ facetSections ++ secondOrder)

end Model

end Psychometrics
