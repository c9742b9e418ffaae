import Psychometrics.Model.Basic

/-!
# Measurement relations

The relations that a model states between indicators and latent variables, in the order in which
they are compiled: facet by facet in declaration order, the items of a facet by ascending id and its
global items behind them, and the higher-order construct last.  A facet without a mode contributes
nothing, since a facet that is configured by half must not show up in the compiled text.

From the relations follow the facets that are compiled (`emittedFacets`) and the indicators whose
loading may be fixed (`candidates`).
-/

namespace Psychometrics

/-- An indicator of a latent variable that may serve as its reference, with its text. -/
structure Candidate where
  id : String
  text : String
  deriving DecidableEq

namespace Model

/-! ### Relations -/

/-- The relations of a facet: its active items, and its present global items when it is formative.
Items are causes of a formative facet, and everything else shows the facet. -/
def facetIndicators (m : Model) (facet : Facet) : List Indicator :=
  match m.facetMode? facet.id with
  | none => []
  | some .reflective =>
    (m.activeItems (.facet facet.id)).map fun item =>
      { latentKey := facet.id, ref := .item item.id, direction := .outward }
  | some .formative =>
    ((m.activeItems (.facet facet.id)).map fun item =>
      { latentKey := facet.id, ref := .item item.id, direction := .inward }) ++
    ((m.presentGlobals (.facet facet.id)).map fun item =>
      { latentKey := facet.id, ref := .named item.id, direction := .outward, isGlobal := true })

/-- The name under which a facet is a cause of the higher-order construct. -/
def facetCauseId (facetId : String) : String :=
  "facet_" ++ facetId

/-- The relations of a formative higher-order construct: every facet is a cause of it, and its
present global items show it.  A reflective one has no relations of its own. -/
def secondOrderIndicators (m : Model) : List Indicator :=
  if m.configuration.secondOrder.mode = some .formative then
    (m.instrument.facets.map fun facet =>
      { latentKey := Latent.secondOrderKey, ref := .named (facetCauseId facet.id),
        direction := .inward, isSecondOrder := true }) ++
    ((m.presentGlobals .secondOrder).map fun item =>
      { latentKey := Latent.secondOrderKey, ref := .named item.id, direction := .outward,
        isGlobal := true, isSecondOrder := true })
  else []

/-- The relations of the model. -/
def indicators (m : Model) : List Indicator :=
  m.instrument.facets.flatMap m.facetIndicators ++ m.secondOrderIndicators

/-! ### Compiled facets -/

/-- A facet is compiled when it is formative, or when it is reflective and has an active item. -/
def isEmitted (m : Model) (facet : Facet) : Bool :=
  match m.facetMode? facet.id with
  | none => false
  | some .reflective => !(m.activeItems (.facet facet.id)).isEmpty
  | some .formative => true

/-- The facets that are compiled, in declaration order. -/
def emittedFacets (m : Model) : List Facet :=
  m.instrument.facets.filter m.isEmitted

/-! ### Candidates for the reference -/

/-- A facet as a reference of the higher-order construct. -/
def facetCandidate (facet : Facet) : Candidate :=
  ⟨facet.id, facet.label⟩

/-- A global item as a reference. -/
def globalCandidate (item : GlobalItem) : Candidate :=
  ⟨item.id, Text.trim item.text⟩

/-- A questionnaire item as a reference. -/
def itemCandidate (item : Item) : Candidate :=
  ⟨Text.ofInt item.id.toInt, item.text⟩

/-- The indicators of a latent variable that may serve as its reference: the present global items of
a formative one, the compiled facets of a higher-order construct that is not formative, and the
active items of any other. -/
def candidates (m : Model) (latent : Latent) : List Candidate :=
  if m.mode? latent = some .formative then (m.presentGlobals latent).map globalCandidate
  else
    match latent with
    | .secondOrder => m.emittedFacets.map facetCandidate
    | latent => (m.activeItems latent).map itemCandidate

end Model

end Psychometrics
