import Psychometrics.Text.Blank

/-!
# Instruments

An instrument is what a measurement model is about: the construct to be measured, its facets, and
the questionnaire items.  It is settled before the measurement is configured and is never changed
by the configuration.
-/

namespace Psychometrics

/-! ### Parts of an instrument -/

/-- The construct that the instrument measures. -/
structure Construct where
  name : String := ""
  definition : String := ""
  deriving DecidableEq

/-- A facet (subdimension) of the construct. -/
structure Facet where
  id : String
  name : String := ""
  code : Option String := none
  definition : Option String := none
  deriving DecidableEq

/-- An observed questionnaire item, possibly assigned to a facet. -/
structure Item where
  id : Int64
  text : String := ""
  facetId : Option String := none
  deriving DecidableEq

/-- A construct with its facets, in declaration order, and its items. -/
structure Instrument where
  construct : Construct := {}
  dimensionality : Option String := none
  facets : List Facet := []
  items : List Item := []
  deriving DecidableEq

/-! ### Facets -/

namespace Facet

/-- How a facet is called in comments and diagnostics: by its name, or by its id if the name is
blank. -/
def label (facet : Facet) : String :=
  if Text.isBlankText facet.name then facet.id else facet.name

/-- The short code the user has given to a facet, if it is not blank. -/
def shortCode (facet : Facet) : Option String :=
  (facet.code.map Text.trim).filter (· != "")

end Facet

/-! ### Items and dimensionality -/

namespace Instrument

/-- Items in ascending order of ids; items with equal ids keep their order. -/
def sortById (items : List Item) : List Item :=
  items.mergeSort fun a b => a.id ≤ b.id

/-- Every item, in ascending order of ids. -/
def sortedItems (instrument : Instrument) : List Item :=
  sortById instrument.items

/-- The items assigned to a facet, in ascending order of ids. -/
def facetItems (instrument : Instrument) (facetId : String) : List Item :=
  sortById (instrument.items.filter fun item => item.facetId == some facetId)

/-- The first facet with an id. -/
def facet? (instrument : Instrument) (id : String) : Option Facet :=
  instrument.facets.find? fun facet => facet.id == id

/-- The first item with an id. -/
def item? (instrument : Instrument) (id : Int64) : Option Item :=
  instrument.items.find? fun item => item.id == id

/-- What the dimensionality says of an instrument with a single dimension. -/
def unidimensional : String :=
  "Unidimensional"

/-- An instrument has one dimension when it has no facets or is declared to have one dimension. -/
def isUnidimensional (instrument : Instrument) : Bool :=
  instrument.facets.isEmpty || instrument.dimensionality == some unidimensional

end Instrument

end Psychometrics
