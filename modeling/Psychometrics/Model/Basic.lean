import Psychometrics.Configuration.Basic
import Psychometrics.Instrument.Basic
import Psychometrics.Latent
import Psychometrics.Text.ShortCode

/-!
# Measurement models

A measurement model is an instrument together with a configuration.  This file has what can be asked
of a model about one latent variable (its mode, its active items, its global items, its stored
scaling rule), and the elementary changes of the configuration.

A query goes by the latent variable; the tables of the configuration are consulted under its key.
-/

namespace Psychometrics

/-- An instrument with the configuration of its measurement. -/
structure Model where
  instrument : Instrument := {}
  configuration : Configuration := {}
  deriving DecidableEq

namespace Model

/-! ### Modes -/

/-- The model has a single latent variable. -/
def isUnidimensional (m : Model) : Bool :=
  m.instrument.isUnidimensional

/-- The mode chosen for a facet. -/
def facetMode? (m : Model) (facetId : String) : Option Mode :=
  m.configuration.modes[facetId]?

/-- The mode of a latent variable.  The single latent variable of a unidimensional model is always
reflective. -/
def mode? (m : Model) : Latent → Option Mode
  | .unidim => some .reflective
  | .facet id => m.facetMode? id
  | .secondOrder => m.configuration.secondOrder.mode

/-! ### Items -/

/-- An item is excluded from the latent variable with the given key. -/
def isExcluded (m : Model) (key : String) (itemId : Int64) : Bool :=
  match m.configuration.excluded[key]? with
  | none => false
  | some ids => ids.contains itemId

/-- The items that belong to a latent variable, in ascending order of ids. -/
def ownItems (m : Model) : Latent → List Item
  | .unidim => m.instrument.sortedItems
  | .facet id => m.instrument.facetItems id
  | .secondOrder => []

/-- The items of a latent variable that are not excluded from it. -/
def activeItems (m : Model) (latent : Latent) : List Item :=
  (m.ownItems latent).filter fun item => !m.isExcluded latent.key item.id

/-! ### Global items -/

/-- The global items of a latent variable, if slots for them have been created. -/
def globals? (m : Model) : Latent → Option (List GlobalItem)
  | .unidim => none
  | .facet id => m.configuration.globals[id]?
  | .secondOrder => m.configuration.secondOrder.globals

/-- The global items of a latent variable, blank ones included. -/
def globals (m : Model) (latent : Latent) : List GlobalItem :=
  (m.globals? latent).getD []

/-- The global items of a latent variable that have a text. -/
def presentGlobals (m : Model) (latent : Latent) : List GlobalItem :=
  (m.globals latent).filter GlobalItem.isPresent

/-- The ids of the two slots that a latent variable starts with. -/
def slotIds : Latent → List String
  | .unidim => []
  | .facet id => ["g_" ++ id ++ "_1", "g_" ++ id ++ "_2"]
  | .secondOrder => ["g_second_1", "g_second_2"]

/-- The slots that a latent variable starts with, still blank. -/
def blankSlots (latent : Latent) : List GlobalItem :=
  (slotIds latent).map fun id => { id }

/-- Replaces the global items of a latent variable. -/
def setGlobals (m : Model) (latent : Latent) (items : List GlobalItem) : Model :=
  match latent with
  | .unidim => m
  | .facet id => { m with configuration.globals := m.configuration.globals.insert id items }
  | .secondOrder => { m with configuration.secondOrder.globals := some items }

/-- A latent variable that may have global items but has no slots for them yet. -/
def lacksSlots (m : Model) (latent : Latent) : Bool :=
  latent != .unidim && (m.globals? latent).isNone

/-- Creates the two blank slots of a latent variable that has none. -/
def withSlots (m : Model) (latent : Latent) : Model :=
  if m.lacksSlots latent then m.setGlobals latent (blankSlots latent) else m

/-- Writes the text of one global item, if that slot exists. -/
def setGlobalText? (m : Model) (latent : Latent) (index : Nat) (text : String) : Option Model :=
  match m.globals? latent with
  | none => none
  | some items =>
    match items[index]? with
    | none => none
    | some item => some (m.setGlobals latent (items.set index { item with text }))

/-! ### Stored scaling rules -/

/-- The scaling rule that is stored for a latent variable. -/
def scalingRule? (m : Model) : Latent → Option ScalingRule
  | .secondOrder => m.configuration.secondOrder.scaling
  | latent => m.configuration.scaling[latent.key]?

/-- Stores a scaling rule for a latent variable. -/
def setScalingRule (m : Model) (latent : Latent) (rule : ScalingRule) : Model :=
  match latent with
  | .secondOrder => { m with configuration.secondOrder.scaling := some rule }
  | latent => { m with configuration.scaling := m.configuration.scaling.insert latent.key rule }

/-! ### Elementary changes -/

/-- Chooses the mode of a facet, or withdraws the choice. -/
def setFacetMode (m : Model) (facetId : String) : Option Mode → Model
  | some mode => { m with configuration.modes := m.configuration.modes.insert facetId mode }
  | none => { m with configuration.modes := m.configuration.modes.erase facetId }

/-- The items excluded from the latent variable with the given key. -/
def excludedFrom (m : Model) (key : String) : ItemSet :=
  m.configuration.excluded.getD key ∅

/-- Excludes an item from the latent variable with the given key. -/
def exclude (m : Model) (key : String) (itemId : Int64) : Model :=
  let ids := (m.excludedFrom key).insert itemId
  { m with configuration.excluded := m.configuration.excluded.insert key ids }

/-- Takes an item out of the exclusions of a latent variable, keeping the set even when it has
become empty. -/
def readmit (m : Model) (key : String) (itemId : Int64) : Model :=
  match m.configuration.excluded[key]? with
  | none => m
  | some ids =>
    { m with configuration.excluded := m.configuration.excluded.insert key (ids.erase itemId) }

/-- Takes an item out of the exclusions of a latent variable, and drops the set when it has become
empty. -/
def restore (m : Model) (key : String) (itemId : Int64) : Model :=
  match m.configuration.excluded[key]? with
  | none => m
  | some ids =>
    if (ids.erase itemId).isEmpty then
      { m with configuration.excluded := m.configuration.excluded.erase key }
    else { m with configuration.excluded := m.configuration.excluded.insert key (ids.erase itemId) }

/-! ### The short code of the construct -/

/-- The short code that stands for the construct when it has no usable name. -/
def defaultShortCode : String :=
  "OVERALL"

/-- The short code of the construct: the user's own code if something is left of it in normal form,
else the code derived from the name of the construct, else the default. -/
def shortCode (m : Model) : String :=
  let own := (m.configuration.shortCode.map Text.normalizeCode).getD ""
  let derived := Text.deriveCode m.instrument.construct.name
  if own != "" then own else if derived != "" then derived else defaultShortCode

end Model

end Psychometrics
