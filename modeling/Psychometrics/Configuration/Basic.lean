import Psychometrics.Text.Blank
import Psychometrics.Text.Decimal
import Psychometrics.Timestamp.Basic
import Std.Data.ExtTreeMap
import Std.Data.ExtTreeSet

/-!
# Measurement configurations

A configuration says how an instrument is measured: which facets are reflective and which are
formative, how each latent variable is given its scale, which items are left out, which global
items were written, and what the higher-order construct looks like.  It also carries what was
derived from these choices when it was last saved.

Everything that belongs to a latent variable is kept in a table by its key.  Equal tables hold equal
entries, so that two configurations are equal exactly when they say the same.
-/

namespace Psychometrics

/-! ### Modes and global items -/

/-- How a latent variable relates to its items: it shows in them, or it is formed by them. -/
inductive Mode
  | reflective
  | formative
  deriving DecidableEq

/-- The word for a mode. -/
def Mode.name : Mode → String
  | .reflective => "reflective"
  | .formative => "formative"

/-- An item written by the user for a formative latent variable as a whole. -/
structure GlobalItem where
  id : String
  text : String := ""
  deriving DecidableEq

/-- A global item is present once its text is not blank. -/
def GlobalItem.isPresent (item : GlobalItem) : Bool :=
  !Text.isBlankText item.text

/-! ### Scaling -/

/-- The two ways to give a latent variable its scale. -/
inductive ScalingMethod
  | fixLoading
  | fixVariance
  deriving DecidableEq

/-- How a latent variable is given its scale: by fixing the loading of a reference indicator, or by
fixing its variance.  The reference is the id of an item, of a global item or of a facet, depending
on the latent variable. -/
inductive ScalingRule
  | fixLoading (reference : Option String)
  | fixVariance
  deriving DecidableEq

namespace ScalingRule

/-- The rule that fixes the loading of a given indicator. -/
def fixingLoadingOf (reference : String) : ScalingRule :=
  .fixLoading (some reference)

/-- The method of a rule. -/
def method : ScalingRule → ScalingMethod
  | .fixLoading _ => .fixLoading
  | .fixVariance => .fixVariance

/-- A rule fixes a loading, with or without naming the indicator. -/
def isFixLoading : ScalingRule → Bool
  | .fixLoading _ => true
  | .fixVariance => false

/-- The reference indicator of a rule; a blank id counts as none. -/
def reference : ScalingRule → Option String
  | .fixLoading reference => reference.filter fun id => !Text.isBlankText id
  | .fixVariance => none

@[simp] theorem reference_fixVariance : reference .fixVariance = none := rfl

/-- A rule that fixes a loading without saying which. -/
def lacksReference (rule : ScalingRule) : Bool :=
  rule.isFixLoading && rule.reference.isNone

end ScalingRule

/-! ### The higher-order construct -/

/-- The settings of the higher-order construct.  Without a mode there is no such construct. -/
structure SecondOrder where
  mode : Option Mode := none
  scaling : Option ScalingRule := none
  globals : Option (List GlobalItem) := none
  deriving DecidableEq

/-! ### Measurement relations -/

/-- The direction of a relation: an indicator shows its latent variable, or is a cause of it. -/
inductive Direction
  | outward
  | inward
  deriving DecidableEq

/-- What an indicator refers to: an item by its number, or a global item or facet by its name. -/
inductive IndicatorRef
  | item (id : Int64)
  | named (id : String)
  deriving DecidableEq

/-- The text of a reference. -/
def IndicatorRef.text : IndicatorRef → String
  | .item id => Text.ofInt id.toInt
  | .named id => id

/-- A measurement relation between an indicator and the latent variable with the given key. -/
structure Indicator where
  latentKey : String
  ref : IndicatorRef
  direction : Direction
  isGlobal : Bool := false
  isSecondOrder : Bool := false
  deriving DecidableEq

/-! ### Configurations -/

/-- A compiled text with the time of its compilation. -/
structure Compiled where
  text : String
  generatedAt : Timestamp
  deriving DecidableEq

/-- A table by keys of latent variables. -/
abbrev Table (α : Type) :=
  Std.ExtTreeMap String α

/-- A set of item ids. -/
abbrev ItemSet :=
  Std.ExtTreeSet Int64

/-- The configuration of a measurement, with what was derived from it at the last save. -/
structure Configuration where
  modes : Table Mode := ∅
  scaling : Table ScalingRule := ∅
  excluded : Table ItemSet := ∅
  globals : Table (List GlobalItem) := ∅
  secondOrder : SecondOrder := {}
  shortCode : Option String := none
  indicators : List Indicator := []
  compiled : Option Compiled := none
  updatedAt : Option Timestamp := none
  deriving DecidableEq

end Psychometrics
