import Psychometrics.Configuration.Basic
import Psychometrics.Json.Reader
import Psychometrics.Json.Record
import Psychometrics.Timestamp.Text

/-!
# Configurations in JSON

The stored form of a configuration.  Every field has a default.  Reading also accepts what older
configurations hold: references as numbers or under `refFacetId`, the words `none` and the empty
text for an absent higher-order construct, and a list of facets beside the configuration, which is
dropped.

A reference that has been read is never blank, and `ofJson?` takes back every configuration with
that property from what `toJson` writes.
-/

namespace Psychometrics

open Json (choice? list list? nullable nullable? orDefault record? required table table?)

/-! ### Modes and global items -/

/-- Reads a mode. -/
def Mode.ofJson? : Json → Option Mode :=
  choice? [("reflective", .reflective), ("formative", .formative)]

/-- Writes a mode. -/
def Mode.toJson (mode : Mode) : Json :=
  .string mode.name

/-- Reads a global item. -/
def GlobalItem.ofJson? (value : Json) : Option GlobalItem := do
  match ← value.record? [["id"], ["text"]] with
  | [id, text] =>
    return { id := ← required Json.string? id, text := ← orDefault "" Json.string? text }
  | _ => none

/-- Writes a global item. -/
def GlobalItem.toJson (item : GlobalItem) : Json :=
  .object [("id", .string item.id), ("text", .string item.text)]

/-! ### Scaling -/

/-- Reads a scaling method. -/
def ScalingMethod.ofJson? : Json → Option ScalingMethod :=
  choice? [("fix_loading", .fixLoading), ("fix_variance", .fixVariance)]

/-- The word for a scaling method. -/
def ScalingMethod.name : ScalingMethod → String
  | .fixLoading => "fix_loading"
  | .fixVariance => "fix_variance"

/-- Writes a scaling method. -/
def ScalingMethod.toJson (method : ScalingMethod) : Json :=
  .string method.name

/-- Reads the id of a reference indicator, which may be given as a number. -/
def referenceId? : Json → Option String
  | .string s => some s
  | value => (Json.int64? value).map fun id => Text.ofInt id.toInt

/-- Reads a scaling rule.  A blank reference is dropped; in its place counts the reference to a
facet, which older configurations keep apart. -/
def ScalingRule.ofJson? (value : Json) : Option ScalingRule := do
  match ← value.record? [["method"], ["refItemId"], ["refFacetId"]] with
  | [method, item, facet] =>
    let method ← required ScalingMethod.ofJson? method
    let item ← orDefault none (nullable? referenceId?) item
    let facet ← orDefault none (nullable? referenceId?) facet
    match method with
    | .fixVariance => return .fixVariance
    | .fixLoading =>
      let isNamed := fun id => !Text.isBlankText id
      return .fixLoading ((item.filter isNamed).or (facet.filter isNamed))
  | _ => none

/-- Writes a scaling rule. -/
def ScalingRule.toJson : ScalingRule → Json
  | .fixVariance => .object [("method", ScalingMethod.fixVariance.toJson)]
  | .fixLoading none => .object [("method", ScalingMethod.fixLoading.toJson)]
  | .fixLoading (some id) =>
    .object [("method", ScalingMethod.fixLoading.toJson), ("refItemId", .string id)]

/-! ### The higher-order construct -/

/-- Reads the mode of the higher-order construct, where the absence of one has four spellings. -/
def SecondOrder.mode? : Json → Option (Option Mode)
  | .null => some none
  | .string s =>
    if s = "" ∨ s = "none" then some none
    else if s = Mode.reflective.name then some (some .reflective)
    else if s = Mode.formative.name then some (some .formative)
    else none
  | _ => none

/-- Reads the settings of the higher-order construct. -/
def SecondOrder.ofJson? (value : Json) : Option SecondOrder := do
  match ← value.record? [["type"], ["scaling"], ["globalReflective"]] with
  | [mode, scaling, globals] =>
    return {
      mode := ← orDefault none SecondOrder.mode? mode
      scaling := ← orDefault none (nullable? ScalingRule.ofJson?) scaling
      globals := ← orDefault none (nullable? (list? GlobalItem.ofJson?)) globals }
  | _ => none

/-- A field that is written only when there is a value. -/
def Json.optionalField (key : String) (write : α → Json) : Option α → List (String × Json)
  | none => []
  | some a => [(key, write a)]

/-- Writes the settings of the higher-order construct. -/
def SecondOrder.toJson (settings : SecondOrder) : Json :=
  .object ([("type", nullable Mode.toJson settings.mode),
      ("scaling", nullable ScalingRule.toJson settings.scaling)] ++
    Json.optionalField "globalReflective" (list GlobalItem.toJson) settings.globals)

/-! ### Measurement relations -/

/-- Reads a direction. -/
def Direction.ofJson? : Json → Option Direction :=
  choice? [("out", .outward), ("in", .inward)]

/-- Writes a direction. -/
def Direction.toJson : Direction → Json
  | .outward => .string "out"
  | .inward => .string "in"

/-- Reads a reference: a number names an item, a text anything else. -/
def IndicatorRef.ofJson? : Json → Option IndicatorRef
  | .string s => some (.named s)
  | value => (Json.int64? value).map .item

/-- Writes a reference. -/
def IndicatorRef.toJson : IndicatorRef → Json
  | .item id => .int64 id
  | .named id => .string id

/-- Reads a measurement relation. -/
def Indicator.ofJson? (value : Json) : Option Indicator := do
  match ← value.record? [["facetId"], ["itemId"], ["direction"], ["global"], ["secondOrder"]] with
  | [latentKey, ref, direction, isGlobal, isSecondOrder] =>
    return {
      latentKey := ← required Json.string? latentKey
      ref := ← required IndicatorRef.ofJson? ref
      direction := ← required Direction.ofJson? direction
      isGlobal := ← orDefault false Json.bool? isGlobal
      isSecondOrder := ← orDefault false Json.bool? isSecondOrder }
  | _ => none

/-- A truth value that is written only when it is true. -/
def Json.flagField (key : String) (flag : Bool) : List (String × Json) :=
  if flag then [(key, .bool true)] else []

/-- Writes a measurement relation. -/
def Indicator.toJson (indicator : Indicator) : Json :=
  .object ([("facetId", .string indicator.latentKey), ("itemId", indicator.ref.toJson),
      ("direction", indicator.direction.toJson)] ++
    Json.flagField "global" indicator.isGlobal ++
    Json.flagField "secondOrder" indicator.isSecondOrder)

/-! ### Derived data -/

/-- Reads a timestamp. -/
def Timestamp.ofJson? : Json → Option Timestamp
  | .string s => Timestamp.parse? s
  | _ => none

/-- Writes a timestamp. -/
def Timestamp.toJson (t : Timestamp) : Json :=
  .string t.format

/-- Reads a compiled text. -/
def Compiled.ofJson? (value : Json) : Option Compiled := do
  match ← value.record? [["syntax"], ["generatedAt"]] with
  | [text, generatedAt] =>
    return {
      text := ← required Json.string? text
      generatedAt := ← required Timestamp.ofJson? generatedAt }
  | _ => none

/-- Writes a compiled text. -/
def Compiled.toJson (compiled : Compiled) : Json :=
  .object [("syntax", .string compiled.text), ("generatedAt", compiled.generatedAt.toJson)]

/-! ### Configurations -/

namespace Configuration

/-- Reads a configuration in its present form. -/
def ofJson? (value : Json) : Option Configuration := do
  match ← value.record? [["facetModes"], ["facetScaling"], ["facetDisabledItems"],
    ["globalReflective"], ["secondOrder"], ["overallShortCode"], ["indicators"], ["lavaanSpec"],
    ["updatedAt"]] with
  | [modes, scaling, excluded, globals, secondOrder, shortCode, indicators, compiled, updatedAt] =>
    return {
      modes := ← orDefault ∅ (table? Mode.ofJson?) modes
      scaling := ← orDefault ∅ (table? ScalingRule.ofJson?) scaling
      excluded := ← orDefault ∅ (table? Json.int64Set?) excluded
      globals := ← orDefault ∅ (table? (list? GlobalItem.ofJson?)) globals
      secondOrder := ← orDefault {} SecondOrder.ofJson? secondOrder
      shortCode := ← orDefault none (nullable? Json.string?) shortCode
      indicators := ← orDefault [] (list? Indicator.ofJson?) indicators
      compiled := ← orDefault none (nullable? Compiled.ofJson?) compiled
      updatedAt := ← orDefault none (nullable? Timestamp.ofJson?) updatedAt }
  | _ => none

/-- The fields that the compiled text depends on, in writing. -/
def choiceFields (configuration : Configuration) : List (String × Json) :=
  [("facetModes", table Mode.toJson configuration.modes),
    ("facetScaling", table ScalingRule.toJson configuration.scaling),
    ("facetDisabledItems", table Json.int64Set configuration.excluded),
    ("globalReflective", table (list GlobalItem.toJson) configuration.globals),
    ("secondOrder", configuration.secondOrder.toJson)]

/-- Writes a configuration. -/
def toJson (configuration : Configuration) : Json :=
  .object (configuration.choiceFields ++
    Json.optionalField "overallShortCode" .string configuration.shortCode ++
    [("indicators", list Indicator.toJson configuration.indicators)] ++
    Json.optionalField "lavaanSpec" Compiled.toJson configuration.compiled ++
    Json.optionalField "updatedAt" Timestamp.toJson configuration.updatedAt)

/-- Reads a stored configuration: null stands for the empty one, and a list of facets that was
stored beside it is dropped. -/
def ofStored? : Json → Option Configuration
  | .null => some {}
  | value => ofJson? (value.withoutKey "facets")

/-- Reads a stored configuration from its text. -/
def parse? (text : String) : Option Configuration :=
  (Json.parseTree? text).bind ofStored?

end Configuration

end Psychometrics
