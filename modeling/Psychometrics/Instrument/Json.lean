import Psychometrics.Instrument.Basic
import Psychometrics.Json.Reader
import Psychometrics.Json.Record

/-!
# Instruments in JSON

Only the id of a facet or an item has to be given; every other field has a default.  The facets
may also be given under the name `subdimensions`, but not under both names.  Every field is written.
-/

namespace Psychometrics

open Json (nullable nullable? list list? orDefault required)

/-! ### Construct -/

/-- Reads a construct. -/
def Construct.ofJson? (value : Json) : Option Construct := do
  match ← value.record? [["name"], ["savedDefinition"]] with
  | [name, definition] =>
    return {
      name := ← orDefault "" Json.string? name
      definition := ← orDefault "" Json.string? definition }
  | _ => none

/-- Writes a construct. -/
def Construct.toJson (construct : Construct) : Json :=
  .object [("name", .string construct.name), ("savedDefinition", .string construct.definition)]

/-! ### Facets -/

/-- Reads a facet. -/
def Facet.ofJson? (value : Json) : Option Facet := do
  match ← value.record? [["id"], ["name"], ["code"], ["definition"]] with
  | [id, name, code, definition] =>
    return {
      id := ← required Json.string? id
      name := ← orDefault "" Json.string? name
      code := ← orDefault none (nullable? Json.string?) code
      definition := ← orDefault none (nullable? Json.string?) definition }
  | _ => none

/-- Writes a facet. -/
def Facet.toJson (facet : Facet) : Json :=
  .object [("id", .string facet.id), ("name", .string facet.name),
    ("code", nullable .string facet.code), ("definition", nullable .string facet.definition)]

/-! ### Items -/

/-- Reads an item. -/
def Item.ofJson? (value : Json) : Option Item := do
  match ← value.record? [["id"], ["text"], ["subdimensionId"]] with
  | [id, text, facetId] =>
    return {
      id := ← required Json.int64? id
      text := ← orDefault "" Json.string? text
      facetId := ← orDefault none (nullable? Json.string?) facetId }
  | _ => none

/-- Writes an item. -/
def Item.toJson (item : Item) : Json :=
  .object [("id", .int64 item.id), ("text", .string item.text),
    ("subdimensionId", nullable .string item.facetId)]

/-! ### Instruments -/

/-- Reads an instrument. -/
def Instrument.ofJson? (value : Json) : Option Instrument := do
  match ← value.record? [["construct"], ["dimensionality"], ["facets", "subdimensions"],
    ["items"]] with
  | [construct, dimensionality, facets, items] =>
    return {
      construct := ← orDefault {} Construct.ofJson? construct
      dimensionality := ← orDefault none (nullable? Json.string?) dimensionality
      facets := ← orDefault [] (list? Facet.ofJson?) facets
      items := ← orDefault [] (list? Item.ofJson?) items }
  | _ => none

/-- Writes an instrument. -/
def Instrument.toJson (instrument : Instrument) : Json :=
  .object [("construct", instrument.construct.toJson),
    ("dimensionality", nullable .string instrument.dimensionality),
    ("facets", list Facet.toJson instrument.facets),
    ("items", list Item.toJson instrument.items)]

/-- Reads an instrument from JSON text. -/
def Instrument.parse? (text : String) : Option Instrument :=
  (Json.parse? text).bind Instrument.ofJson?

end Psychometrics
