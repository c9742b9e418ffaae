import Psychometrics.Json.Record
import Psychometrics.Listing.Basic

/-!
# Listing options in JSON

Every field has a default, and every field is written.
-/

namespace Psychometrics

open Json (orDefault)

namespace ListingOptions

/-- Reads listing options. -/
def ofJson? (value : Json) : Option ListingOptions := do
  match ← value.record? [["includeMapping"], ["mappingTextWidth"], ["includeComments"]] with
  | [legend, width, comments] =>
    return {
      legend := ← orDefault true Json.bool? legend
      width := ← orDefault Legend.defaultWidth Json.count? width
      comments := ← orDefault true Json.bool? comments }
  | _ => none

/-- Writes listing options. -/
def toJson (options : ListingOptions) : Json :=
  .object [("includeMapping", .bool options.legend), ("mappingTextWidth", .int options.width),
    ("includeComments", .bool options.comments)]

end ListingOptions

end Psychometrics
