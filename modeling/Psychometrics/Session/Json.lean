import Psychometrics.Listing.Json
import Psychometrics.Session.Basic

/-!
# Session options in JSON

The settings of the listing and the delay each have a default, and both are written.  The resolution
of the clock is no part of a document.
-/

namespace Psychometrics

open Json (orDefault)

namespace SessionOptions

/-- Reads session options. -/
def ofJson? (value : Json) : Option SessionOptions := do
  match ← value.record? [["compile"], ["autosaveDelayMs"]] with
  | [listing, delay] =>
    return {
      listing := ← orDefault {} ListingOptions.ofJson? listing
      delay := ← orDefault Timer.defaultDelay Json.count? delay }
  | _ => none

/-- Writes session options. -/
def toJson (options : SessionOptions) : Json :=
  .object [("compile", options.listing.toJson), ("autosaveDelayMs", .int options.delay)]

end SessionOptions

end Psychometrics
