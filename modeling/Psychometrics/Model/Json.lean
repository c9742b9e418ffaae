import Psychometrics.Configuration.Json
import Psychometrics.Instrument.Json
import Psychometrics.Model.Basic

/-!
# Models in JSON

Both halves of a model have a default, and both are written.
-/

namespace Psychometrics

open Json (orDefault)

/-- Reads a model. -/
def Model.ofJson? (value : Json) : Option Model := do
  match ← value.record? [["inputs"], ["document"]] with
  | [instrument, configuration] =>
    return {
      instrument := ← orDefault {} Instrument.ofJson? instrument
      configuration := ← orDefault {} Configuration.ofJson? configuration }
  | _ => none

/-- Writes a model. -/
def Model.toJson (m : Model) : Json :=
  .object [("inputs", m.instrument.toJson), ("document", m.configuration.toJson)]

end Psychometrics
