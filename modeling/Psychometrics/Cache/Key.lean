import Psychometrics.Configuration.Json
import Psychometrics.Digest.Sha256
import Psychometrics.Instrument.Json
import Psychometrics.Json.Printer
import Psychometrics.Listing.Json

/-!
# Keys of the compile cache

The key of a model under given options is the digest of a JSON text, which holds everything that the
compiled text depends on: the instrument, the choices of the configuration, and the options.  What
is derived or stamped at a save is left out.
-/

namespace Psychometrics.Model

/-- The text that a key is the digest of. -/
def keyText (m : Model) (options : ListingOptions) : String :=
  Json.compact (.object
    (("inputs", m.instrument.toJson) :: m.configuration.choiceFields ++
      [("overallShortCode", Json.nullable .string m.configuration.shortCode),
        ("options", options.toJson)]))

/-- The key of a model under given options. -/
def key (m : Model) (options : ListingOptions) : String :=
  Sha256.ofText (m.keyText options)

end Psychometrics.Model
