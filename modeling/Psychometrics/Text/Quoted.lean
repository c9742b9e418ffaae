/-!
# Quoted text

Messages name things of the user's own: facets, indicators, variables.  Such a name stands between
quotation marks, exactly as the user has written it.
-/

namespace Psychometrics.Text

/-- A text between quotation marks. -/
def quoted (s : String) : String :=
  "\"" ++ s ++ "\""

end Psychometrics.Text
