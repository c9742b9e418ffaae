import Psychometrics.Model.Scaling

/-!
# Reports

A report lists what is missing or doubtful in the configuration of a model.  It looks at the stored
configuration, never at what the compiler makes of it, and it is advice: nothing is refused because
of a finding.

Every check runs.  Findings come facet by facet in declaration order, the scaling of a facet before
its indicators, then those about the single latent variable of a unidimensional model, then those
about the higher-order construct.
-/

namespace Psychometrics

/-! ### Checks -/

/-- What a report checks. -/
inductive Check
  | scalingMissing
  | referenceMissing
  | secondOrderScalingMissing
  | secondOrderReferenceMissing
  | tooFewItems
  | marginalItems
  | tooFewGlobals
  | secondOrderTooFewGlobals
  | secondOrderWithoutFacets
  deriving DecidableEq

namespace Check

/-- All checks, in the order of their codes. -/
def all : List Check :=
  [.scalingMissing, .referenceMissing, .secondOrderScalingMissing, .secondOrderReferenceMissing,
    .tooFewItems, .marginalItems, .tooFewGlobals, .secondOrderTooFewGlobals,
    .secondOrderWithoutFacets]

/-- The code of a check. -/
def code : Check → String
  | .scalingMissing => "MM001"
  | .referenceMissing => "MM002"
  | .secondOrderScalingMissing => "MM003"
  | .secondOrderReferenceMissing => "MM004"
  | .tooFewItems => "MM005"
  | .marginalItems => "MM006"
  | .tooFewGlobals => "MM007"
  | .secondOrderTooFewGlobals => "MM008"
  | .secondOrderWithoutFacets => "MM009"

/-- What a model is promised to have when the check finds nothing. -/
def guarantee : Check → String
  | .scalingMissing => "Every latent variable has an identification rule."
  | .referenceMissing => "A fixed loading always names its reference indicator."
  | .secondOrderScalingMissing => "A configured higher-order construct has an identification rule."
  | .secondOrderReferenceMissing =>
    "A fixed higher-order loading names its reference facet or global item."
  | .tooFewItems => "Reflective latents are measured by at least two items."
  | .marginalItems => "Reflective latents with two items are only just identified."
  | .tooFewGlobals => "Formative facets carry two global reflective items for identification."
  | .secondOrderTooFewGlobals =>
    "A formative higher-order construct carries two global reflective items."
  | .secondOrderWithoutFacets => "A higher-order construct is defined over first-order facets."

/-- The guarantee behind a code, which may be unknown. -/
def guaranteeOf (code : String) : String :=
  match all.find? fun check => check.code == code with
  | some check => check.guarantee
  | none => "Unknown invariant."

end Check

/-! ### Diagnostics -/

/-- How much a finding weighs. -/
inductive Severity
  | error
  | warning
  deriving DecidableEq

/-- A finding: its code, its weight, the key of the latent variable it is about, its wording, and
the guarantee that it denies. -/
structure Diagnostic where
  code : String
  severity : Severity
  latent : Option String
  message : String
  guarantee : String
  deriving DecidableEq

/-- The diagnostic with a given code. -/
def Diagnostic.ofCode (code : String) (severity : Severity) (latent : Option Latent)
    (message : String) : Diagnostic :=
  ⟨code, severity, latent.map Latent.key, message, Check.guaranteeOf code⟩

/-- The findings about a model, errors apart from warnings. -/
structure Report where
  errors : List Diagnostic := []
  warnings : List Diagnostic := []
  deriving DecidableEq

namespace Report

/-- A report without errors is valid, whatever its warnings. -/
def isValid (report : Report) : Bool :=
  report.errors.isEmpty

/-- Parts the findings into errors and warnings, keeping their order. -/
def ofFindings (findings : List Diagnostic) : Report where
  errors := findings.filter fun d => d.severity == .error
  warnings := findings.filter fun d => d.severity == .warning

end Report

end Psychometrics
