import Psychometrics.Json.Record
import Psychometrics.Report.Basic

/-!
# Reports in JSON

A diagnostic has to be given with all its fields, except that a diagnostic about no latent variable
may leave that field out.  Both lists of a report have to be given.
-/

namespace Psychometrics

open Json (choice? list list? nullable nullable? orDefault required)

/-- Reads a severity. -/
def Severity.ofJson? : Json → Option Severity :=
  choice? [("error", .error), ("warning", .warning)]

/-- Writes a severity. -/
def Severity.toJson : Severity → Json
  | .error => .string "error"
  | .warning => .string "warning"

/-- Reads a diagnostic. -/
def Diagnostic.ofJson? (value : Json) : Option Diagnostic := do
  match ← value.record? [["code"], ["severity"], ["latent"], ["message"], ["guarantee"]] with
  | [code, severity, latent, message, guarantee] =>
    return {
      code := ← required Json.string? code
      severity := ← required Severity.ofJson? severity
      latent := ← orDefault none (nullable? Json.string?) latent
      message := ← required Json.string? message
      guarantee := ← required Json.string? guarantee }
  | _ => none

/-- Writes a diagnostic. -/
def Diagnostic.toJson (d : Diagnostic) : Json :=
  .object [("code", .string d.code), ("severity", d.severity.toJson),
    ("latent", nullable .string d.latent), ("message", .string d.message),
    ("guarantee", .string d.guarantee)]

/-- Reads a report. -/
def Report.ofJson? (value : Json) : Option Report := do
  match ← value.record? [["errors"], ["warnings"]] with
  | [errors, warnings] =>
    return {
      errors := ← required (list? Diagnostic.ofJson?) errors
      warnings := ← required (list? Diagnostic.ofJson?) warnings }
  | _ => none

/-- Writes a report. -/
def Report.toJson (report : Report) : Json :=
  .object [("errors", list Diagnostic.toJson report.errors),
    ("warnings", list Diagnostic.toJson report.warnings)]

end Psychometrics
