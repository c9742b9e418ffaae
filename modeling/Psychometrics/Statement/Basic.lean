import Psychometrics.Model.Scaling

/-!
# Statements

A compiled model is a list of statements about named variables.  A reflective statement says in
which indicators a latent variable shows, a formative one by which causes it is formed; a latent
variable whose variance is fixed has a statement of its own.  Comments and blank lines carry no
meaning.

`measurementBlock` is the reflective statement of a latent variable together with what identifies
it: either its first indicator has a fixed loading, or its variance is fixed, and never both.
-/

namespace Psychometrics

/-! ### Statements -/

/-- A statement of the compiled text.  With `fixedFirst` the loading of the first indicator is fixed
to one. -/
inductive Statement
  | comment (text : String)
  | reflective (latent : String) (indicators : List String) (fixedFirst : Bool)
  | formative (latent : String) (causes : List String)
  | fixVariance (latent : String)
  | blank
  deriving DecidableEq

namespace Statement

/-- Comments and blank lines say nothing about the model. -/
def isMeaningful : Statement → Bool
  | .comment _ => false
  | .blank => false
  | _ => true

/-- The variable that a statement is about. -/
def subject? : Statement → Option String
  | .reflective latent _ _ => some latent
  | .formative latent _ => some latent
  | .fixVariance latent => some latent
  | _ => none

/-- The variables on the right-hand side of a statement, the variable it is about apart. -/
def terms : Statement → List String
  | .reflective _ indicators _ => indicators
  | .formative _ causes => causes
  | _ => []

/-! ### Text -/

/-- A sum of variables. -/
def sumChars (names : List String) : List Char :=
  [' ', '+', ' '].intercalate (names.map String.toList)

/-- The text of a statement. -/
def chars : Statement → List Char
  | .comment text => '#' :: ' ' :: text.toList
  | .reflective latent indicators fixedFirst =>
    latent.toList ++ [' ', '=', '~', ' '] ++
      (if fixedFirst && !indicators.isEmpty then ['1', '*'] else []) ++ sumChars indicators
  | .formative latent causes => latent.toList ++ [' ', '<', '~', ' '] ++ sumChars causes
  | .fixVariance latent => latent.toList ++ [' ', '~', '~', ' ', '1', '*'] ++ latent.toList
  | .blank => []

/-- The text of a list of statements, one on a line. -/
def renderChars (statements : List Statement) : List Char :=
  ['\n'].intercalate (statements.map chars)

/-- The text of a list of statements, one on a line. -/
def render (statements : List Statement) : String :=
  String.ofList (renderChars statements)

end Statement

/-! ### Measurement blocks -/

/-- An indicator with the name of its variable. -/
structure NamedIndicator where
  id : String
  name : String
  deriving DecidableEq

/-- Picks the first indicator with a given id: its name, and the names of all others in order. -/
def pickReference (id : String) : List NamedIndicator → Option (String × List String)
  | [] => none
  | first :: rest =>
    if first.id = id then some (first.name, rest.map NamedIndicator.name)
    else (pickReference id rest).map fun (name, others) => (name, first.name :: others)

/-- The measurement of a latent variable by its indicators under a rule.  If the rule names one of
the indicators, that one is moved to the front and its loading is fixed; otherwise the variance of
the latent variable is fixed.  Without indicators there is nothing to say. -/
def measurementBlock (latent : String) (indicators : List NamedIndicator) (rule : ScalingRule) :
    List Statement :=
  if indicators.isEmpty then []
  else
    match rule.reference.bind fun id => pickReference id indicators with
    | some (name, others) => [.reflective latent (name :: others) true]
    | none =>
      [.reflective latent (indicators.map NamedIndicator.name) false, .fixVariance latent]

/-- What identifies a formative latent variable without any present global item: its variance is
fixed, and a comment says why. -/
def unanchoredBlock (latent : String) : List Statement :=
  [.comment (latent ++
      " has no global reflective indicators; variance fixed to keep it identified"),
    .fixVariance latent]

/-- The measurement of a formative latent variable by its global items. -/
def anchorBlock (latent : String) (globals : List NamedIndicator) (rule : ScalingRule) :
    List Statement :=
  if globals.isEmpty then unanchoredBlock latent else measurementBlock latent globals rule

/-- The formative statement of a latent variable, if it has causes. -/
def causeBlock (latent : String) (causes : List NamedIndicator) : List Statement :=
  if causes.isEmpty then [] else [.formative latent (causes.map NamedIndicator.name)]

end Psychometrics
