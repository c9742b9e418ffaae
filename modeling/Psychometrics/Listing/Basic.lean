import Psychometrics.Listing.Legend
import Psychometrics.Statement.OfModel

/-!
# The compiled text

The text of a model consists of its statements and, if wanted, the legend.  Compiling never fails: a
model whose symbols cannot all be named is given a text of one comment line that says so.

The options change comments only.  The statements of a model are the same under all of them.
-/

namespace Psychometrics

/-- How many characters of a text the legend shows by default. -/
def Legend.defaultWidth : Nat :=
  70

/-- What a compiled text holds beside the statements: the legend, with texts cut to a width, and
comments that introduce the sections. -/
structure ListingOptions where
  legend : Bool := true
  width : Nat := Legend.defaultWidth
  comments : Bool := true
  deriving DecidableEq

namespace Listing

/-- The lines of a text, each with its line break. -/
def linesText (lines : List String) : List Char :=
  lines.flatMap fun line => line.toList ++ ['\n']

/-- Ends a text in a line break, unless it is empty or does so already. -/
def ended (cs : List Char) : List Char :=
  if cs.isEmpty || cs.getLast? == some '\n' then cs else cs ++ ['\n']

/-- Puts the legend behind the statements, with an empty line between them. -/
def withLegend (statements legend : List Char) : List Char :=
  if statements.isEmpty then legend else statements ++ '\n' :: '\n' :: legend

/-- What opens the text of a model that has no statements. -/
def failureMark : String :=
  "# Generation failed:"

/-- The text of a model that cannot be compiled. -/
def failureText (e : CompileError) : String :=
  failureMark ++ " " ++ Text.oneLine e.message ++ "\n"

end Listing

namespace Model

/-- The text of a model, or why it has none. -/
def text? (m : Model) (options : ListingOptions) : Except CompileError String := do
  let names ← m.names
  let statements ← m.statements names options.comments
  let body := Statement.renderChars statements
  let body :=
    if options.legend then
      Listing.withLegend body (Listing.linesText (m.legendLines names options.width))
    else body
  return String.ofList (Listing.ended body)

/-- The text of a model; a failure becomes a comment. -/
def text (m : Model) (options : ListingOptions) : String :=
  match m.text? options with
  | .ok text => text
  | .error e => Listing.failureText e

end Model

end Psychometrics
