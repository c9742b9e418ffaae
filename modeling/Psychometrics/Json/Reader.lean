import Psychometrics.Json.Token

/-!
# Reading JSON text

Values are read from tokens by an automaton with a stack of open containers.  `Reader.step` is its
transition; `Json.parse?` folds it over the tokens of a text and yields the value with its fields as
written, and `Json.parseTree?` goes on to the tree of that value.
-/

namespace Psychometrics.Json

/-! ### Open containers -/

/-- The fields of an object as an object; a key that is ill-formed spoils the whole object. -/
def ofFields (fields : List (Option String × Json)) : Json :=
  match fields.mapM fun field => field.1.map fun key => (key, field.2) with
  | some fields => .object fields
  | none => .illFormed

/-- A container whose end has not been read: an array, an object between two fields, or an object
that waits for the value of a key.  Contents are kept last first. -/
inductive Frame
  | array (reversed : List Json)
  | object (reversed : List (Option String × Json))
  | field (reversed : List (Option String × Json)) (key : Option String)

/-- What the automaton expects next, together with the open containers, innermost first. -/
inductive Reader
  | expectValue (stack : List Frame)
  | expectFirstItem (stack : List Frame)
  | expectFirstKey (stack : List Frame)
  | expectKey (stack : List Frame)
  | expectColon (key : Option String) (stack : List Frame)
  | afterItem (stack : List Frame)
  | done (value : Json)

namespace Reader

/-- Hands a finished value to the container that waits for it. -/
def deliver (value : Json) : List Frame → Option Reader
  | [] => some (.done value)
  | .array reversed :: stack => some (.afterItem (.array (value :: reversed) :: stack))
  | .field reversed key :: stack => some (.afterItem (.object ((key, value) :: reversed) :: stack))
  | .object _ :: _ => none

/-- Reads the first token of a value. -/
def open? (stack : List Frame) : Token → Option Reader
  | .leftBracket => some (.expectFirstItem (.array [] :: stack))
  | .leftBrace => some (.expectFirstKey (.object [] :: stack))
  | .scalar value => deliver value stack
  | .text (some s) => deliver (.string s) stack
  | .text none => deliver .illFormed stack
  | _ => none

/-- Closes the innermost container if the token does so. -/
def close? : List Frame → Token → Option Reader
  | .array reversed :: stack, .rightBracket => deliver (.array reversed.reverse) stack
  | .object reversed :: stack, .rightBrace => deliver (ofFields reversed.reverse) stack
  | _, _ => none

/-- Reads a key. -/
def key? (stack : List Frame) : Token → Option Reader
  | .text key => some (.expectColon key stack)
  | _ => none

/-- The transition of the automaton. -/
def step : Reader → Token → Option Reader
  | .expectValue stack, token => open? stack token
  | .expectFirstItem stack, token =>
    match token with
    | .rightBracket => close? stack token
    | _ => open? stack token
  | .expectFirstKey stack, token =>
    match token with
    | .rightBrace => close? stack token
    | _ => key? stack token
  | .expectKey stack, token => key? stack token
  | .expectColon key (.object reversed :: stack), .colon =>
    some (.expectValue (.field reversed key :: stack))
  | .afterItem stack, .comma =>
    match stack with
    | .array _ :: _ => some (.expectValue stack)
    | .object _ :: _ => some (.expectKey stack)
    | _ => none
  | .afterItem stack, token => close? stack token
  | _, _ => none

/-- The value that has been read, if it is complete. -/
def result? : Reader → Option Json
  | .done value => some value
  | _ => none

end Reader

/-- The value that a list of tokens spells. -/
def ofTokens? (tokens : List Token) : Option Json :=
  (tokens.foldlM Reader.step (.expectValue [])).bind Reader.result?

/-- The value that a text spells, with the fields of its objects as written. -/
def parse? (text : String) : Option Json :=
  (Token.scan? text.toList).bind ofTokens?

/-- The tree that a text spells. -/
def parseTree? (text : String) : Option Json :=
  (parse? text).bind resolve?

end Psychometrics.Json
