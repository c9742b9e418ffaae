import Psychometrics.Json.Basic
import Psychometrics.Json.Decimal

/-!
# JSON tokens

The tokens of JSON text, and the automaton that finds them.  The automaton reads one character at a
time: `Scanner.step` is its transition, and `Token.scan?` folds it over a text.  White space is the
space, the tab, the line feed and the carriage return, and no other character.

A string may spell a character by the code units of UTF-16.  A leading surrogate has to be followed
at once by a trailing one; a string in which some surrogate stands alone is still a token, but an
ill-formed one (`Token.text none`).  A number beyond the doubles is a token too, and denotes the
ill-formed value.
-/

namespace Psychometrics.Json

/-! ### Number literals -/

/-- The double a decimal denotes, given its sign. -/
def ofDecimal (negative : Bool) (decimal : Decimal) : Json :=
  match decimal.double? with
  | some magnitude => .number (.double negative magnitude)
  | none => .illFormed

/-- The number a literal with a fraction or an exponent denotes, given its sign, its digits before
and behind the point and its exponent. -/
def ofParts (negative : Bool) (whole fraction : List Char) (exponent : Int) : Json :=
  ofDecimal negative (.ofRuns whole fraction exponent)

/-- The number a literal without fraction and exponent denotes. -/
def ofWhole (negative : Bool) (whole : List Char) : Json :=
  let decimal := Decimal.ofRuns whole [] 0
  let value : Int := if negative then -decimal.digits else decimal.digits
  if decimal.exponent == 0 && Number.isWord value && !(negative && decimal.digits == 0) then
    .int value
  else ofDecimal negative decimal

/-- A nonempty run of digits that has no superfluous leading zero. -/
def isWhole (cs : List Char) : Bool :=
  cs != [] && (cs.length == 1 || cs.head? != some '0')

/-- The number that a text of digits spells, if it holds at least one digit and nothing else. -/
def digitsOnly? (ds : List Char) : Option Nat :=
  if ds != [] && ds.all Char.isDigit then some (Nat.ofDigitChars 10 ds 0) else none

/-- The exponent that follows its mark: digits with an optional sign in front. -/
def exponent? : List Char → Option Int
  | '-' :: ds => (digitsOnly? ds).map fun n => -(n : Int)
  | '+' :: ds => (digitsOnly? ds).map fun n => (n : Int)
  | ds => (digitsOnly? ds).map fun n => (n : Int)

/-- The number behind its sign. -/
def unsigned? (negative : Bool) (cs : List Char) : Option Json :=
  let whole := cs.takeWhile Char.isDigit
  if isWhole whole then
    match cs.dropWhile Char.isDigit with
    | [] => some (ofWhole negative whole)
    | '.' :: rest =>
      let fraction := rest.takeWhile Char.isDigit
      if fraction == [] then none
      else
        match rest.dropWhile Char.isDigit with
        | [] => some (ofParts negative whole fraction 0)
        | mark :: rest =>
          if mark == 'e' || mark == 'E' then
            (exponent? rest).map (ofParts negative whole fraction)
          else none
    | mark :: rest =>
      if mark == 'e' || mark == 'E' then (exponent? rest).map (ofParts negative whole [])
      else none
  else none

/-- The value that a number literal spells: an optional minus sign, an integer without superfluous
leading zeros, an optional fraction and an optional exponent. -/
def ofLiteral? : List Char → Option Json
  | '-' :: cs => unsigned? true cs
  | cs => unsigned? false cs

/-! ### Tokens -/

/-- The tokens of JSON text.  A text token without a value is an ill-formed string. -/
inductive Token
  | leftBracket
  | rightBracket
  | leftBrace
  | rightBrace
  | comma
  | colon
  | scalar (value : Json)
  | text (value : Option String)

/-- The token spelled by a bare word: one of the three names, or a number. -/
def Token.ofWord? (word : List Char) : Option Token :=
  if word = ['n', 'u', 'l', 'l'] then some (.scalar .null)
  else if word = ['t', 'r', 'u', 'e'] then some (.scalar (.bool true))
  else if word = ['f', 'a', 'l', 's', 'e'] then some (.scalar (.bool false))
  else (ofLiteral? word).map .scalar

/-- The token spelled by a single punctuation character. -/
def Token.ofMark? : Char → Option Token
  | '[' => some .leftBracket
  | ']' => some .rightBracket
  | '{' => some .leftBrace
  | '}' => some .rightBrace
  | ',' => some .comma
  | ':' => some .colon
  | _ => none

/-! ### Strings -/

/-- A string under construction: its characters so far, last first, a leading surrogate that waits
for its partner, and whether every surrogate so far has been paired. -/
structure StringBody where
  reversed : List Char := []
  leading : Option Nat := none
  paired : Bool := true

namespace StringBody

/-- Adds a character. -/
def push (body : StringBody) (c : Char) : StringBody :=
  ⟨c :: body.reversed, none, body.paired && body.leading.isNone⟩

/-- The code units that open a surrogate pair. -/
def isLeading (unit : Nat) : Bool :=
  0xD800 ≤ unit && unit ≤ 0xDBFF

/-- The code units that close a surrogate pair. -/
def isTrailing (unit : Nat) : Bool :=
  0xDC00 ≤ unit && unit ≤ 0xDFFF

/-- The character that a surrogate pair stands for. -/
def ofPair (leading trailing : Nat) : Char :=
  Char.ofNat (0x10000 + (leading - 0xD800) * 0x400 + (trailing - 0xDC00))

/-- Adds a code unit of UTF-16. -/
def pushUnit (body : StringBody) (unit : Nat) : StringBody :=
  if isTrailing unit then
    match body.leading with
    | some first => { body with reversed := ofPair first unit :: body.reversed, leading := none }
    | none => { body with paired := false }
  else if isLeading unit then
    { body with leading := some unit, paired := body.paired && body.leading.isNone }
  else body.push (Char.ofNat unit)

/-- The finished string, or nothing if a surrogate stands alone. -/
def finish? (body : StringBody) : Option String :=
  if body.paired && body.leading.isNone then some (String.ofList body.reversed.reverse) else none

end StringBody

/-- Where in a string the automaton stands: between characters, behind a backslash, or behind some
hexadecimal digits of a code unit. -/
inductive StringSpot
  | plain
  | escape
  | unit (digits value : Nat)

/-- The value of a hexadecimal digit. -/
def hexDigit? (c : Char) : Option Nat :=
  if c.isDigit then some (c.toNat - 48)
  else if 'a' ≤ c ∧ c ≤ 'f' then some (c.toNat - 87)
  else if 'A' ≤ c ∧ c ≤ 'F' then some (c.toNat - 55)
  else none

/-- The character that a one-letter escape stands for. -/
def escaped? : Char → Option Char
  | '"' => some '"'
  | '\\' => some '\\'
  | '/' => some '/'
  | 'b' => some '\x08'
  | 'f' => some '\x0c'
  | 'n' => some '\n'
  | 'r' => some '\r'
  | 't' => some '\t'
  | _ => none

/-! ### The automaton -/

/-- What the automaton is reading: the space between tokens, a bare word (kept last character
first), or a string. -/
inductive ScanMode
  | between
  | word (reversed : List Char)
  | string (body : StringBody) (spot : StringSpot)

/-- The automaton: its mode, and the tokens it has found, last first. -/
structure Scanner where
  mode : ScanMode
  reversed : List Token

/-- The white space of JSON text. -/
def isSpace (c : Char) : Bool :=
  c == ' ' || c == '\n' || c == '\t' || c == '\r'

namespace Scanner

/-- The automaton before the first character. -/
def start : Scanner :=
  ⟨.between, []⟩

/-- Reads a character between two tokens. -/
def stepBetween (found : List Token) (c : Char) : Scanner :=
  if isSpace c then ⟨.between, found⟩
  else if c == '"' then ⟨.string {} .plain, found⟩
  else
    match Token.ofMark? c with
    | some token => ⟨.between, token :: found⟩
    | none => ⟨.word [c], found⟩

/-- A bare word goes on until white space, punctuation or a quotation mark. -/
def endsWord (c : Char) : Bool :=
  isSpace c || c == '"' || (Token.ofMark? c).isSome

/-- Reads a character inside a string. -/
def stepString (found : List Token) (body : StringBody) : StringSpot → Char → Option Scanner
  | .plain, c =>
    if c == '"' then some ⟨.between, .text body.finish? :: found⟩
    else if c == '\\' then some ⟨.string body .escape, found⟩
    else if c.toNat < 0x20 then none
    else some ⟨.string (body.push c) .plain, found⟩
  | .escape, c =>
    if c == 'u' then some ⟨.string body (.unit 0 0), found⟩
    else (escaped? c).map fun e => ⟨.string (body.push e) .plain, found⟩
  | .unit digits value, c =>
    (hexDigit? c).map fun d =>
      if digits + 1 < 4 then ⟨.string body (.unit (digits + 1) (16 * value + d)), found⟩
      else ⟨.string (body.pushUnit (16 * value + d)) .plain, found⟩

/-- The transition of the automaton. -/
def step (scanner : Scanner) (c : Char) : Option Scanner :=
  match scanner.mode with
  | .between => some (stepBetween scanner.reversed c)
  | .word reversed =>
    if endsWord c then
      (Token.ofWord? reversed.reverse).map fun token => stepBetween (token :: scanner.reversed) c
    else some ⟨.word (c :: reversed), scanner.reversed⟩
  | .string body spot => stepString scanner.reversed body spot c

/-- The tokens of the whole text, once its last character has been read. -/
def finish? (scanner : Scanner) : Option (List Token) :=
  match scanner.mode with
  | .between => some scanner.reversed.reverse
  | .word reversed => (Token.ofWord? reversed.reverse).map fun t => (t :: scanner.reversed).reverse
  | .string _ _ => none

end Scanner

/-- The tokens of a text, if it consists of tokens and white space. -/
def Token.scan? (cs : List Char) : Option (List Token) :=
  (cs.foldlM Scanner.step .start).bind Scanner.finish?

end Psychometrics.Json
