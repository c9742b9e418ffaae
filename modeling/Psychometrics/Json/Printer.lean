import Psychometrics.Json.Basic
import Psychometrics.Json.Decimal
import Psychometrics.Text.Decimal
import Psychometrics.Text.Hexadecimal

/-!
# Printing JSON

The compact text of a value: no white space, fields in the order of the value.  Of a string only
the quotation mark, the backslash and the control characters below the space are escaped, the
latter by a letter where JSON has one and by a code unit in lower-case hexadecimal otherwise.
-/

namespace Psychometrics.Json

/-! ### Scalars -/

/-- The text of a number.  A double is written with the fewest digits that determine it, and with an
exponent, which keeps it apart from the integers. -/
def Number.chars : Number → List Char
  | .integer i => Text.intChars i
  | .double negative magnitude =>
    let decimal := magnitude.shortest
    (if negative then ['-'] else []) ++ Nat.toDigits 10 decimal.digits ++
      'e' :: Text.intChars decimal.exponent

/-- A character inside a string. -/
def escapeChar (c : Char) : List Char :=
  match c with
  | '"' => ['\\', '"']
  | '\\' => ['\\', '\\']
  | '\x08' => ['\\', 'b']
  | '\x0c' => ['\\', 'f']
  | '\n' => ['\\', 'n']
  | '\r' => ['\\', 'r']
  | '\t' => ['\\', 't']
  | c =>
    if c.toNat < 0x20 then '\\' :: 'u' :: Text.hexChars 4 c.toNat else [c]

/-- A string in its quotation marks. -/
def stringChars (s : String) : List Char :=
  '"' :: (s.toList.flatMap escapeChar ++ ['"'])

/-! ### Values -/

mutual

/-- The compact text of a value.  A value that is ill-formed has no text of its own and is written
as null. -/
def chars : Json → List Char
  | .null => ['n', 'u', 'l', 'l']
  | .bool true => ['t', 'r', 'u', 'e']
  | .bool false => ['f', 'a', 'l', 's', 'e']
  | .number n => n.chars
  | .string s => stringChars s
  | .array items => '[' :: (itemChars items ++ [']'])
  | .object fields => '{' :: (fieldChars fields ++ ['}'])
  | .illFormed => ['n', 'u', 'l', 'l']

/-- The items of an array, separated by commas. -/
def itemChars : List Json → List Char
  | [] => []
  | [item] => item.chars
  | item :: items => item.chars ++ ',' :: itemChars items

/-- The fields of an object, separated by commas. -/
def fieldChars : List (String × Json) → List Char
  | [] => []
  | [(key, value)] => stringChars key ++ ':' :: value.chars
  | (key, value) :: fields => stringChars key ++ ':' :: (value.chars ++ ',' :: fieldChars fields)

end

/-- The compact text of a value. -/
def compact (value : Json) : String :=
  String.ofList value.chars

end Psychometrics.Json
