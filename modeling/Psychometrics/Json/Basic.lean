import Psychometrics.Json.Double

/-!
# JSON values

Configurations are stored and exchanged as JSON.  This file fixes the values: integers are kept
exactly, other numbers as doubles, and objects keep their fields in written order, repeated keys
included, so that a reader can decide for itself what a repetition means.

`Json.resolve?` settles that question for a value that is kept as a tree: of a repeated key the
last occurrence counts, every part has to denote a value, and nesting is bounded.
-/

namespace Psychometrics

/-! ### Numbers -/

/-- A JSON number.  A literal without fraction and exponent is an integer as long as it fits 64
bits, signed or unsigned; every other literal is a double with its sign.  The literal `-0` is a
double, since no integer carries that sign. -/
inductive Json.Number
  | integer (value : Int)
  | double (negative : Bool) (magnitude : Json.Double)
  deriving DecidableEq

/-- The integers that a literal denotes as integers: the signed and the unsigned 64-bit ones. -/
def Json.Number.isWord (i : Int) : Bool :=
  Int64.minValue.toInt ≤ i && i < UInt64.size

/-! ### Values -/

/-- A JSON value.  `illFormed` stands for text that obeys the grammar and still denotes no value: a
number beyond the doubles, a string with an unpaired surrogate escape, or an object with such a key.
It can be skipped where a value is ignored, and is refused everywhere else. -/
inductive Json
  | null
  | bool (value : Bool)
  | number (value : Json.Number)
  | string (value : String)
  | array (items : List Json)
  | object (fields : List (String × Json))
  | illFormed

namespace Json

instance : Inhabited Json := ⟨.null⟩

/-- The number with the given integer value. -/
def int (i : Int) : Json :=
  .number (.integer i)

/-- The value under a key of an object; of a repeated key, the first one. -/
def get? (key : String) : Json → Option Json
  | .object fields => fields.lookup key
  | _ => none

/-- An object without the fields of one key; any other value is left alone. -/
def withoutKey (key : String) : Json → Json
  | .object fields => .object (fields.filter fun field => field.1 != key)
  | value => value

/-! ### Trees -/

/-- Keeps the last field of every key. -/
def lastFields : List (String × Json) → List (String × Json)
  | [] => []
  | field :: rest =>
    if rest.any fun later => later.1 == field.1 then lastFields rest else field :: lastFields rest

/-- How deep arrays and objects may be nested in a tree. -/
def maxDepth : Nat :=
  127

mutual

/-- The tree of a value with at most `depth` nested containers: the last field of a repeated key
counts.  There is none when a part is ill-formed or the nesting is too deep. -/
def resolveWithin (depth : Nat) : Json → Option Json
  | .null => some .null
  | .bool b => some (.bool b)
  | .number n => some (.number n)
  | .string s => some (.string s)
  | .array items =>
    match depth with
    | 0 => none
    | depth + 1 => (resolveItems depth items).map .array
  | .object fields =>
    match depth with
    | 0 => none
    | depth + 1 => (resolveFields depth fields).map fun fields => .object (lastFields fields)
  | .illFormed => none

/-- The trees of the items of an array. -/
def resolveItems (depth : Nat) : List Json → Option (List Json)
  | [] => some []
  | item :: items => do
    let item ← resolveWithin depth item
    let items ← resolveItems depth items
    return item :: items

/-- The trees of the fields of an object. -/
def resolveFields (depth : Nat) : List (String × Json) → Option (List (String × Json))
  | [] => some []
  | (key, value) :: fields => do
    let value ← resolveWithin depth value
    let fields ← resolveFields depth fields
    return (key, value) :: fields

end

/-- The tree of a value. -/
def resolve? (value : Json) : Option Json :=
  resolveWithin maxDepth value

end Json

end Psychometrics
