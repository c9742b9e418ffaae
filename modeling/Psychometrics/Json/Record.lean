import Psychometrics.Json.Basic
import Std.Data.ExtTreeMap
import Std.Data.ExtTreeSet

/-!
# Readers for JSON values

A reader of a type takes a JSON value and yields an element of the type, or nothing if the value
has the wrong shape.  This file has the readers of the basic types, the ways to combine them, and
the writers beside them; each reader takes back what its writer has written.

A record is read from an object by field name, or from an array by position.  Unknown fields are
ignored, a repeated field is refused, and so is an item beyond the last position.  Whether a
missing field is refused or has a default is for the reader of the record to say (`required`,
`orDefault`).
-/

namespace Psychometrics.Json

/-! ### Basic types -/

/-- Reads a text. -/
def string? : Json → Option String
  | .string s => some s
  | _ => none

/-- Reads a truth value. -/
def bool? : Json → Option Bool
  | .bool b => some b
  | _ => none

/-- Reads an unsigned 64-bit integer. -/
def count? : Json → Option Nat
  | .number (.integer i) => if 0 ≤ i ∧ i < UInt64.size then some i.toNat else none
  | _ => none

/-- Reads a signed 64-bit integer. -/
def int64? : Json → Option Int64
  | .number (.integer i) =>
    if Int64.minValue.toInt ≤ i ∧ i ≤ Int64.maxValue.toInt then some (Int64.ofInt i) else none
  | _ => none

/-- Writes a signed 64-bit integer. -/
def int64 (i : Int64) : Json :=
  .int i.toInt

/-- An integer of a word is read back from the number it is written as. -/
@[simp] theorem int64?_int64 (i : Int64) : int64? (int64 i) = some i := by
  have h : Int64.minValue.toInt ≤ i.toInt ∧ i.toInt ≤ Int64.maxValue.toInt :=
    ⟨i.minValue_le_toInt, i.toInt_le⟩
  unfold int64? int64 int
  simp only
  rw [if_pos h, Int64.ofInt_toInt]

/-- Reads null as the absence of a value. -/
def nullable? (read : Json → Option α) : Json → Option (Option α)
  | .null => some none
  | value => (read value).map some

/-- Writes the absence of a value as null. -/
def nullable (write : α → Json) : Option α → Json
  | none => .null
  | some a => write a

/-- What a nullable writer has written is read back, if the writer itself never writes null. -/
theorem nullable?_nullable {read : Json → Option α} {write : α → Json} {a : Option α}
    (h : ∀ x, a = some x → write x ≠ .null ∧ read (write x) = some x) :
    nullable? read (nullable write a) = some a := by
  cases a with
  | none => rfl
  | some x =>
    obtain ⟨hne, hx⟩ := h x rfl
    unfold nullable? nullable
    split
    · next hnull => exact absurd hnull hne
    · simp [hx]

/-! ### Collections -/

/-- Reads the items of an array. -/
def list? (read : Json → Option α) : Json → Option (List α)
  | .array items => items.mapM read
  | _ => none

/-- Writes a list as an array. -/
def list (write : α → Json) (xs : List α) : Json :=
  .array (xs.map write)

/-- Reads the values of the fields of an object. -/
def entries? (read : Json → Option α) (fields : List (String × Json)) :
    Option (List (String × α)) :=
  fields.mapM fun field => (read field.2).map fun a => (field.1, a)

/-- Reads an object as a table; of a repeated key the last field counts. -/
def table? (read : Json → Option α) : Json → Option (Std.ExtTreeMap String α)
  | .object fields => (entries? read fields).map (Std.ExtTreeMap.ofList ·)
  | _ => none

/-- Writes a table as an object, its keys in ascending order. -/
def table (write : α → Json) (t : Std.ExtTreeMap String α) : Json :=
  .object (t.toList.map fun entry => (entry.1, write entry.2))

/-- Reads an array of integers as a set. -/
def int64Set? (value : Json) : Option (Std.ExtTreeSet Int64) :=
  (list? int64? value).map (Std.ExtTreeSet.ofList ·)

/-- Writes a set of integers as an array, in ascending order. -/
def int64Set (s : Std.ExtTreeSet Int64) : Json :=
  list int64 s.toList

/-- A list is read back from what its elements are written as, if each element is. -/
theorem mapM_map_eq_some {read : β → Option α} {write : α → β} {xs : List α}
    (h : ∀ x ∈ xs, read (write x) = some x) : (xs.map write).mapM read = some xs := by
  induction xs with
  | nil => rfl
  | cons x xs ih =>
    simp [List.mapM_cons, h x (by simp), ih fun y hy => h y (by simp [hy])]

/-- A list is read back from the array it is written as. -/
@[simp] theorem list?_list {read : Json → Option α} {write : α → Json} {xs : List α}
    (h : ∀ x ∈ xs, read (write x) = some x) : list? read (list write xs) = some xs :=
  mapM_map_eq_some h

/-! ### Choices -/

/-- Reads one of several names: the name itself, or an object that gives it the value null. -/
def choice? (names : List (String × α)) : Json → Option α
  | .string s => names.lookup s
  | .object [(s, .null)] => names.lookup s
  | _ => none

/-! ### Records -/

/-- What is given under some accepted names of one field: nothing, one value, or a repetition, which
is refused. -/
def field? (names : List String) (fields : List (String × Json)) : Option (Option Json) :=
  match fields.filter fun field => names.contains field.1 with
  | [] => some none
  | [field] => some (some field.2)
  | _ => none

/-- The parts of a record with the given fields, each listed with its accepted names.  An object
offers its parts by name and an array by position. -/
def record? (fieldNames : List (List String)) : Json → Option (List (Option Json))
  | .object fields => fieldNames.mapM fun names => field? names fields
  | .array items =>
    if items.length ≤ fieldNames.length then
      some ((List.range fieldNames.length).map fun i => items[i]?)
    else none
  | _ => none

/-- Reads a part that must be given. -/
def required (read : Json → Option α) : Option Json → Option α
  | none => none
  | some value => read value

/-- Reads a part that has a default. -/
def orDefault (default : α) (read : Json → Option α) : Option Json → Option α
  | none => some default
  | some value => read value

end Psychometrics.Json
