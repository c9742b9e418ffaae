import Psychometrics.Text.Blank
import Psychometrics.Timestamp.Basic

/-!
# The text of a timestamp

Timestamps are written after RFC 3339, in UTC: `2024-03-01T09:30:00Z`, with the shortest of no,
three, six or nine fraction digits that is exact.  Years outside 0 to 9999 carry a sign.

The reader is more liberal.  Fields may have fewer digits and blanks in front of them, the date and
the time may be separated by `T`, `t` or a space, further fraction digits are cut off, and the zone
may be `Z`, `z`, `UTC` in any case, or an offset of hours and minutes.
-/

namespace Psychometrics.Timestamp

open Psychometrics.Text

/-! ### Writing -/

/-- A number in decimal, filled up with zeros to at least `width` digits. -/
def padded (width n : Nat) : List Char :=
  let digits := Nat.toDigits 10 n
  List.replicate (width - digits.length) '0' ++ digits

/-- The text of a year. -/
def yearChars (year : Int) : List Char :=
  if 0 ≤ year ∧ year ≤ 9999 then padded 4 year.toNat
  else (if year < 0 then '-' else '+') :: padded 4 year.natAbs

/-- The fraction of a second, with its point, in as few groups of three digits as are exact. -/
def fractionChars (nanos : Nat) : List Char :=
  if nanos == 0 then []
  else if nanos % 1000000 == 0 then '.' :: padded 3 (nanos / 1000000)
  else if nanos % 1000 == 0 then '.' :: padded 6 (nanos / 1000)
  else '.' :: padded 9 nanos

/-- The text of the fields of a time in UTC. -/
def Fields.chars (f : Fields) : List Char :=
  yearChars f.year ++ '-' :: padded 2 f.month ++ '-' :: padded 2 f.day ++ 'T' :: padded 2 f.hour ++
    ':' :: padded 2 f.minute ++ ':' :: padded 2 f.second ++ fractionChars f.nanos ++ ['Z']

/-- The text of a timestamp. -/
def format (t : Timestamp) : String :=
  String.ofList t.fields.chars

/-! ### Reading -/

/-- Reads up to `most` digits, at least one. -/
def digits? (most : Nat) (cs : List Char) : Option (List Char × List Char) :=
  let ds := (cs.take most).takeWhile Char.isDigit
  if ds == [] then none else some (ds, cs.drop ds.length)

/-- Reads a number of up to `most` digits, with blanks in front. -/
def number? (most : Nat) (cs : List Char) : Option (Nat × List Char) :=
  (digits? most (cs.dropWhile isBlank)).map fun (ds, rest) => (Nat.ofDigitChars 10 ds 0, rest)

/-- Reads a number of any length with nothing in front. -/
def longNumber? (cs : List Char) : Option (Nat × List Char) :=
  (digits? cs.length cs).map fun (ds, rest) => (Nat.ofDigitChars 10 ds 0, rest)

/-- Reads a year: up to four digits, or a sign and any number of digits. -/
def year? (cs : List Char) : Option (Int × List Char) :=
  match cs.dropWhile isBlank with
  | '-' :: rest => (longNumber? rest).map fun (n, rest) => (-(n : Int), rest)
  | '+' :: rest => (longNumber? rest).map fun (n, rest) => ((n : Int), rest)
  | rest => (number? 4 rest).map fun (n, rest) => ((n : Int), rest)

/-- Reads a separator, with blanks in front. -/
def mark? (mark : Char) (cs : List Char) : Option (List Char) :=
  match cs.dropWhile isBlank with
  | c :: rest => if c == mark then some rest else none
  | [] => none

/-- Reads what separates the date from the time. -/
def dateEnd? : List Char → Option (List Char)
  | c :: rest => if c == 'T' || c == 't' || c == ' ' then some rest else none
  | [] => none

/-- Reads the fraction of a second, if there is one: nine digits count, and any further ones are
skipped. -/
def fraction? : List Char → Option (Nat × List Char)
  | '.' :: cs =>
    (digits? 9 cs).map fun (ds, rest) =>
      (Nat.ofDigitChars 10 ds 0 * Nat.pow 10 (9 - ds.length), rest.dropWhile Char.isDigit)
  | cs => some (0, cs)

/-- Reads exactly two digits. -/
def twoDigits? : List Char → Option (Nat × List Char)
  | c :: d :: rest =>
    if c.isDigit && d.isDigit then some (Nat.ofDigitChars 10 [c, d] 0, rest) else none
  | _ => none

/-- Reads the hours and minutes of an offset, in minutes; colons and blanks may stand between
them. -/
def offset? (cs : List Char) : Option (Nat × List Char) := do
  let (hours, rest) ← twoDigits? cs
  let (minutes, rest) ← twoDigits? (rest.dropWhile fun c => c == ':' || isBlank c)
  if minutes < 60 ∧ 60 * hours + minutes < 1440 then some (60 * hours + minutes, rest) else none

/-- Reads a zone: how many minutes local time is ahead of UTC. -/
def zone? (cs : List Char) : Option (Int × List Char) :=
  match cs.dropWhile isBlank with
  | 'Z' :: rest => some (0, rest)
  | 'z' :: rest => some (0, rest)
  | '+' :: rest => (offset? rest).map fun (n, rest) => ((n : Int), rest)
  | '-' :: rest => (offset? rest).map fun (n, rest) => (-(n : Int), rest)
  | '−' :: rest => (offset? rest).map fun (n, rest) => (-(n : Int), rest)
  | u :: t :: c :: rest =>
    if u.toLower == 'u' && t.toLower == 't' && c.toLower == 'c' then some (0, rest) else none
  | _ => none

/-- The timestamp with the given fields, if they are valid. -/
def ofFields? (f : Fields) : Option Timestamp :=
  if h : f.isValid = true then some ⟨f, h⟩ else none

/-- Reads a timestamp from the characters of its text. -/
def ofChars? (cs : List Char) : Option Timestamp := do
  let (year, rest) ← year? cs
  let (month, rest) ← number? 2 (← mark? '-' rest)
  let (day, rest) ← number? 2 (← mark? '-' rest)
  let (hour, rest) ← number? 2 (← dateEnd? rest)
  let (minute, rest) ← number? 2 (← mark? ':' rest)
  let (second, rest) ← number? 2 (← mark? ':' rest)
  let (nanos, rest) ← fraction? rest
  let (offset, rest) ← zone? rest
  let stated ← ofFields? ⟨year, month, day, hour, minute, second, nanos⟩
  if rest.all isBlank then ofFields? (stated.fields.toUtc offset) else none

/-- Reads a timestamp from its text. -/
def parse? (text : String) : Option Timestamp :=
  ofChars? text.toList

end Psychometrics.Timestamp
