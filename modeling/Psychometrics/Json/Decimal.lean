import Psychometrics.Json.Double

/-!
# Decimals and doubles

A number literal that is no 64-bit integer denotes a double.  Its digits are taken into a
significand of 64 bits as far as they fit (`Decimal.ofRuns`); the significand and the power of ten
are then rounded one by one, and their product or quotient is rounded again (`Decimal.double?`).
The result can be a neighbour of the double that is nearest to the literal.

In the other direction, `Double.shortest` is the decimal with the fewest digits among those that
have a given double as their nearest one.

Main statements: `Decimal.appendDigits_lt`, the significand keeps to 64 bits, and
`Decimal.appendDigits_of_lt`, digits that fit are read without loss.
-/

namespace Psychometrics.Json

/-- The number `digits * 10 ^ exponent`. -/
structure Decimal where
  digits : Nat
  exponent : Int
  deriving DecidableEq

namespace Decimal

/-! ### The digits of a literal -/

/-- Appends digits to a significand up to the first one that would take it beyond 64 bits.  The
digits from there on are left over. -/
def appendDigits (significand : Nat) : List Char → Nat × List Char
  | [] => (significand, [])
  | c :: cs =>
    let next := 10 * significand + (c.toNat - '0'.toNat)
    if next < UInt64.size then appendDigits next cs else (significand, c :: cs)

/-- A significand of 64 bits stays one. -/
theorem appendDigits_lt {significand : Nat} (h : significand < UInt64.size) (cs : List Char) :
    (appendDigits significand cs).1 < UInt64.size := by
  induction cs generalizing significand with
  | nil => exact h
  | cons c cs ih =>
    simp only [appendDigits]
    split
    · next hnext => exact ih hnext
    · exact h

/-- Digits never make a number smaller. -/
theorem le_ofDigitChars (cs : List Char) (significand : Nat) :
    significand ≤ Nat.ofDigitChars 10 cs significand := by
  induction cs generalizing significand with
  | nil => simp
  | cons c cs ih =>
    have h := ih (10 * significand + (c.toNat - '0'.toNat))
    rw [Nat.ofDigitChars_cons]
    omega

/-- Digits that fit are all appended. -/
theorem appendDigits_of_lt {significand : Nat} {cs : List Char}
    (h : Nat.ofDigitChars 10 cs significand < UInt64.size) :
    appendDigits significand cs = (Nat.ofDigitChars 10 cs significand, []) := by
  induction cs generalizing significand with
  | nil => simp [appendDigits]
  | cons c cs ih =>
    rw [Nat.ofDigitChars_cons] at h ⊢
    have hle := le_ofDigitChars cs (10 * significand + (c.toNat - '0'.toNat))
    have hnext : 10 * significand + (c.toNat - '0'.toNat) < UInt64.size :=
      Nat.lt_of_le_of_lt hle h
    simp only [appendDigits, if_pos hnext, ih h]

/-- The decimal of a literal with digits before the point, digits behind it and an exponent.  A
digit that is left over before the point still counts as a place; behind the point it does not. -/
def ofRuns (whole fraction : List Char) (exponent : Int) : Decimal :=
  let (significand, places) := appendDigits 0 whole
  let (significand, ignored) := appendDigits significand fraction
  ⟨significand, exponent + places.length - (fraction.length - ignored.length : Nat)⟩

/-! ### From decimals to doubles -/

/-- The greatest exponent of a power of ten that is finite as a double. -/
def maxPower : Nat :=
  308

/-- The double nearest to a power of ten. -/
def power? (exponent : Nat) : Option Double :=
  Double.ofQuotient? (Nat.pow 10 exponent) 1

/-- A magnitude divided by a power of ten; the division is done in steps when that power is not
finite. -/
def divPower? (x : Double) (exponent : Nat) : Option Double :=
  if exponent ≤ maxPower then do x.div? (← power? exponent)
  else if x = 0 then some 0
  else do divPower? (← x.div? (← power? maxPower)) (exponent - maxPower)
termination_by exponent
decreasing_by simp only [maxPower] at *; omega

/-- A magnitude multiplied by a power of ten. -/
def mulPower? (x : Double) (exponent : Nat) : Option Double :=
  if exponent ≤ maxPower then do x.mul? (← power? exponent)
  else if x = 0 then some 0
  else none

/-- The double that a decimal denotes: its digits are rounded first, then scaled.  There is none
when the result is not finite. -/
def double? (decimal : Decimal) : Option Double := do
  let digits ← Double.ofQuotient? decimal.digits 1
  match decimal.exponent with
  | .ofNat exponent => mulPower? digits exponent
  | .negSucc exponent => divPower? digits (exponent + 1)

/-- The double nearest to a decimal. -/
def nearest? (decimal : Decimal) : Option Double :=
  Double.ofQuotient? (decimal.digits * Nat.pow 10 decimal.exponent.toNat)
    (Nat.pow 10 (-decimal.exponent).toNat)

end Decimal

/-! ### From doubles to decimals -/

namespace Double

/-- The multiples of a power of ten next to a magnitude, the nearest one first. -/
def multiples (x : Double) (exponent : Int) : List Decimal :=
  let num := x.units * Nat.pow 10 (-exponent).toNat
  let den := unitsPerOne * Nat.pow 10 exponent.toNat
  [roundDiv num den, num / den, num / den + 1].map fun digits => ⟨digits, exponent⟩

/-- A magnitude as an exact decimal. -/
def exact (x : Double) : Decimal :=
  ⟨x.units * Nat.pow 5 1074, -1074⟩

/-- The decimal with the fewest digits that has a magnitude as its nearest double: the multiple of
the greatest possible power of ten. -/
def shortest (x : Double) : Decimal :=
  if x = 0 then ⟨0, 0⟩
  else
    let exponents := (List.range 633).map fun (i : Nat) => (308 : Int) - i
    let found := exponents.findSome? fun exponent =>
      (x.multiples exponent).find? fun decimal => decimal.nearest? == some x
    found.getD x.exact

end Double

end Psychometrics.Json
