/-!
# Finite doubles

The magnitudes of the finite binary doubles: 53 significant binary digits, and no digit below
`2 ^ (-1074)`.  A magnitude is counted in units of that least positive double, so it is a natural
number, and rounding is exact arithmetic on natural numbers: `Double.ofUnits?` takes a quotient to
the nearest magnitude, a half to the even neighbour, and refuses what lies beyond the greatest one.

Main statements: `roundDiv_mul_le` and `le_roundDiv_mul`, a rounded quotient is off by at most a
half; `Double.roundUnits_one`, a whole number of at most 53 binary digits is kept.
-/

namespace Psychometrics.Json

/-! ### Rounding a quotient -/

/-- The quotient of two numbers, rounded to the nearest whole number, a half to the even one. -/
def roundDiv (num den : Nat) : Nat :=
  if 2 * (num % den) < den then num / den
  else if 2 * (num % den) = den then num / den + num / den % 2
  else num / den + 1

/-- A rounded quotient is at most a half too large. -/
theorem roundDiv_mul_le (num : Nat) {den : Nat} (hden : 0 < den) :
    2 * (roundDiv num den * den) ≤ 2 * num + den := by
  have hdiv := Nat.div_add_mod' num den
  have hmod := Nat.mod_lt num hden
  have hodd : num / den % 2 * den ≤ den := by
    calc num / den % 2 * den ≤ 1 * den := Nat.mul_le_mul_right den (by omega)
      _ = den := Nat.one_mul den
  unfold roundDiv
  split
  · omega
  · split
    · rw [Nat.add_mul]; omega
    · rw [Nat.add_mul]; omega

/-- A rounded quotient is at most a half too small. -/
theorem le_roundDiv_mul (num : Nat) {den : Nat} (hden : 0 < den) :
    2 * num ≤ 2 * (roundDiv num den * den) + den := by
  have hdiv := Nat.div_add_mod' num den
  have hmod := Nat.mod_lt num hden
  unfold roundDiv
  split
  · omega
  · split
    · rw [Nat.add_mul]; omega
    · rw [Nat.add_mul]; omega

/-- A whole number is its own rounded quotient. -/
@[simp]
theorem roundDiv_one (num : Nat) : roundDiv num 1 = num := by
  simp [roundDiv, Nat.mod_one]

/-! ### Magnitudes -/

/-- The units in a whole. -/
def unitsPerOne : Nat :=
  Nat.pow 2 1074

/-- The least power of two beyond all finite doubles, in units. -/
def overflow : Nat :=
  Nat.pow 2 1024 * unitsPerOne

/-- There is a least number too large for a double, and it is positive. -/
theorem overflow_pos : 0 < overflow := by
  have hpow : ∀ m n, 0 < Nat.pow 2 m * Nat.pow 2 n := fun m n =>
    Nat.mul_pos (Nat.two_pow_pos m) (Nat.two_pow_pos n)
  unfold overflow unitsPerOne
  exact hpow 1024 1074

/-- The magnitude of a finite double, as a multiple of `2 ^ (-1074)`. -/
structure Double where
  units : Nat
  finite : units < overflow
  deriving DecidableEq

namespace Double

instance : Zero Double := ⟨⟨0, overflow_pos⟩⟩

/-- The quotient of two numbers, rounded to 53 significant binary digits but not below one. -/
def roundUnits (num den : Nat) : Nat :=
  let place := Nat.pow 2 ((num / den).log2 - 52)
  roundDiv num (den * place) * place

/-- A whole number of at most 53 binary digits is kept. -/
theorem roundUnits_one {n : Nat} (h : n < Nat.pow 2 53) : roundUnits n 1 = n := by
  have hlog : n.log2 - 52 = 0 := by
    by_cases hn : n = 0
    · simp [hn]
    · have := (Nat.log2_lt hn).2 h
      omega
  simp [roundUnits, hlog]

/-- The magnitude nearest to a quotient of units, unless it is beyond the greatest one. -/
def ofUnits? (num den : Nat) : Option Double :=
  if h : roundUnits num den < overflow then some ⟨roundUnits num den, h⟩ else none

/-- The magnitude nearest to the quotient of two numbers. -/
def ofQuotient? (num den : Nat) : Option Double :=
  ofUnits? (num * unitsPerOne) den

/-- The rounded product of two magnitudes. -/
def mul? (x y : Double) : Option Double :=
  ofUnits? (x.units * y.units) unitsPerOne

/-- The rounded quotient of two magnitudes. -/
def div? (x y : Double) : Option Double :=
  ofUnits? (x.units * unitsPerOne) y.units

end Double

end Psychometrics.Json
