/-!
# Decimal text

Integers in decimal: the digits without superfluous zeros, behind a minus sign for a negative one.
-/

namespace Psychometrics.Text

/-- The decimal text of an integer. -/
def intChars : Int → List Char
  | .ofNat n => Nat.toDigits 10 n
  | .negSucc n => '-' :: Nat.toDigits 10 (n + 1)

/-- The decimal text of an integer. -/
def ofInt (i : Int) : String :=
  String.ofList (intChars i)

/-- The decimal text of a natural number. -/
def ofNat (n : Nat) : String :=
  String.ofList (Nat.toDigits 10 n)

/-- Different numbers have different decimal digits. -/
theorem toDigits_injective {m n : Nat} (h : Nat.toDigits 10 m = Nat.toDigits 10 n) : m = n := by
  have := congrArg (Nat.ofDigitChars 10 · 0) h
  simpa [Nat.ofDigitChars_toDigits] using this

/-- No digit is a minus sign. -/
theorem toDigits_ne_cons_minus (m : Nat) (cs : List Char) : Nat.toDigits 10 m ≠ '-' :: cs := by
  intro h
  have hmem : '-' ∈ Nat.toDigits 10 m := by simp [h]
  exact absurd (Nat.isDigit_of_mem_toDigits (by decide) (by decide) hmem) (by decide)

/-- The text of an integer has digits and a minus sign. -/
theorem isDigit_or_eq_of_mem_intChars {i : Int} {c : Char} (h : c ∈ intChars i) :
    c.isDigit = true ∨ c = '-' := by
  cases i with
  | ofNat n => exact .inl (Nat.isDigit_of_mem_toDigits (by decide) (by decide) h)
  | negSucc n =>
    rcases List.mem_cons.1 h with rfl | h
    · exact .inr rfl
    · exact .inl (Nat.isDigit_of_mem_toDigits (by decide) (by decide) h)

/-- Different integers have different texts. -/
theorem intChars_injective {i j : Int} (h : intChars i = intChars j) : i = j := by
  match i, j, h with
  | .ofNat m, .ofNat n, h => exact congrArg Int.ofNat (toDigits_injective h)
  | .ofNat m, .negSucc n, h => exact absurd h (toDigits_ne_cons_minus m _)
  | .negSucc m, .ofNat n, h => exact absurd h.symm (toDigits_ne_cons_minus n _)
  | .negSucc m, .negSucc n, h =>
    have := toDigits_injective (List.cons.inj h).2
    exact congrArg Int.negSucc (by omega)

/-- Different numbers of items have different texts. -/
theorem ofInt_toInt_inj {a b : Int64} : ofInt a.toInt = ofInt b.toInt ↔ a = b := by
  refine ⟨fun h => ?_, fun h => by rw [h]⟩
  exact Int64.toInt_inj.mp (intChars_injective (String.ofList_injective h))

end Psychometrics.Text
