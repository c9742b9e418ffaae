/-!
# Hexadecimal text

Numbers of a fixed width in lower-case hexadecimal, as they appear in digests and in the escapes of
JSON strings.
-/

namespace Psychometrics.Text

/-- The lower-case hexadecimal digit of a number below sixteen. -/
def hexChar (n : Nat) : Char :=
  if n < 10 then Char.ofNat (48 + n) else Char.ofNat (87 + n)

/-- The last `width` hexadecimal digits of a number. -/
def hexChars : Nat → Nat → List Char
  | 0, _ => []
  | width + 1, n => hexChars width (n / 16) ++ [hexChar (n % 16)]

/-- A number of a fixed width has that many hexadecimal digits. -/
@[simp] theorem length_hexChars (width n : Nat) : (hexChars width n).length = width := by
  induction width generalizing n with
  | zero => rfl
  | succ width ih => simp [hexChars, ih]

end Psychometrics.Text
