import Psychometrics.Text.Blank

/-!
# Short codes

A construct is abbreviated by a short code of upper-case ASCII letters and digits.  The code is
either typed by the user or derived from the name of the construct: the first letters of its first
two words, or the first two letters of a single word.

Both go through the full Unicode upper case of the text, of which only `A` to `Z` and `0` to `9`
survive.  Besides the ASCII letters and digits just seventeen characters have such a letter in
their upper case (`ß` gives `SS`, the ligature `ﬁ` gives `FI`), so that the map is given here
directly as `codeChars`.
-/

namespace Psychometrics.Text

/-! ### Characters of a code -/

/-- The characters from `A` to `Z` and from `0` to `9`. -/
def isCodeChar (c : Char) : Bool :=
  c.isUpper || c.isDigit

/-- What remains of the full upper case of a character once everything but `A` to `Z` and `0` to
`9` is dropped. -/
def codeChars (c : Char) : List Char :=
  if c.isLower then [c.toUpper]
  else if isCodeChar c then [c]
  else
    match c with
    | 'ß' => ['S', 'S']
    | 'ı' => ['I']
    | 'ŉ' => ['N']
    | 'ſ' => ['S']
    | 'ǰ' => ['J']
    | 'ẖ' => ['H']
    | 'ẗ' => ['T']
    | 'ẘ' => ['W']
    | 'ẙ' => ['Y']
    | 'ẚ' => ['A']
    | 'ﬀ' => ['F', 'F']
    | 'ﬁ' => ['F', 'I']
    | 'ﬂ' => ['F', 'L']
    | 'ﬃ' => ['F', 'F', 'I']
    | 'ﬄ' => ['F', 'F', 'L']
    | 'ﬅ' => ['S', 'T']
    | 'ﬆ' => ['S', 'T']
    | _ => []

/-- The upper case of a lower-case letter is a character of a code. -/
theorem isCodeChar_toUpper {c : Char} (h : c.isLower = true) : isCodeChar c.toUpper = true := by
  have hrange : (decide (97 ≤ c.val) && decide (c.val ≤ 122)) = true := h
  have hbounds : 97 ≤ c.toNat ∧ c.toNat < 123 := by
    simpa [UInt32.le_iff_toNat_le, Nat.lt_succ_iff] using hrange
  have hletters : ∀ n < 123, 97 ≤ n → isCodeChar (Char.ofNat n).toUpper = true := by decide
  have hc := hletters c.toNat hbounds.2 hbounds.1
  rwa [Char.ofNat_toNat] at hc

/-- What remains of a character are characters of a code. -/
theorem all_isCodeChar_codeChars (c : Char) : (codeChars c).all isCodeChar = true := by
  unfold codeChars
  split
  · next hlower => simp [isCodeChar_toUpper hlower]
  · split
    · next hcode => simp [hcode]
    · split <;> rfl

/-! ### Normal form and derivation -/

/-- The normal form of a short code: upper case, with everything outside `A` to `Z` and `0` to `9`
left out. -/
def normalizeCode (raw : String) : String :=
  String.ofList (raw.toList.flatMap codeChars)

/-- A code in normal form holds nothing but upper-case letters and digits. -/
theorem isCodeChar_of_mem_normalizeCode {raw : String} {x : Char}
    (h : x ∈ (normalizeCode raw).toList) : isCodeChar x = true := by
  rw [normalizeCode, String.toList_ofList] at h
  obtain ⟨c, -, hx⟩ := List.mem_flatMap.1 h
  exact List.all_eq_true.1 (all_isCodeChar_codeChars c) x hx

/-- The letters of a name that its short code is made of. -/
def initials : List (List Char) → List Char
  | [] => []
  | [word] => word.take 2
  | first :: second :: _ => first.take 1 ++ second.take 1

/-- The short code of a name: the first letters of its first two words, or the first two letters of
its only word, in normal form. -/
def deriveCode (name : String) : String :=
  normalizeCode (String.ofList (initials (words name.toList)))

end Psychometrics.Text
