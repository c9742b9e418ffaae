/-!
# Blank characters and words

Names, labels and questionnaire texts are free Unicode text.  This file fixes which characters
count as blank (the Unicode property `White_Space`) and what follows from that choice: the
trimmed form of a text, its words, and its one-line form, in which every run of blanks has become
a single space.

The one-line form is what makes free text safe inside a comment line: it contains no line break
(`oneLine` keeps only the words and joins them by spaces).
-/

namespace Psychometrics.Text

/-! ### Blank characters -/

/-- A character is blank when it has the Unicode property `White_Space`. -/
def isBlank (c : Char) : Bool :=
  let n := c.toNat
  (9 ≤ n && n ≤ 13) || n == 0x20 || n == 0x85 || n == 0xA0 || n == 0x1680 ||
    (0x2000 ≤ n && n ≤ 0x200A) || n == 0x2028 || n == 0x2029 || n == 0x202F || n == 0x205F ||
    n == 0x3000

/-- A line break is blank. -/
theorem isBlank_newline : isBlank '\n' = true := by decide

/-- A text is blank when it holds no character other than blanks; the empty text is blank. -/
def isBlankText (s : String) : Bool :=
  s.toList.all isBlank

/-! ### Trimming -/

/-- Drops the blanks at both ends of a list of characters. -/
def trimChars (cs : List Char) : List Char :=
  ((cs.dropWhile isBlank).reverse.dropWhile isBlank).reverse

/-- A text without the blanks at its two ends. -/
def trim (s : String) : String :=
  String.ofList (trimChars s.toList)

/-! ### Words -/

/-- A list of characters opens with a word when its first character is not blank. -/
def opensWord : List Char → Bool
  | [] => false
  | c :: _ => !isBlank c

/-- Puts a character in front of the first word. -/
def extendFirst (c : Char) : List (List Char) → List (List Char)
  | [] => [[c]]
  | w :: ws => (c :: w) :: ws

/-- The words of a text: its maximal runs of characters that are not blank, in order. -/
def words : List Char → List (List Char)
  | [] => []
  | c :: cs =>
    if isBlank c then words cs
    else if opensWord cs then extendFirst c (words cs)
    else [c] :: words cs

/-- No word is empty, and no word holds a blank. -/
theorem not_blank_of_mem_words {cs w : List Char} (h : w ∈ words cs) :
    w ≠ [] ∧ ∀ c ∈ w, isBlank c = false := by
  induction cs generalizing w with
  | nil => simp [words] at h
  | cons c cs ih =>
    by_cases hc : isBlank c = true
    · exact ih (by simpa [words, hc] using h)
    · have hc' : isBlank c = false := by simpa using hc
      simp only [words, hc', Bool.false_eq_true, if_false] at h
      split at h
      · cases hw : words cs with
        | nil =>
          simp only [hw, extendFirst, List.mem_singleton] at h
          subst h
          simp [hc']
        | cons v vs =>
          simp only [hw, extendFirst, List.mem_cons] at h
          rcases h with rfl | h
          · have hv := ih (w := v) (by simp [hw])
            exact ⟨by simp, by simpa [hc'] using hv.2⟩
          · exact ih (by simp [hw, h])
      · rcases List.mem_cons.1 h with rfl | h
        · simp [hc']
        · exact ih h

/-! ### One line -/

/-- The words of a text, joined by single spaces. -/
def oneLineChars (cs : List Char) : List Char :=
  [' '].intercalate (words cs)

/-- The text on one line: every run of blanks becomes one space, and none is left at the ends. -/
def oneLine (s : String) : String :=
  String.ofList (oneLineChars s.toList)

end Psychometrics.Text
