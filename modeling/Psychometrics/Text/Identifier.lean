/-!
# Identifiers

The compiled text names every variable by an identifier: a letter or an underscore, followed by
letters, digits and underscores, all of them ASCII.  `sanitize` turns arbitrary text into one, and
`isIdentifier` is the shape it has to reach.
-/

namespace Psychometrics.Text

/-! ### The shape of an identifier -/

/-- The characters an identifier may hold: ASCII letters, ASCII digits and the underscore. -/
def isNameChar (c : Char) : Bool :=
  c.isAlphanum || c == '_'

/-- The characters an identifier may start with: ASCII letters and the underscore. -/
def isNameStart (c : Char) : Bool :=
  c.isAlpha || c == '_'

/-- An identifier starts with a letter or an underscore and goes on with letters, digits and
underscores. -/
def isIdentifier (s : String) : Bool :=
  match s.toList with
  | [] => false
  | c :: cs => isNameStart c && cs.all isNameChar

/-- A character that may start an identifier may also stand inside it. -/
theorem isNameChar_of_isNameStart {c : Char} (h : isNameStart c = true) : isNameChar c = true := by
  simp only [isNameStart, Bool.or_eq_true] at h
  rcases h with h | h <;> simp [isNameChar, Char.isAlphanum, h]

/-- A name character that is no digit may start an identifier. -/
theorem isNameStart_of_isNameChar {c : Char} (h : isNameChar c = true) (hd : c.isDigit = false) :
    isNameStart c = true := by
  simpa [isNameChar, isNameStart, Char.isAlphanum, hd] using h

/-! ### Sanitizing -/

/-- Keeps a name character and replaces any other by an underscore. -/
def nameChar (c : Char) : Char :=
  if isNameChar c then c else '_'

/-- What a character is replaced by may stand inside an identifier. -/
theorem isNameChar_nameChar (c : Char) : isNameChar (nameChar c) = true := by
  unfold nameChar
  split
  · assumption
  · rfl

/-- Replaces every character that an identifier may not hold by an underscore. -/
def underscored (s : String) : String :=
  String.ofList (s.toList.map nameChar)

/-- The symbolic form of a text: every foreign character becomes an underscore, a leading digit is
put behind an underscore, and the empty text gives `fallback`. -/
def sanitize (raw fallback : String) : String :=
  match raw.toList.map nameChar with
  | [] => fallback
  | c :: cs => if c.isDigit then String.ofList ('_' :: c :: cs) else String.ofList (c :: cs)

/-- A text with at least one character always sanitizes to an identifier. -/
theorem isIdentifier_sanitize {raw : String} (h : raw.toList ≠ []) (fallback : String) :
    isIdentifier (sanitize raw fallback) = true := by
  unfold sanitize
  cases hr : raw.toList with
  | nil => exact absurd hr h
  | cons d ds =>
    have hall : ∀ x ∈ ds.map nameChar, isNameChar x = true := by
      intro x hx
      obtain ⟨y, -, rfl⟩ := List.mem_map.1 hx
      exact isNameChar_nameChar y
    simp only [List.map_cons]
    split
    · simp only [isIdentifier, String.toList_ofList, Bool.and_eq_true, List.all_eq_true]
      refine ⟨by decide, ?_⟩
      intro x hx
      rcases List.mem_cons.1 hx with rfl | hx
      · exact isNameChar_nameChar d
      · exact hall x hx
    · next hd =>
      simp only [isIdentifier, String.toList_ofList, Bool.and_eq_true, List.all_eq_true]
      exact ⟨isNameStart_of_isNameChar (isNameChar_nameChar d) (by simpa using hd), hall⟩

end Psychometrics.Text
