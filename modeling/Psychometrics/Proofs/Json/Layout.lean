import Mathlib
import Psychometrics.Json.Printer
import Psychometrics.Json.Token

/-!
# How compact texts are laid out

A compact text is made of words (names and numbers), strings, and marks of punctuation.  Words are
not ended by marks of their own: a word goes on until something follows at which it ends
(`Json.Stops`), and holds no such character itself (`Json.IsUnbroken`).  Items and fields stand in
lists that are separated by commas (`Json.separated`).
-/

namespace Psychometrics

/-! ### Digits -/

namespace Text

/-- A number is never written as nothing. -/
lemma intChars_ne_nil (i : Int) : intChars i ≠ [] := by
  cases i with
  | ofNat n => exact Nat.toDigits_ne_nil
  | negSucc n => exact List.cons_ne_nil _ _

/-- No integer is written as a name. -/
lemma intChars_ne_cons {i : Int} {c : Char} {cs : List Char} (hdigit : c.isDigit = false)
    (hminus : c ≠ '-') : intChars i ≠ c :: cs := by
  intro h
  rcases isDigit_or_eq_of_mem_intChars (h ▸ List.mem_cons_self) with hc | hc
  · rw [hdigit] at hc
    cases hc
  · exact hminus hc

end Text

namespace Json

/-! ### Words -/

/-- What follows a word in a text: nothing, or a character at which a word ends. -/
def Stops (rest : List Char) : Prop :=
  ∀ c ∈ rest.head?, Scanner.endsWord c = true

/-- A text without characters at which a word ends. -/
def IsUnbroken (cs : List Char) : Prop :=
  ∀ c ∈ cs, Scanner.endsWord c = false

/-- The end of a text ends a word. -/
lemma stops_nil : Stops [] := nofun

/-- A character that ends words ends the word before it. -/
lemma stops_cons {c : Char} {rest : List Char} (h : Scanner.endsWord c = true) :
    Stops (c :: rest) := by
  intro d hd
  obtain rfl := Option.some.inj hd
  exact h

/-- No word ends at a letter or a digit. -/
lemma endsWord_of_isAlphanum {c : Char} (h : c.isAlphanum = true) :
    Scanner.endsWord c = false := by
  have hne : ∀ d : Char, d.isAlphanum = false → c ≠ d := by
    rintro d hd rfl
    rw [hd] at h
    cases h
  have hmark : Token.ofMark? c = none := by
    unfold Token.ofMark?
    split <;> first | rfl | exact absurd rfl (hne _ (by decide))
  simp [Scanner.endsWord, isSpace, hmark, hne ' ' rfl, hne '\n' rfl, hne '\t' rfl, hne '\r' rfl,
    hne '"' rfl]

/-- A word of letters and digits is unbroken. -/
lemma isUnbroken_of_all_isAlphanum {cs : List Char} (h : cs.all Char.isAlphanum = true) :
    IsUnbroken cs :=
  fun c hc => endsWord_of_isAlphanum (List.all_eq_true.mp h c hc)

/-- A number in writing is unbroken. -/
lemma isUnbroken_intChars (i : Int) : IsUnbroken (Text.intChars i) := by
  intro c hc
  rcases Text.isDigit_or_eq_of_mem_intChars hc with h | rfl
  · exact endsWord_of_isAlphanum (by simp [Char.isAlphanum, h])
  · decide

/-- The values that are written as words, with their words. -/
def word? : Json → Option (List Char)
  | .null => some ['n', 'u', 'l', 'l']
  | .bool true => some ['t', 'r', 'u', 'e']
  | .bool false => some ['f', 'a', 'l', 's', 'e']
  | .number (.integer i) => some (Text.intChars i)
  | _ => none

section Word

variable {v : Json} {w : List Char}

/-- A value that is a word is written as that word. -/
lemma chars_of_word?_eq_some (h : v.word? = some w) : v.chars = w := by
  unfold word? at h
  split at h <;> cases h <;> simp [chars, Number.chars]

/-- A word has characters, and does not end at any of them. -/
lemma isUnbroken_of_word?_eq_some (h : v.word? = some w) : IsUnbroken w ∧ w ≠ [] := by
  unfold word? at h
  split at h
  · cases h
    exact ⟨isUnbroken_of_all_isAlphanum rfl, List.cons_ne_nil _ _⟩
  · cases h
    exact ⟨isUnbroken_of_all_isAlphanum rfl, List.cons_ne_nil _ _⟩
  · cases h
    exact ⟨isUnbroken_of_all_isAlphanum rfl, List.cons_ne_nil _ _⟩
  · cases h
    exact ⟨isUnbroken_intChars _, Text.intChars_ne_nil _⟩
  · cases h

end Word

/-! ### Escapes -/

/-- A hexadecimal digit is read back. -/
lemma hexDigit?_hexChar {n : Nat} (h : n < 16) : hexDigit? (Text.hexChar n) = some n := by
  revert n
  decide

/-- The four digits of a code unit, each of which can be read. -/
lemma exists_hexChars_four (n : Nat) : ∃ a b c d, Text.hexChars 4 n = [a, b, c, d] ∧
    hexDigit? a = some (n / 4096 % 16) ∧ hexDigit? b = some (n / 256 % 16) ∧
      hexDigit? c = some (n / 16 % 16) ∧ hexDigit? d = some (n % 16) := by
  have hdigit : ∀ k, hexDigit? (Text.hexChar (k % 16)) = some (k % 16) :=
    fun k => hexDigit?_hexChar (Nat.mod_lt k (by decide))
  refine ⟨Text.hexChar (n / 4096 % 16), Text.hexChar (n / 256 % 16), Text.hexChar (n / 16 % 16),
    Text.hexChar (n % 16), ?_, hdigit _, hdigit _, hdigit _, hdigit _⟩
  simp [Text.hexChars, Nat.div_div_eq_div_mul]

/-- A character of a string is written as a letter behind a backslash, as a code unit if it is a
control character without such a letter, or as itself. -/
lemma escapeChar_cases (c : Char) :
    (∃ letter, escaped? letter = some c ∧ letter ≠ 'u' ∧ escapeChar c = ['\\', letter]) ∨
      (c.toNat < 0x20 ∧ escapeChar c = '\\' :: 'u' :: Text.hexChars 4 c.toNat) ∨
        (c ≠ '"' ∧ c ≠ '\\' ∧ ¬ c.toNat < 0x20 ∧ escapeChar c = [c]) := by
  unfold escapeChar
  split
  iterate 7 exact .inl ⟨_, rfl, by decide, rfl⟩
  next hquote hbackslash _ _ _ _ _ =>
    split
    · next hcontrol => exact .inr (.inl ⟨hcontrol, rfl⟩)
    · next hplain => exact .inr (.inr ⟨hquote, hbackslash, hplain, rfl⟩)

/-! ### Lists -/

section Separated

variable {α β : Type}

/-- What is written of the elements of a list, with a comma between any two of them. -/
def separated (comma : β) (write : α → List β) : List α → List β
  | [] => []
  | a :: as => write a ++ as.flatMap fun b => comma :: write b

/-- Items are written with commas between them. -/
lemma itemChars_eq_separated (items : List Json) :
    itemChars items = separated ',' chars items := by
  induction items with
  | nil => rfl
  | cons item items ih =>
    cases items with
    | nil => simp [itemChars, separated]
    | cons next items => simp [itemChars, separated, ih]

/-- The text of a field. -/
def fieldText (field : String × Json) : List Char :=
  stringChars field.1 ++ ':' :: field.2.chars

/-- Fields are written with commas between them. -/
lemma fieldChars_eq_separated (fields : List (String × Json)) :
    fieldChars fields = separated ',' fieldText fields := by
  induction fields with
  | nil => rfl
  | cons field fields ih =>
    cases fields with
    | nil => simp [fieldChars, separated, fieldText]
    | cons next fields => simp [fieldChars, separated, fieldText, ih]

end Separated

end Json

end Psychometrics
