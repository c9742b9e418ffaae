import Mathlib
import Psychometrics.Json.Reader
import Psychometrics.Proofs.Json.Layout
import Psychometrics.Proofs.Json.Tree

/-!
# The tokens of a compact text

The automaton that looks for tokens finds in the compact text of a value the tokens of that value
(`Json.IsTree.scan?_chars`).  It takes a word for a token only at the character behind it, so that
the statement about a value in the midst of a text says what may follow.

The numbers of the value have to be integers of 64 bits, since longer literals are read as doubles.
That is part of what makes a value a tree (`Json.IsTree`).
-/

namespace Psychometrics.Json

/-! ### Tokens of values -/

mutual

/-- The tokens of a value. -/
def tokens : Json → List Token
  | .null => [.scalar .null]
  | .bool b => [.scalar (.bool b)]
  | .number n => [.scalar (.number n)]
  | .string s => [.text (some s)]
  | .array items => .leftBracket :: (itemTokens items ++ [.rightBracket])
  | .object fields => .leftBrace :: (fieldTokens fields ++ [.rightBrace])
  | .illFormed => []

/-- The tokens of the items of an array. -/
def itemTokens : List Json → List Token
  | [] => []
  | [item] => item.tokens
  | item :: items => item.tokens ++ .comma :: itemTokens items

/-- The tokens of the fields of an object. -/
def fieldTokens : List (String × Json) → List Token
  | [] => []
  | [(key, value)] => .text (some key) :: .colon :: value.tokens
  | (key, value) :: fields =>
    .text (some key) :: .colon :: (value.tokens ++ .comma :: fieldTokens fields)

end

/-- Between the tokens of items stand commas. -/
lemma itemTokens_eq_separated (items : List Json) :
    itemTokens items = separated .comma tokens items := by
  induction items with
  | nil => rfl
  | cons item items ih =>
    cases items with
    | nil => simp [itemTokens, separated]
    | cons next items => simp [itemTokens, separated, ih]

/-- The tokens of a field. -/
def tokensOfField (field : String × Json) : List Token :=
  .text (some field.1) :: .colon :: field.2.tokens

/-- Between the tokens of fields stand commas. -/
lemma fieldTokens_eq_separated (fields : List (String × Json)) :
    fieldTokens fields = separated .comma tokensOfField fields := by
  induction fields with
  | nil => rfl
  | cons field fields ih =>
    cases fields with
    | nil => simp [fieldTokens, separated, tokensOfField]
    | cons next fields => simp [fieldTokens, separated, tokensOfField, ih]

/-! ### Integers -/

/-- The text of a positive number does not begin with a zero. -/
lemma head?_toDigits_ne_zero {n : Nat} (h : 0 < n) : (Nat.toDigits 10 n).head? ≠ some '0' := by
  induction n using Nat.strong_induction_on with
  | _ n ih =>
    by_cases hlt : n < 10
    · rw [Nat.toDigits_of_lt_base hlt]
      simp [h.ne']
    · have hrest := ih (n / 10) (by omega) (by omega)
      rw [Nat.toDigits_of_base_le (by decide) (by omega), List.head?_append_of_ne_nil]
      · exact hrest
      · exact Nat.toDigits_ne_nil

/-- The digits of a number have no superfluous leading zero. -/
lemma isWhole_toDigits (n : Nat) : isWhole (Nat.toDigits 10 n) = true := by
  have hne : Nat.toDigits 10 n ≠ [] := Nat.toDigits_ne_nil
  cases n with
  | zero => rfl
  | succ n =>
    have hhead := head?_toDigits_ne_zero n.succ_pos
    simp [isWhole, hne, hhead]

/-- The digits of a 64-bit number are taken into the significand as they are. -/
lemma ofRuns_toDigits {n : Nat} (h : n < UInt64.size) :
    Decimal.ofRuns (Nat.toDigits 10 n) [] 0 = ⟨n, 0⟩ := by
  have hdigits : Nat.ofDigitChars 10 (Nat.toDigits 10 n) 0 = n :=
    Nat.ofDigitChars_toDigits (by decide) (by decide)
  have hread : Decimal.appendDigits 0 (Nat.toDigits 10 n) = (n, []) := by
    rw [Decimal.appendDigits_of_lt (by rwa [hdigits]), hdigits]
  simp [Decimal.ofRuns, hread, Decimal.appendDigits]

/-- A run of digits behind a sign is read as an integer of 64 bits, unless it is a negative zero. -/
lemma unsigned?_toDigits {negative : Bool} {n : Nat} (hn : n < UInt64.size)
    (hword : Number.isWord (if negative then -(n : Int) else n) = true)
    (hzero : (negative && n == 0) = false) :
    unsigned? negative (Nat.toDigits 10 n) = some (.int (if negative then -(n : Int) else n)) := by
  have hall : ∀ c ∈ Nat.toDigits 10 n, c.isDigit = true :=
    fun c hc => Nat.isDigit_of_mem_toDigits (by decide) (by decide) hc
  have htake : (Nat.toDigits 10 n).takeWhile Char.isDigit = Nat.toDigits 10 n :=
    List.takeWhile_eq_self_iff.mpr hall
  have hdrop : (Nat.toDigits 10 n).dropWhile Char.isDigit = [] :=
    List.dropWhile_eq_nil_iff.mpr hall
  simp only [unsigned?, htake, hdrop, isWhole_toDigits, if_true, ofWhole, ofRuns_toDigits hn]
  simp [hword, hzero]

/-- The literal of a 64-bit integer spells it. -/
lemma ofLiteral?_intChars {i : Int} (h : Number.isWord i = true) :
    ofLiteral? (Text.intChars i) = some (.int i) := by
  have hbounds : Int64.minValue.toInt ≤ i ∧ i < UInt64.size := by
    simpa [Number.isWord] using h
  have hmin : Int64.minValue.toInt = -9223372036854775808 := rfl
  cases i with
  | ofNat n =>
    have hn : n < UInt64.size := Int.ofNat_lt.mp hbounds.2
    have hread : unsigned? false (Nat.toDigits 10 n) = some (.int n) :=
      unsigned?_toDigits hn h rfl
    unfold ofLiteral?
    split
    · next cs hcs => exact absurd hcs (Text.toDigits_ne_cons_minus n cs)
    · exact hread
  | negSucc n =>
    have hn : n + 1 < UInt64.size := by
      have := hbounds.1
      rw [hmin] at this
      simp only [UInt64.size]
      omega
    have hread : unsigned? true (Nat.toDigits 10 (n + 1)) = some (.int (-(n + 1 : Nat))) :=
      unsigned?_toDigits hn h rfl
    exact hread

/-! ### Scanning on -/

namespace Scanner

/-- The tokens of a text, beginning with the automaton in some state. -/
def tokensFrom? (scanner : Scanner) (cs : List Char) : Option (List Token) :=
  (cs.foldlM step scanner).bind finish?

/-- A scanner that takes a character goes on with those that follow. -/
lemma tokensFrom?_cons (scanner : Scanner) (c : Char) (cs : List Char) :
    scanner.tokensFrom? (c :: cs) = (scanner.step c).bind fun next => next.tokensFrom? cs := by
  simp [tokensFrom?, Option.bind_assoc]

variable {found : List Token} {rest : List Char}

/-- A mark is a token by itself. -/
lemma tokensFrom?_mark {c : Char} {token : Token} (h : Token.ofMark? c = some token) :
    tokensFrom? ⟨.between, found⟩ (c :: rest) = tokensFrom? ⟨.between, token :: found⟩ rest := by
  rw [tokensFrom?_cons]
  unfold Token.ofMark? at h
  split at h <;> cases h <;> rfl

/-! ### Words -/

/-- The automaton takes in a word and goes on. -/
lemma tokensFrom?_word_append {w : List Char} (h : IsUnbroken w) (reversed : List Char) :
    tokensFrom? ⟨.word reversed, found⟩ (w ++ rest) =
      tokensFrom? ⟨.word (w.reverse ++ reversed), found⟩ rest := by
  induction w generalizing reversed with
  | nil => rfl
  | cons c w ih =>
    have hc : endsWord c = false := h c List.mem_cons_self
    have hstep : step ⟨.word reversed, found⟩ c = some ⟨.word (c :: reversed), found⟩ := by
      simp [step, hc]
    rw [List.cons_append, tokensFrom?_cons, hstep, Option.bind_some,
      ih (fun d hd => h d (List.mem_cons_of_mem _ hd))]
    simp

/-- A word is a token at the character behind it, which is then read as if it stood between two
tokens. -/
lemma tokensFrom?_ended {w : List Char} {token : Token} (h : Token.ofWord? w = some token)
    (hrest : Stops rest) : tokensFrom? ⟨.word w.reverse, found⟩ rest =
      tokensFrom? ⟨.between, token :: found⟩ rest := by
  cases rest with
  | nil => simp [tokensFrom?, finish?, h]
  | cons c rest =>
    have hc : endsWord c = true := hrest c rfl
    have hstep : step ⟨.word w.reverse, found⟩ c = step ⟨.between, token :: found⟩ c := by
      simp [step, hc, h]
    rw [tokensFrom?_cons, hstep, tokensFrom?_cons]

/-- A word is found where it is ended by what follows. -/
lemma tokensFrom?_word {w : List Char} {token : Token} (hunbroken : IsUnbroken w) (hne : w ≠ [])
    (h : Token.ofWord? w = some token) (hrest : Stops rest) :
    tokensFrom? ⟨.between, found⟩ (w ++ rest) = tokensFrom? ⟨.between, token :: found⟩ rest := by
  obtain ⟨c, cs, rfl⟩ := List.exists_cons_of_ne_nil hne
  have hc : endsWord c = false := hunbroken c List.mem_cons_self
  have hstep : step ⟨.between, found⟩ c = some ⟨.word [c], found⟩ := by
    simp only [endsWord, Bool.or_eq_false_iff] at hc
    obtain ⟨⟨hspace, hquote⟩, hmark⟩ := hc
    have hmark : Token.ofMark? c = none := by simpa using hmark
    simp [step, stepBetween, hspace, hquote, hmark]
  have hcs : IsUnbroken cs := fun d hd => hunbroken d (List.mem_cons_of_mem _ hd)
  rw [List.cons_append, tokensFrom?_cons, hstep, Option.bind_some, tokensFrom?_word_append hcs,
    ← tokensFrom?_ended h hrest]
  simp

/-! ### Strings -/

/-- A string of which some characters, last first, have been taken in. -/
def inString (reversed : List Char) (found : List Token) : Scanner :=
  ⟨.string ⟨reversed, none, true⟩ .plain, found⟩

/-- The automaton takes in a character of a string, however it is written. -/
lemma tokensFrom?_escapeChar_append (c : Char) (reversed : List Char) :
    (inString reversed found).tokensFrom? (escapeChar c ++ rest) =
      (inString (c :: reversed) found).tokensFrom? rest := by
  rcases escapeChar_cases c with ⟨letter, hletter, hunit, h⟩ | ⟨hcontrol, h⟩ |
    ⟨hquote, hbackslash, hplain, h⟩
  · simp [h, inString, tokensFrom?_cons, step, stepString, hletter, hunit, StringBody.push]
  · obtain ⟨x, y, z, w, hdigits, hx, hy, hz, hw⟩ := exists_hexChars_four c.toNat
    have hunit : 16 * (16 * (16 * (c.toNat / 4096 % 16) + c.toNat / 256 % 16) +
        c.toNat / 16 % 16) + c.toNat % 16 = c.toNat := by omega
    have htrailing : StringBody.isTrailing c.toNat = false := by
      simp [StringBody.isTrailing]
      omega
    have hleading : StringBody.isLeading c.toNat = false := by
      simp [StringBody.isLeading]
      omega
    simp [h, hdigits, inString, tokensFrom?_cons, step, stepString, hx, hy, hz, hw, hunit,
      StringBody.pushUnit, StringBody.push, htrailing, hleading]
  · have hstep : step (inString reversed found) c = some (inString (c :: reversed) found) := by
      simp [inString, step, stepString, hquote, hbackslash, hplain, StringBody.push]
    rw [h, List.singleton_append, tokensFrom?_cons, hstep, Option.bind_some]

/-- Inside a string, escaped characters are gathered as the characters they stand for. -/
lemma tokensFrom?_flatMap_escapeChar_append (cs reversed : List Char) :
    (inString reversed found).tokensFrom? (cs.flatMap escapeChar ++ rest) =
      (inString (cs.reverse ++ reversed) found).tokensFrom? rest := by
  induction cs generalizing reversed with
  | nil => rfl
  | cons c cs ih =>
    rw [List.flatMap_cons, List.append_assoc, tokensFrom?_escapeChar_append, ih]
    simp

/-- A string is found by itself, whatever follows it. -/
lemma tokensFrom?_stringChars_append (s : String) :
    tokensFrom? ⟨.between, found⟩ (stringChars s ++ rest) =
      tokensFrom? ⟨.between, .text (some s) :: found⟩ rest := by
  have hopen : step ⟨.between, found⟩ '"' = some (inString [] found) := rfl
  have hclose : step (inString (s.toList.reverse ++ []) found) '"' =
      some ⟨.between, .text (some s) :: found⟩ := by
    simp [inString, step, stepString, StringBody.finish?]
  rw [stringChars, List.cons_append, List.append_assoc, tokensFrom?_cons, hopen, Option.bind_some,
    tokensFrom?_flatMap_escapeChar_append, List.singleton_append, tokensFrom?_cons, hclose,
    Option.bind_some]

/-! ### Values -/

/-- The tokens of a text are found wherever something follows at which a word ends. -/
def Spells (cs : List Char) (tokens : List Token) : Prop :=
  ∀ found rest, Stops rest → tokensFrom? ⟨.between, found⟩ (cs ++ rest) =
    tokensFrom? ⟨.between, tokens.reverse ++ found⟩ rest

/-- A list is spelled by its elements, when it is closed by a mark. -/
lemma tokensFrom?_separated_append {α : Type} {write : α → List Char} {tokens : α → List Token}
    {as : List α} (h : ∀ a ∈ as, Spells (write a) (tokens a)) (hrest : Stops rest) :
    tokensFrom? ⟨.between, found⟩ (separated ',' write as ++ rest) =
      tokensFrom? ⟨.between, (separated .comma tokens as).reverse ++ found⟩ rest := by
  have htail : ∀ (bs : List α) (found : List Token), (∀ b ∈ bs, Spells (write b) (tokens b)) →
      tokensFrom? ⟨.between, found⟩ ((bs.flatMap fun b => ',' :: write b) ++ rest) =
        tokensFrom? ⟨.between, (bs.flatMap fun b => .comma :: tokens b).reverse ++ found⟩ rest ∧
      Stops ((bs.flatMap fun b => ',' :: write b) ++ rest) := by
    intro bs
    induction bs with
    | nil => exact fun found _ => ⟨rfl, hrest⟩
    | cons b bs ih =>
      intro found hbs
      obtain ⟨hfound, hstops⟩ := ih ((tokens b).reverse ++ .comma :: found)
        fun d hd => hbs d (List.mem_cons_of_mem _ hd)
      refine ⟨?_, stops_cons rfl⟩
      rw [List.flatMap_cons, List.cons_append, List.cons_append, List.append_assoc,
        tokensFrom?_mark rfl, hbs b List.mem_cons_self _ _ hstops, hfound]
      simp
  cases as with
  | nil => rfl
  | cons a as =>
    obtain ⟨hfound, hstops⟩ := htail as ((tokens a).reverse ++ found)
      fun d hd => h d (List.mem_cons_of_mem _ hd)
    rw [separated, List.append_assoc, h a List.mem_cons_self _ _ hstops, hfound]
    simp [separated]

/-- A field spells its key, a colon and what its value spells. -/
lemma Spells.field {field : String × Json} (h : Spells field.2.chars field.2.tokens) :
    Spells (fieldText field) (tokensOfField field) := by
  intro found rest hrest
  rw [fieldText, List.append_assoc, tokensFrom?_stringChars_append, List.cons_append,
    tokensFrom?_mark rfl, h _ _ hrest]
  simp [tokensOfField]

end Scanner

/-- The word of a value is the token of that value, provided that an integer fits 64 bits. -/
lemma ofWord?_of_word?_eq_some {v : Json} {w : List Char} {depth : Nat} (hv : v.IsTree depth)
    (h : v.word? = some w) : Token.ofWord? w = some (.scalar v) := by
  cases hv with
  | null =>
    obtain rfl := Option.some.inj h
    rfl
  | bool b =>
    cases b <;>
      · obtain rfl := Option.some.inj h
        rfl
  | @int _ i hword =>
    obtain rfl : Text.intChars i = w := Option.some.inj h
    have hnames : ∀ c cs, c.isDigit = false → c ≠ '-' → ¬ Text.intChars i = c :: cs :=
      fun c cs hdigit hminus => Text.intChars_ne_cons hdigit hminus
    rw [Token.ofWord?, if_neg (hnames _ _ rfl (by decide)), if_neg (hnames _ _ rfl (by decide)),
      if_neg (hnames _ _ rfl (by decide)), ofLiteral?_intChars hword]
    rfl
  | string s => cases h
  | array _ => cases h
  | object _ _ => cases h

/-- A value that is written as a word spells a single token. -/
lemma IsTree.spells_of_word?_eq_some {v : Json} {w : List Char} {depth : Nat}
    (hv : v.IsTree depth) (hw : v.word? = some w) : Scanner.Spells v.chars [.scalar v] := by
  intro found rest hrest
  obtain ⟨hunbroken, hne⟩ := isUnbroken_of_word?_eq_some hw
  rw [chars_of_word?_eq_some hw]
  exact Scanner.tokensFrom?_word hunbroken hne (ofWord?_of_word?_eq_some hv hw) hrest

/-- The automaton finds the tokens of a value in its text. -/
lemma IsTree.spells {v : Json} {depth : Nat} (hv : v.IsTree depth) :
    Scanner.Spells v.chars v.tokens := by
  induction hv with
  | @null depth => exact (IsTree.null : IsTree depth .null).spells_of_word?_eq_some rfl
  | @bool depth b =>
    have hb : IsTree depth (.bool b) := .bool b
    cases b <;> exact hb.spells_of_word?_eq_some rfl
  | @int depth i h => exact (IsTree.int h : IsTree depth (.int i)).spells_of_word?_eq_some rfl
  | string s =>
    intro found rest _
    rw [chars, Scanner.tokensFrom?_stringChars_append]
    rfl
  | @array depth items h ih =>
    intro found rest _
    rw [chars, itemChars_eq_separated, List.cons_append, List.append_assoc, List.singleton_append,
      Scanner.tokensFrom?_mark rfl, Scanner.tokensFrom?_separated_append ih (stops_cons rfl),
      Scanner.tokensFrom?_mark rfl, tokens, itemTokens_eq_separated]
    simp
  | @object depth fields nodup h ih =>
    intro found rest _
    have hfields : ∀ field ∈ fields, Scanner.Spells (fieldText field) (tokensOfField field) :=
      fun field hfield => (ih field hfield).field
    rw [chars, fieldChars_eq_separated, List.cons_append, List.append_assoc, List.singleton_append,
      Scanner.tokensFrom?_mark rfl, Scanner.tokensFrom?_separated_append hfields (stops_cons rfl),
      Scanner.tokensFrom?_mark rfl, tokens, fieldTokens_eq_separated]
    simp

/-- The tokens of the compact text of a tree are those of the tree. -/
lemma IsTree.scan?_chars {v : Json} {depth : Nat} (hv : v.IsTree depth) :
    Token.scan? v.chars = some v.tokens := by
  have hspells := hv.spells [] [] stops_nil
  rw [List.append_nil] at hspells
  calc Token.scan? v.chars = Scanner.tokensFrom? ⟨.between, []⟩ v.chars := rfl
    _ = Scanner.tokensFrom? ⟨.between, v.tokens.reverse ++ []⟩ [] := hspells
    _ = some v.tokens := by simp [Scanner.tokensFrom?, Scanner.finish?]

end Psychometrics.Json
