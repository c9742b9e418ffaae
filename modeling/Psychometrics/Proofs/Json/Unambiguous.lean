import Mathlib
import Psychometrics.Proofs.Json.Layout

/-!
# Compact texts are unambiguous

Two values with the same compact text are the same value, as long as all of their numbers are
integers (`Json.IsPlain.eq_of_compact_eq`).  No reader is involved: the text of such a value can be
told from what follows it, because a string ends at the first quotation mark that is not escaped, a
word ends at the first mark of punctuation, and a container ends at its bracket.

The integers need not fit any number of bits, unlike those that the reader takes back.
-/

namespace Psychometrics.Json

/-! ### Words and strings -/

/-- A word can be told from what follows it. -/
lemma IsUnbroken.append_inj {w v r s : List Char} (hw : IsUnbroken w) (hv : IsUnbroken v)
    (hr : Stops r) (hs : Stops s) (h : w ++ r = v ++ s) : w = v ∧ r = s := by
  induction w generalizing v with
  | nil =>
    cases v with
    | nil => exact ⟨rfl, h⟩
    | cons d v =>
      have hd : Scanner.endsWord d = true := hr d (by simp [show r = d :: (v ++ s) from h])
      rw [hv d List.mem_cons_self] at hd
      cases hd
  | cons c w ih =>
    cases v with
    | nil =>
      have hc : Scanner.endsWord c = true := hs c (by simp [show s = c :: (w ++ r) from h.symm])
      rw [hw c List.mem_cons_self] at hc
      cases hc
    | cons d v =>
      obtain ⟨rfl, htail⟩ := List.cons.inj h
      obtain ⟨rfl, rfl⟩ := ih (fun x hx => hw x (List.mem_cons_of_mem _ hx))
        (fun x hx => hv x (List.mem_cons_of_mem _ hx)) htail
      exact ⟨rfl, rfl⟩

/-- Takes one character of a string from its text. -/
def unescape? : List Char → Option (Char × List Char)
  | '\\' :: 'u' :: a :: b :: c :: d :: rest => do
    let unit := 4096 * (← hexDigit? a) + 256 * (← hexDigit? b) + 16 * (← hexDigit? c)
    return (Char.ofNat (unit + (← hexDigit? d)), rest)
  | '\\' :: c :: rest => (escaped? c).map fun e => (e, rest)
  | c :: rest => some (c, rest)
  | [] => none

/-- A character is taken back from its text. -/
lemma unescape?_escapeChar (c : Char) (rest : List Char) :
    unescape? (escapeChar c ++ rest) = some (c, rest) := by
  rcases escapeChar_cases c with ⟨letter, hletter, hunit, h⟩ | ⟨hcontrol, h⟩ | ⟨-, hbackslash, -, h⟩
  · simp [h, unescape?, hletter, hunit]
  · obtain ⟨x, y, z, w, hdigits, hx, hy, hz, hw⟩ := exists_hexChars_four c.toNat
    have hunit : 4096 * (c.toNat / 4096 % 16) + 256 * (c.toNat / 256 % 16) +
        16 * (c.toNat / 16 % 16) + c.toNat % 16 = c.toNat := by omega
    simp [h, hdigits, unescape?, hx, hy, hz, hw, hunit]
  · simp [h, unescape?, hbackslash]

/-- No character begins like the end of a string. -/
lemma escapeChar_append_ne_cons_quote (c : Char) (rest cs : List Char) :
    escapeChar c ++ rest ≠ '"' :: cs := by
  rcases escapeChar_cases c with ⟨letter, -, -, h⟩ | ⟨-, h⟩ | ⟨hquote, -, -, h⟩
  · simp [h]
  · simp [h]
  · simpa [h] using fun heq => absurd heq hquote

/-- Up to the closing quotation mark, the escaped characters of a string determine the string. -/
lemma flatMap_escapeChar_append_inj {s t r r' : List Char}
    (h : s.flatMap escapeChar ++ '"' :: r = t.flatMap escapeChar ++ '"' :: r') :
    s = t ∧ r = r' := by
  induction s generalizing t with
  | nil =>
    cases t with
    | nil => exact ⟨rfl, (List.cons.inj h).2⟩
    | cons d t =>
      rw [List.flatMap_cons, List.append_assoc] at h
      exact absurd h.symm (escapeChar_append_ne_cons_quote _ _ _)
  | cons c s ih =>
    cases t with
    | nil =>
      rw [List.flatMap_cons, List.append_assoc] at h
      exact absurd h (escapeChar_append_ne_cons_quote _ _ _)
    | cons d t =>
      rw [List.flatMap_cons, List.flatMap_cons, List.append_assoc, List.append_assoc] at h
      have hread := congrArg unescape? h
      rw [unescape?_escapeChar, unescape?_escapeChar, Option.some.injEq, Prod.mk.injEq] at hread
      obtain ⟨rfl, hrest⟩ := hread
      obtain ⟨rfl, rfl⟩ := ih hrest
      exact ⟨rfl, rfl⟩

/-- A string can be told from what follows it. -/
lemma stringChars_append_inj {s t : String} {r r' : List Char}
    (h : stringChars s ++ r = stringChars t ++ r') : s = t ∧ r = r' := by
  have hbody : s.toList.flatMap escapeChar ++ '"' :: r =
      t.toList.flatMap escapeChar ++ '"' :: r' := by
    simpa [stringChars] using h
  obtain ⟨hst, hrest⟩ := flatMap_escapeChar_append_inj hbody
  exact ⟨String.toList_inj.mp hst, hrest⟩

/-! ### Lists -/

section Separated

variable {α : Type}

/-- The text of an element can be told from what follows it, and the element from its text, among
the elements with some property. -/
def Delimits (write : α → List Char) (P : α → Prop) (a : α) : Prop :=
  ∀ b, P b → ∀ r s, Stops r → Stops s → write a ++ r = write b ++ s → a = b ∧ r = s

variable {write : α → List Char} {P : α → Prop} {last : Char}

/-- Behind an item comes a comma or what closes the list, and either ends a word. -/
lemma stops_flatMap_append (hlast : Scanner.endsWord last = true) (as : List α) (r : List Char) :
    Stops ((as.flatMap fun b => ',' :: write b) ++ last :: r) := by
  cases as with
  | nil => exact stops_cons hlast
  | cons a as => exact stops_cons rfl

/-- The items behind the first one are determined by the text up to what closes the list. -/
lemma flatMap_append_inj (hlast : Scanner.endsWord last = true) (hcomma : last ≠ ',')
    {as bs : List α} (has : ∀ a ∈ as, Delimits write P a) (hbs : ∀ b ∈ bs, P b) {r s : List Char}
    (h : (as.flatMap fun b => ',' :: write b) ++ last :: r =
      (bs.flatMap fun b => ',' :: write b) ++ last :: s) : as = bs ∧ r = s := by
  induction as generalizing bs with
  | nil =>
    cases bs with
    | nil => exact ⟨rfl, (List.cons.inj h).2⟩
    | cons b bs => exact absurd (List.cons.inj h).1 hcomma
  | cons a as ih =>
    cases bs with
    | nil => exact absurd (List.cons.inj h).1.symm hcomma
    | cons b bs =>
      rw [List.flatMap_cons, List.flatMap_cons, List.cons_append, List.cons_append,
        List.append_assoc, List.append_assoc] at h
      obtain ⟨rfl, hrest⟩ := has a List.mem_cons_self b (hbs b List.mem_cons_self) _ _
        (stops_flatMap_append hlast as r) (stops_flatMap_append hlast bs s) (List.cons.inj h).2
      obtain ⟨rfl, rfl⟩ := ih (fun a ha => has a (List.mem_cons_of_mem _ ha))
        (fun b hb => hbs b (List.mem_cons_of_mem _ hb)) hrest
      exact ⟨rfl, rfl⟩

/-- A list that is closed by a mark of its own can be told from what follows it. -/
lemma separated_append_inj (hlast : Scanner.endsWord last = true) (hcomma : last ≠ ',')
    {as bs : List α} (has : ∀ a ∈ as, Delimits write P a ∧ P a) (hbs : ∀ b ∈ bs, P b)
    (hopen : ∀ a, P a → ∀ rest cs, write a ++ rest ≠ last :: cs) {r s : List Char}
    (h : separated ',' write as ++ last :: r = separated ',' write bs ++ last :: s) :
    as = bs ∧ r = s := by
  cases as with
  | nil =>
    cases bs with
    | nil => exact ⟨rfl, (List.cons.inj h).2⟩
    | cons b bs =>
      rw [separated, separated, List.append_assoc] at h
      exact absurd h.symm (hopen b (hbs b List.mem_cons_self) _ _)
  | cons a as =>
    cases bs with
    | nil =>
      rw [separated, separated, List.append_assoc] at h
      exact absurd h (hopen a (has a List.mem_cons_self).2 _ _)
    | cons b bs =>
      rw [separated, separated, List.append_assoc, List.append_assoc] at h
      obtain ⟨rfl, hrest⟩ := (has a List.mem_cons_self).1 b (hbs b List.mem_cons_self) _ _
        (stops_flatMap_append hlast as r) (stops_flatMap_append hlast bs s) h
      obtain ⟨rfl, rfl⟩ := flatMap_append_inj hlast hcomma
        (fun a ha => (has a (List.mem_cons_of_mem _ ha)).1)
        (fun b hb => hbs b (List.mem_cons_of_mem _ hb)) hrest
      exact ⟨rfl, rfl⟩

end Separated

/-! ### Values -/

/-- A value whose numbers are integers, and of which no part is ill-formed. -/
inductive IsPlain : Json → Prop
  | null : IsPlain .null
  | bool (b : Bool) : IsPlain (.bool b)
  | int (i : Int) : IsPlain (.int i)
  | string (s : String) : IsPlain (.string s)
  | array {items : List Json} (h : ∀ item ∈ items, IsPlain item) : IsPlain (.array items)
  | object {fields : List (String × Json)} (h : ∀ field ∈ fields, IsPlain field.2) :
      IsPlain (.object fields)

section Word

variable {v u : Json} {w : List Char}

/-- Different values have different words. -/
lemma eq_of_word?_eq_some (hv : v.word? = some w) (hu : u.word? = some w) : v = u := by
  unfold word? at hv hu
  split at hv <;> split at hu <;> rw [← hv] at hu <;>
    first
    | rfl
    | (cases hv; done)
    | cases hu
    | exact absurd (Option.some.inj hu) (Text.intChars_ne_cons rfl (by decide))
    | exact absurd (Option.some.inj hu).symm (Text.intChars_ne_cons rfl (by decide))
    | rw [Text.intChars_injective (Option.some.inj hu)]

/-- The values that are no words. -/
lemma IsPlain.cases_of_word?_eq_none (hv : v.IsPlain) (h : v.word? = none) :
    (∃ s, v = .string s) ∨ (∃ items, (∀ item ∈ items, IsPlain item) ∧ v = .array items) ∨
      ∃ fields, (∀ field ∈ fields, IsPlain field.2) ∧ v = .object fields := by
  cases hv with
  | null => cases h
  | bool b => cases b <;> cases h
  | int i => cases h
  | string s => exact .inl ⟨s, rfl⟩
  | array hitems => exact .inr (.inl ⟨_, hitems, rfl⟩)
  | object hfields => exact .inr (.inr ⟨_, hfields, rfl⟩)

/-- They begin with a mark, at which a word ends. -/
lemma IsPlain.exists_chars_eq_cons (hv : v.IsPlain) (h : v.word? = none) :
    ∃ c cs, v.chars = c :: cs ∧ c ≠ ']' ∧ Scanner.endsWord c = true := by
  rcases hv.cases_of_word?_eq_none h with ⟨s, rfl⟩ | ⟨items, -, rfl⟩ | ⟨fields, -, rfl⟩
  · exact ⟨'"', _, by rw [chars, stringChars], by decide, rfl⟩
  · exact ⟨'[', _, by rw [chars], by decide, rfl⟩
  · exact ⟨'\x7b', _, by rw [chars], by decide, rfl⟩

/-- A word can be told from what follows it and from every other value. -/
lemma delimits_of_word?_eq_some (h : v.word? = some w) : Delimits chars IsPlain v := by
  intro u hu r s hr hs heq
  obtain ⟨hunbroken, hne⟩ := isUnbroken_of_word?_eq_some h
  rw [chars_of_word?_eq_some h] at heq
  cases hword : u.word? with
  | some other =>
    rw [chars_of_word?_eq_some hword] at heq
    obtain ⟨rfl, rfl⟩ := hunbroken.append_inj (isUnbroken_of_word?_eq_some hword).1 hr hs heq
    exact ⟨eq_of_word?_eq_some h hword, rfl⟩
  | none =>
    obtain ⟨c, cs, hchars, -, hc⟩ := hu.exists_chars_eq_cons hword
    obtain ⟨d, w, rfl⟩ := List.exists_cons_of_ne_nil hne
    rw [hchars] at heq
    obtain rfl : d = c := (List.cons.inj heq).1
    rw [hunbroken d List.mem_cons_self] at hc
    cases hc

/-- Any other value can be told from what follows it, once it can among its like. -/
lemma IsPlain.delimits_of_forall (hv : v.IsPlain)
    (h : ∀ u, IsPlain u → u.word? = none → ∀ r s, v.chars ++ r = u.chars ++ s → v = u ∧ r = s) :
    Delimits chars IsPlain v := by
  intro u hu r s hr hs heq
  cases hword : u.word? with
  | some w =>
    obtain ⟨rfl, rfl⟩ := delimits_of_word?_eq_some hword v hv s r hs hr heq.symm
    exact ⟨rfl, rfl⟩
  | none => exact h u hu hword r s heq

/-- No value begins like the end of an array. -/
lemma IsPlain.chars_append_ne_cons (hv : v.IsPlain) (rest cs : List Char) :
    v.chars ++ rest ≠ ']' :: cs := by
  intro heq
  cases hword : v.word? with
  | some w =>
    obtain ⟨hunbroken, hne⟩ := isUnbroken_of_word?_eq_some hword
    obtain ⟨c, w, rfl⟩ := List.exists_cons_of_ne_nil hne
    rw [chars_of_word?_eq_some hword] at heq
    obtain rfl : c = ']' := (List.cons.inj heq).1
    exact absurd (hunbroken _ List.mem_cons_self) (by decide)
  | none =>
    obtain ⟨c, cs', hchars, hne, -⟩ := hv.exists_chars_eq_cons hword
    rw [hchars] at heq
    exact hne (List.cons.inj heq).1

end Word

/-- A field can be told from what follows it when its value can. -/
lemma Delimits.fieldText {field : String × Json} (h : Delimits chars IsPlain field.2) :
    Delimits fieldText (fun other => IsPlain other.2) field := by
  intro other hother r s hr hs heq
  unfold Json.fieldText at heq
  rw [List.append_assoc, List.append_assoc] at heq
  obtain ⟨hkey, hrest⟩ := stringChars_append_inj heq
  obtain ⟨hvalue, htail⟩ := h other.2 hother r s hr hs (List.cons.inj hrest).2
  exact ⟨Prod.ext hkey hvalue, htail⟩

/-- A value can be told from what follows it, and from every other value. -/
lemma IsPlain.delimits {v : Json} (hv : v.IsPlain) : Delimits chars IsPlain v := by
  induction hv with
  | null => exact delimits_of_word?_eq_some rfl
  | bool b => cases b <;> exact delimits_of_word?_eq_some rfl
  | int i => exact delimits_of_word?_eq_some rfl
  | string s =>
    refine (IsPlain.string s).delimits_of_forall fun u hu hword r t heq => ?_
    -- The other value is no word, either, and its first character tells what it is.
    rcases hu.cases_of_word?_eq_none hword with ⟨s', rfl⟩ | ⟨items, -, rfl⟩ | ⟨fields, -, rfl⟩
    · rw [chars, chars] at heq
      obtain ⟨rfl, rfl⟩ := stringChars_append_inj heq
      exact ⟨rfl, rfl⟩
    · simp [chars, stringChars] at heq
    · simp [chars, stringChars] at heq
  | @array items hitems ih =>
    refine (IsPlain.array hitems).delimits_of_forall fun u hu hword r t heq => ?_
    rcases hu.cases_of_word?_eq_none hword with ⟨s, rfl⟩ | ⟨others, hothers, rfl⟩ | ⟨fields, -, rfl⟩
    · simp [chars, stringChars] at heq
    · have hlist : separated ',' chars items ++ ']' :: r =
          separated ',' chars others ++ ']' :: t := by
        simpa [chars, itemChars_eq_separated] using heq
      obtain ⟨rfl, rfl⟩ := separated_append_inj rfl (by decide)
        (fun item hitem => ⟨ih item hitem, hitems item hitem⟩) hothers
        (fun item hitem => hitem.chars_append_ne_cons) hlist
      exact ⟨rfl, rfl⟩
    · simp [chars] at heq
  | @object fields hfields ih =>
    refine (IsPlain.object hfields).delimits_of_forall fun u hu hword r t heq => ?_
    rcases hu.cases_of_word?_eq_none hword with ⟨s, rfl⟩ | ⟨items, -, rfl⟩ | ⟨others, hothers, rfl⟩
    · simp [chars, stringChars] at heq
    · simp [chars] at heq
    · have hlist : separated ',' fieldText fields ++ '\x7d' :: r =
          separated ',' fieldText others ++ '\x7d' :: t := by
        simpa [chars, fieldChars_eq_separated] using heq
      obtain ⟨rfl, rfl⟩ := separated_append_inj rfl (by decide)
        (fun field hfield => ⟨(ih field hfield).fieldText, hfields field hfield⟩) hothers
        (fun field _ rest cs => by simp [fieldText, stringChars]) hlist
      exact ⟨rfl, rfl⟩

/-- Values whose numbers are integers have different compact texts. -/
lemma IsPlain.eq_of_compact_eq {v u : Json} (hv : v.IsPlain) (hu : u.IsPlain)
    (h : v.compact = u.compact) : v = u := by
  have hchars : v.chars ++ [] = u.chars ++ [] := by
    rw [String.ofList_injective h]
  exact (hv.delimits u hu [] [] stops_nil stops_nil hchars).1

end Psychometrics.Json
