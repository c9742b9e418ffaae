import Psychometrics.Proofs.Statement.Blocks
import Psychometrics.Proofs.Statement.Line

/-!
# Statements that can be printed

A statement is printable when it keeps to one line and can be told from a comment: its variables are
identifiers, its sums are not empty, and the text of a comment holds no line break
(`Statement.IsPrintable`).  A printable statement with a meaning is read back from its line, and one
without is read as nothing (`Statement.IsPrintable.ofLine?_chars`).

Free text gets into a comment only after it has been put on one line, where no line break is left
(`Text.newline_not_mem_oneLine`).
-/

namespace Psychometrics

open Text (isIdentifier)

/-! ### Free text on one line -/

namespace Text

/-- A joined list holds nothing but what its parts and the separator hold. -/
lemma forall_mem_intercalate {α : Type} {p : α → Prop} {sep : List α} {parts : List (List α)}
    (hsep : ∀ x ∈ sep, p x) (hparts : ∀ part ∈ parts, ∀ x ∈ part, p x) :
    ∀ x ∈ sep.intercalate parts, p x := by
  induction parts with
  | nil => exact fun x hx => absurd hx List.not_mem_nil
  | cons part rest ih =>
    obtain ⟨hpart, hrest⟩ := List.forall_mem_cons.mp hparts
    cases rest with
    | nil => rwa [List.intercalate_singleton]
    | cons next rest =>
      rw [List.intercalate_cons_cons, List.forall_mem_append, List.forall_mem_append]
      exact ⟨⟨hpart, hsep⟩, ih hrest⟩

/-- A character that is neither in the parts nor between them is not in the whole. -/
lemma not_mem_intercalate {c : Char} {sep : List Char} {parts : List (List Char)} (hsep : c ∉ sep)
    (hparts : ∀ part ∈ parts, c ∉ part) : c ∉ sep.intercalate parts := by
  intro hmem
  have hsep' : ∀ x ∈ sep, x ≠ c := fun x hx heq => hsep (heq ▸ hx)
  have hparts' : ∀ part ∈ parts, ∀ x ∈ part, x ≠ c :=
    fun part hpart x hx heq => hparts part hpart (heq ▸ hx)
  exact forall_mem_intercalate hsep' hparts' c hmem rfl

/-- Words joined by spaces hold no line break. -/
lemma newline_not_mem_oneLineChars (cs : List Char) : '\n' ∉ oneLineChars cs := by
  refine not_mem_intercalate (by decide) fun word hword hmem => ?_
  have hblank : isBlank '\n' = false := (not_blank_of_mem_words hword).2 '\n' hmem
  rw [isBlank_newline] at hblank
  simp at hblank

/-- A text that was put on one line has no line break. -/
lemma newline_not_mem_oneLine (s : String) : '\n' ∉ (oneLine s).toList := by
  rw [oneLine, String.toList_ofList]
  exact newline_not_mem_oneLineChars s.toList

end Text

/-! ### Printable statements -/

namespace Statement

/-- A statement that can be printed on a line and read back. -/
def IsPrintable : Statement → Prop
  | .comment text => '\n' ∉ text.toList
  | .reflective latent indicators _ =>
    isIdentifier latent = true ∧ indicators ≠ [] ∧
      ∀ name ∈ indicators, isIdentifier name = true
  | .formative latent causes =>
    isIdentifier latent = true ∧ causes ≠ [] ∧ ∀ name ∈ causes, isIdentifier name = true
  | .fixVariance latent => isIdentifier latent = true
  | .blank => True

/-- The line of a printable statement with a meaning has one of the three forms. -/
lemma IsPrintable.isLine_chars {s : Statement} (h : s.IsPrintable) (hs : s.isMeaningful = true) :
    IsLine s.chars s := by
  cases s with
  | comment text => cases hs
  | reflective latent indicators fixedFirst =>
    obtain ⟨hlatent, hne, hindicators⟩ := h
    have hfixed : (fixedFirst && !indicators.isEmpty) = fixedFirst := by
      simp [hne]
    rw [chars, hfixed]
    exact .reflective fixedFirst hlatent hne hindicators
  | formative latent causes =>
    obtain ⟨hlatent, hne, hcauses⟩ := h
    exact .formative hlatent hne hcauses
  | fixVariance latent => exact .fixVariance h
  | blank => cases hs

/-- A line that states something is the printed form of what it states. -/
lemma IsLine.eq_chars {line : List Char} {s : Statement} (h : IsLine line s) : line = s.chars := by
  cases h with
  | @reflective latent indicators fixedFirst hlatent hne hindicators =>
    have hfixed : (fixedFirst && !indicators.isEmpty) = fixedFirst := by
      simp [hne]
    rw [chars, hfixed]
    rfl
  | formative hlatent hne hcauses => rfl
  | fixVariance hlatent => rfl

/-- A line that states something begins like an identifier. -/
lemma IsLine.exists_eq_cons {line : List Char} {s : Statement} (h : IsLine line s) :
    ∃ c cs, line = c :: cs ∧ Text.isNameStart c = true := by
  have hlead : ∀ (latent : String) (rest : List Char), isIdentifier latent = true →
      ∃ c cs, latent.toList ++ rest = c :: cs ∧ Text.isNameStart c = true := by
    intro latent rest hlatent
    obtain ⟨c, cs, hcs, hc, -⟩ := Text.isIdentifier_iff.mp hlatent
    exact ⟨c, cs ++ rest, by rw [hcs, List.cons_append], hc⟩
  cases h with
  | reflective fixedFirst hlatent hne hindicators =>
    rw [List.append_assoc, List.append_assoc]
    exact hlead _ _ hlatent
  | formative hlatent hne hcauses =>
    rw [List.append_assoc]
    exact hlead _ _ hlatent
  | fixVariance hlatent =>
    rw [List.append_assoc]
    exact hlead _ _ hlatent

/-- An empty line states nothing. -/
lemma ofLine?_nil : ofLine? [] = none := by
  rw [Option.eq_none_iff_forall_ne_some]
  intro s hs
  obtain ⟨c, cs, hline, -⟩ := (ofLine?_eq_some_iff.mp hs).exists_eq_cons
  simp at hline

/-- A comment states nothing. -/
lemma ofLine?_hash (cs : List Char) : ofLine? ('#' :: cs) = none := by
  rw [Option.eq_none_iff_forall_ne_some]
  intro s hs
  obtain ⟨c, cs', hline, hc⟩ := (ofLine?_eq_some_iff.mp hs).exists_eq_cons
  obtain ⟨rfl, -⟩ := List.cons.inj hline
  revert hc
  decide

/-- A printable statement is read back from its line, unless it has no meaning. -/
lemma IsPrintable.ofLine?_chars {s : Statement} (h : s.IsPrintable) :
    ofLine? s.chars = if s.isMeaningful then some s else none := by
  split
  · next hs => exact ofLine?_eq_some_iff.mpr (h.isLine_chars hs)
  · next hs =>
    cases s with
    | comment text => exact ofLine?_hash _
    | blank => exact ofLine?_nil
    | reflective latent indicators fixedFirst => exact absurd rfl hs
    | formative latent causes => exact absurd rfl hs
    | fixVariance latent => exact absurd rfl hs

/-- Reading the lines of printable statements gives those with a meaning. -/
lemma filterMap_ofLine?_map_chars {statements : List Statement}
    (h : ∀ s ∈ statements, s.IsPrintable) :
    (statements.map chars).filterMap ofLine? = statements.filter isMeaningful := by
  induction statements with
  | nil => rfl
  | cons s rest ih =>
    obtain ⟨hs, hrest⟩ := List.forall_mem_cons.mp h
    rw [List.map_cons, List.filterMap_cons, hs.ofLine?_chars, ih hrest, List.filter_cons]
    cases s.isMeaningful with
    | false => rfl
    | true => rfl

/-- The line of a printable statement is empty, a comment, or of one of the three forms. -/
lemma IsPrintable.chars_cases {s : Statement} (h : s.IsPrintable) :
    s.chars = [] ∨ s.chars.head? = some '#' ∨ ∃ t, IsLine s.chars t := by
  cases hs : s.isMeaningful with
  | true => exact .inr (.inr ⟨s, h.isLine_chars hs⟩)
  | false =>
    cases s with
    | comment text => exact .inr (.inl rfl)
    | blank => exact .inl rfl
    | reflective latent indicators fixedFirst => cases hs
    | formative latent causes => cases hs
    | fixVariance latent => cases hs

/-- Only the blank statement has an empty line. -/
lemma IsPrintable.chars_ne_nil {s : Statement} (h : s.IsPrintable) (hs : s ≠ .blank) :
    s.chars ≠ [] := by
  cases hmeaning : s.isMeaningful with
  | true =>
    obtain ⟨c, cs, hline, -⟩ := (h.isLine_chars hmeaning).exists_eq_cons
    rw [hline]
    exact List.cons_ne_nil c cs
  | false =>
    cases s with
    | comment text => exact List.cons_ne_nil _ _
    | blank => exact absurd rfl hs
    | reflective latent indicators fixedFirst => cases hmeaning
    | formative latent causes => cases hmeaning
    | fixVariance latent => cases hmeaning

/-- A line that states something is a single line. -/
lemma IsLine.newline_not_mem {line : List Char} {s : Statement} (h : IsLine line s) :
    '\n' ∉ line := by
  have hsum : ∀ names : List String, (∀ name ∈ names, isIdentifier name = true) →
      '\n' ∉ [' ', '+', ' '].intercalate (names.map String.toList) := by
    intro names hnames
    refine Text.not_mem_intercalate (by decide) ?_
    intro part hpart
    obtain ⟨name, hname, rfl⟩ := List.mem_map.mp hpart
    exact not_mem_of_isIdentifier (hnames name hname) (by decide)
  cases h with
  | @reflective latent indicators fixedFirst hlatent hne hindicators =>
    have hfirst : '\n' ∉ latent.toList := not_mem_of_isIdentifier hlatent (by decide)
    have hindicators := hsum indicators hindicators
    cases fixedFirst <;> simp [hfirst, hindicators]
  | @formative latent causes hlatent hne hcauses =>
    have hfirst : '\n' ∉ latent.toList := not_mem_of_isIdentifier hlatent (by decide)
    simp [hfirst, hsum causes hcauses]
  | @fixVariance latent hlatent =>
    have hfirst : '\n' ∉ latent.toList := not_mem_of_isIdentifier hlatent (by decide)
    simp [hfirst]

/-- A printable statement keeps to its line. -/
lemma IsPrintable.newline_not_mem_chars {s : Statement} (h : s.IsPrintable) :
    '\n' ∉ s.chars := by
  cases hmeaning : s.isMeaningful with
  | true => exact (h.isLine_chars hmeaning).newline_not_mem
  | false =>
    cases s with
    | comment text =>
      have htext : '\n' ∉ text.toList := h
      simp [chars, htext]
    | blank => exact List.not_mem_nil
    | reflective latent indicators fixedFirst => cases hmeaning
    | formative latent causes => cases hmeaning
    | fixVariance latent => cases hmeaning

end Statement

end Psychometrics
