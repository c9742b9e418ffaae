import Psychometrics.Proofs.Naming.Shape
import Psychometrics.Statement.Basic

/-!
# Lines that state something

A statement with a meaning is printed in one of three forms: a reflective statement, a formative
one or a fixed variance, over identifiers (`Statement.IsLine`).  This file reads such lines back.  A
line is cut at its spaces, and the pieces are recognized one by one (`Statement.ofLine?`).

Reading is exact: it accepts the lines of the three forms and nothing else, and it gives back the
statement that was printed (`Statement.ofLine?_eq_some_iff`).  Since no identifier holds a space, a
printed line falls into the pieces that it was made of.
-/

namespace Psychometrics

open Text (isIdentifier)

namespace Statement

/-! ### Forms of a line -/

/-- The lines that state something, each with what it states.  A sum has at least one term, the
first term of a reflective statement may be marked, and all variables are identifiers. -/
inductive IsLine : List Char → Statement → Prop
  | reflective {latent : String} {indicators : List String} (fixedFirst : Bool)
      (hlatent : isIdentifier latent = true) (hne : indicators ≠ [])
      (hindicators : ∀ name ∈ indicators, isIdentifier name = true) :
      IsLine (latent.toList ++ [' ', '=', '~', ' '] ++ (if fixedFirst then ['1', '*'] else []) ++
        [' ', '+', ' '].intercalate (indicators.map String.toList))
        (.reflective latent indicators fixedFirst)
  | formative {latent : String} {causes : List String} (hlatent : isIdentifier latent = true)
      (hne : causes ≠ []) (hcauses : ∀ name ∈ causes, isIdentifier name = true) :
      IsLine (latent.toList ++ [' ', '<', '~', ' '] ++
        [' ', '+', ' '].intercalate (causes.map String.toList)) (.formative latent causes)
  | fixVariance {latent : String} (hlatent : isIdentifier latent = true) :
      IsLine (latent.toList ++ [' ', '~', '~', ' ', '1', '*'] ++ latent.toList)
        (.fixVariance latent)

/-! ### Reading a line -/

/-- The identifier that a piece of a line spells. -/
def identifier? (cs : List Char) : Option String :=
  if isIdentifier (String.ofList cs) then some (String.ofList cs) else none

/-- The terms of a sum, read from its pieces: identifiers with a plus sign between them. -/
def sum? : List (List Char) → Option (List String)
  | [] => none
  | [piece] => (identifier? piece).map fun name => [name]
  | piece :: plus :: rest =>
    if plus = ['+'] then
      (identifier? piece).bind fun name => (sum? rest).map fun names => name :: names
    else none

/-- Takes the mark of a fixed loading off a piece. -/
def unmark : List Char → Bool × List Char
  | '1' :: '*' :: cs => (true, cs)
  | cs => (false, cs)

/-- The statement that the pieces of a line make up. -/
def ofPieces? : List (List Char) → Option Statement
  | latent :: sign :: first :: rest =>
    (identifier? latent).bind fun name =>
      if sign = ['=', '~'] then
        (sum? ((unmark first).2 :: rest)).map fun names => .reflective name names (unmark first).1
      else if sign = ['<', '~'] then
        (sum? (first :: rest)).map fun names => .formative name names
      else if sign = ['~', '~'] ∧ first = '1' :: '*' :: latent ∧ rest = [] then
        some (.fixVariance name)
      else none
  | _ => none

/-- The statement that a line makes, if it makes one. -/
def ofLine? (line : List Char) : Option Statement :=
  ofPieces? (line.splitOn ' ')

/-! ### Identifiers as pieces -/

/-- What is read as an identifier is an identifier, read without change. -/
lemma identifier?_eq_some_iff {cs : List Char} {name : String} :
    identifier? cs = some name ↔ isIdentifier name = true ∧ name.toList = cs := by
  unfold identifier?
  constructor
  · intro h
    split at h
    · next hid =>
      obtain rfl := Option.some.inj h
      exact ⟨hid, String.toList_ofList⟩
    · simp at h
  · rintro ⟨hid, rfl⟩
    rw [String.ofList_toList, if_pos hid]

/-- No identifier holds a character that is not a name character. -/
lemma not_mem_of_isIdentifier {name : String} (h : isIdentifier name = true) {c : Char}
    (hc : Text.isNameChar c = false) : c ∉ name.toList := by
  intro hmem
  rw [Text.isNameChar_of_isIdentifier h hmem] at hc
  simp at hc

/-- An identifier does not look like a marked one. -/
lemma unmark_toList {name : String} (h : isIdentifier name = true) :
    unmark name.toList = (false, name.toList) := by
  obtain ⟨c, cs, hcs, hstart, -⟩ := Text.isIdentifier_iff.mp h
  have hdigit : c ≠ '1' := by
    rintro rfl
    revert hstart
    decide
  rw [hcs]
  unfold unmark
  split
  · next heq => exact absurd (List.cons.inj heq).1 hdigit
  · rfl

/-- The mark of a piece and the rest of it make up the piece. -/
lemma unmark_append (cs : List Char) :
    (if (unmark cs).1 then ['1', '*'] else []) ++ (unmark cs).2 = cs := by
  unfold unmark
  split
  · rfl
  · rfl

/-- The mark of a fixed loading is told from the identifier behind it. -/
lemma unmark_mark {name : String} (h : isIdentifier name = true) (fixed : Bool) :
    unmark ((if fixed then ['1', '*'] else []) ++ name.toList) = (fixed, name.toList) := by
  cases fixed with
  | true => rfl
  | false => exact unmark_toList h

/-! ### Sums -/

/-- The pieces of a sum. -/
def sumPieces (names : List String) : List (List Char) :=
  (names.map String.toList).intersperse ['+']

/-- A sum is read back from its pieces. -/
lemma sum?_sumPieces {names : List String} (hne : names ≠ [])
    (h : ∀ name ∈ names, isIdentifier name = true) : sum? (sumPieces names) = some names := by
  unfold sumPieces
  induction names with
  | nil => exact absurd rfl hne
  | cons name names ih =>
    have hname : identifier? name.toList = some name :=
      identifier?_eq_some_iff.mpr ⟨h name List.mem_cons_self, rfl⟩
    cases names with
    | nil =>
      rw [List.map_cons, List.map_nil, List.intersperse_singleton, sum?, hname]
      rfl
    | cons next names =>
      have hnames : ∀ other ∈ next :: names, isIdentifier other = true :=
        fun other hother => h other (List.mem_cons_of_mem _ hother)
      have hrest := ih (List.cons_ne_nil _ _) hnames
      rw [List.map_cons, List.map_cons, List.intersperse_cons_cons, sum?, if_pos rfl, hname,
        ← List.map_cons, hrest]
      rfl

/-- Only the pieces of a sum are read as one. -/
lemma eq_sumPieces_of_sum?_eq_some {pieces : List (List Char)} {names : List String}
    (h : sum? pieces = some names) :
    names ≠ [] ∧ (∀ name ∈ names, isIdentifier name = true) ∧ pieces = sumPieces names := by
  induction pieces using sum?.induct generalizing names with
  | case1 => cases h
  | case2 piece =>
    rw [sum?] at h
    obtain ⟨name, hname, rfl⟩ := Option.map_eq_some_iff.mp h
    obtain ⟨hid, rfl⟩ := identifier?_eq_some_iff.mp hname
    refine ⟨List.cons_ne_nil _ _, ?_, rfl⟩
    intro other hother
    rwa [List.mem_singleton.mp hother]
  | case3 piece rest ih =>
    rw [sum?, if_pos rfl] at h
    obtain ⟨name, hname, hrest⟩ := Option.bind_eq_some_iff.mp h
    obtain ⟨names, hnames, rfl⟩ := Option.map_eq_some_iff.mp hrest
    obtain ⟨hid, rfl⟩ := identifier?_eq_some_iff.mp hname
    obtain ⟨hne, hids, rfl⟩ := ih hnames
    obtain ⟨next, names, rfl⟩ := List.exists_cons_of_ne_nil hne
    refine ⟨List.cons_ne_nil _ _, ?_, rfl⟩
    intro other hother
    rcases List.mem_cons.mp hother with rfl | hother
    · exact hid
    · exact hids other hother
  | case4 piece plus rest hplus =>
    rw [sum?, if_neg hplus] at h
    simp at h

/-- A sum is made of its pieces, with spaces between them. -/
lemma intercalate_sumPieces (names : List String) :
    [' '].intercalate (sumPieces names) =
      [' ', '+', ' '].intercalate (names.map String.toList) := by
  unfold sumPieces
  induction names with
  | nil => rfl
  | cons name names ih =>
    cases names with
    | nil => rfl
    | cons next names =>
      have hcons : (name.toList :: (next :: names).map String.toList).intersperse ['+'] =
          name.toList :: ['+'] :: ((next :: names).map String.toList).intersperse ['+'] := rfl
      obtain ⟨first, rest, hsum⟩ : ∃ first rest,
          ((next :: names).map String.toList).intersperse ['+'] = first :: rest := by
        cases names with
        | nil => exact ⟨_, _, rfl⟩
        | cons other names => exact ⟨_, _, rfl⟩
      rw [List.map_cons, hcons, hsum, List.intercalate_cons_cons, List.intercalate_cons_cons,
        ← hsum, ih, List.map_cons, List.intercalate_cons_cons]
      simp

/-- No piece of a sum of identifiers holds a space. -/
lemma not_mem_of_mem_sumPieces {names : List String}
    (h : ∀ name ∈ names, isIdentifier name = true) {piece : List Char}
    (hpiece : piece ∈ sumPieces names) : ' ' ∉ piece := by
  unfold sumPieces at hpiece
  induction names with
  | nil => cases hpiece
  | cons name names ih =>
    have hname : ' ' ∉ name.toList :=
      not_mem_of_isIdentifier (h name List.mem_cons_self) (by decide)
    cases names with
    | nil => rwa [List.mem_singleton.mp hpiece]
    | cons next names =>
      rw [List.map_cons, List.map_cons, List.intersperse_cons_cons, ← List.map_cons] at hpiece
      rcases List.mem_cons.mp hpiece with rfl | hpiece
      · exact hname
      · rcases List.mem_cons.mp hpiece with rfl | hpiece
        · decide
        · exact ih (fun other hother => h other (List.mem_cons_of_mem _ hother)) hpiece

/-- The first piece of a sum is its first term. -/
lemma exists_sumPieces_eq_cons {names : List String} (hne : names ≠ []) :
    ∃ name ∈ names, ∃ rest, sumPieces names = name.toList :: rest := by
  obtain ⟨name, names, rfl⟩ := List.exists_cons_of_ne_nil hne
  refine ⟨name, List.mem_cons_self, ?_⟩
  cases names with
  | nil => exact ⟨[], rfl⟩
  | cons next names => exact ⟨_, rfl⟩

/-! ### Reading is exact -/

/-- What stands in front of the first part stands in front of the whole. -/
lemma intercalate_append_cons (sep lead first : List Char) (rest : List (List Char)) :
    sep.intercalate ((lead ++ first) :: rest) = lead ++ sep.intercalate (first :: rest) := by
  cases rest with
  | nil => simp
  | cons next rest => simp [List.intercalate_cons_cons]

/-- A line that is made of pieces without spaces is read from these pieces. -/
lemma ofLine?_intercalate {pieces : List (List Char)} (hne : pieces ≠ [])
    (h : ∀ piece ∈ pieces, ' ' ∉ piece) :
    ofLine? ([' '].intercalate pieces) = ofPieces? pieces := by
  rw [ofLine?, List.splitOn_intercalate ' ' h hne]

/-- A line in one of the forms is read as what it states. -/
lemma ofLine?_of_isLine {line : List Char} {s : Statement} (h : IsLine line s) :
    ofLine? line = some s := by
  cases h with
  | @reflective latent indicators fixed hlatent hne hindicators =>
    obtain ⟨name, hname, rest, hsum⟩ := exists_sumPieces_eq_cons hne
    -- The line is cut at its spaces, none of which stands inside a piece.
    have hline : latent.toList ++ [' ', '=', '~', ' '] ++ (if fixed then ['1', '*'] else []) ++
          [' ', '+', ' '].intercalate (indicators.map String.toList) =
        [' '].intercalate (latent.toList :: ['=', '~'] ::
          ((if fixed then ['1', '*'] else []) ++ name.toList) :: rest) := by
      rw [List.intercalate_cons_cons, List.intercalate_cons_cons, intercalate_append_cons, ← hsum,
        intercalate_sumPieces]
      simp
    have hsumpieces : ∀ piece ∈ name.toList :: rest, ' ' ∉ piece := by
      rw [← hsum]
      exact fun _ hpiece => not_mem_of_mem_sumPieces hindicators hpiece
    obtain ⟨hfirst, hrest⟩ := List.forall_mem_cons.mp hsumpieces
    have hmarked : ' ' ∉ (if fixed then ['1', '*'] else []) ++ name.toList := by
      cases fixed <;> simpa using hfirst
    have hpieces : ∀ piece ∈ latent.toList :: ['=', '~'] ::
        ((if fixed then ['1', '*'] else []) ++ name.toList) :: rest, ' ' ∉ piece :=
      List.forall_mem_cons.mpr ⟨not_mem_of_isIdentifier hlatent (by decide),
        List.forall_mem_cons.mpr ⟨by decide, List.forall_mem_cons.mpr ⟨hmarked, hrest⟩⟩⟩
    rw [hline, ofLine?_intercalate (List.cons_ne_nil _ _) hpieces]
    simp only [ofPieces?, identifier?_eq_some_iff.mpr ⟨hlatent, rfl⟩, Option.bind_some, if_true,
      unmark_mark (hindicators name hname), ← hsum, sum?_sumPieces hne hindicators, Option.map_some]
  | @formative latent causes hlatent hne hcauses =>
    obtain ⟨name, hname, rest, hsum⟩ := exists_sumPieces_eq_cons hne
    have hline : latent.toList ++ [' ', '<', '~', ' '] ++
          [' ', '+', ' '].intercalate (causes.map String.toList) =
        [' '].intercalate (latent.toList :: ['<', '~'] :: name.toList :: rest) := by
      rw [List.intercalate_cons_cons, List.intercalate_cons_cons, ← hsum, intercalate_sumPieces]
      simp
    have hsumpieces : ∀ piece ∈ name.toList :: rest, ' ' ∉ piece := by
      rw [← hsum]
      exact fun _ hpiece => not_mem_of_mem_sumPieces hcauses hpiece
    have hpieces : ∀ piece ∈ latent.toList :: ['<', '~'] :: name.toList :: rest, ' ' ∉ piece :=
      List.forall_mem_cons.mpr ⟨not_mem_of_isIdentifier hlatent (by decide),
        List.forall_mem_cons.mpr ⟨by decide, hsumpieces⟩⟩
    rw [hline, ofLine?_intercalate (List.cons_ne_nil _ _) hpieces]
    simp only [ofPieces?, identifier?_eq_some_iff.mpr ⟨hlatent, rfl⟩, Option.bind_some, if_true,
      ← hsum, sum?_sumPieces hne hcauses, Option.map_some]
    rfl
  | @fixVariance latent hlatent =>
    have hline : latent.toList ++ [' ', '~', '~', ' ', '1', '*'] ++ latent.toList =
        [' '].intercalate [latent.toList, ['~', '~'], '1' :: '*' :: latent.toList] := by
      rw [List.intercalate_cons_cons, List.intercalate_cons_cons, List.intercalate_singleton]
      simp
    have hspace : ' ' ∉ latent.toList := not_mem_of_isIdentifier hlatent (by decide)
    have hpieces : ∀ piece ∈ [latent.toList, ['~', '~'], '1' :: '*' :: latent.toList],
        ' ' ∉ piece := by
      simp [hspace]
    rw [hline, ofLine?_intercalate (List.cons_ne_nil _ _) hpieces]
    simp [ofPieces?, identifier?_eq_some_iff.mpr ⟨hlatent, rfl⟩]

/-- A line that is read as a statement has one of the forms. -/
lemma isLine_of_ofLine? {line : List Char} {s : Statement} (h : ofLine? line = some s) :
    IsLine line s := by
  have hline : [' '].intercalate (line.splitOn ' ') = line := List.intercalate_splitOn ' '
  -- The pieces are put together again, and then only the pieces matter.
  rw [← hline]
  unfold ofLine? at h
  generalize line.splitOn ' ' = pieces at h ⊢
  unfold ofPieces? at h
  split at h
  · next latent sign first rest =>
    obtain ⟨name, hname, hsigned⟩ := Option.bind_eq_some_iff.mp h
    obtain ⟨hid, rfl⟩ := identifier?_eq_some_iff.mp hname
    rw [List.intercalate_cons_cons, List.intercalate_cons_cons]
    split at hsigned
    · next hsign =>
      obtain ⟨names, hnames, rfl⟩ := Option.map_eq_some_iff.mp hsigned
      obtain ⟨hne, hids, hpieces⟩ := eq_sumPieces_of_sum?_eq_some hnames
      have hform := IsLine.reflective (unmark first).1 hid hne hids
      rw [← intercalate_sumPieces, ← hpieces, List.append_assoc, ← intercalate_append_cons,
        unmark_append] at hform
      rw [hsign]
      simpa using hform
    · split at hsigned
      · next hsign =>
        obtain ⟨names, hnames, rfl⟩ := Option.map_eq_some_iff.mp hsigned
        obtain ⟨hne, hids, hpieces⟩ := eq_sumPieces_of_sum?_eq_some hnames
        have hform := IsLine.formative hid hne hids
        rw [← intercalate_sumPieces, ← hpieces] at hform
        rw [hsign]
        simpa using hform
      · split at hsigned
        · next hfixed =>
          obtain ⟨hsign, rfl, rfl⟩ := hfixed
          obtain rfl := Option.some.inj hsigned
          rw [hsign]
          simpa using IsLine.fixVariance hid
        · simp at hsigned
  · simp at h

/-- A line is read as a statement exactly when it has one of the forms. -/
theorem ofLine?_eq_some_iff {line : List Char} {s : Statement} :
    ofLine? line = some s ↔ IsLine line s :=
  ⟨isLine_of_ofLine?, ofLine?_of_isLine⟩

end Statement

end Psychometrics
