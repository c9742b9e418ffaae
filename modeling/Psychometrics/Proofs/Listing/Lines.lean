import Psychometrics.Listing.Basic
import Psychometrics.Proofs.Statement.Outline

/-!
# The lines of a compiled text

A compiled text is a list of lines, each ended by a line break: the statements, and behind an empty
line the legend (`Model.toList_of_text?_eq_ok`).  No line holds a break of its own, whatever texts
the user has typed, so that splitting the text gives back these lines and nothing else.

It follows that free text never turns into a statement.  Every line is empty, a comment, or states
something, and reading the text back gives the statements of the model with a meaning, whatever the
options are (`Model.text_reads_back`).
-/

namespace Psychometrics

namespace Listing

/-! ### Lines and breaks -/

/-- The lines of a text: what stands between its line breaks. -/
def lines (text : String) : List (List Char) :=
  text.toList.splitOn '\n'

/-- The lines of a text that state something. -/
def statementLines (text : String) : List (List Char) :=
  (lines text).filter fun line => (Statement.ofLine? line).isSome

/-- What the lines of a text state, in order. -/
def read (text : String) : List Statement :=
  (lines text).filterMap Statement.ofLine?

/-- The lines that state something are the printed forms of what they state. -/
lemma statementLines_eq_map_chars (text : String) :
    statementLines text = (read text).map Statement.chars := by
  unfold statementLines read
  induction lines text with
  | nil => rfl
  | cons line rest ih =>
    cases hline : Statement.ofLine? line with
    | none => simp [hline, ih]
    | some s =>
      have hchars : line = s.chars := (Statement.ofLine?_eq_some_iff.mp hline).eq_chars
      simp [hline, ih, ← hchars]

/-- Lines, each ended by a line break. -/
def broken (ls : List (List Char)) : List Char :=
  ls.flatMap fun l => l ++ ['\n']

/-- Broken lines can be put together. -/
lemma broken_append (ls ks : List (List Char)) : broken (ls ++ ks) = broken ls ++ broken ks :=
  List.flatMap_append

/-- The first line is followed by a break. -/
lemma broken_cons (l : List Char) (ls : List (List Char)) :
    broken (l :: ls) = l ++ '\n' :: broken ls := by
  simp [broken]

/-- A single line is followed by a break. -/
lemma broken_singleton (l : List Char) : broken [l] = l ++ ['\n'] :=
  broken_cons l []

/-- The text of a list of lines has a break behind each of them. -/
lemma linesText_eq_broken (ls : List String) : linesText ls = broken (ls.map String.toList) := by
  rw [linesText, broken, List.flatMap_map]

/-- Lines without breaks of their own are found again between the breaks. -/
lemma splitOn_broken {ls : List (List Char)} (h : ∀ l ∈ ls, '\n' ∉ l) :
    (broken ls).splitOn '\n' = ls ++ [[]] := by
  induction ls with
  | nil => rfl
  | cons l rest ih =>
    obtain ⟨hl, hrest⟩ := List.forall_mem_cons.mp h
    rw [broken_cons, List.splitOn_append_cons_self_of_not_mem hl, ih hrest, List.cons_append]

/-- Lines joined by breaks are the broken lines without the last break. -/
lemma intercalate_concat (ls : List (List Char)) (last : List Char) :
    ['\n'].intercalate (ls ++ [last]) = broken ls ++ last := by
  induction ls with
  | nil => simp [broken]
  | cons l rest ih =>
    have hne : rest ++ [last] ≠ [] := List.append_ne_nil_of_right_ne_nil rest (List.cons_ne_nil _ _)
    obtain ⟨next, others, hcons⟩ := List.exists_cons_of_ne_nil hne
    rw [List.cons_append, hcons, List.intercalate_cons_cons, ← hcons, ih]
    simp [broken]

/-- Ending joined lines in a break breaks them all, if the last one is not empty. -/
lemma ended_intercalate {ls : List (List Char)} (h : ∀ l ∈ ls, '\n' ∉ l)
    (hlast : ls.getLast? ≠ some []) : ended (['\n'].intercalate ls) = broken ls := by
  rcases List.eq_nil_or_concat ls with rfl | ⟨init, last, rfl⟩
  · rfl
  · have hne : last ≠ [] := by
      rintro rfl
      exact hlast (by simp)
    have hbreak : last.getLast? ≠ some '\n' := by
      intro heq
      exact h last (by simp) (List.mem_of_getLast? heq)
    have hend : (broken init ++ last).getLast? = last.getLast? :=
      List.getLast?_append_of_ne_nil _ hne
    rw [List.concat_eq_append, intercalate_concat, broken_append, broken_singleton, ended, hend]
    simp [hne, hbreak]

/-- Broken lines end in a break already. -/
lemma ended_broken (ls : List (List Char)) : ended (broken ls) = broken ls := by
  rcases List.eq_nil_or_concat ls with rfl | ⟨init, last, rfl⟩
  · rfl
  · rw [List.concat_eq_append, broken_append, broken_singleton, ended]
    simp

/-- A legend behind joined lines is set off by an empty line. -/
lemma withLegend_intercalate {ls ks : List (List Char)} (hlast : ls.getLast? ≠ some []) :
    withLegend (['\n'].intercalate ls) (broken ks) =
      broken (ls ++ (if ls = [] then [] else [[]]) ++ ks) := by
  rcases List.eq_nil_or_concat ls with rfl | ⟨init, last, rfl⟩
  · rfl
  · have hne : last ≠ [] := by
      rintro rfl
      exact hlast (by simp)
    rw [List.concat_eq_append, intercalate_concat, withLegend]
    simp [hne, broken_append, broken_cons]

end Listing

/-! ### Legend lines -/

namespace Text

/-- Decimal text holds no line break. -/
lemma newline_not_mem_ofInt (i : Int) : '\n' ∉ (ofInt i).toList := by
  have hdigits : ∀ n, '\n' ∉ Nat.toDigits 10 n := by
    intro n hmem
    have hdigit := Nat.isDigit_of_mem_toDigits (by decide) (by decide) hmem
    revert hdigit
    decide
  rw [ofInt, String.toList_ofList]
  cases i with
  | ofNat n => exact hdigits n
  | negSucc n =>
    rw [intChars, List.mem_cons, not_or]
    exact ⟨by decide, hdigits (n + 1)⟩

end Text

/-- An entry that keeps to one line. -/
def LegendEntry.IsPrintable (entry : LegendEntry) : Prop :=
  '\n' ∉ entry.name.toList ∧ '\n' ∉ entry.kind.toList ∧
    ∀ text, entry.text = some text → '\n' ∉ text.toList

/-- The line of a printable entry is a comment of one line. -/
lemma LegendEntry.IsPrintable.line {entry : LegendEntry} (h : entry.IsPrintable) :
    entry.line.toList.head? = some '#' ∧ '\n' ∉ entry.line.toList := by
  obtain ⟨hname, hkind, htext⟩ := h
  have hexcluded : '\n' ∉ (if entry.excluded then " (excluded)" else "").toList := by
    split <;> decide
  constructor
  · rw [LegendEntry.line]
    simp
  · rw [LegendEntry.line]
    simp only [String.toList_append, List.mem_append, not_or]
    refine ⟨⟨⟨⟨⟨by decide, hname⟩, by decide⟩, hkind⟩, hexcluded⟩, ?_⟩
    split
    · decide
    · next text heq => simp [htext text heq]

namespace Model

variable {m : Model} {names : Names}

/-- A clipped text is on one line. -/
lemma newline_not_mem_clip (width : Nat) (text : String) :
    '\n' ∉ (Legend.clip width text).toList := by
  rw [Legend.clip, String.toList_ofList]
  exact fun hmem => Text.newline_not_mem_oneLineChars _ (List.mem_of_mem_take hmem)

/-- Names have no line break in them. -/
lemma newline_not_mem_of_find? (h : names.IsConsistent) {symbol : Symbol} {name : String}
    (hname : names.find? symbol = some name) : '\n' ∉ name.toList :=
  Statement.not_mem_of_isIdentifier (h.isIdentifier symbol name hname) (by decide)

/-- The owner of a global item is called by a text of one line. -/
lemma newline_not_mem_ownerLabel {latent : Latent} (h : latent ∈ m.globalOwners) :
    '\n' ∉ (m.ownerLabel latent).toList := by
  rcases List.mem_append.mp h with h | h
  · obtain ⟨facet, hfacet, rfl⟩ := List.mem_map.mp h
    have hfound : (m.instrument.facet? facet.id).isSome = true :=
      List.find?_isSome.mpr ⟨facet, hfacet, beq_self_eq_true facet.id⟩
    obtain ⟨found, hfound⟩ := Option.isSome_iff_exists.mp hfound
    unfold ownerLabel
    dsimp only
    rw [hfound]
    exact Text.newline_not_mem_oneLine _
  · obtain rfl := List.mem_singleton.mp h
    show '\n' ∉ "higher-order construct".toList
    decide

/-- The entries of the items can be printed. -/
lemma isPrintable_of_mem_itemEntries (h : names.IsConsistent) (width : Nat) :
    ∀ entry ∈ m.itemEntries names width, entry.IsPrintable := by
  intro entry hentry
  obtain ⟨item, -, hitem⟩ := List.mem_filterMap.mp hentry
  obtain ⟨name, hname, rfl⟩ := Option.map_eq_some_iff.mp hitem
  refine ⟨newline_not_mem_of_find? h hname, ?_, ?_⟩
  · rw [String.toList_append, List.mem_append, not_or]
    exact ⟨by decide, Text.newline_not_mem_ofInt _⟩
  · intro text htext
    obtain rfl := Option.some.inj htext
    exact newline_not_mem_clip width item.text

/-- The entries of the global items can be printed. -/
lemma isPrintable_of_mem_globalEntries (h : names.IsConsistent) (width : Nat) :
    ∀ entry ∈ m.globalEntries names width, entry.IsPrintable := by
  intro entry hentry
  obtain ⟨latent, hlatent, hentry⟩ := List.mem_flatMap.mp hentry
  obtain ⟨item, -, hitem⟩ := List.mem_filterMap.mp hentry
  obtain ⟨name, hname, rfl⟩ := Option.map_eq_some_iff.mp hitem
  refine ⟨newline_not_mem_of_find? h hname, ?_, ?_⟩
  · rw [String.toList_append, List.mem_append, not_or]
    exact ⟨by decide, newline_not_mem_ownerLabel hlatent⟩
  · intro text htext
    obtain rfl := Option.some.inj htext
    exact newline_not_mem_clip width item.text

/-- The entries of the facets can be printed. -/
lemma isPrintable_of_mem_facetEntries (h : names.IsConsistent) :
    ∀ entry ∈ m.facetEntries names, entry.IsPrintable := by
  intro entry hentry
  obtain ⟨facet, -, hfacet⟩ := List.mem_filterMap.mp hentry
  split at hfacet
  · simp at hfacet
  · obtain ⟨name, hname, rfl⟩ := Option.map_eq_some_iff.mp hfacet
    refine ⟨newline_not_mem_of_find? h hname, ?_, ?_⟩
    · rw [String.toList_append, List.mem_append, not_or]
      exact ⟨by decide, Text.newline_not_mem_oneLine _⟩
    · intro text htext
      simp at htext

/-- The entry of the construct can be printed. -/
lemma isPrintable_overallEntry (h : names.IsConsistent) : (m.overallEntry names).IsPrintable := by
  refine ⟨newline_not_mem_of_find? h h.overall, ?_, ?_⟩
  · unfold overallEntry
    dsimp only
    split
    · decide
    · rw [String.toList_append, List.mem_append, not_or]
      exact ⟨by decide, Text.newline_not_mem_oneLine _⟩
  · intro text htext
    cases htext

/-- Every line of the legend is a comment of one line. -/
lemma comment_of_mem_legendLines (h : names.IsConsistent) (width : Nat) :
    ∀ line ∈ m.legendLines names width,
      line.toList.head? = some '#' ∧ '\n' ∉ line.toList := by
  have hentries : ∀ entry ∈ m.legendEntries names width, entry.IsPrintable := by
    unfold legendEntries
    rw [List.forall_mem_append, List.forall_mem_append]
    refine ⟨⟨isPrintable_of_mem_itemEntries h width, ?_⟩, ?_⟩
    · split
      · exact fun entry hentry => absurd hentry List.not_mem_nil
      · rw [List.forall_mem_append]
        exact ⟨isPrintable_of_mem_globalEntries h width, isPrintable_of_mem_facetEntries h⟩
    · intro entry hentry
      obtain rfl := List.mem_singleton.mp hentry
      exact isPrintable_overallEntry h
  refine List.forall_mem_cons.mpr ⟨by decide, ?_⟩
  intro line hline
  obtain ⟨entry, hentry, rfl⟩ := List.mem_map.mp hline
  exact (hentries entry hentry).line

/-! ### The text of a model -/

/-- The lines of a text with given statements: those of the statements and, if wanted, the legend
behind an empty line. -/
def listingLines (m : Model) (names : Names) (options : ListingOptions)
    (statements : List Statement) : List (List Char) :=
  let body := statements.map Statement.chars
  let legend := (m.legendLines names options.width).map String.toList
  if options.legend then body ++ (if body = [] then [] else [[]]) ++ legend else body

/-- The lines of statements hold no line break, and the last one is not empty. -/
lemma newline_not_mem_map_chars {statements : List Statement}
    (hprintable : ∀ s ∈ statements, s.IsPrintable) (hlast : statements.getLast? ≠ some .blank) :
    (∀ line ∈ statements.map Statement.chars, '\n' ∉ line) ∧
      (statements.map Statement.chars).getLast? ≠ some [] := by
  constructor
  · exact List.forall_mem_map.mpr fun s hs => (hprintable s hs).newline_not_mem_chars
  · intro heq
    rw [List.getLast?_map] at heq
    obtain ⟨s, hs, hchars⟩ := Option.map_eq_some_iff.mp heq
    have hblank : s ≠ .blank := fun hblank => hlast (hblank ▸ hs)
    exact (hprintable s (List.mem_of_getLast? hs)).chars_ne_nil hblank hchars

/-- What holds of the lines of statements, of comments and of the empty line holds of all lines of a
text. -/
lemma forall_mem_listingLines (h : names.IsConsistent) {options : ListingOptions}
    {statements : List Statement} {p : List Char → Prop}
    (hbody : ∀ line ∈ statements.map Statement.chars, p line)
    (hcomment : ∀ line, line.head? = some '#' → '\n' ∉ line → p line) (hempty : p []) :
    ∀ line ∈ m.listingLines names options statements, p line := by
  have hlegend : ∀ line ∈ (m.legendLines names options.width).map String.toList, p line := by
    refine List.forall_mem_map.mpr fun line hline => ?_
    obtain ⟨hhash, hbreak⟩ := comment_of_mem_legendLines h options.width line hline
    exact hcomment _ hhash hbreak
  unfold listingLines
  dsimp only
  split
  · rw [List.forall_mem_append, List.forall_mem_append]
    refine ⟨⟨hbody, ?_⟩, hlegend⟩
    split
    · exact fun line hline => absurd hline List.not_mem_nil
    · exact List.forall_mem_singleton.mpr hempty
  · exact hbody

/-- The last line of a text is not empty. -/
lemma getLast?_listingLines_ne (h : names.IsConsistent) {options : ListingOptions}
    {statements : List Statement}
    (hlast : (statements.map Statement.chars).getLast? ≠ some []) :
    (m.listingLines names options statements).getLast? ≠ some [] := by
  unfold listingLines
  dsimp only
  split
  · have hne : (m.legendLines names options.width).map String.toList ≠ [] :=
      List.cons_ne_nil _ _
    rw [List.getLast?_append_of_ne_nil _ hne]
    intro heq
    obtain ⟨line, hline, hnil⟩ := List.mem_map.mp (List.mem_of_getLast? heq)
    have hhash := (comment_of_mem_legendLines h options.width line hline).1
    rw [hnil] at hhash
    simp at hhash
  · exact hlast

/-- Reading the lines of a text gives the statements with a meaning. -/
lemma filterMap_ofLine?_listingLines (h : names.IsConsistent) {options : ListingOptions}
    {statements : List Statement} (hprintable : ∀ s ∈ statements, s.IsPrintable) :
    (m.listingLines names options statements).filterMap Statement.ofLine? =
      statements.filter Statement.isMeaningful := by
  have hbody := Statement.filterMap_ofLine?_map_chars hprintable
  have hempty : [[]].filterMap Statement.ofLine? = [] := by
    rw [List.filterMap_cons, Statement.ofLine?_nil, List.filterMap_nil]
  have hlegend : ((m.legendLines names options.width).map String.toList).filterMap
      Statement.ofLine? = [] := by
    refine List.filterMap_eq_nil_iff.mpr (List.forall_mem_map.mpr fun line hline => ?_)
    obtain ⟨cs, hcs⟩ :=
      List.head?_eq_some_iff.mp (comment_of_mem_legendLines h options.width line hline).1
    rw [hcs]
    exact Statement.ofLine?_hash cs
  unfold listingLines
  dsimp only
  split
  · rw [List.filterMap_append, List.filterMap_append, hbody, hlegend, List.append_nil]
    split
    · rw [List.filterMap_nil, List.append_nil]
    · rw [hempty, List.append_nil]
  · exact hbody

/-- A text that is compiled consists of its statements and its legend, line by line. -/
lemma toList_of_text?_eq_ok {options : ListingOptions} {text : String}
    (h : m.text? options = .ok text) :
    ∃ names statements, m.names = .ok names ∧
      m.statements names options.comments = .ok statements ∧
      text.toList = Listing.broken (m.listingLines names options statements) := by
  obtain ⟨names, hnames, h⟩ := bind_eq_ok_iff.mp h
  obtain ⟨statements, hstatements, h⟩ := bind_eq_ok_iff.mp h
  obtain rfl := Except.ok.inj h
  refine ⟨names, statements, hnames, hstatements, ?_⟩
  obtain ⟨hprintable, hlast⟩ :=
    isPrintable_statements (isConsistent_of_names_eq_ok hnames) hstatements
  obtain ⟨hbody, hbodylast⟩ := newline_not_mem_map_chars hprintable hlast
  rw [String.toList_ofList, Statement.renderChars]
  unfold listingLines
  dsimp only
  split
  · rw [Listing.linesText_eq_broken, Listing.withLegend_intercalate hbodylast,
      Listing.ended_broken]
  · exact Listing.ended_intercalate hbody hbodylast

/-- The text of a model that compiles is what it is compiled to. -/
lemma text_of_text?_eq_ok {options : ListingOptions} {text : String}
    (h : m.text? options = .ok text) : m.text options = text := by
  rw [Model.text, h]

/-- The text of a model that does not compile tells the reason. -/
lemma text_of_text?_eq_error {options : ListingOptions} {e : CompileError}
    (h : m.text? options = .error e) : m.text options = Listing.failureText e := by
  rw [Model.text, h]

/-- If a model is compiled under some options, it is compiled under all. -/
lemma exists_text?_eq_ok {options : ListingOptions} {text : String}
    (h : m.text? options = .ok text) (other : ListingOptions) :
    ∃ text, m.text? other = .ok text := by
  obtain ⟨names, statements, hnames, hstatements, -⟩ := toList_of_text?_eq_ok h
  obtain ⟨parts, hparts, -⟩ := exists_outline_of_statements_eq_ok hstatements
  obtain ⟨others, hothers, -⟩ := filter_statements_of_outline hparts other.comments
  refine ⟨_, bind_eq_ok_iff.mpr ⟨names, hnames, bind_eq_ok_iff.mpr ⟨others, hothers, rfl⟩⟩⟩

/-- The lines of a text that is compiled: each is empty, a comment, or states something, and
together they state what the model does. -/
lemma lines_of_text?_eq_ok {options : ListingOptions} {text : String}
    (h : m.text? options = .ok text) :
    (∀ line ∈ Listing.lines text,
        line = [] ∨ line.head? = some '#' ∨ ∃ s, Statement.IsLine line s) ∧
      ∃ names statements, m.names = .ok names ∧ m.statements names false = .ok statements ∧
        Listing.read text = statements.filter Statement.isMeaningful := by
  obtain ⟨names, statements, hnames, hstatements, htext⟩ := toList_of_text?_eq_ok h
  have hconsistent := isConsistent_of_names_eq_ok hnames
  obtain ⟨hprintable, hlast⟩ := isPrintable_statements hconsistent hstatements
  have hbody := (newline_not_mem_map_chars hprintable hlast).1
  have hbreak : ∀ line ∈ m.listingLines names options statements, '\n' ∉ line :=
    forall_mem_listingLines hconsistent hbody (fun _ _ hbreak => hbreak) List.not_mem_nil
  have hlines : Listing.lines text = m.listingLines names options statements ++ [[]] := by
    rw [Listing.lines, htext, Listing.splitOn_broken hbreak]
  constructor
  · rw [hlines, List.forall_mem_append]
    refine ⟨?_, List.forall_mem_singleton.mpr (.inl rfl)⟩
    refine forall_mem_listingLines hconsistent ?_ (fun _ hhash _ => .inr (.inl hhash)) (.inl rfl)
    exact List.forall_mem_map.mpr fun s hs => (hprintable s hs).chars_cases
  · obtain ⟨parts, hparts, -⟩ := exists_outline_of_statements_eq_ok hstatements
    obtain ⟨others, hothers, -, hfilter⟩ := filter_statements_of_outline hparts false
    obtain ⟨same, hsame, -, hfilter'⟩ := filter_statements_of_outline hparts options.comments
    obtain rfl := Except.ok.inj (hsame.symm.trans hstatements)
    refine ⟨names, others, hnames, hothers, ?_⟩
    rw [Listing.read, hlines, List.filterMap_append, filterMap_ofLine?_listingLines hconsistent
      hprintable, List.filterMap_cons, Statement.ofLine?_nil, hfilter, hfilter']
    exact List.append_nil _

/-- A text that is compiled is empty or ends in exactly one line break. -/
lemma getLast?_of_text?_eq_ok {options : ListingOptions} {text : String}
    (h : m.text? options = .ok text) :
    text.toList = [] ∨ ∃ body, text.toList = body ++ ['\n'] ∧ body.getLast? ≠ some '\n' := by
  obtain ⟨names, statements, hnames, hstatements, htext⟩ := toList_of_text?_eq_ok h
  have hconsistent := isConsistent_of_names_eq_ok hnames
  obtain ⟨hprintable, hblank⟩ := isPrintable_statements hconsistent hstatements
  obtain ⟨hbody, hbodylast⟩ := newline_not_mem_map_chars hprintable hblank
  have hbreak : ∀ line ∈ m.listingLines names options statements, '\n' ∉ line :=
    forall_mem_listingLines hconsistent hbody (fun _ _ hbreak => hbreak) List.not_mem_nil
  have hlast : (m.listingLines names options statements).getLast? ≠ some [] :=
    getLast?_listingLines_ne hconsistent hbodylast
  rw [htext]
  rcases List.eq_nil_or_concat (m.listingLines names options statements) with
    hnil | ⟨init, last, hconcat⟩
  · rw [hnil]
    exact .inl rfl
  · rw [List.concat_eq_append] at hconcat
    rw [hconcat] at hbreak hlast ⊢
    have hne : last ≠ [] := by
      rintro rfl
      exact hlast (by simp)
    refine .inr ⟨Listing.broken init ++ last, ?_, ?_⟩
    · rw [Listing.broken_append, Listing.broken_singleton, List.append_assoc]
    · rw [List.getLast?_append_of_ne_nil _ hne]
      intro heq
      exact hbreak last (by simp) (List.mem_of_getLast? heq)

/-- The text of a model that cannot be compiled is a comment of one line. -/
lemma exists_failureText_eq (e : CompileError) :
    ∃ line : List Char, (Listing.failureText e).toList = line ++ ['\n'] ∧
      line.head? = some '#' ∧ '\n' ∉ line := by
  refine ⟨(Listing.failureMark ++ " " ++ Text.oneLine e.message).toList, ?_, ?_, ?_⟩
  · rw [Listing.failureText, String.toList_append]
    rfl
  · rw [Listing.failureMark]
    simp
  · rw [String.toList_append, List.mem_append, not_or]
    exact ⟨by decide, Text.newline_not_mem_oneLine _⟩

/-- The lines of a failure are comments, the empty one at the end apart, and state nothing. -/
lemma lines_failureText (e : CompileError) :
    (∀ line ∈ Listing.lines (Listing.failureText e),
        line = [] ∨ line.head? = some '#') ∧
      Listing.read (Listing.failureText e) = [] := by
  obtain ⟨line, htext, hhash, hbreak⟩ := exists_failureText_eq e
  have hlines : Listing.lines (Listing.failureText e) = [line, []] := by
    rw [Listing.lines, htext, List.splitOn_append_cons_self_of_not_mem hbreak, List.splitOn_nil]
  obtain ⟨cs, rfl⟩ := List.head?_eq_some_iff.mp hhash
  rw [Listing.read, hlines]
  constructor
  · exact List.forall_mem_cons.mpr ⟨.inr rfl, List.forall_mem_singleton.mpr (.inl rfl)⟩
  · rw [List.filterMap_cons, Statement.ofLine?_hash, List.filterMap_cons, Statement.ofLine?_nil,
      List.filterMap_nil]

/-- The text of a model states the same under all options. -/
lemma read_text_eq (m : Model) (options other : ListingOptions) :
    Listing.read (m.text other) = Listing.read (m.text options) := by
  cases h : m.text? options with
  | ok text =>
    obtain ⟨text', h'⟩ := exists_text?_eq_ok h other
    obtain ⟨-, names, statements, hnames, hstatements, hread⟩ := lines_of_text?_eq_ok h
    obtain ⟨-, names', statements', hnames', hstatements', hread'⟩ := lines_of_text?_eq_ok h'
    obtain rfl := Except.ok.inj (hnames.symm.trans hnames')
    obtain rfl := Except.ok.inj (hstatements.symm.trans hstatements')
    rw [text_of_text?_eq_ok h, text_of_text?_eq_ok h', hread, hread']
  | error e =>
    cases h' : m.text? other with
    | ok text' =>
      obtain ⟨text, htext⟩ := exists_text?_eq_ok h' options
      rw [h] at htext
      simp at htext
    | error e' =>
      rw [text_of_text?_eq_error h, text_of_text?_eq_error h', (lines_failureText e).2,
        (lines_failureText e').2]

/-- Free text never turns into a statement.  Under all options, each line of the text of a model is
empty, a comment, or states something, and what the lines state are the statements of the model, or
nothing when it cannot be compiled.  The text is empty or ends in exactly one line break. -/
theorem text_reads_back (m : Model) (options : ListingOptions) :
    (∀ line ∈ Listing.lines (m.text options),
        line = [] ∨ line.head? = some '#' ∨ ∃ s, Statement.IsLine line s) ∧
      (∀ text, m.text? options = .ok text →
        m.text options = text ∧
          ∃ names statements, m.names = .ok names ∧ m.statements names false = .ok statements ∧
            Listing.read text = statements.filter Statement.isMeaningful) ∧
      (∀ e, m.text? options = .error e →
        ∀ line ∈ Listing.lines (m.text options), ∀ s, ¬ Statement.IsLine line s) ∧
      (∀ other, Listing.statementLines (m.text other) = Listing.statementLines (m.text options)) ∧
      ((m.text options).toList = [] ∨
        ∃ body, (m.text options).toList = body ++ ['\n'] ∧ body.getLast? ≠ some '\n') := by
  have hother : ∀ other,
      Listing.statementLines (m.text other) = Listing.statementLines (m.text options) := by
    intro other
    rw [Listing.statementLines_eq_map_chars, Listing.statementLines_eq_map_chars,
      read_text_eq m options other]
  cases h : m.text? options with
  | ok text =>
    have htext : m.text options = text := text_of_text?_eq_ok h
    obtain ⟨hlines, hread⟩ := lines_of_text?_eq_ok h
    refine ⟨by rwa [htext], ?_, ?_, hother, ?_⟩
    · intro text' h'
      obtain rfl := Except.ok.inj h'
      exact ⟨htext, hread⟩
    · intro e he
      simp at he
    · rw [htext]
      exact getLast?_of_text?_eq_ok h
  | error e =>
    have htext : m.text options = Listing.failureText e := text_of_text?_eq_error h
    obtain ⟨hlines, hread⟩ := lines_failureText e
    refine ⟨?_, ?_, ?_, hother, ?_⟩
    · rw [htext]
      intro line hline
      rcases hlines line hline with hnil | hhash
      · exact .inl hnil
      · exact .inr (.inl hhash)
    · intro text' h'
      simp at h'
    · -- What has the form of a statement would have been read.
      intro e' _ line hline s hs
      rw [htext] at hline
      rw [Listing.read, List.filterMap_eq_nil_iff] at hread
      have hnone := hread line hline
      rw [Statement.ofLine?_eq_some_iff.mpr hs] at hnone
      simp at hnone
    · obtain ⟨line, hfailure, hhash, hbreak⟩ := exists_failureText_eq e
      rw [htext]
      refine .inr ⟨line, hfailure, ?_⟩
      intro heq
      exact hbreak (List.mem_of_getLast? heq)

end Model

end Psychometrics
