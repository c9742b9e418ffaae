import Mathlib
import Psychometrics.Proofs.Listing.Lines
import Psychometrics.Proofs.Naming.Marker
import Psychometrics.Proofs.Statement.Occurrence

/-!
# The legend and the statements

The legend is made by a walk of its own: it does not look at the statements, and has its own idea of
who owns an item and which global items are there.  All the same, whoever reads the compiled text
can rely on it (`Model.explains_of_names_eq_ok`).  Every variable of a statement that does not stand
for a facet is explained, a name is explained as one symbol only, and an item of a latent variable
that takes part is marked as excluded exactly when its variable occurs in no statement.
-/

namespace Psychometrics

/-! ### Reading a line -/

namespace Legend

/-- The name that a line explains: what stands between the comment sign and an equals sign. -/
def explained? (line : String) : Option String :=
  match line.toList with
  | '#' :: ' ' :: cs =>
    if [' ', '=', ' '].isPrefixOf (cs.dropWhile (· != ' ')) then
      some (String.ofList (cs.takeWhile (· != ' ')))
    else none
  | _ => none

/-- A line says of an item that it is excluded. -/
def marksExcluded (name : String) (itemId : Int64) (line : String) : Bool :=
  beginsWith ("# " ++ name ++ " = item " ++ Text.ofInt itemId.toInt ++ " (excluded)") line

/-- The line of an item says whether it is excluded, whatever its text is. -/
lemma marksExcluded_append (name : String) (itemId : Int64) (excluded : Bool) (text : String) :
    marksExcluded name itemId ("# " ++ name ++ " = " ++ ("item " ++ Text.ofInt itemId.toInt ++
      (if excluded then " (excluded)" else "") ++ (": " ++ text))) = excluded := by
  have hline : ("# " ++ name ++ " = " ++ ("item " ++ Text.ofInt itemId.toInt ++
      (if excluded then " (excluded)" else "") ++ (": " ++ text))).toList =
        ("# " ++ name ++ " = item " ++ Text.ofInt itemId.toInt).toList ++
          ((if excluded then " (excluded)" else "") ++ (": " ++ text)).toList := by
    simp
  rw [Bool.eq_iff_iff, marksExcluded, beginsWith_iff, hline, String.toList_append,
    List.prefix_append_right_inj]
  cases excluded <;> simp

/-- The header of a legend explains nothing. -/
lemma explained?_header : explained? header = none := by
  decide

/-- What stands behind the equals sign does not matter. -/
lemma explained?_append {name : String} (h : ' ' ∉ name.toList) (meaning : String) :
    explained? ("# " ++ name ++ " = " ++ meaning) = some name := by
  have hlead : ("# " ++ name ++ " = " ++ meaning).toList =
      '#' :: ' ' :: (name.toList ++ ' ' :: '=' :: ' ' :: meaning.toList) := by
    simp
  have hname : ∀ c ∈ name.toList, (c != ' ') = true := by
    intro c hc
    rw [bne_iff_ne]
    rintro rfl
    exact h hc
  unfold explained?
  simp only [hlead]
  rw [List.dropWhile_append_of_pos hname, List.takeWhile_append_of_pos hname]
  simp

end Legend

/-- What an entry says about its symbol, behind the equals sign. -/
def LegendEntry.meaning (entry : LegendEntry) : String :=
  entry.kind ++ (if entry.excluded then " (excluded)" else "") ++
    (match entry.text with
      | none => ""
      | some text => ": " ++ text)

/-- A line of a legend gives the name and what it means. -/
lemma LegendEntry.line_eq (entry : LegendEntry) :
    entry.line = "# " ++ entry.name ++ " = " ++ entry.meaning := by
  unfold line meaning
  cases entry.text <;> simp only [String.append_assoc]

namespace Model

variable {m : Model} {names : Names} {width : Nat} {symbol : Symbol} {name line meaning : String}
  {entry : LegendEntry} {item : Item} {statements : List Statement} {comments : Bool}

/-! ### What is said about a symbol -/

/-- What the legend says about a symbol: which item it is, whether it is excluded from the latent
variable that owns it, and its text; to whom a global item belongs, and its text; the label of a
facet; the name of the construct. -/
inductive Describes (m : Model) (width : Nat) : Symbol → String → Prop
  | item {item : Item} (h : item ∈ m.instrument.items) :
      m.Describes width (.item item.id) ("item " ++ Text.ofInt item.id.toInt ++
        (if m.isExcluded (m.ownerKey item) item.id then " (excluded)" else "") ++
          (": " ++ Legend.clip width item.text))
  | global {latent : Latent} {item : GlobalItem} (owner : latent ∈ m.globalOwners)
      (h : item ∈ m.presentGlobals latent) :
      m.Describes width (.global latent.key item.id) ("global reflective item of " ++
        m.ownerLabel latent ++ (": " ++ Legend.clip width item.text))
  | facet {facet : Facet} (h : facet ∈ m.instrument.facets) :
      m.Describes width (.facet facet.id) ("facet " ++ Text.oneLine facet.label)
  | overall (h : Text.oneLine m.instrument.construct.name = "") :
      m.Describes width .overall "overall construct"
  | construct (h : Text.oneLine m.instrument.construct.name ≠ "") :
      m.Describes width .overall
        ("overall construct " ++ Text.oneLine m.instrument.construct.name)

/-- Every entry bears the name of the symbol that it describes. -/
lemma describes_of_mem_legendEntries (hconsistent : names.IsConsistent)
    (h : entry ∈ m.legendEntries names width) :
    names.find? entry.symbol = some entry.name ∧
      m.Describes width entry.symbol entry.meaning := by
  unfold legendEntries at h
  rcases List.mem_append.mp h with h | h
  · rcases List.mem_append.mp h with h | h
    · obtain ⟨item, hitem, h⟩ := List.mem_filterMap.mp h
      obtain ⟨name, hname, rfl⟩ := Option.map_eq_some_iff.mp h
      exact ⟨hname, .item (List.mem_mergeSort.mp hitem)⟩
    · split at h
      · cases h
      · rcases List.mem_append.mp h with h | h
        · obtain ⟨latent, hlatent, h⟩ := List.mem_flatMap.mp h
          obtain ⟨item, hitem, h⟩ := List.mem_filterMap.mp h
          obtain ⟨name, hname, rfl⟩ := Option.map_eq_some_iff.mp h
          have hdescribes : m.Describes width _ _ := .global hlatent hitem
          exact ⟨hname, by simpa [LegendEntry.meaning] using hdescribes⟩
        · obtain ⟨facet, hfacet, h⟩ := List.mem_filterMap.mp h
          split at h
          · cases h
          · obtain ⟨name, hname, rfl⟩ := Option.map_eq_some_iff.mp h
            have hdescribes : m.Describes width _ _ := .facet hfacet
            exact ⟨hname, by simpa [LegendEntry.meaning] using hdescribes⟩
  · obtain rfl := List.mem_singleton.mp h
    refine ⟨hconsistent.overall, ?_⟩
    by_cases hconstruct : Text.oneLine m.instrument.construct.name = ""
    · have hdescribes : m.Describes width _ _ := .overall hconstruct
      simpa [overallEntry, LegendEntry.meaning, hconstruct] using hdescribes
    · have hdescribes : m.Describes width _ _ := .construct hconstruct
      simpa [overallEntry, LegendEntry.meaning, hconstruct] using hdescribes

/-! ### Lines -/

section Lines

variable (hconsistent : names.IsConsistent)

include hconsistent

/-- The line of an entry explains the name of the entry. -/
lemma explained?_line (h : entry ∈ m.legendEntries names width) :
    Legend.explained? entry.line = some entry.name := by
  have hname := (describes_of_mem_legendEntries hconsistent h).1
  have hidentifier := hconsistent.isIdentifier _ _ hname
  rw [entry.line_eq]
  exact Legend.explained?_append (Statement.not_mem_of_isIdentifier hidentifier (by decide)) _

/-- A line that explains a name is that of an entry with this name. -/
lemma exists_entry_of_explained (hline : line ∈ m.legendLines names width)
    (h : Legend.explained? line = some name) :
    ∃ entry ∈ m.legendEntries names width, entry.line = line ∧ entry.name = name := by
  rcases List.mem_cons.mp hline with rfl | hline
  · rw [Legend.explained?_header] at h
    cases h
  · obtain ⟨entry, hentry, rfl⟩ := List.mem_map.mp hline
    rw [explained?_line hconsistent hentry] at h
    exact ⟨entry, hentry, rfl, Option.some.inj h⟩

/-- A name that belongs to an entry is explained. -/
lemma exists_line_of_mem_legendEntries (h : entry ∈ m.legendEntries names width) :
    ∃ line ∈ m.legendLines names width, Legend.explained? line = some entry.name :=
  ⟨entry.line, List.mem_cons_of_mem _ (List.mem_map_of_mem h), explained?_line hconsistent h⟩

/-- The name of the construct is explained. -/
lemma exists_line_overall (m : Model) (width : Nat) :
    ∃ line ∈ m.legendLines names width, Legend.explained? line = some names.overall :=
  exists_line_of_mem_legendEntries hconsistent
    (List.mem_append_right _ (List.mem_singleton_self (m.overallEntry names)))

/-- The name of every item is explained. -/
lemma exists_line_item (width : Nat) (hitem : item ∈ m.instrument.items)
    (hname : names.find? (.item item.id) = some name) :
    ∃ line ∈ m.legendLines names width, Legend.explained? line = some name := by
  obtain ⟨entry, hentry, rfl⟩ : ∃ entry ∈ m.itemEntries names width, entry.name = name :=
    ⟨_, List.mem_filterMap.mpr ⟨item, List.mem_mergeSort.mpr hitem, by rw [hname]; rfl⟩, rfl⟩
  exact exists_line_of_mem_legendEntries hconsistent
    (List.mem_append_left _ (List.mem_append_left _ hentry))

/-- In a model with facets, the name of every present global item is explained. -/
lemma exists_line_global (width : Nat) (hmulti : m.isUnidimensional = false) {latent : Latent}
    {item : GlobalItem} (howner : latent ∈ m.globalOwners) (hitem : item ∈ m.presentGlobals latent)
    (hname : names.find? (.global latent.key item.id) = some name) :
    ∃ line ∈ m.legendLines names width, Legend.explained? line = some name := by
  obtain ⟨entry, hentry, rfl⟩ : ∃ entry ∈ m.globalEntries names width, entry.name = name :=
    ⟨_, List.mem_flatMap.mpr ⟨latent, howner,
      List.mem_filterMap.mpr ⟨item, hitem, by rw [hname]; rfl⟩⟩, rfl⟩
  refine exists_line_of_mem_legendEntries hconsistent
    (List.mem_append_left _ (List.mem_append_right _ ?_))
  rw [hmulti]
  exact List.mem_append_left _ hentry

/-- The name of a symbol that is used is explained, unless it is that of a facet. -/
lemma exists_line_of_uses (width : Nat) (huses : m.Uses symbol)
    (hname : names.find? symbol = some name) (hfacet : ∀ id, symbol ≠ .facet id) :
    ∃ line ∈ m.legendLines names width, Legend.explained? line = some name := by
  obtain ⟨latent, hcompiled, hmentions⟩ := huses
  have hoverall : symbol = .overall →
      ∃ line ∈ m.legendLines names width, Legend.explained? line = some name := by
    rintro rfl
    rw [hconsistent.overall] at hname
    exact Option.some.inj hname ▸ exists_line_overall hconsistent m width
  cases hmentions with
  | self =>
    cases latent with
    | unidim => exact hoverall rfl
    | facet id => exact absurd rfl (hfacet id)
    | secondOrder => exact hoverall rfl
  | item hitem =>
    exact exists_line_item hconsistent width (IsNamed.mem_items_of_mem_activeItems hitem) hname
  | global formative hitem =>
    cases latent with
    | unidim => cases formative
    | facet id =>
      obtain ⟨hmulti, facet, hmem, rfl⟩ := hcompiled
      have howner : Latent.facet facet.id ∈ m.globalOwners :=
        List.mem_append_left _ (List.mem_map_of_mem (List.mem_of_mem_filter hmem))
      exact exists_line_global hconsistent width hmulti howner hitem hname
    | secondOrder =>
      exact exists_line_global hconsistent width hcompiled.1
        (List.mem_append_right _ (List.mem_singleton_self _)) hitem hname
  | facet => exact absurd rfl (hfacet _)

end Lines

/-! ### Excluded items -/

/-- An item belongs to a latent variable that takes part: to the single one of a unidimensional
model, or to a facet with a mode. -/
def IsMeasured (m : Model) (item : Item) : Prop :=
  m.isUnidimensional = true ∨ m.isUnidimensional = false ∧ ∃ facet ∈ m.instrument.facets,
    item.facetId = some facet.id ∧ (m.facetMode? facet.id).isSome = true

/-- An item that is used is not excluded from the latent variable that owns it. -/
lemma isExcluded_eq_false_of_uses (hnodup : (m.instrument.items.map Item.id).Nodup)
    (hitem : item ∈ m.instrument.items) (h : m.Uses (.item item.id)) :
    m.isExcluded (m.ownerKey item) item.id = false := by
  obtain ⟨latent, hcompiled, hmentions⟩ := h
  obtain ⟨other, hother, hid⟩ : ∃ other ∈ m.activeItems latent, other.id = item.id := by
    generalize hsymbol : Symbol.item item.id = symbol at hmentions
    cases hmentions with
    | self => cases latent <;> cases hsymbol
    | item hother => exact ⟨_, hother, (Symbol.item.inj hsymbol).symm⟩
    | global => cases hsymbol
    | facet => cases hsymbol
  obtain rfl : other = item := List.inj_on_of_nodup_map hnodup
    (IsNamed.mem_items_of_mem_activeItems hother) hitem hid
  obtain ⟨hown, hactive⟩ := List.mem_filter.mp hother
  rw [Bool.not_eq_true'] at hactive
  cases latent with
  | unidim => rwa [ownerKey, if_pos hcompiled.1]
  | facet id =>
    have hfacet : other.facetId = some id := by
      simpa using (List.mem_filter.mp (List.mem_mergeSort.mp hown)).2
    rwa [ownerKey, hcompiled.1, if_neg Bool.false_ne_true, hfacet]
  | secondOrder => cases hown

/-- An item that is not excluded from its latent variable is used if that takes part. -/
lemma uses_of_isExcluded_eq_false (hitem : item ∈ m.instrument.items)
    (hmeasured : m.IsMeasured item) (h : m.isExcluded (m.ownerKey item) item.id = false) :
    m.Uses (.item item.id) := by
  rcases hmeasured with huni | ⟨hmulti, facet, hfacet, hid, hmode⟩
  · rw [ownerKey, if_pos huni] at h
    have hmem : item ∈ m.activeItems .unidim :=
      List.mem_filter.mpr ⟨List.mem_mergeSort.mpr hitem, by simpa [Latent.key] using h⟩
    exact ⟨.unidim, ⟨huni, List.ne_nil_of_mem hmem⟩, .item hmem⟩
  · rw [ownerKey, hmulti, if_neg Bool.false_ne_true, hid] at h
    have hown : item ∈ m.ownItems (.facet facet.id) :=
      List.mem_mergeSort.mpr (List.mem_filter.mpr ⟨hitem, by simp [hid]⟩)
    have hmem : item ∈ m.activeItems (.facet facet.id) :=
      List.mem_filter.mpr ⟨hown, by simpa [Latent.key] using h⟩
    have hemitted : facet ∈ m.emittedFacets :=
      List.mem_filter.mpr ⟨hfacet, isEmitted_of_mem_activeItems hmode hmem⟩
    exact ⟨.facet facet.id, ⟨hmulti, facet, hemitted, rfl⟩, .item hmem⟩

/-- The line of an item of a latent variable that takes part marks it as excluded exactly when it is
not used. -/
lemma marksExcluded_iff_of_explained (hconsistent : names.IsConsistent)
    (hnodup : (m.instrument.items.map Item.id).Nodup) (hitem : item ∈ m.instrument.items)
    (hmeasured : m.IsMeasured item) (hname : names.find? (.item item.id) = some name)
    (hline : line ∈ m.legendLines names width) (h : Legend.explained? line = some name) :
    Legend.marksExcluded name item.id line = true ↔ ¬ m.Uses (.item item.id) := by
  obtain ⟨entry, hentry, rfl, rfl⟩ := exists_entry_of_explained hconsistent hline h
  obtain ⟨hfind, hdescribes⟩ := describes_of_mem_legendEntries hconsistent hentry
  have hsymbol : entry.symbol = .item item.id := hconsistent.injective _ _ _ hfind hname
  rw [hsymbol] at hdescribes
  have huses : ¬ m.Uses (.item item.id) ↔ m.isExcluded (m.ownerKey item) item.id = true := by
    rw [← Bool.not_eq_false, not_iff_not]
    exact ⟨isExcluded_eq_false_of_uses hnodup hitem, uses_of_isExcluded_eq_false hitem hmeasured⟩
  rw [entry.line_eq, huses]
  generalize hid : item.id = id at hdescribes
  generalize entry.meaning = meaning at hdescribes
  cases hdescribes with
  | @item other hother =>
    obtain rfl : other = item := List.inj_on_of_nodup_map hnodup hother hitem hid.symm
    rw [Legend.marksExcluded_append]

/-! ### The whole legend -/

/-- The legend explains the statements.  The construct and every variable that occurs and is not
that of a facet has a line.  Entries that explain one name are entries of one symbol, and all lines
for a name describe the symbol that bears it.  If items have different ids, those of latent
variables that take part are marked as excluded exactly when their variables do not occur. -/
structure Explains (m : Model) (names : Names) (width : Nat) (statements : List Statement) :
    Prop where
  overall : ∃ line ∈ m.legendLines names width, Legend.explained? line = some names.overall
  occurring : ∀ name, Statement.Occurs name statements →
    (∀ id, names.find? (.facet id) ≠ some name) →
      ∃ line ∈ m.legendLines names width, Legend.explained? line = some name
  symbol_eq : ∀ entry ∈ m.legendEntries names width, ∀ other ∈ m.legendEntries names width,
    Legend.explained? entry.line = Legend.explained? other.line → entry.symbol = other.symbol
  describes : ∀ name, (∃ line ∈ m.legendLines names width, Legend.explained? line = some name) →
    ∃ symbol, names.find? symbol = some name ∧
      (∀ other, names.find? other = some name → other = symbol) ∧
      ∀ line ∈ m.legendLines names width, Legend.explained? line = some name →
        ∃ meaning, line = "# " ++ name ++ " = " ++ meaning ∧ m.Describes width symbol meaning
  marksExcluded_iff : (m.instrument.items.map Item.id).Nodup → ∀ item ∈ m.instrument.items,
    m.IsMeasured item → ∃ name, names.find? (.item item.id) = some name ∧
      (∃ line ∈ m.legendLines names width, Legend.explained? line = some name) ∧
      ∀ line ∈ m.legendLines names width, Legend.explained? line = some name →
        (Legend.marksExcluded name item.id line = true ↔ ¬ Statement.Occurs name statements)

/-- In a model whose symbols are named, the legend explains the statements, whatever its width. -/
theorem explains_of_names_eq_ok (hnames : m.names = .ok names) (width : Nat) (comments : Bool) :
    ∃ statements, m.statements names comments = .ok statements ∧
      m.Explains names width statements := by
  have hconsistent := isConsistent_of_names_eq_ok hnames
  obtain ⟨statements, hstatements⟩ := exists_statements_eq_ok hnames comments
  refine ⟨statements, hstatements, exists_line_overall hconsistent m width, ?_, ?_, ?_, ?_⟩
  · intro name hoccurs hfacet
    obtain ⟨symbol, huses, hname⟩ := (occurs_statements_iff hnames hstatements).mp hoccurs
    refine exists_line_of_uses hconsistent width huses hname fun id hid => ?_
    exact hfacet id (hid ▸ hname)
  · intro entry hentry other hother hsame
    rw [explained?_line hconsistent hentry, explained?_line hconsistent hother] at hsame
    have hfind := (describes_of_mem_legendEntries hconsistent hentry).1
    have hfound := (describes_of_mem_legendEntries hconsistent hother).1
    exact hconsistent.injective _ _ _ hfind (hsame ▸ hfound)
  · rintro name ⟨line, hline, h⟩
    -- Every line with the name explains the one symbol that has it.
    obtain ⟨entry, hentry, rfl, rfl⟩ := exists_entry_of_explained hconsistent hline h
    have hfind := (describes_of_mem_legendEntries hconsistent hentry).1
    have hunique : ∀ other, names.find? other = some entry.name → other = entry.symbol :=
      fun other hother => hconsistent.injective _ _ _ hother hfind
    refine ⟨entry.symbol, hfind, hunique, fun line hline h => ?_⟩
    obtain ⟨other, hother, rfl, hname⟩ := exists_entry_of_explained hconsistent hline h
    obtain ⟨hfound, hdescribes⟩ := describes_of_mem_legendEntries hconsistent hother
    rw [hname] at hfound
    exact ⟨other.meaning, hname ▸ other.line_eq, hunique _ hfound ▸ hdescribes⟩
  · intro hnodup item hitem hmeasured
    obtain ⟨name, hname⟩ := (HasSymbol.item hitem).exists_find?_eq_some hnames
    refine ⟨name, hname, exists_line_item hconsistent width hitem hname, fun line hline h => ?_⟩
    rw [occurs_iff_uses hnames hstatements hname]
    exact marksExcluded_iff_of_explained hconsistent hnodup hitem hmeasured hname hline h

/-- The legend of the mixed model explains its statements, and every item of it is marked or not. -/
theorem explains_mixed :
    (mixed.instrument.items.map Item.id).Nodup ∧
      (∀ item ∈ mixed.instrument.items, mixed.IsMeasured item) ∧
      ∃ names, mixed.names = .ok names ∧ ∃ statements,
        mixed.statements names true = .ok statements ∧ mixed.Explains names 70 statements := by
  obtain ⟨names, hnames⟩ := exists_names_eq_ok_of_length length_nameRequests_mixed (by decide)
  refine ⟨by decide, ?_, names, hnames, explains_of_names_eq_ok hnames 70 true⟩
  have ha : (mixed.facetMode? "a").isSome = true := by cbv
  have hb : (mixed.facetMode? "b").isSome = true := by cbv
  intro item hitem
  refine .inr ⟨rfl, ?_⟩
  simp only [mixed, List.mem_cons, List.not_mem_nil, or_false] at hitem
  rcases hitem with rfl | rfl | rfl | rfl
  · exact ⟨{ id := "a" }, by decide, rfl, ha⟩
  · exact ⟨{ id := "a" }, by decide, rfl, ha⟩
  · exact ⟨{ id := "a" }, by decide, rfl, ha⟩
  · exact ⟨{ id := "b" }, by decide, rfl, hb⟩

end Model

end Psychometrics
