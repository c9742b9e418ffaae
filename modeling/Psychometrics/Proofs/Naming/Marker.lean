import Mathlib
import Psychometrics.Proofs.Naming.Shape
import Psychometrics.Proofs.Naming.Supply

/-!
# Names behind a marker

Each kind of symbol has a marker of its own, and no name begins with the markers of two kinds
(`Symbol.marker_eq_of_beginsWith`).  An item and a global item want a name that begins with their
marker, so that all its forms do; the name of the construct begins with no marker of another kind
(`Model.beginsWith_overallName`).  Only the names of facets are free.

A name that is wanted in vain has a thousand forms that are taken: the one behind the marker, and
those with a number behind that (`Names.markedForms`).
-/

namespace Psychometrics

/-! ### Beginnings -/

/-- A text begins with another one when that is an initial part of its characters. -/
lemma beginsWith_iff {lead s : String} :
    beginsWith lead s = true ↔ lead.toList <+: s.toList :=
  List.isPrefixOf_iff_prefix

/-- A text begins with its first part. -/
lemma beginsWith_append (lead s : String) : beginsWith lead (lead ++ s) = true := by
  rw [beginsWith_iff, String.toList_append]
  exact List.prefix_append _ _

/-- A text that goes on begins as it did. -/
lemma beginsWith_append_of_beginsWith {lead s : String} (h : beginsWith lead s = true)
    (t : String) : beginsWith lead (s ++ t) = true := by
  rw [beginsWith_iff] at h ⊢
  rw [String.toList_append]
  exact h.trans (List.prefix_append _ _)

namespace Symbol

/-- No name begins with the markers of two kinds of symbols. -/
lemma marker_eq_of_beginsWith {s t : Symbol} {name : String}
    (hs : beginsWith s.marker name = true) (ht : beginsWith t.marker name = true) :
    s.marker = t.marker := by
  obtain ⟨cs, hcs⟩ := beginsWith_iff.mp hs
  obtain ⟨ds, hds⟩ := beginsWith_iff.mp ht
  have heq := hcs.trans hds.symm
  cases s <;> cases t <;> first
    | rfl
    | simp [marker] at heq

end Symbol

/-! ### Wanted names -/

/-- An item wants its number behind a letter, with an underscore for the minus sign. -/
lemma toList_itemName (id : Int64) :
    (itemName id).toList = 'i' :: (Text.intChars id.toInt).map Text.nameChar := by
  have hletter : Text.nameChar 'i' = 'i' := by decide
  have hdigit : ('i' : Char).isDigit = false := by decide
  simp [itemName, Text.sanitize, Text.ofInt, hletter, hdigit]

/-- Names of items begin with the marker of items. -/
lemma beginsWith_itemName (id : Int64) :
    beginsWith (Symbol.item id).marker (itemName id) = true := by
  have hmarker : (Symbol.item id).marker.toList = ['i'] := by simp [Symbol.marker]
  rw [beginsWith_iff, toList_itemName, hmarker]
  exact List.prefix_append ['i'] _

/-- Names of global items begin with the marker of global items. -/
lemma beginsWith_globalName (key id : String) :
    beginsWith (Symbol.global key id).marker (globalName id) = true := by
  unfold globalName
  dsimp only
  split
  · assumption
  · exact beginsWith_append _ _

/-- Different items want different names. -/
lemma itemName_injective : Function.Injective itemName := by
  intro id id' h
  have hchars := congrArg String.toList h
  rw [toList_itemName, toList_itemName] at hchars
  -- Reading the underscore as a minus sign gives the number back.
  let back : Char → Char := fun c => if c = '_' then '-' else c
  have hback : ∀ i, ((Text.intChars i).map Text.nameChar).map back = Text.intChars i := by
    intro i
    have hchar : ∀ c ∈ Text.intChars i, back (Text.nameChar c) = c := by
      intro c hc
      rcases Text.isDigit_or_eq_of_mem_intChars hc with hdigit | rfl
      · have hname : Text.isNameChar c = true := by
          simp [Text.isNameChar, Char.isAlphanum, hdigit]
        have hne : c ≠ '_' := by
          rintro rfl
          revert hdigit
          decide
        simp [back, Text.nameChar, hname, hne]
      · decide
    rw [List.map_map]
    exact (List.map_congr_left hchar).trans (List.map_id _)
  have hnumber : Text.intChars id.toInt = Text.intChars id'.toInt := by
    rw [← hback id.toInt, ← hback id'.toInt, (List.cons.inj hchars).2]
  exact Int64.toInt_inj.mp (Text.intChars_injective hnumber)

namespace Model

/-- The short code of a construct holds nothing but upper-case letters and digits. -/
lemma isCodeChar_of_mem_shortCode (m : Model) {c : Char} (h : c ∈ m.shortCode.toList) :
    Text.isCodeChar c = true := by
  unfold shortCode at h
  dsimp only at h
  split at h
  · cases hcode : m.configuration.shortCode with
    | none => simp [hcode] at h
    | some raw =>
      rw [hcode] at h
      exact Text.isCodeChar_of_mem_normalizeCode h
  · split at h
    · exact Text.isCodeChar_of_mem_normalizeCode h
    · have hdefault : defaultShortCode.toList.all Text.isCodeChar = true := by decide
      exact List.all_eq_true.mp hdefault c h

/-- The name of the construct is made of the characters of a code, with at most an underscore in
front. -/
lemma exists_toList_overallName_eq (m : Model) :
    ∃ c cs, m.overallName.toList = c :: cs ∧ (c = '_' ∨ Text.isCodeChar c = true) ∧
      ∀ x ∈ cs, Text.isCodeChar x = true := by
  have hchars : ∀ x ∈ m.shortCode.toList, Text.isCodeChar x = true :=
    fun _ => m.isCodeChar_of_mem_shortCode
  have hsame : m.shortCode.toList.map Text.nameChar = m.shortCode.toList := by
    refine (List.map_congr_left fun x hx => ?_).trans (List.map_id _)
    have hx := hchars x hx
    simp only [Text.isCodeChar, Bool.or_eq_true] at hx
    rcases hx with hx | hx <;>
      simp [Text.nameChar, Text.isNameChar, Char.isAlphanum, Char.isAlpha, hx]
  unfold overallName Text.sanitize
  rw [hsame]
  cases hcode : m.shortCode.toList with
  | nil =>
    have hrest : ['V', 'E', 'R', 'A', 'L', 'L'].all Text.isCodeChar = true := by decide
    exact ⟨'O', _, rfl, .inr (by decide), List.all_eq_true.mp hrest⟩
  | cons c cs =>
    rw [hcode, List.forall_mem_cons] at hchars
    dsimp only
    split
    · exact ⟨'_', c :: cs, String.toList_ofList, .inl rfl, List.forall_mem_cons.mpr hchars⟩
    · exact ⟨c, cs, String.toList_ofList, .inr hchars.1, hchars.2⟩

/-- The name of the construct begins with no marker of another kind. -/
lemma beginsWith_overallName (m : Model) {symbol : Symbol} (h : symbol ≠ .overall) :
    beginsWith symbol.marker m.overallName = false := by
  obtain ⟨c, cs, hname, hc, hcs⟩ := m.exists_toList_overallName_eq
  rw [Bool.eq_false_iff, Ne, beginsWith_iff, hname]
  rintro ⟨rest, hrest⟩
  cases symbol with
  | overall => exact h rfl
  | item id =>
    have hlower : ¬ ('i' = '_' ∨ Text.isCodeChar 'i' = true) := by decide
    obtain ⟨rfl, -⟩ : 'i' = c ∧ _ := by simpa [Symbol.marker] using hrest
    exact hlower hc
  | global key id =>
    have hlower : ¬ ('g' = '_' ∨ Text.isCodeChar 'g' = true) := by decide
    obtain ⟨rfl, -⟩ : 'g' = c ∧ _ := by simpa [Symbol.marker] using hrest
    exact hlower hc
  | facet id =>
    -- The marker of a facet has an underscore behind its letter.
    have hunderscore : ¬ Text.isCodeChar '_' = true := by decide
    obtain ⟨-, rfl⟩ : 'F' = c ∧ '_' :: rest = cs := by simpa [Symbol.marker] using hrest
    exact hunderscore (hcs '_' List.mem_cons_self)

end Model

/-! ### Forms of a name that is wanted in vain -/

namespace Names

/-- The forms of a wanted name beside itself: the one behind the marker, and those with a number
behind that. -/
def markedForms (symbol : Symbol) (wanted : String) : List String :=
  marked symbol wanted :: numbers.map (numbered (marked symbol wanted))

/-- A symbol has a thousand marked forms of a name. -/
@[simp] lemma length_markedForms (symbol : Symbol) (wanted : String) :
    (markedForms symbol wanted).length = 1000 := by
  rw [markedForms, List.length_cons, List.length_map, length_numbers]

/-- The forms of a name depend on the kind of the symbol only. -/
lemma markedForms_eq_of_marker_eq {s t : Symbol} (h : s.marker = t.marker) (wanted : String) :
    markedForms s wanted = markedForms t wanted := by
  simp only [markedForms, marked, h]

/-- The marked forms of a name are all different. -/
lemma nodup_markedForms (symbol : Symbol) (wanted : String) :
    (markedForms symbol wanted).Nodup := by
  refine List.nodup_cons.mpr ⟨?_, List.Nodup.map (numbered_injective _) List.nodup_range'⟩
  intro hmem
  -- A number makes a name longer.
  obtain ⟨n, -, hn⟩ := List.mem_map.mp hmem
  have hlength := congrArg String.length hn
  have hunderscore : "_".length = 1 := rfl
  rw [numbered, String.length_append, String.length_append] at hlength
  omega

/-- The forms of a wanted name begin with the marker of the symbol. -/
lemma beginsWith_of_mem_markedForms {symbol : Symbol} {wanted name : String}
    (h : name ∈ markedForms symbol wanted) : beginsWith symbol.marker name = true := by
  have hmarked : beginsWith symbol.marker (marked symbol wanted) = true := by
    unfold marked
    split
    · assumption
    · exact beginsWith_append _ _
  rcases List.mem_cons.mp h with rfl | h
  · exact hmarked
  · obtain ⟨n, -, rfl⟩ := List.mem_map.mp h
    exact beginsWith_append_of_beginsWith (beginsWith_append_of_beginsWith hmarked "_") _

/-- A free form of a wanted name is that name or one of its forms. -/
lemma mem_of_freeForm?_eq_some {taken : Std.HashSet String} {symbol : Symbol}
    {wanted name : String} (h : freeForm? taken symbol wanted = some name) :
    name ∈ wanted :: markedForms symbol wanted := by
  rcases eq_of_freeForm?_eq_some h with rfl | rfl | ⟨n, hn, rfl⟩
  · exact List.mem_cons_self
  · exact List.mem_cons_of_mem _ List.mem_cons_self
  · exact List.mem_cons_of_mem _ (List.mem_cons_of_mem _ (List.mem_map_of_mem hn))

/-- A name that is wanted in vain has none but taken forms. -/
lemma contains_of_freeForm?_eq_none {taken : Std.HashSet String} {symbol : Symbol}
    {wanted : String} (h : freeForm? taken symbol wanted = none) :
    ∀ name ∈ markedForms symbol wanted, taken.contains name = true := by
  unfold freeForm? at h
  split at h
  · cases h
  · split at h
    · cases h
    · next hmarked =>
      rw [Option.map_eq_none_iff, List.find?_eq_none] at h
      refine List.forall_mem_cons.mpr ⟨by simpa using hmarked, List.forall_mem_map.mpr ?_⟩
      intro n hn
      simpa using h n hn

end Names

end Psychometrics
