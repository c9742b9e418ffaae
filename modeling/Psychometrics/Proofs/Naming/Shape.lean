import Mathlib
import Psychometrics.Naming.Names

/-!
# The shape of names

Every name that a symbol wants is an identifier, whatever the user has typed: sanitizing turns free
text into one, and what stands in for a text without characters is one as well
(`Model.isIdentifier_of_mem_nameRequests`).  The marked and the numbered forms of an identifier are
identifiers again, so that the form a symbol finally gets is one
(`Names.isIdentifier_of_freeForm?`).
-/

namespace Psychometrics

namespace Text

/-! ### Identifiers as texts -/

/-- An identifier is an initial character followed by characters of names. -/
lemma isIdentifier_iff {s : String} : isIdentifier s = true ↔
    ∃ c cs, s.toList = c :: cs ∧ isNameStart c = true ∧ ∀ x ∈ cs, isNameChar x = true := by
  unfold isIdentifier
  cases s.toList with
  | nil => simp
  | cons c cs => simp [and_assoc]

/-- All characters of an identifier are name characters. -/
lemma isNameChar_of_isIdentifier {s : String} (h : isIdentifier s = true) {x : Char}
    (hx : x ∈ s.toList) : isNameChar x = true := by
  obtain ⟨c, cs, hs, hc, hcs⟩ := isIdentifier_iff.mp h
  rw [hs] at hx
  rcases List.mem_cons.mp hx with rfl | hx
  · exact isNameChar_of_isNameStart hc
  · exact hcs x hx

/-- An identifier goes on with any name characters. -/
lemma isIdentifier_append {s t : String} (hs : isIdentifier s = true)
    (ht : ∀ x ∈ t.toList, isNameChar x = true) : isIdentifier (s ++ t) = true := by
  obtain ⟨c, cs, hs, hc, hcs⟩ := isIdentifier_iff.mp hs
  refine isIdentifier_iff.mpr ⟨c, cs ++ t.toList, by simp [hs], hc, fun x hx => ?_⟩
  rcases List.mem_append.mp hx with hx | hx
  · exact hcs x hx
  · exact ht x hx

/-- The digits of a number are name characters. -/
lemma isNameChar_of_mem_ofNat {n : Nat} {x : Char} (hx : x ∈ (ofNat n).toList) :
    isNameChar x = true := by
  rw [ofNat, String.toList_ofList] at hx
  have hdigit : x.isDigit = true := Nat.isDigit_of_mem_toDigits (by decide) (by decide) hx
  simp [isNameChar, Char.isAlphanum, hdigit]

/-- A text of which every foreign character has become an underscore holds name characters only. -/
lemma isNameChar_of_mem_underscored {s : String} {x : Char} (hx : x ∈ (underscored s).toList) :
    isNameChar x = true := by
  rw [underscored, String.toList_ofList] at hx
  obtain ⟨c, -, rfl⟩ := List.mem_map.mp hx
  exact isNameChar_nameChar c

/-- Sanitizing gives an identifier for every text, if the fallback is one. -/
lemma isIdentifier_sanitize_of_fallback {fallback : String} (h : isIdentifier fallback = true)
    (raw : String) : isIdentifier (sanitize raw fallback) = true := by
  by_cases hraw : raw.toList = []
  · simpa [sanitize, hraw] using h
  · exact isIdentifier_sanitize hraw fallback

end Text

open Text (isIdentifier)

/-! ### Wanted names -/

/-- Items ask for identifiers. -/
lemma isIdentifier_itemName (id : Int64) : isIdentifier (itemName id) = true :=
  Text.isIdentifier_sanitize_of_fallback (by decide) _

/-- Global items ask for identifiers, whatever their ids are. -/
lemma isIdentifier_globalName (id : String) : isIdentifier (globalName id) = true := by
  have hbase : isIdentifier (Text.sanitize id "g") = true :=
    Text.isIdentifier_sanitize_of_fallback (by decide) _
  unfold globalName
  dsimp only
  split
  · exact hbase
  · exact Text.isIdentifier_append (by decide) fun x hx => Text.isNameChar_of_isIdentifier hbase hx

/-- Facets ask for identifiers, whatever they are called. -/
lemma isIdentifier_facetName (facet : Facet) : isIdentifier (facetName facet) = true :=
  Text.isIdentifier_sanitize_of_fallback
    (Text.isIdentifier_append (by decide) fun _ hx => Text.isNameChar_of_mem_underscored hx) _

namespace Model

/-- The construct asks for an identifier. -/
lemma isIdentifier_overallName (m : Model) : isIdentifier m.overallName = true := by
  have hdefault : isIdentifier defaultShortCode = true := by decide
  exact Text.isIdentifier_sanitize_of_fallback hdefault m.shortCode

/-- The requests are those of the items, of the global items and of the facets. -/
lemma mem_nameRequests_iff {m : Model} {request : Symbol × String} :
    request ∈ m.nameRequests ↔
      (∃ item ∈ m.instrument.sortedItems, request = (.item item.id, itemName item.id)) ∨
      (∃ latent ∈ m.globalOwners, ∃ item ∈ m.globals latent,
        request = (.global latent.key item.id, globalName item.id)) ∨
      ∃ facet ∈ m.instrument.facets, request = (.facet facet.id, facetName facet) := by
  unfold nameRequests
  simp only [List.mem_append, List.mem_map, List.mem_flatMap, or_assoc, eq_comm]

/-- Every symbol wants an identifier. -/
lemma isIdentifier_of_mem_nameRequests {m : Model} {request : Symbol × String}
    (h : request ∈ m.nameRequests) : isIdentifier request.2 = true := by
  obtain ⟨item, -, rfl⟩ | ⟨latent, -, item, -, rfl⟩ | ⟨facet, -, rfl⟩ := mem_nameRequests_iff.mp h
  · dsimp only
    exact isIdentifier_itemName item.id
  · dsimp only
    exact isIdentifier_globalName item.id
  · dsimp only
    exact isIdentifier_facetName facet

end Model

/-! ### Forms of a wanted name -/

namespace Names

/-- A marker in front of an identifier makes an identifier. -/
lemma isIdentifier_marked {wanted : String} (h : isIdentifier wanted = true) (symbol : Symbol) :
    isIdentifier (marked symbol wanted) = true := by
  have hmarker : isIdentifier symbol.marker = true := by
    cases symbol <;> simp only [Symbol.marker] <;> decide
  unfold marked
  split
  · exact h
  · exact Text.isIdentifier_append hmarker fun x hx => Text.isNameChar_of_isIdentifier h hx

/-- A number behind an identifier makes an identifier. -/
lemma isIdentifier_numbered {name : String} (h : isIdentifier name = true) (n : Nat) :
    isIdentifier (numbered name n) = true := by
  have hunderscore : isIdentifier (name ++ "_") = true := by
    refine Text.isIdentifier_append h fun x hx => ?_
    rw [show "_".toList = ['_'] from rfl, List.mem_singleton] at hx
    subst hx
    decide
  exact Text.isIdentifier_append hunderscore fun x hx => Text.isNameChar_of_mem_ofNat hx

/-- The forms of a wanted name: itself, behind its marker, and with a number behind that. -/
lemma eq_of_freeForm?_eq_some {taken : Std.HashSet String} {symbol : Symbol} {wanted name : String}
    (h : freeForm? taken symbol wanted = some name) :
    name = wanted ∨ name = marked symbol wanted ∨
      ∃ n ∈ numbers, name = numbered (marked symbol wanted) n := by
  unfold freeForm? at h
  split at h
  · exact .inl (Option.some.inj h).symm
  · split at h
    · exact .inr (.inl (Option.some.inj h).symm)
    · obtain ⟨n, hn, rfl⟩ := Option.map_eq_some_iff.mp h
      exact .inr (.inr ⟨n, List.mem_of_find?_eq_some hn, rfl⟩)

/-- Every form of an identifier is an identifier. -/
lemma isIdentifier_of_freeForm? {taken : Std.HashSet String} {symbol : Symbol}
    {wanted name : String} (h : isIdentifier wanted = true)
    (hform : freeForm? taken symbol wanted = some name) : isIdentifier name = true := by
  rcases eq_of_freeForm?_eq_some hform with rfl | rfl | ⟨n, -, rfl⟩
  · exact h
  · exact isIdentifier_marked h symbol
  · exact isIdentifier_numbered (isIdentifier_marked h symbol) n

end Names

end Psychometrics
