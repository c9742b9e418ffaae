import Mathlib
import Psychometrics.Proofs.Naming.Distinct
import Psychometrics.Proofs.Renaming.Basic

/-!
# Naming under renamed facets

Names are handed out in declaration order, and the name that a facet wants comes from its texts.
Only a facet without any text is named after its id.  So in a model whose facets have names, every
symbol gets the same name before and after its facet is renamed (`Names.IsRenamed`), and names run
out at the same request (`Model.isRenamedNaming_names`).
-/

namespace Psychometrics

open Equiv (Perm)

/-! ### Texts that are not blank -/

namespace Text

/-- A character that is not blank survives the dropping of blanks. -/
lemma mem_dropWhile_of_not {c : Char} {cs : List Char} (hmem : c ∈ cs) (hc : isBlank c = false) :
    c ∈ cs.dropWhile isBlank := by
  rw [← List.takeWhile_append_dropWhile (p := isBlank) (l := cs), List.mem_append] at hmem
  refine hmem.resolve_left fun htaken => ?_
  rw [List.mem_takeWhile_imp htaken] at hc
  cases hc

/-- Trimming keeps every character that is not blank. -/
lemma mem_trimChars {c : Char} {cs : List Char} (hmem : c ∈ cs) (hc : isBlank c = false) :
    c ∈ trimChars cs := by
  have hfront := mem_dropWhile_of_not hmem hc
  exact List.mem_reverse.mpr (mem_dropWhile_of_not (List.mem_reverse.mpr hfront) hc)

/-- Something is left of a text that is not blank. -/
lemma toList_trim_ne_nil {s : String} (h : isBlankText s = false) : (trim s).toList ≠ [] := by
  obtain ⟨c, hmem, hc⟩ := List.all_eq_false.mp h
  have hkept := mem_trimChars hmem (Bool.not_eq_true _ ▸ hc)
  rw [trim, String.toList_ofList]
  exact List.ne_nil_of_mem hkept

/-- A text of which something is left when it is trimmed is not blank then. -/
lemma isBlankText_trim_of_ne {s : String} (h : trim s ≠ "") : isBlankText (trim s) = false := by
  have hne : trimChars s.toList ≠ [] := by
    intro hnil
    exact h (by rw [trim, hnil])
  rw [trimChars, ne_eq, List.reverse_eq_nil_iff] at hne
  have hlast := List.head_dropWhile_not isBlank hne
  refine List.all_eq_false.mpr ⟨_, ?_, Bool.not_eq_true _ ▸ hlast⟩
  rw [trim, String.toList_ofList, trimChars, List.mem_reverse]
  exact List.head_mem hne

/-- What stands in for the empty text does not matter to other texts. -/
lemma sanitize_eq_of_ne_nil {raw : String} (h : raw.toList ≠ []) (fallback other : String) :
    sanitize raw fallback = sanitize raw other := by
  unfold sanitize
  cases hraw : raw.toList with
  | nil => exact absurd hraw h
  | cons c cs => rfl

end Text

/-! ### Wanted names -/

/-- A facet with a name is named after a text that is not blank. -/
lemma Facet.isBlankText_shortCode_getD {facet : Facet}
    (h : Text.isBlankText facet.name = false) :
    Text.isBlankText (facet.shortCode.getD facet.name) = false := by
  cases hcode : facet.shortCode with
  | none => exact h
  | some code =>
    obtain ⟨htrim, hne⟩ := Option.filter_eq_some_iff.mp hcode
    obtain ⟨own, -, rfl⟩ := Option.map_eq_some_iff.mp htrim
    exact Text.isBlankText_trim_of_ne (bne_iff_ne.mp hne)

/-- A facet with a name asks for the same name under another id. -/
lemma facetName_renamed (p : Perm String) {facet : Facet}
    (h : Text.isBlankText facet.name = false) :
    facetName (facet.renamed p) = facetName facet :=
  Text.sanitize_eq_of_ne_nil (Text.toList_trim_ne_nil (Facet.isBlankText_shortCode_getD h)) _ _

/-! ### Symbols and failures -/

/-- A symbol under the new id of its facet. -/
def Symbol.renamed (p : Perm String) : Symbol → Symbol
  | .facet id => .facet (p id)
  | .global key id => .global (p key) id
  | symbol => symbol

/-- A failure to name a symbol, under the new id of its facet. -/
def CompileError.renamed (p : Perm String) : CompileError → CompileError
  | .nameExhausted symbol wanted => .nameExhausted (symbol.renamed p) wanted
  | .unnamed symbol => .unnamed (symbol.renamed p)

namespace Symbol

variable (p : Perm String) (symbol : Symbol)

/-- Different symbols stay different. -/
lemma renamed_injective : Function.Injective (Symbol.renamed p) := by
  intro s t h
  cases s <;> cases t <;> simp_all [renamed]

/-- Markers tell kinds of symbols, which stay the same. -/
@[simp] lemma marker_renamed : (symbol.renamed p).marker = symbol.marker := by
  cases symbol <;> rfl

end Symbol

namespace Names

variable {p : Perm String} {names names' : Names}

/-- The first free form of a name does not depend on the id of a facet. -/
@[simp] lemma freeForm?_renamed (p : Perm String) (taken : Std.HashSet String) (symbol : Symbol)
    (wanted : String) :
    freeForm? taken (symbol.renamed p) wanted = freeForm? taken symbol wanted := by
  simp [freeForm?, marked]

/-! ### Tables of names -/

/-- Two tables of names differ in the ids of facets only. -/
structure IsRenamed (p : Perm String) (names names' : Names) : Prop where
  overall : names'.overall = names.overall
  taken : names'.taken = names.taken
  find? : ∀ symbol, names'.find? (symbol.renamed p) = names.find? symbol

/-- Naming ends alike before and after a renaming: it fails at the same symbol, or leads to tables
that differ in the ids of facets only. -/
inductive IsRenamedNaming (p : Perm String) :
    Except CompileError Names → Except CompileError Names → Prop
  | error (e : CompileError) : IsRenamedNaming p (.error e) (.error (e.renamed p))
  | ok {names names' : Names} (h : names.IsRenamed p names') :
    IsRenamedNaming p (.ok names) (.ok names')

/-- Tables that start alike agree up to the renaming. -/
lemma isRenamed_start (p : Perm String) (overall : String) :
    (start overall).IsRenamed p (start overall) := by
  refine ⟨rfl, rfl, fun symbol => ?_⟩
  rw [find?_start, find?_start]
  cases symbol <;> simp [Symbol.renamed]

namespace IsRenamed

variable (h : names.IsRenamed p names')

include h

/-- Tables that agree up to the renaming still do when a symbol is given the same name in both. -/
lemma give (symbol : Symbol) (name : String) :
    (names.give symbol name).IsRenamed p (names'.give (symbol.renamed p) name) := by
  refine ⟨h.overall, congrArg (·.insert name) h.taken, fun other => ?_⟩
  simp only [find?_give, h.find?, (Symbol.renamed_injective p).eq_iff]

/-- The same name is found for a renamed symbol, or it is missing under its new id. -/
lemma get_eq (symbol : Symbol) :
    names'.get (symbol.renamed p) = (names.get symbol).mapError (CompileError.renamed p) := by
  have hfind := h.find? symbol
  cases hname : names.find? symbol <;> rw [hname] at hfind <;>
    simp only [Names.get, hname, hfind] <;> rfl

/-- A request for a renamed symbol ends like the request for the symbol itself. -/
lemma add (request : Symbol × String) :
    IsRenamedNaming p (names.add request) (names'.add (request.1.renamed p, request.2)) := by
  have hform : freeForm? names'.taken (request.1.renamed p) request.2 =
      freeForm? names.taken request.1 request.2 := by
    rw [h.taken, freeForm?_renamed]
  unfold Names.add
  simp only [contains_assigned, h.find?, hform]
  split
  · exact .ok h
  · cases freeForm? names.taken request.1 request.2 with
    | some name => exact .ok (h.give request.1 name)
    | none => exact .error (.nameExhausted request.1 request.2)

/-- So does a run of requests. -/
lemma foldlM_add (requests : List (Symbol × String)) :
    IsRenamedNaming p (requests.foldlM Names.add names)
      ((requests.map fun request => (request.1.renamed p, request.2)).foldlM Names.add names') := by
  induction requests generalizing names names' with
  | nil => exact .ok h
  | cons request requests ih =>
    rw [List.map_cons, List.foldlM_cons, List.foldlM_cons]
    have hadd := h.add request
    generalize names.add request = result, names'.add (request.1.renamed p, request.2) = result'
      at hadd
    cases hadd with
    | error e => exact .error e
    | ok hnext => exact ih hnext

end IsRenamed

end Names

/-! ### The names of a model -/

namespace Model

variable {p : Perm String} {m : Model}

/-- The owners of global items are renamed. -/
lemma globalOwners_renamed (p : Perm String) (m : Model) :
    (m.renamed p).globalOwners = m.globalOwners.map (Latent.renamed p) := by
  simp only [globalOwners, renamed, List.map_append, List.map_map]
  rfl

/-- Renamed symbols ask for the same names in the same order. -/
lemma nameRequests_renamed (hp : KeepsReserved p)
    (hnamed : ∀ facet ∈ m.instrument.facets, Text.isBlankText facet.name = false) :
    (m.renamed p).nameRequests =
      m.nameRequests.map fun request => (request.1.renamed p, request.2) := by
  have hitems : ((m.renamed p).instrument.sortedItems.map fun item =>
      (Symbol.item item.id, itemName item.id)) =
        (m.instrument.sortedItems.map fun item => (Symbol.item item.id, itemName item.id)).map
          fun request => (request.1.renamed p, request.2) := by
    rw [sortedItems_renamed, List.map_map, List.map_map]
    rfl
  have hglobals : ((m.renamed p).globalOwners.flatMap fun latent =>
      ((m.renamed p).globals latent).map fun item =>
        (Symbol.global latent.key item.id, globalName item.id)) =
          (m.globalOwners.flatMap fun latent => (m.globals latent).map fun item =>
            (Symbol.global latent.key item.id, globalName item.id)).map
              fun request => (request.1.renamed p, request.2) := by
    rw [globalOwners_renamed, List.flatMap_map, List.map_flatMap]
    refine List.flatMap_congr fun latent _ => ?_
    rw [globals_renamed, hp.key_renamed, List.map_map]
    rfl
  have hfacets : ((m.renamed p).instrument.facets.map fun facet =>
      (Symbol.facet facet.id, facetName facet)) =
        (m.instrument.facets.map fun facet => (Symbol.facet facet.id, facetName facet)).map
          fun request => (request.1.renamed p, request.2) := by
    rw [facets_renamed, List.map_map, List.map_map]
    refine List.map_congr_left fun facet hfacet => ?_
    simp only [Function.comp_apply, facetName_renamed p (hnamed facet hfacet)]
    rfl
  rw [nameRequests, nameRequests, hitems, hglobals, hfacets, List.map_append, List.map_append]

/-- A model whose facets have names is named alike whatever ids they have. -/
lemma isRenamedNaming_names (hp : KeepsReserved p)
    (hnamed : ∀ facet ∈ m.instrument.facets, Text.isBlankText facet.name = false) :
    Names.IsRenamedNaming p m.names (m.renamed p).names := by
  have hoverall : (m.renamed p).overallName = m.overallName := rfl
  rw [names, names, hoverall, nameRequests_renamed hp hnamed]
  exact (Names.isRenamed_start p m.overallName).foldlM_add m.nameRequests

end Model

end Psychometrics
