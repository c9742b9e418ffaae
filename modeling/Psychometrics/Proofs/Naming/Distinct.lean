import Psychometrics.Proofs.Naming.Shape
import Psychometrics.Proofs.Naming.Supply
import Psychometrics.Proofs.Outcome

/-!
# Distinct names

Names are handed out by walking through the requests of a model.  The table of names stays
consistent along this walk (`Names.IsConsistent`): every name is an identifier and no longer free,
and no two symbols share one.  One step preserves this because a name is only given away while it is
free (`Names.IsConsistent.give`), and a name once given is kept (`Names.find?_foldlM_add`).

At the end every symbol of the model (`Model.HasSymbol`) has a name, different from all others,
whatever texts the user has typed (`Model.distinct_identifiers_of_names_eq_ok`).
-/

namespace Psychometrics

open Text (isIdentifier)

/-! ### Symbols of a model -/

/-- The symbols of a model: the construct, its items, the global items of its facets and of the
higher-order construct, blank ones included, and its facets. -/
inductive Model.HasSymbol (m : Model) : Symbol → Prop
  | overall : m.HasSymbol .overall
  | item {item : Item} (h : item ∈ m.instrument.items) : m.HasSymbol (.item item.id)
  | facetGlobal {facet : Facet} {item : GlobalItem} (hfacet : facet ∈ m.instrument.facets)
      (h : item ∈ m.globals (.facet facet.id)) : m.HasSymbol (.global facet.id item.id)
  | secondOrderGlobal {item : GlobalItem} (h : item ∈ m.globals .secondOrder) :
      m.HasSymbol (.global Latent.secondOrderKey item.id)
  | facet {facet : Facet} (h : facet ∈ m.instrument.facets) : m.HasSymbol (.facet facet.id)

/-- The global items of every owner are symbols. -/
lemma Model.HasSymbol.global {m : Model} {latent : Latent} {item : GlobalItem}
    (howner : latent ∈ m.globalOwners) (h : item ∈ m.globals latent) :
    m.HasSymbol (.global latent.key item.id) := by
  rcases List.mem_append.mp howner with howner | howner
  · obtain ⟨facet, hfacet, rfl⟩ := List.mem_map.mp howner
    exact .facetGlobal hfacet h
  · obtain rfl := List.mem_singleton.mp howner
    exact .secondOrderGlobal h

/-- Every symbol beside the construct is requested a name for. -/
lemma Model.HasSymbol.exists_mem_nameRequests {m : Model} {symbol : Symbol}
    (h : m.HasSymbol symbol) :
    symbol = .overall ∨ ∃ wanted, (symbol, wanted) ∈ m.nameRequests := by
  cases h with
  | overall => exact .inl rfl
  | @item item h =>
    have hsorted : item ∈ m.instrument.sortedItems := List.mem_mergeSort.mpr h
    exact .inr ⟨_, Model.mem_nameRequests_iff.mpr (.inl ⟨item, hsorted, rfl⟩)⟩
  | @facetGlobal facet item hfacet h =>
    have howner : Latent.facet facet.id ∈ m.globalOwners :=
      List.mem_append_left _ (List.mem_map_of_mem hfacet)
    exact .inr ⟨_, Model.mem_nameRequests_iff.mpr (.inr (.inl ⟨_, howner, item, h, rfl⟩))⟩
  | @secondOrderGlobal item h =>
    have howner : Latent.secondOrder ∈ m.globalOwners :=
      List.mem_append_right _ (List.mem_singleton_self _)
    exact .inr ⟨_, Model.mem_nameRequests_iff.mpr (.inr (.inl ⟨_, howner, item, h, rfl⟩))⟩
  | @facet facet h =>
    exact .inr ⟨_, Model.mem_nameRequests_iff.mpr (.inr (.inr ⟨facet, h, rfl⟩))⟩

namespace Names

/-! ### Giving one name -/

/-- The table of names after a symbol has been given a name. -/
def give (names : Names) (symbol : Symbol) (name : String) : Names :=
  { names with
    assigned := names.assigned.insert symbol name, taken := names.taken.insert name }

@[simp] lemma overall_give (names : Names) (symbol : Symbol) (name : String) :
    (names.give symbol name).overall = names.overall := rfl

/-- The name that is given to a symbol is found for it, and nothing changes for others. -/
lemma find?_give (names : Names) (symbol : Symbol) (name : String) (other : Symbol) :
    (names.give symbol name).find? other =
      if symbol = other then some name else names.find? other := by
  simp [give, find?, Std.HashMap.getElem?_insert]

/-- A name after a symbol has been given one: the given name, or one that was there before. -/
lemma cases_of_find?_give {names : Names} {symbol other : Symbol} {name otherName : String}
    (h : (names.give symbol name).find? other = some otherName) :
    (other = symbol ∧ otherName = name) ∨ names.find? other = some otherName := by
  rw [find?_give] at h
  split at h
  · next heq => exact .inl ⟨heq.symm, (Option.some.inj h).symm⟩
  · exact .inr h

/-- A name that is given is taken. -/
lemma contains_taken_give (names : Names) (symbol : Symbol) (name other : String) :
    (names.give symbol name).taken.contains other =
      (name == other || names.taken.contains other) := by
  simp [give, Std.HashSet.contains_insert]

@[simp] lemma overall_start (overall : String) : (start overall).overall = overall := rfl

/-- At the start only the construct has a name. -/
lemma find?_start (overall : String) (symbol : Symbol) :
    (start overall).find? symbol = if Symbol.overall = symbol then some overall else none := by
  simp [start, find?, Std.HashMap.getElem?_insert]

/-- At the start only the construct has a name. -/
lemma eq_of_find?_start {overall name : String} {symbol : Symbol}
    (h : (start overall).find? symbol = some name) : symbol = .overall ∧ name = overall := by
  rw [find?_start] at h
  split at h
  · next hsymbol => exact ⟨hsymbol.symm, (Option.some.inj h).symm⟩
  · simp at h

/-- At the start only the name of the construct is taken. -/
lemma contains_taken_start (overall name : String) :
    (start overall).taken.contains name = (overall == name) := by
  simp [start, Std.HashSet.contains_insert]

/-- A symbol is assigned exactly when a name is found for it. -/
lemma contains_assigned (names : Names) (symbol : Symbol) :
    names.assigned.contains symbol = (names.find? symbol).isSome :=
  Std.HashMap.contains_eq_isSome_getElem?

/-- A symbol whose name is handed out has that name. -/
lemma find?_of_get_eq_ok {names : Names} {symbol : Symbol} {name : String}
    (h : names.get symbol = .ok name) : names.find? symbol = some name := by
  unfold get at h
  split at h
  · next hfind => rw [hfind, Except.ok.inj h]
  · cases h

/-- What a request does: nothing when the symbol has a name, else it gives the symbol a free form of
the name it wants. -/
lemma add_eq_ok {names names' : Names} {request : Symbol × String}
    (h : names.add request = .ok names') :
    ((names.find? request.1).isSome = true ∧ names' = names) ∨
      ∃ name, freeForm? names.taken request.1 request.2 = some name ∧
        names.find? request.1 = none ∧ names' = names.give request.1 name := by
  unfold add at h
  rw [contains_assigned] at h
  split at h
  · next hold => exact .inl ⟨hold, (Except.ok.inj h).symm⟩
  · next hnew =>
    split at h
    · next name hform =>
      exact .inr ⟨name, hform, Option.not_isSome_iff_eq_none.mp hnew, (Except.ok.inj h).symm⟩
    · simp at h

/-! ### Consistent tables -/

/-- What holds of the table of names at all times: the construct is named, every name that has been
given is an identifier and is not free, and no two symbols have the same one. -/
structure IsConsistent (names : Names) : Prop where
  overall : names.find? .overall = some names.overall
  isIdentifier : ∀ symbol name, names.find? symbol = some name → isIdentifier name = true
  taken : ∀ symbol name, names.find? symbol = some name → names.taken.contains name = true
  injective : ∀ s t name, names.find? s = some name → names.find? t = some name → s = t

/-- A table with only the construct in it is consistent if its name is an identifier. -/
lemma isConsistent_start {overall : String} (h : Text.isIdentifier overall = true) :
    (start overall).IsConsistent := by
  refine ⟨by simp [find?_start], ?_, ?_, ?_⟩
  · intro symbol name hfind
    rw [(eq_of_find?_start hfind).2]
    exact h
  · intro symbol name hfind
    rw [(eq_of_find?_start hfind).2, contains_taken_start]
    exact beq_self_eq_true overall
  · intro s t name hs ht
    rw [(eq_of_find?_start hs).1, (eq_of_find?_start ht).1]

/-- Giving a symbol a free identifier keeps the table consistent. -/
lemma IsConsistent.give {names : Names} (hnames : names.IsConsistent) {symbol : Symbol}
    {name : String} (hnew : names.find? symbol = none) (hid : Text.isIdentifier name = true)
    (hfree : names.taken.contains name = false) : (names.give symbol name).IsConsistent := by
  have hold : ∀ other, names.find? other ≠ some name := by
    intro other hother
    rw [hnames.taken other name hother] at hfree
    simp at hfree
  refine ⟨?_, ?_, ?_, ?_⟩
  · have hne : symbol ≠ .overall := by
      rintro rfl
      rw [hnames.overall] at hnew
      simp at hnew
    rw [find?_give, if_neg hne, overall_give, hnames.overall]
  · intro s n hs
    obtain ⟨-, rfl⟩ | hs := cases_of_find?_give hs
    · exact hid
    · exact hnames.isIdentifier s n hs
  · intro s n hs
    rw [contains_taken_give]
    obtain ⟨-, rfl⟩ | hs := cases_of_find?_give hs
    · simp
    · simp [hnames.taken s n hs]
  · intro s t n hs ht
    -- A name that is new belongs to no symbol from before.
    obtain ⟨hs', hn⟩ | hs' := cases_of_find?_give hs
    · obtain ⟨ht', -⟩ | ht' := cases_of_find?_give ht
      · rw [hs', ht']
      · exact absurd (hn ▸ ht') (hold t)
    · obtain ⟨-, hn⟩ | ht' := cases_of_find?_give ht
      · exact absurd (hn ▸ hs') (hold s)
      · exact hnames.injective s t n hs' ht'

/-- A request for an identifier keeps the table consistent. -/
lemma IsConsistent.add {names names' : Names} (hnames : names.IsConsistent)
    {request : Symbol × String} (hid : Text.isIdentifier request.2 = true)
    (h : names.add request = .ok names') : names'.IsConsistent := by
  obtain ⟨-, rfl⟩ | ⟨name, hform, hnew, rfl⟩ := add_eq_ok h
  · exact hnames
  · exact hnames.give hnew (isIdentifier_of_freeForm? hid hform) (not_contains_of_freeForm? hform)

/-! ### Walking through the requests -/

/-- A request leaves the names alone that have been given, and names its own symbol. -/
lemma find?_add {names names' : Names} {request : Symbol × String}
    (h : names.add request = .ok names') :
    (∀ symbol name, names.find? symbol = some name → names'.find? symbol = some name) ∧
      (names'.find? request.1).isSome = true := by
  obtain ⟨hsome, rfl⟩ | ⟨name, -, hnew, rfl⟩ := add_eq_ok h
  · exact ⟨fun _ _ hfind => hfind, hsome⟩
  · refine ⟨?_, by simp [find?_give]⟩
    intro symbol other hfind
    have hne : request.1 ≠ symbol := by
      rintro rfl
      rw [hnew] at hfind
      simp at hfind
    rw [find?_give, if_neg hne, hfind]

/-- A run of requests keeps the names that have been given, and names all symbols it is about. -/
lemma find?_foldlM_add {requests : List (Symbol × String)} {names names' : Names}
    (h : requests.foldlM Names.add names = .ok names') :
    (∀ symbol name, names.find? symbol = some name → names'.find? symbol = some name) ∧
      ∀ request ∈ requests, (names'.find? request.1).isSome = true := by
  induction requests generalizing names with
  | nil =>
    obtain rfl := Except.ok.inj h
    exact ⟨fun _ _ hfind => hfind, fun _ hrequest => absurd hrequest List.not_mem_nil⟩
  | cons request requests ih =>
    rw [List.foldlM_cons] at h
    obtain ⟨next, hadd, hrest⟩ := bind_eq_ok_iff.mp h
    obtain ⟨hkeep, hnamed⟩ := find?_add hadd
    obtain ⟨hkeep', hnamed'⟩ := ih hrest
    refine ⟨fun symbol name hfind => hkeep' symbol name (hkeep symbol name hfind), ?_⟩
    intro other hother
    rcases List.mem_cons.mp hother with rfl | hother
    · obtain ⟨name, hname⟩ := Option.isSome_iff_exists.mp hnamed
      rw [hkeep' _ name hname]
      rfl
    · exact hnamed' other hother

/-- A run of requests for identifiers keeps the table consistent. -/
lemma IsConsistent.foldlM_add {requests : List (Symbol × String)} {names names' : Names}
    (hnames : names.IsConsistent)
    (hid : ∀ request ∈ requests, Text.isIdentifier request.2 = true)
    (h : requests.foldlM Names.add names = .ok names') : names'.IsConsistent :=
  foldlM_preserves (P := IsConsistent)
    (fun request hrequest _ _ hconsistent hadd => hconsistent.add (hid request hrequest) hadd)
    hnames h

end Names

/-! ### The names of a model -/

namespace Model

/-- The names of a model form a consistent table. -/
lemma isConsistent_of_names_eq_ok {m : Model} {names : Names} (h : m.names = .ok names) :
    names.IsConsistent :=
  (Names.isConsistent_start m.isIdentifier_overallName).foldlM_add
    (fun _ => isIdentifier_of_mem_nameRequests) h

/-- Every symbol of a model has a name. -/
lemma HasSymbol.exists_find?_eq_some {m : Model} {names : Names} (h : m.names = .ok names)
    {symbol : Symbol} (hsymbol : m.HasSymbol symbol) : ∃ name, names.find? symbol = some name := by
  obtain rfl | ⟨wanted, hrequest⟩ := hsymbol.exists_mem_nameRequests
  · exact ⟨names.overall, (isConsistent_of_names_eq_ok h).overall⟩
  · exact Option.isSome_iff_exists.mp ((Names.find?_foldlM_add h).2 _ hrequest)

/-- Whatever texts a model holds, its symbols have pairwise different names, and all of them are
identifiers. -/
theorem distinct_identifiers_of_names_eq_ok {m : Model} {names : Names} (h : m.names = .ok names) :
    names.find? .overall = some names.overall ∧
      (∀ symbol, m.HasSymbol symbol →
        ∃ name, names.find? symbol = some name ∧ isIdentifier name = true) ∧
      ∀ s t, m.HasSymbol s → m.HasSymbol t → s ≠ t → names.find? s ≠ names.find? t := by
  have hnames : names.IsConsistent := isConsistent_of_names_eq_ok h
  refine ⟨hnames.overall, ?_, ?_⟩
  · intro symbol hsymbol
    obtain ⟨name, hname⟩ := hsymbol.exists_find?_eq_some h
    exact ⟨name, hname, hnames.isIdentifier symbol name hname⟩
  · intro s t hs ht hne heq
    obtain ⟨name, hname⟩ := hs.exists_find?_eq_some h
    exact hne (hnames.injective s t name hname (heq ▸ hname))

/-- A model whose texts ask for the same names in many ways: a facet called like an item, facets
called like each other, one called by the way out of such a clash, and a negative item. -/
def crowded : Model where
  instrument :=
    { facets := [{ id := "ä", name := "i1" }, { id := "b", name := "Vigor" },
        { id := "c", name := "F Vigor 2", code := some "Vigor" }, { id := "d", name := "Vigor" }]
      items := [{ id := 1 }, { id := -3 }] }
  configuration := { globals := (∅ : Table (List GlobalItem)).insert "b" [{ id := "Vigor" }] }

lemma length_nameRequests_crowded : crowded.nameRequests.length = 7 := by
  simp [nameRequests, Instrument.sortedItems, Instrument.sortById, crowded, globalOwners, globals,
    globals?]

/-- The crowded model gets its names, and they are as different as those of any model. -/
theorem distinct_identifiers_crowded :
    ∃ names, crowded.names = .ok names ∧ names.find? .overall = some names.overall ∧
      (∀ symbol, crowded.HasSymbol symbol →
        ∃ name, names.find? symbol = some name ∧ isIdentifier name = true) ∧
      ∀ s t, crowded.HasSymbol s → crowded.HasSymbol t → s ≠ t →
        names.find? s ≠ names.find? t := by
  have hfew : crowded.nameRequests.length < Names.numbers.length := by
    rw [length_nameRequests_crowded, Names.length_numbers]
    decide
  obtain ⟨names, hnames⟩ := exists_names_eq_ok hfew
  exact ⟨names, hnames, distinct_identifiers_of_names_eq_ok hnames⟩

end Model

end Psychometrics
