import Psychometrics.Proofs.Naming.Distinct
import Psychometrics.Proofs.Naming.Marker

/-!
# When names run out

A symbol is left without a name when all forms of the name that it wants are taken.  Each of these
forms begins with the marker of the symbol, and each is borne by a symbol that was named before
(`Names.IsFilledBy`).  The name of the construct, items and global items keep to their own markers,
so that the forms are borne by symbols of the same kind: a thousand of them, and the symbol that
gets none.

Items never run out of names, since different items want different names and nothing else that is
named before them begins like an item.  So names run out only for a facet or for a global item, and
only in a model with more than a thousand of the kind
(`Model.exhausted_of_names_eq_error`).  They do run out where more facets want one name than it has
forms (`Model.exists_names_eq_error`).
-/

namespace Psychometrics

/-! ### How the table of names is filled -/

namespace Names

variable {names names' : Names} {overall : String} {requests : List (Symbol × String)}

/-- The table of names after a run of requests: what is taken is the name of a symbol, and a named
symbol is the construct, or was requested a name and got a form of it. -/
structure IsFilledBy (names : Names) (overall : String) (requests : List (Symbol × String)) :
    Prop where
  owner : ∀ name, names.taken.contains name = true → ∃ symbol, names.find? symbol = some name
  form : ∀ symbol name, names.find? symbol = some name → (symbol = .overall ∧ name = overall) ∨
    ∃ wanted, (symbol, wanted) ∈ requests ∧ name ∈ wanted :: markedForms symbol wanted

/-- At the start nothing is taken but the name of the construct. -/
lemma isFilledBy_start (overall : String) (requests : List (Symbol × String)) :
    (start overall).IsFilledBy overall requests := by
  constructor
  · intro name htaken
    rw [contains_taken_start, beq_iff_eq] at htaken
    exact ⟨.overall, by rw [find?_start, if_pos rfl, htaken]⟩
  · intro symbol name hfind
    exact .inl (eq_of_find?_start hfind)

/-- A request keeps the table filled by requests of which it is one. -/
lemma IsFilledBy.add (h : names.IsFilledBy overall requests) {request : Symbol × String}
    (hrequest : request ∈ requests) (hadd : names.add request = .ok names') :
    names'.IsFilledBy overall requests := by
  obtain ⟨-, rfl⟩ | ⟨name, hform, hnew, rfl⟩ := add_eq_ok hadd
  · exact h
  · constructor
    · intro other htaken
      rw [contains_taken_give, Bool.or_eq_true, beq_iff_eq] at htaken
      rcases htaken with rfl | htaken
      · exact ⟨request.1, by rw [find?_give, if_pos rfl]⟩
      · obtain ⟨symbol, hsymbol⟩ := h.owner other htaken
        exact ⟨symbol, (find?_add hadd).1 symbol other hsymbol⟩
    · intro symbol other hfind
      obtain ⟨rfl, rfl⟩ | hfind := cases_of_find?_give hfind
      · exact .inr ⟨request.2, hrequest, mem_of_freeForm?_eq_some hform⟩
      · exact h.form symbol other hfind

/-- Whatever is taken after some requests was asked for in one of them. -/
lemma isFilledBy_of_foldlM (h : requests.foldlM Names.add (start overall) = .ok names) :
    names.IsFilledBy overall requests :=
  foldlM_preserves (P := fun names => names.IsFilledBy overall requests)
    (fun _ hrequest _ _ hfilled hadd => hfilled.add hrequest hadd)
    (isFilledBy_start overall requests) h

/-- What a request that fails says: its symbol has no name, and the name it wants has no free
form. -/
lemma add_eq_error {request : Symbol × String} {e : CompileError}
    (h : names.add request = .error e) :
    names.find? request.1 = none ∧ freeForm? names.taken request.1 request.2 = none ∧
      e = .nameExhausted request.1 request.2 := by
  unfold add at h
  rw [contains_assigned] at h
  split at h
  · cases h
  · next hnew =>
    split at h
    · cases h
    · next hform =>
      exact ⟨Option.not_isSome_iff_eq_none.mp hnew, hform, (Except.error.inj h).symm⟩

/-- Where all names with the marker of a symbol belong to certain symbols, a symbol that gets no
name has a thousand others beside it. -/
lemma IsFilledBy.lt_card_of_freeForm?_eq_none (h : names.IsFilledBy overall requests)
    {symbol : Symbol} {wanted : String} {symbols : Finset Symbol}
    (hkind : ∀ other name, names.find? other = some name →
      beginsWith symbol.marker name = true → other ∈ symbols)
    (hsymbol : symbol ∈ symbols) (hnew : names.find? symbol = none)
    (hform : freeForm? names.taken symbol wanted = none) : 1000 < symbols.card := by
  have howner : ∀ name ∈ markedForms symbol wanted,
      ∃ other ∈ symbols.erase symbol, names.find? other = some name := by
    intro name hname
    obtain ⟨other, hother⟩ := h.owner name (contains_of_freeForm?_eq_none hform name hname)
    have hmem := hkind other name hother (beginsWith_of_mem_markedForms hname)
    have hne : other ≠ symbol := by
      rintro rfl
      rw [hnew] at hother
      cases hother
    exact ⟨other, Finset.mem_erase.mpr ⟨hne, hmem⟩, hother⟩
  have : Nonempty Symbol := ⟨symbol⟩
  choose! owner hmem hfind using howner
  -- Every marked form belongs to another symbol of the kind, and there are a thousand of them.
  calc 1000 = (markedForms symbol wanted).toFinset.card := by
        rw [List.toFinset_card_of_nodup (nodup_markedForms symbol wanted), length_markedForms]
    _ ≤ (symbols.erase symbol).card := by
        refine Finset.card_le_card_of_injOn owner ?_ ?_
        · intro name hname
          exact hmem name (List.mem_toFinset.mp hname)
        · -- A symbol has only one name.
          intro name hname other hother heq
          have hname := hfind name (List.mem_toFinset.mp hname)
          rw [heq, hfind other (List.mem_toFinset.mp hother)] at hname
          exact (Option.some.inj hname).symm
    _ < symbols.card := Finset.card_erase_lt_of_mem hsymbol

end Names

/-! ### The symbols of a model by kind -/

namespace Model

variable {m : Model} {names names' : Names} {requests : List (Symbol × String)} {e : CompileError}

/-- The ids of the facets of a model. -/
def facetIds (m : Model) : Finset String :=
  (m.instrument.facets.map Facet.id).toFinset

/-- The global items of a model, each by the key of its latent variable and its id. -/
def globalKeys (m : Model) : Finset (String × String) :=
  (m.globalOwners.flatMap fun latent =>
    (m.globals latent).map fun item => (latent.key, item.id)).toFinset

/-- The requests of the items. -/
def itemRequests (m : Model) : List (Symbol × String) :=
  m.instrument.sortedItems.map fun item => (.item item.id, itemName item.id)

/-- The requests of the global items. -/
def globalRequests (m : Model) : List (Symbol × String) :=
  m.globalOwners.flatMap fun latent =>
    (m.globals latent).map fun item => (.global latent.key item.id, globalName item.id)

/-- The requests of the facets. -/
def facetRequests (m : Model) : List (Symbol × String) :=
  m.instrument.facets.map fun facet => (.facet facet.id, facetName facet)

/-- Names are asked for by items first, then by global items and last by facets. -/
lemma nameRequests_eq (m : Model) :
    m.nameRequests = m.itemRequests ++ m.globalRequests ++ m.facetRequests := rfl

/-- Items ask for names made of their numbers. -/
lemma mem_itemRequests {request : Symbol × String} (h : request ∈ m.itemRequests) :
    ∃ id, request = (.item id, itemName id) := by
  obtain ⟨item, -, rfl⟩ := List.mem_map.mp h
  exact ⟨item.id, rfl⟩

/-- Global items ask for names made of their ids. -/
lemma mem_globalRequests {request : Symbol × String} (h : request ∈ m.globalRequests) :
    ∃ key id, (key, id) ∈ m.globalKeys ∧ request = (.global key id, globalName id) := by
  obtain ⟨latent, hlatent, h⟩ := List.mem_flatMap.mp h
  obtain ⟨item, hitem, rfl⟩ := List.mem_map.mp h
  refine ⟨latent.key, item.id, ?_, rfl⟩
  rw [globalKeys, List.mem_toFinset, List.mem_flatMap]
  exact ⟨latent, hlatent, List.mem_map_of_mem hitem⟩

/-- The ids of facets are those that occur. -/
lemma id_mem_facetIds {facet : Facet} (h : facet ∈ m.instrument.facets) :
    facet.id ∈ m.facetIds :=
  List.mem_toFinset.mpr (List.mem_map_of_mem h)

/-- Facets ask for names made of their codes, or else of what they are called. -/
lemma mem_facetRequests {request : Symbol × String} (h : request ∈ m.facetRequests) :
    ∃ facet ∈ m.instrument.facets, request = (.facet facet.id, facetName facet) := by
  obtain ⟨facet, hfacet, rfl⟩ := List.mem_map.mp h
  exact ⟨facet, hfacet, rfl⟩

/-! ### Names and markers -/

/-- A name that begins with the marker of a symbol other than the construct is the name of a symbol
that was requested one; if that symbol wanted a name behind its own marker, the markers are the
same. -/
lemma exists_mem_of_beginsWith_marker (hfilled : names.IsFilledBy m.overallName requests)
    {symbol other : Symbol} {name : String} (hsymbol : symbol ≠ .overall)
    (hfind : names.find? other = some name) (hname : beginsWith symbol.marker name = true) :
    ∃ wanted, (other, wanted) ∈ requests ∧
      (beginsWith other.marker wanted = true → other.marker = symbol.marker) := by
  obtain ⟨rfl, rfl⟩ | ⟨wanted, hrequest, hform⟩ := hfilled.form other name hfind
  · rw [m.beginsWith_overallName hsymbol] at hname
    cases hname
  · refine ⟨wanted, hrequest, fun hwanted => ?_⟩
    have hother : beginsWith other.marker name = true := by
      rcases List.mem_cons.mp hform with rfl | hform
      · exact hwanted
      · exact Names.beginsWith_of_mem_markedForms hform
    exact Symbol.marker_eq_of_beginsWith hother hname

/-! ### Items -/

/-- While items are named, each has the name that it wants. -/
structure IsFilledByItems (m : Model) (names : Names) : Prop where
  filled : names.IsFilledBy m.overallName m.itemRequests
  wanted : ∀ id name, names.find? (.item id) = some name → name = itemName id

/-- The name that an item without a name wants is free. -/
lemma IsFilledByItems.freeForm?_eq_some (h : m.IsFilledByItems names) {id : Int64}
    (hnew : names.find? (.item id) = none) :
    Names.freeForm? names.taken (.item id) (itemName id) = some (itemName id) := by
  have hfree : names.taken.contains (itemName id) = false := by
    rw [Bool.eq_false_iff]
    intro htaken
    obtain ⟨other, hother⟩ := h.filled.owner _ htaken
    obtain ⟨wanted, hrequest, -⟩ :=
      exists_mem_of_beginsWith_marker h.filled (Symbol.noConfusion : Symbol.item id ≠ .overall)
        hother (beginsWith_itemName id)
    obtain ⟨id', heq⟩ := mem_itemRequests hrequest
    obtain rfl : other = .item id' := congrArg Prod.fst heq
    obtain rfl : id = id' := itemName_injective (h.wanted id' _ hother)
    rw [hnew] at hother
    cases hother
  simp [Names.freeForm?, hfree]

/-- Naming one item more, the table is still filled by items. -/
lemma IsFilledByItems.add (h : m.IsFilledByItems names) {request : Symbol × String}
    (hrequest : request ∈ m.itemRequests) (hadd : names.add request = .ok names') :
    m.IsFilledByItems names' := by
  refine ⟨h.filled.add hrequest hadd, ?_⟩
  obtain ⟨id, rfl⟩ := mem_itemRequests hrequest
  obtain ⟨-, rfl⟩ | ⟨name, hform, hnew, rfl⟩ := Names.add_eq_ok hadd
  · exact h.wanted
  · intro other otherName hfind
    obtain ⟨heq, rfl⟩ | hfind := Names.cases_of_find?_give hfind
    · obtain rfl : other = id := Symbol.item.inj heq
      rw [h.freeForm?_eq_some hnew] at hform
      exact (Option.some.inj hform).symm
    · exact h.wanted other otherName hfind

/-- No item is left without a name. -/
lemma IsFilledByItems.add_ne_error (h : m.IsFilledByItems names) {request : Symbol × String}
    (hrequest : request ∈ m.itemRequests) : names.add request ≠ .error e := by
  intro hadd
  obtain ⟨id, rfl⟩ := mem_itemRequests hrequest
  obtain ⟨hnew, hform, -⟩ := Names.add_eq_error hadd
  rw [h.freeForm?_eq_some hnew] at hform
  cases hform

/-- The items that have been named have the names that they want. -/
lemma isFilledByItems_of_foldlM (hrequests : requests ⊆ m.itemRequests)
    (h : requests.foldlM Names.add (.start m.overallName) = .ok names) :
    m.IsFilledByItems names := by
  have hstart : m.IsFilledByItems (.start m.overallName) := by
    refine ⟨Names.isFilledBy_start _ _, fun id name hfind => ?_⟩
    cases (Names.eq_of_find?_start hfind).1
  exact foldlM_preserves (P := m.IsFilledByItems)
    (fun _ hrequest _ _ hitems hadd => hitems.add (hrequests hrequest) hadd) hstart h

/-! ### Exhaustion -/

/-- A global item gets no name only beside a thousand others, since it comes before the facets. -/
lemma lt_card_globalKeys (hfilled : names.IsFilledBy m.overallName requests)
    (hrequests : requests ⊆ m.itemRequests ++ m.globalRequests) {key id wanted : String}
    (hkey : (key, id) ∈ m.globalKeys) (hnew : names.find? (.global key id) = none)
    (hform : Names.freeForm? names.taken (.global key id) wanted = none) :
    1000 < m.globalKeys.card := by
  let symbols : Finset Symbol := m.globalKeys.image fun pair => .global pair.1 pair.2
  have hkind : ∀ other name, names.find? other = some name →
      beginsWith (Symbol.global key id).marker name = true → other ∈ symbols := by
    intro other name hfind hname
    obtain ⟨otherWanted, hrequest, hmarker⟩ :=
      exists_mem_of_beginsWith_marker hfilled Symbol.noConfusion hfind hname
    rcases List.mem_append.mp (hrequests hrequest) with hrequest | hrequest
    · obtain ⟨itemId, heq⟩ := mem_itemRequests hrequest
      obtain ⟨rfl, rfl⟩ := Prod.mk.inj heq
      exact absurd (hmarker (beginsWith_itemName itemId)) (by simp [Symbol.marker])
    · obtain ⟨key', id', hmem, heq⟩ := mem_globalRequests hrequest
      obtain ⟨rfl, -⟩ := Prod.mk.inj heq
      exact Finset.mem_image_of_mem _ hmem
  calc 1000 < symbols.card :=
        hfilled.lt_card_of_freeForm?_eq_none hkind (Finset.mem_image_of_mem _ hkey) hnew hform
    _ ≤ m.globalKeys.card := Finset.card_image_le

/-- A facet gets no name only beside a thousand others. -/
lemma lt_card_facetIds (hfilled : names.IsFilledBy m.overallName requests)
    (hrequests : requests ⊆ m.nameRequests) {id wanted : String} (hid : id ∈ m.facetIds)
    (hnew : names.find? (.facet id) = none)
    (hform : Names.freeForm? names.taken (.facet id) wanted = none) :
    1000 < m.facetIds.card := by
  let symbols : Finset Symbol := m.facetIds.image .facet
  have hkind : ∀ other name, names.find? other = some name →
      beginsWith (Symbol.facet id).marker name = true → other ∈ symbols := by
    intro other name hfind hname
    obtain ⟨otherWanted, hrequest, hmarker⟩ :=
      exists_mem_of_beginsWith_marker hfilled Symbol.noConfusion hfind hname
    obtain ⟨item, -, heq⟩ | ⟨latent, -, item, -, heq⟩ | ⟨facet, hfacet, heq⟩ :=
      mem_nameRequests_iff.mp (hrequests hrequest)
    · obtain ⟨rfl, rfl⟩ := Prod.mk.inj heq
      exact absurd (hmarker (beginsWith_itemName item.id)) (by simp [Symbol.marker])
    · obtain ⟨rfl, rfl⟩ := Prod.mk.inj heq
      exact absurd (hmarker (beginsWith_globalName latent.key item.id)) (by simp [Symbol.marker])
    · obtain ⟨rfl, -⟩ := Prod.mk.inj heq
      exact Finset.mem_image_of_mem _ (id_mem_facetIds hfacet)
  calc 1000 < symbols.card :=
        hfilled.lt_card_of_freeForm?_eq_none hkind (Finset.mem_image_of_mem _ hid) hnew hform
    _ ≤ m.facetIds.card := Finset.card_image_le

/-- What comes before an element that is not in the second of two lists comes from the first. -/
lemma subset_of_append_eq {α : Type} {before after xs ys : List α} {x : α}
    (h : xs ++ ys = before ++ x :: after) (hx : x ∉ ys) : before ⊆ xs := by
  obtain ⟨rest, rfl, hrest⟩ | ⟨rest, rfl, -⟩ := List.append_eq_append_iff.mp h
  · exact absurd (hrest ▸ List.mem_append_right rest List.mem_cons_self) hx
  · exact List.subset_append_left before rest

/-- Names run out only for a facet or a global item, and only in a model with more than a thousand
of the kind. -/
lemma exhausted_of_names_eq_error (h : m.names = .error e) :
    ∃ symbol wanted, e = .nameExhausted symbol wanted ∧
      (((∃ id, symbol = .facet id) ∧ 1000 < m.facetIds.card) ∨
        ((∃ key id, symbol = .global key id) ∧ 1000 < m.globalKeys.card)) := by
  obtain ⟨before, request, after, names, hsplit, hbefore, hadd⟩ := exists_of_foldlM_eq_error h
  obtain ⟨hnew, hform, rfl⟩ := Names.add_eq_error hadd
  have hfilled := Names.isFilledBy_of_foldlM hbefore
  have hrequest : request ∈ m.nameRequests :=
    hsplit ▸ List.mem_append_right before List.mem_cons_self
  refine ⟨request.1, request.2, rfl, ?_⟩
  rw [nameRequests_eq, List.mem_append, List.mem_append] at hrequest
  rcases hrequest with (hrequest | hrequest) | hrequest
  · -- Items ask first, and as long as only items have asked their names are free.
    have hlater : request ∉ m.globalRequests ++ m.facetRequests := by
      obtain ⟨id, rfl⟩ := mem_itemRequests hrequest
      intro hmem
      rcases List.mem_append.mp hmem with hmem | hmem
      · obtain ⟨_, _, -, heq⟩ := mem_globalRequests hmem
        cases heq
      · obtain ⟨_, -, heq⟩ := mem_facetRequests hmem
        cases heq
    rw [nameRequests_eq, List.append_assoc] at hsplit
    have hitems := subset_of_append_eq hsplit hlater
    exact absurd hadd ((isFilledByItems_of_foldlM hitems hbefore).add_ne_error hrequest)
  · obtain ⟨key, id, hkey, rfl⟩ := mem_globalRequests hrequest
    have hlater : (Symbol.global key id, globalName id) ∉ m.facetRequests := by
      intro hmem
      obtain ⟨_, -, heq⟩ := mem_facetRequests hmem
      cases heq
    rw [nameRequests_eq] at hsplit
    have hearlier := subset_of_append_eq hsplit hlater
    exact .inr ⟨⟨key, id, rfl⟩, lt_card_globalKeys hfilled hearlier hkey hnew hform⟩
  · obtain ⟨facet, hfacet, rfl⟩ := mem_facetRequests hrequest
    have hearlier : before ⊆ m.nameRequests := hsplit ▸ List.subset_append_left before _
    exact .inl ⟨⟨facet.id, rfl⟩,
      lt_card_facetIds hfilled hearlier (id_mem_facetIds hfacet) hnew hform⟩

/-- Whatever is requested a name is a symbol of the model. -/
lemma HasSymbol.of_mem_nameRequests {symbol : Symbol} {wanted : String}
    (h : (symbol, wanted) ∈ m.nameRequests) : m.HasSymbol symbol := by
  obtain ⟨item, hitem, heq⟩ | ⟨latent, howner, item, hitem, heq⟩ | ⟨facet, hfacet, heq⟩ :=
    mem_nameRequests_iff.mp h
  · obtain ⟨rfl, -⟩ := Prod.mk.inj heq
    exact .item (List.mem_mergeSort.mp hitem)
  · obtain ⟨rfl, -⟩ := Prod.mk.inj heq
    exact .global howner hitem
  · obtain ⟨rfl, -⟩ := Prod.mk.inj heq
    exact .facet hfacet

/-- The symbols of a model have names, and nothing else has. -/
lemma isSome_find?_iff (hnames : m.names = .ok names) {symbol : Symbol} :
    (names.find? symbol).isSome = true ↔ m.HasSymbol symbol := by
  rw [Option.isSome_iff_exists]
  constructor
  · rintro ⟨name, hname⟩
    obtain ⟨rfl, -⟩ | ⟨wanted, hrequest, -⟩ :=
      (Names.isFilledBy_of_foldlM hnames).form symbol name hname
    · exact .overall
    · exact .of_mem_nameRequests hrequest
  · exact fun h => h.exists_find?_eq_some hnames

/-- A facet that has a name wanted a name, and got a form of it. -/
lemma exists_facetName_of_find?_eq_some (hnames : m.names = .ok names) {id name : String}
    (h : names.find? (.facet id) = some name) :
    ∃ facet ∈ m.instrument.facets, facet.id = id ∧
      name ∈ facetName facet :: Names.markedForms (.facet id) (facetName facet) := by
  obtain ⟨heq, -⟩ | ⟨wanted, hrequest, hform⟩ :=
    (Names.isFilledBy_of_foldlM hnames).form _ name h
  · cases heq
  · obtain ⟨item, -, heq⟩ | ⟨latent, -, item, -, heq⟩ | ⟨facet, hfacet, heq⟩ :=
      mem_nameRequests_iff.mp hrequest
    · cases heq
    · cases heq
    · obtain ⟨hid, hwanted⟩ := Prod.mk.inj heq
      rw [hwanted] at hform
      exact ⟨facet, hfacet, (Symbol.facet.inj hid).symm, hform⟩

/-- Names do run out: where all facets want one name, no more facets than this has forms get a
name. -/
lemma exists_names_eq_error {wanted : String}
    (hsame : ∀ facet ∈ m.instrument.facets, facetName facet = wanted)
    (hmany : 1001 < m.facetIds.card) : ∃ e, m.names = .error e := by
  cases hnames : m.names with
  | error e => exact ⟨e, rfl⟩
  | ok names =>
    let forms := wanted :: Names.markedForms (.facet "") wanted
    have hname : ∀ id ∈ m.facetIds, ∃ name ∈ forms, names.find? (.facet id) = some name := by
      intro id hid
      obtain ⟨facet, hfacet, rfl⟩ := List.mem_map.mp (List.mem_toFinset.mp hid)
      obtain ⟨name, hname⟩ := (HasSymbol.facet hfacet).exists_find?_eq_some hnames
      obtain ⟨other, hother, -, hform⟩ := exists_facetName_of_find?_eq_some hnames hname
      have hmarker : (Symbol.facet facet.id).marker = (Symbol.facet "").marker := rfl
      rw [hsame other hother, Names.markedForms_eq_of_marker_eq hmarker] at hform
      exact ⟨name, hform, hname⟩
    choose! nameOf hform hfind using hname
    have hle : m.facetIds.card ≤ forms.toFinset.card := by
      refine Finset.card_le_card_of_injOn nameOf ?_ ?_
      · intro id hid
        exact List.mem_toFinset.mpr (hform id hid)
      · -- Different facets have different names.
        intro id hid other hother heq
        have hsymbol := (isConsistent_of_names_eq_ok hnames).injective _ _ _ (hfind id hid)
          (heq ▸ hfind other hother)
        exact Symbol.facet.inj hsymbol
    have hforms : forms.toFinset.card ≤ 1001 := by
      refine (List.toFinset_card_le forms).trans ?_
      rw [List.length_cons, Names.length_markedForms]
    omega

end Model

end Psychometrics
