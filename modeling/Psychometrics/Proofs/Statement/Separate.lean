import Psychometrics.Proofs.Statement.Keyed
import Psychometrics.Proofs.Statement.Total

/-!
# Whose indicators a latent variable has

A latent variable should have indicators of its own only, and no two latent variables should have
global items of the same name (`Model.KeepsApart`).  Facets never come into each other's way, since
their ids are different.  The id of a facet may however be the key of the higher-order construct.
The global items of the two are then told apart by their ids alone, and those of the construct carry
the key of the facet, which takes them for its own (`Model.MixesGlobals`).  Nothing else mixes the
indicators of latent variables (`Model.keepsApart_iff`).
-/

namespace Psychometrics

namespace Model

/-- Latent variables keep to their own indicators: what is stated of a facet mentions its active
items and its present global items, the global items that are mentioned for the construct as a whole
are present ones of the higher-order construct, and global items of different owners have different
names. -/
structure KeepsApart (m : Model) (names : Names) (statements : List Statement) : Prop where
  facet : ∀ facet ∈ m.instrument.facets, ∀ s ∈ statements,
    s.subject? = names.find? (.facet facet.id) → ∀ t ∈ s.terms,
      (∃ item ∈ m.activeItems (.facet facet.id), names.find? (.item item.id) = some t) ∨
        ∃ item ∈ m.presentGlobals (.facet facet.id),
          names.find? (.global facet.id item.id) = some t
  secondOrder : ∀ s ∈ statements, s.subject? = some names.overall → ∀ t ∈ s.terms,
    ∀ key id, names.find? (.global key id) = some t →
      ∃ item ∈ m.presentGlobals .secondOrder,
        names.find? (.global Latent.secondOrderKey item.id) = some t
  distinct : ∀ latent ∈ m.globalOwners, ∀ other ∈ m.globalOwners, latent ≠ other →
    ∀ item ∈ m.globals latent, ∀ item' ∈ m.globals other,
      names.find? (.global latent.key item.id) ≠ names.find? (.global other.key item'.id)

/-- A facet bears the key of the higher-order construct, and either a global item of the one has the
id of a global item of the other, or both are formative and the construct has a global item that is
present. -/
def MixesGlobals (m : Model) : Prop :=
  Latent.secondOrderKey ∈ m.instrument.facets.map Facet.id ∧
    ((∃ item ∈ m.globals (.facet Latent.secondOrderKey), ∃ other ∈ m.globals .secondOrder,
        item.id = other.id) ∨
      (m.facetMode? Latent.secondOrderKey = some .formative ∧
        m.configuration.secondOrder.mode = some .formative ∧
        m.presentGlobals .secondOrder ≠ []))

variable {m : Model} {names : Names} {nameOf : Symbol → String} {facet : Facet}
  {statements : List Statement} {comments : Bool} {s : Statement}

/-! ### Listed global items -/

/-- A formative facet lists all global items that carry its key. -/
lemma exists_reflective_of_mem_keyedGlobals (hnamed : m.IsNamed names nameOf)
    (hmulti : m.isUnidimensional = false)
    (hnodup : (m.instrument.facets.map Facet.id).Nodup)
    (hstatements : m.statements names comments = .ok statements)
    (hfacet : facet ∈ m.instrument.facets) (hmode : m.facetMode? facet.id = some .formative)
    {item : GlobalItem} (hitem : item ∈ m.keyedGlobals facet) :
    ∃ s ∈ statements, s.subject? = names.find? (.facet facet.id) ∧
      nameOf (.global facet.id item.id) ∈ s.terms := by
  have hmeasure : ⟨item.id, nameOf (.global facet.id item.id)⟩ ∈ m.facetMeasures nameOf facet := by
    rw [facetMeasures, hmode]
    exact List.mem_map_of_mem hitem
  obtain ⟨heading, front, listed, fixedFirst, rest, hparts, hperm, -⟩ :=
    exists_keyedParts_eq (List.ne_nil_of_mem hmeasure)
  refine ⟨.reflective (nameOf (.facet facet.id)) listed fixedFirst, ?_,
    (hnamed.2 _ (.facet hfacet)).symm, hperm.mem_iff.mpr (List.mem_map_of_mem hmeasure)⟩
  refine (mem_statements_iff hnamed hmulti hnodup hstatements rfl).mpr (.inl ⟨facet, hfacet, ?_⟩)
  rw [hparts]
  exact ⟨_, List.mem_singleton_self _, List.mem_append_right _ List.mem_cons_self⟩

/-! ### Names of other kinds -/

section Names

variable (hnames : m.names = .ok names) (hnamed : m.IsNamed names nameOf)

include hnames hnamed

/-- Different symbols of a model have different names. -/
lemma eq_of_find?_eq_some {symbol other : Symbol} (hsymbol : m.HasSymbol symbol)
    (h : names.find? other = some (nameOf symbol)) : other = symbol :=
  (isConsistent_of_names_eq_ok hnames).injective _ _ _ h (hnamed.2 symbol hsymbol)

/-! ### What is stated of one latent variable -/

/-- What is stated of a facet mentions its active items, and its global items if it is formative:
the present ones that carry its key. -/
lemma terms_of_subject?_eq_facet (hmulti : m.isUnidimensional = false)
    (hnodup : (m.instrument.facets.map Facet.id).Nodup)
    (hstatements : m.statements names comments = .ok statements)
    (hfacet : facet ∈ m.instrument.facets) (hs : s ∈ statements)
    (hsubject : s.subject? = names.find? (.facet facet.id)) :
    ∀ t ∈ s.terms,
      (∃ item ∈ m.activeItems (.facet facet.id), names.find? (.item item.id) = some t) ∨
        m.facetMode? facet.id = some .formative ∧
          ∃ item ∈ m.keyedGlobals facet, names.find? (.global facet.id item.id) = some t := by
  have hsome : s.subject? = some (nameOf (.facet facet.id)) :=
    hsubject.trans (hnamed.2 _ (.facet hfacet))
  have hmeaningful := Statement.isMeaningful_of_subject?_eq_some hsome
  rcases (mem_statements_iff hnamed hmulti hnodup hstatements hmeaningful).mp hs with
    ⟨other, hother, part, hpart, hs⟩ | ⟨part, hpart, hs⟩
  · obtain ⟨hname, hterms⟩ := mention_of_mem_keyedParts hpart hs hsome
    -- Only the facet itself is compiled to statements about it.
    have hid : Symbol.facet facet.id = .facet other.id :=
      eq_of_find?_eq_some hnames hnamed (.facet hother) (hname ▸ hnamed.2 _ (.facet hfacet))
    obtain rfl : facet = other :=
      List.inj_on_of_nodup_map hnodup hfacet hother (Symbol.facet.inj hid)
    intro t ht
    refine (hterms t ht).imp ?_ fun hfound => ⟨hfound.1, ?_⟩
    · rintro ⟨item, hitem, rfl⟩
      exact ⟨item, hitem, hnamed.2 _ (.item (IsNamed.mem_items_of_mem_activeItems hitem))⟩
    · obtain ⟨item, hitem, rfl⟩ := hfound.2
      exact ⟨item, hitem, hnamed.2 _ (hasSymbol_of_mem_keyedGlobals hfacet hitem)⟩
  · -- A facet is not called like the construct.
    obtain ⟨hname, -⟩ := mention_of_mem_secondOrderParts hpart hs hsome
    have hsymbol : Symbol.facet facet.id = .overall :=
      eq_of_find?_eq_some hnames hnamed .overall (hname ▸ hnamed.2 _ (.facet hfacet))
    cases hsymbol

/-- What is stated of the construct as a whole mentions compiled facets and present global items of
the higher-order construct. -/
lemma terms_of_subject?_eq_overall (hmulti : m.isUnidimensional = false)
    (hnodup : (m.instrument.facets.map Facet.id).Nodup)
    (hstatements : m.statements names comments = .ok statements) (hs : s ∈ statements)
    (hsubject : s.subject? = some names.overall) :
    ∀ t ∈ s.terms, (∃ facet ∈ m.emittedFacets, names.find? (.facet facet.id) = some t) ∨
      ∃ item ∈ m.presentGlobals .secondOrder,
        names.find? (.global Latent.secondOrderKey item.id) = some t := by
  rw [hnamed.1] at hsubject
  have hmeaningful := Statement.isMeaningful_of_subject?_eq_some hsubject
  rcases (mem_statements_iff hnamed hmulti hnodup hstatements hmeaningful).mp hs with
    ⟨other, hother, part, hpart, hs⟩ | ⟨part, hpart, hs⟩
  · obtain ⟨hname, -⟩ := mention_of_mem_keyedParts hpart hs hsubject
    have hsymbol : Symbol.overall = .facet other.id :=
      eq_of_find?_eq_some hnames hnamed (.facet hother) (hname ▸ hnamed.2 _ .overall)
    cases hsymbol
  · intro t ht
    refine ((mention_of_mem_secondOrderParts hpart hs hsubject).2 t ht).imp ?_ ?_
    · rintro ⟨facet, hfacet, rfl⟩
      exact ⟨facet, hfacet, hnamed.2 _ (.facet (List.mem_of_mem_filter hfacet))⟩
    · rintro ⟨item, hitem, rfl⟩
      exact ⟨item, hitem, hnamed.2 _ (.secondOrderGlobal (List.mem_of_mem_filter hitem))⟩

/-! ### Global items of different owners -/

/-- Global items of the same name have the same key and the same id. -/
lemma eq_of_find?_global_eq {latent other : Latent} (hother : other ∈ m.globalOwners)
    {item item' : GlobalItem} (hitem' : item' ∈ m.globals other)
    (h : names.find? (.global latent.key item.id) = names.find? (.global other.key item'.id)) :
    latent.key = other.key ∧ item.id = item'.id := by
  have hname := h.trans (hnamed.2 _ (.global hother hitem'))
  exact Symbol.global.inj
    (eq_of_find?_eq_some hnames hnamed (.global hother hitem') hname)

/-! ### Mixing -/

/-- Without a facet that mixes its global items with those of the higher-order construct, latent
variables keep to their own. -/
lemma keepsApart_of_not_mixesGlobals (hmulti : m.isUnidimensional = false)
    (hnodup : (m.instrument.facets.map Facet.id).Nodup)
    (hstatements : m.statements names comments = .ok statements) (hmix : ¬ m.MixesGlobals) :
    m.KeepsApart names statements := by
  refine ⟨?_, ?_, ?_⟩
  · intro facet hfacet s hs hsubject t ht
    refine (terms_of_subject?_eq_facet hnames hnamed hmulti hnodup hstatements hfacet hs hsubject
      t ht).imp id ?_
    rintro ⟨hmode, item, hitem, hname⟩
    rcases List.mem_append.mp hitem with hitem | hitem
    · exact ⟨item, hitem, hname⟩
    · split at hitem
      · next hkey =>
        have hne := List.ne_nil_of_mem hitem
        exact absurd ⟨hkey.1 ▸ List.mem_map_of_mem hfacet, .inr ⟨hkey.1 ▸ hmode, hkey.2, hne⟩⟩
          hmix
      · cases hitem
  · intro s hs hsubject t ht key id hname
    rcases terms_of_subject?_eq_overall hnames hnamed hmulti hnodup hstatements hs hsubject t ht
      with ⟨facet, hfacet, hname'⟩ | hglobal
    · -- A facet is not called like a global item.
      have hsymbol := (isConsistent_of_names_eq_ok hnames).injective _ _ _ hname hname'
      cases hsymbol
    · exact hglobal
  · intro latent hlatent other hother hne item hitem item' hitem' heq
    obtain ⟨hkey, hid⟩ := eq_of_find?_global_eq hnames hnamed hother hitem' heq
    -- Two owners with one key are a facet with the reserved id and the construct.
    rcases List.mem_append.mp hlatent with hlatent | hlatent <;>
      rcases List.mem_append.mp hother with hother | hother
    · obtain ⟨facet, -, rfl⟩ := List.mem_map.mp hlatent
      obtain ⟨facet', -, rfl⟩ := List.mem_map.mp hother
      exact hne (congrArg Latent.facet hkey)
    · obtain ⟨facet, hfacet, rfl⟩ := List.mem_map.mp hlatent
      obtain rfl := List.mem_singleton.mp hother
      have hid' : facet.id = Latent.secondOrderKey := hkey
      exact hmix ⟨hid' ▸ List.mem_map_of_mem hfacet,
        .inl ⟨item, hid' ▸ hitem, item', hitem', hid⟩⟩
    · obtain rfl := List.mem_singleton.mp hlatent
      obtain ⟨facet, hfacet, rfl⟩ := List.mem_map.mp hother
      have hid' : Latent.secondOrderKey = facet.id := hkey
      exact hmix ⟨hid' ▸ List.mem_map_of_mem hfacet,
        .inl ⟨item', hid' ▸ hitem', item, hitem, hid.symm⟩⟩
    · obtain rfl := List.mem_singleton.mp hlatent
      obtain rfl := List.mem_singleton.mp hother
      exact hne rfl

/-- A facet that bears the key of the higher-order construct mixes its global items with those of
the construct. -/
lemma not_keepsApart_of_mixesGlobals (hmulti : m.isUnidimensional = false)
    (hnodup : (m.instrument.facets.map Facet.id).Nodup)
    (hstatements : m.statements names comments = .ok statements) (hmix : m.MixesGlobals) :
    ¬ m.KeepsApart names statements := by
  intro h
  obtain ⟨hkey, hmix⟩ := hmix
  obtain ⟨facet, hfacet, hid⟩ := List.mem_map.mp hkey
  -- Global items of one id share their name, since they share their key.
  have hshared : ¬ ∃ item ∈ m.globals (.facet facet.id), ∃ other ∈ m.globals .secondOrder,
      item.id = other.id := by
    rintro ⟨item, hitem, other, hother, heq⟩
    refine h.distinct (.facet facet.id) (List.mem_append_left _ (List.mem_map_of_mem hfacet))
      .secondOrder (List.mem_append_right _ List.mem_cons_self) Latent.noConfusion item hitem
      other hother ?_
    rw [heq, show (Latent.facet facet.id).key = Latent.secondOrder.key from hid]
  rcases hmix with hsame | ⟨hmode, hsecond, hne⟩
  · exact hshared (hid ▸ hsame)
  · -- The facet lists a global item of the construct, which would have to be its own.
    obtain ⟨item, hitem⟩ := List.exists_mem_of_ne_nil _ hne
    have hcarried : item ∈ m.keyedGlobals facet := by
      rw [keyedGlobals, if_pos ⟨hid, hsecond⟩]
      exact List.mem_append_right _ hitem
    obtain ⟨s, hs, hsubject, ht⟩ := exists_reflective_of_mem_keyedGlobals hnamed hmulti hnodup
      hstatements hfacet (hid ▸ hmode) hcarried
    have hsymbol := hasSymbol_of_mem_keyedGlobals hfacet hcarried
    rcases h.facet facet hfacet s hs hsubject _ ht with ⟨own, -, hname⟩ | ⟨own, hown, hname⟩
    · cases eq_of_find?_eq_some hnames hnamed hsymbol hname
    · have heq := (Symbol.global.inj (eq_of_find?_eq_some hnames hnamed hsymbol hname)).2
      exact hshared ⟨own, List.mem_of_mem_filter hown, item, List.mem_of_mem_filter hitem, heq⟩

end Names

/-- In a model whose facets have different ids, latent variables keep to their own indicators
exactly when no facet mixes its global items with those of the higher-order construct. -/
theorem keepsApart_iff (hmulti : m.isUnidimensional = false)
    (hnodup : (m.instrument.facets.map Facet.id).Nodup) (hnames : m.names = .ok names)
    (comments : Bool) :
    ∃ statements, m.statements names comments = .ok statements ∧
      (m.KeepsApart names statements ↔ ¬ m.MixesGlobals) := by
  have hnamed := isNamed_of_names_eq_ok hnames
  obtain ⟨statements, hstatements⟩ := exists_statements_eq_ok hnames comments
  refine ⟨statements, hstatements, fun happart hmix => ?_, fun hmix => ?_⟩
  · exact not_keepsApart_of_mixesGlobals hnames hnamed hmulti hnodup hstatements hmix happart
  · exact keepsApart_of_not_mixesGlobals hnames hnamed hmulti hnodup hstatements hmix

/-- The latent variables of the mixed model keep to their own indicators if it has no facet with the
key of the higher-order construct, which it has not. -/
theorem keepsApart_iff_mixed :
    ∃ names, mixed.names = .ok names ∧ ¬ mixed.MixesGlobals ∧ ∀ comments, ∃ statements,
      mixed.statements names comments = .ok statements ∧
        (mixed.KeepsApart names statements ↔ ¬ mixed.MixesGlobals) := by
  obtain ⟨names, hnames⟩ := exists_names_eq_ok_of_length length_nameRequests_mixed (by decide)
  refine ⟨names, hnames, fun hmix => absurd hmix.1 (by decide), ?_⟩
  exact keepsApart_iff rfl (by decide) hnames

/-- The formative facet with the key of the higher-order construct lists the global item of the
construct among its own. -/
theorem exists_not_keepsApart :
    ∃ names, sharedKey.names = .ok names ∧ sharedKey.isUnidimensional = false ∧
      (sharedKey.instrument.facets.map Facet.id).Nodup ∧ ∀ comments, ∃ statements,
        sharedKey.statements names comments = .ok statements ∧
          ¬ sharedKey.KeepsApart names statements := by
  have hnodup : (sharedKey.instrument.facets.map Facet.id).Nodup := by decide
  have hmix : sharedKey.MixesGlobals := ⟨by decide, .inr ⟨rfl, rfl, by decide⟩⟩
  obtain ⟨names, hnames⟩ := exists_names_eq_ok_of_length length_nameRequests_sharedKey (by decide)
  refine ⟨names, hnames, rfl, hnodup, fun comments => ?_⟩
  obtain ⟨statements, hstatements⟩ := exists_statements_eq_ok hnames comments
  exact ⟨statements, hstatements, not_keepsApart_of_mixesGlobals hnames
    (isNamed_of_names_eq_ok hnames) rfl hnodup hstatements hmix⟩

end Model

end Psychometrics
