import Psychometrics.Proofs.Statement.Identified
import Psychometrics.Proofs.Statement.Total

/-!
# What the statements of a latent variable mention

In a model whose facets have different ids, the section of a facet is made of its active items and
of the present global items that carry its id as their key, which may include those of the
higher-order construct (`Model.facetSections_eq_ok_keyed`).  A facet that is measured by anything
has exactly one reflective statement, which lists all of it (`Model.exists_keyedParts_eq`).

Every statement about a variable is one of a facet or one of the higher-order construct.  It is
about that latent variable, and mentions symbols that belong to it
(`Model.mention_of_mem_keyedParts`, `Model.mention_of_mem_secondOrderParts`).
-/

namespace Psychometrics

/-! ### Blocks -/

section Blocks

variable {latent : String} {indicators causes globals : List NamedIndicator} {rule : ScalingRule}
  {s : Statement}

/-- A measurement by some indicators is one reflective statement that lists them, with a fixed
variance behind it or nothing. -/
lemma exists_measurementBlock_eq (h : indicators ≠ []) (latent : String) (rule : ScalingRule) :
    ∃ listed fixedFirst rest,
      measurementBlock latent indicators rule = .reflective latent listed fixedFirst :: rest ∧
        listed.Perm (indicators.map NamedIndicator.name) ∧ ∀ s ∈ rest, s = .fixVariance latent := by
  rcases measurementBlock_cases h latent rule with
    ⟨before, first, after, rfl, -, hblock⟩ | ⟨-, hblock⟩
  · exact ⟨_, true, [], hblock, List.perm_middle.symm.map _,
      fun _ hs => absurd hs List.not_mem_nil⟩
  · exact ⟨_, false, [.fixVariance latent], hblock, List.Perm.refl _,
      fun _ hs => List.mem_singleton.mp hs⟩

/-- The statements of a measurement are about the latent variable and list its indicators. -/
lemma mention_of_mem_measurementBlock (hs : s ∈ measurementBlock latent indicators rule) :
    s.subject? = some latent ∧ ∀ t ∈ s.terms, ∃ i ∈ indicators, t = i.name := by
  by_cases hne : indicators = []
  · rw [hne] at hs
    cases hs
  · obtain ⟨listed, fixedFirst, rest, hblock, hperm, hrest⟩ :=
      exists_measurementBlock_eq hne latent rule
    rw [hblock] at hs
    rcases List.mem_cons.mp hs with rfl | hs
    · refine ⟨rfl, fun t ht => ?_⟩
      obtain ⟨i, hi, rfl⟩ := List.mem_map.mp (hperm.mem_iff.mp ht)
      exact ⟨i, hi, rfl⟩
    · obtain rfl := hrest s hs
      exact ⟨rfl, fun _ ht => absurd ht List.not_mem_nil⟩

/-- Causes are stated at once. -/
lemma eq_of_mem_causeBlock (hs : s ∈ causeBlock latent causes) :
    s = .formative latent (causes.map NamedIndicator.name) := by
  unfold causeBlock at hs
  split at hs
  · cases hs
  · exact List.mem_singleton.mp hs

/-- The statements of a formative latent variable are about it and list its causes or its global
items. -/
lemma mention_of_mem_causeBlock_append {name : String}
    (hs : s ∈ causeBlock latent causes ++ anchorBlock latent globals rule)
    (hsubject : s.subject? = some name) :
    name = latent ∧ ∀ t ∈ s.terms, (∃ i ∈ causes, t = i.name) ∨ ∃ i ∈ globals, t = i.name := by
  rcases List.mem_append.mp hs with hs | hs
  · obtain rfl := eq_of_mem_causeBlock hs
    refine ⟨(Option.some.inj hsubject).symm, fun t ht => .inl ?_⟩
    obtain ⟨i, hi, rfl⟩ := List.mem_map.mp ht
    exact ⟨i, hi, rfl⟩
  · unfold anchorBlock unanchoredBlock at hs
    split at hs
    · rcases List.mem_cons.mp hs with rfl | hs
      · cases hsubject
      · obtain rfl := List.mem_singleton.mp hs
        exact ⟨(Option.some.inj hsubject).symm, fun _ ht => absurd ht List.not_mem_nil⟩
    · obtain ⟨hlatent, hterms⟩ := mention_of_mem_measurementBlock hs
      exact ⟨Option.some.inj (hsubject.symm.trans hlatent), fun t ht => .inr (hterms t ht)⟩

/-- The names of a list of indicators are those of the elements that it was made from. -/
lemma exists_eq_name_of_map {α : Type} {xs : List α} {f : α → NamedIndicator} {t : String}
    (h : ∃ i ∈ xs.map f, t = i.name) : ∃ x ∈ xs, t = (f x).name := by
  obtain ⟨i, hi, rfl⟩ := h
  obtain ⟨x, hx, rfl⟩ := List.mem_map.mp hi
  exact ⟨x, hx, rfl⟩

end Blocks

namespace Model

variable {m : Model} {names : Names} {nameOf : Symbol → String} {facet : Facet} {s : Statement}
  {part : Section} {name : String}

/-! ### Sections -/

section Parts

variable (m nameOf)

/-- The global items that carry the key of a facet, with their names. -/
def namedKeyedGlobals (facet : Facet) : List NamedIndicator :=
  (m.keyedGlobals facet).map fun item => ⟨item.id, nameOf (.global facet.id item.id)⟩

/-- The section of a facet, under its heading: a formative one is measured by all global items that
carry its key. -/
def keyedParts (facet : Facet) : List Section :=
  let latent := Latent.facet facet.id
  let name := nameOf (.facet facet.id)
  let rule := m.effectiveRule latent
  match m.facetMode? facet.id with
  | none => []
  | some .reflective =>
    if m.namedItems nameOf latent = [] then []
    else
      [⟨Text.oneLine facet.label ++ " (" ++ Mode.reflective.name ++ ")",
        measurementBlock name (m.namedItems nameOf latent) rule⟩]
  | some .formative =>
    [⟨Text.oneLine facet.label ++ " (" ++ Mode.formative.name ++ ")",
      causeBlock name (m.namedItems nameOf latent) ++
        anchorBlock name (m.namedKeyedGlobals nameOf facet) rule⟩]

/-- What a facet is measured by: a reflective one by its active items, a formative one by the global
items that carry its key. -/
def facetMeasures (facet : Facet) : List NamedIndicator :=
  match m.facetMode? facet.id with
  | none => []
  | some .reflective => m.namedItems nameOf (.facet facet.id)
  | some .formative => m.namedKeyedGlobals nameOf facet

end Parts

/-- The global items that carry the key of a facet are found. -/
lemma IsNamed.keyedGlobals_eq_ok (hnamed : m.IsNamed names nameOf)
    (hfacet : facet ∈ m.instrument.facets) :
    names.globals (.facet facet.id) ((m.keyedGlobals facet).map GlobalItem.id) =
      .ok (m.namedKeyedGlobals nameOf facet) := by
  have hsymbol : ∀ id ∈ (m.keyedGlobals facet).map GlobalItem.id,
      m.HasSymbol (.global (Latent.facet facet.id).key id) :=
    List.forall_mem_map.mpr fun item hitem => hasSymbol_of_mem_keyedGlobals hfacet hitem
  rw [Names.globals, hnamed.mapM_eq_ok hsymbol, List.map_map]
  rfl

/-- A facet with a mode is compiled to its section. -/
lemma facetSection_eq_ok_keyed (hnamed : m.IsNamed names nameOf)
    (hnodup : (m.instrument.facets.map Facet.id).Nodup) (hfacet : facet ∈ m.instrument.facets)
    {mode : Mode} (hmode : m.facetMode? facet.id = some mode) :
    m.facetSection names m.indicators facet mode = .ok (m.keyedParts nameOf facet) := by
  have hname : names.get (.facet facet.id) = .ok (nameOf (.facet facet.id)) :=
    hnamed.get_eq_ok (.facet hfacet)
  obtain ⟨hreflective, hformative⟩ := referents_filter_indicators hnodup hfacet
  unfold facetSection keyedParts
  cases mode with
  | reflective =>
    simp only [hname, hmode, hreflective hmode, hnamed.items_eq_ok, List.isEmpty_iff, bind,
      Except.bind]
    split <;> rfl
  | formative =>
    obtain ⟨hcauses, hanchors⟩ := hformative hmode
    simp only [hname, hmode, hcauses, hanchors, hnamed.items_eq_ok,
      hnamed.keyedGlobals_eq_ok hfacet, bind, Except.bind]
    rfl

/-- The facets are compiled to their sections, in declaration order. -/
lemma facetSections_eq_ok_keyed (hnamed : m.IsNamed names nameOf)
    (hnodup : (m.instrument.facets.map Facet.id).Nodup) :
    m.facetSections names m.indicators =
      .ok (m.instrument.facets.flatMap (m.keyedParts nameOf)) := by
  unfold facetSections
  rw [@mapM_eq_ok_map _ _ _ _ (m.keyedParts nameOf) _ ?_]
  · rw [List.flatMap_def]
    rfl
  · intro facet hfacet
    cases hmode : m.facetMode? facet.id with
    | none => simp only [keyedParts, hmode]
    | some mode => exact facetSection_eq_ok_keyed hnamed hnodup hfacet hmode

/-! ### Measured facets -/

/-- A facet that is measured by something has one section, and in it one reflective statement, which
lists what the facet is measured by.  Beside it stand causes or a fixed variance at most. -/
lemma exists_keyedParts_eq (h : m.facetMeasures nameOf facet ≠ []) :
    ∃ heading front listed fixedFirst rest,
      m.keyedParts nameOf facet =
        [⟨heading, front ++ .reflective (nameOf (.facet facet.id)) listed fixedFirst :: rest⟩] ∧
      listed.Perm ((m.facetMeasures nameOf facet).map NamedIndicator.name) ∧
      ∀ s ∈ front ++ rest, s = .fixVariance (nameOf (.facet facet.id)) ∨
        ∃ causes, s = .formative (nameOf (.facet facet.id)) causes := by
  unfold facetMeasures at h ⊢
  unfold keyedParts
  dsimp only
  split
  · next hmode =>
    rw [hmode] at h
    exact absurd rfl h
  · next hmode =>
    rw [hmode] at h
    obtain ⟨listed, fixedFirst, rest, hblock, hperm, hrest⟩ :=
      exists_measurementBlock_eq h (nameOf (.facet facet.id)) (m.effectiveRule (.facet facet.id))
    rw [if_neg h, hblock]
    exact ⟨_, [], listed, fixedFirst, rest, rfl, hperm, fun s hs => .inl (hrest s hs)⟩
  · next hmode =>
    rw [hmode] at h
    -- A formative facet is measured by its global items, behind its causes.
    have hempty : ¬ (m.namedKeyedGlobals nameOf facet).isEmpty = true := by
      simpa [List.isEmpty_iff] using h
    obtain ⟨listed, fixedFirst, rest, hblock, hperm, hrest⟩ :=
      exists_measurementBlock_eq h (nameOf (.facet facet.id)) (m.effectiveRule (.facet facet.id))
    rw [anchorBlock, if_neg hempty, hblock]
    refine ⟨_, _, listed, fixedFirst, rest, rfl, hperm, fun s hs => ?_⟩
    rcases List.mem_append.mp hs with hs | hs
    · exact .inr ⟨_, eq_of_mem_causeBlock hs⟩
    · exact .inl (hrest s hs)

/-! ### Subjects and terms -/

/-- The statements of a facet are about the facet, and mention its active items and, if it is
formative, the present global items that carry its key. -/
lemma mention_of_mem_keyedParts (hpart : part ∈ m.keyedParts nameOf facet) (hs : s ∈ part.body)
    (hsubject : s.subject? = some name) :
    name = nameOf (.facet facet.id) ∧ ∀ t ∈ s.terms,
      (∃ item ∈ m.activeItems (.facet facet.id), t = nameOf (.item item.id)) ∨
        m.facetMode? facet.id = some .formative ∧
          ∃ item ∈ m.keyedGlobals facet, t = nameOf (.global facet.id item.id) := by
  unfold keyedParts at hpart
  dsimp only at hpart
  split at hpart
  · cases hpart
  · split at hpart
    · cases hpart
    · obtain rfl := List.mem_singleton.mp hpart
      obtain ⟨hlatent, hterms⟩ := mention_of_mem_measurementBlock hs
      exact ⟨Option.some.inj (hsubject.symm.trans hlatent),
        fun t ht => .inl (exists_eq_name_of_map (hterms t ht))⟩
  · next hmode =>
    obtain rfl := List.mem_singleton.mp hpart
    obtain ⟨hlatent, hterms⟩ := mention_of_mem_causeBlock_append hs hsubject
    exact ⟨hlatent, fun t ht => (hterms t ht).imp exists_eq_name_of_map
      fun hfound => ⟨hmode, exists_eq_name_of_map hfound⟩⟩

/-- The statements of the higher-order construct are about the construct, and mention the compiled
facets and its present global items. -/
lemma mention_of_mem_secondOrderParts (hpart : part ∈ m.secondOrderParts nameOf)
    (hs : s ∈ part.body) (hsubject : s.subject? = some name) :
    name = nameOf .overall ∧ ∀ t ∈ s.terms,
      (∃ facet ∈ m.emittedFacets, t = nameOf (.facet facet.id)) ∨
        ∃ item ∈ m.presentGlobals .secondOrder,
          t = nameOf (.global Latent.secondOrderKey item.id) := by
  unfold secondOrderParts at hpart
  dsimp only at hpart
  split at hpart
  · cases hpart
  · split at hpart
    · cases hpart
    · obtain rfl := List.mem_singleton.mp hpart
      obtain ⟨hlatent, hterms⟩ := mention_of_mem_measurementBlock hs
      exact ⟨Option.some.inj (hsubject.symm.trans hlatent),
        fun t ht => .inl (exists_eq_name_of_map (hterms t ht))⟩
    · obtain rfl := List.mem_singleton.mp hpart
      obtain ⟨hlatent, hterms⟩ := mention_of_mem_causeBlock_append hs hsubject
      exact ⟨hlatent, fun t ht => (hterms t ht).imp exists_eq_name_of_map exists_eq_name_of_map⟩

/-- A statement with a meaning is one of a facet or one of the higher-order construct. -/
lemma mem_statements_iff {statements : List Statement} {comments : Bool}
    (hnamed : m.IsNamed names nameOf) (hmulti : m.isUnidimensional = false)
    (hnodup : (m.instrument.facets.map Facet.id).Nodup)
    (hstatements : m.statements names comments = .ok statements) (hs : s.isMeaningful = true) :
    s ∈ statements ↔
      (∃ facet ∈ m.instrument.facets, ∃ part ∈ m.keyedParts nameOf facet, s ∈ part.body) ∨
        ∃ part ∈ m.secondOrderParts nameOf, s ∈ part.body := by
  rw [mem_statements_iff_of_facetSections hnamed hmulti
    (facetSections_eq_ok_keyed hnamed hnodup) hstatements hs]
  refine or_congr_left ⟨?_, ?_⟩
  · rintro ⟨part, hpart, hs⟩
    obtain ⟨facet, hfacet, hpart⟩ := List.mem_flatMap.mp hpart
    exact ⟨facet, hfacet, part, hpart, hs⟩
  · rintro ⟨facet, hfacet, part, hpart, hs⟩
    exact ⟨part, List.mem_flatMap.mpr ⟨facet, hfacet, hpart⟩, hs⟩

end Model

end Psychometrics
