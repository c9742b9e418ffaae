import Psychometrics.Proofs.Statement.Measurement

/-!
# Compiled latent variables are identified once

Every latent variable that stands on the left of a compiled statement has its scale fixed exactly
once, and in the way that its effective rule says (`Model.identified_once_of_names_eq_ok`).

A model is compiled block by block, each block about another latent variable
(`Model.exists_outline_eq_ok`).  The indicators of each block fit the effective rule, which
was checked against the candidates.  For a formative facet this holds even if its id is the key of
the higher-order construct: the global items of that construct then stand among its own, and more
indicators than candidates do no harm.  Since different latent variables have different names, no
block fixes the scale of another.
-/

namespace Psychometrics

namespace Model

variable {m : Model} {names : Names} {nameOf : Symbol → String} {latent other : Latent}
  {name : String} {facet : Facet}

/-! ### Names of latent variables -/

/-- The symbol whose name a latent variable has. -/
def latentSymbol : Latent → Symbol
  | .facet id => .facet id
  | _ => .overall

/-- The name of a latent variable is the one that was found for its symbol. -/
lemma latent?_eq_find? (hnames : m.names = .ok names) (latent : Latent) :
    names.latent? latent = names.find? (latentSymbol latent) := by
  have hoverall := (isConsistent_of_names_eq_ok hnames).overall
  cases latent with
  | unidim => exact hoverall.symm
  | facet id => rfl
  | secondOrder => exact hoverall.symm

/-- Latent variables that need a rule at the same time have different names. -/
lemma eq_of_latent?_eq_some (hnames : m.names = .ok names) (hl : latent ∈ m.scaledLatents)
    (ho : other ∈ m.scaledLatents) (h : names.latent? latent = some name)
    (h' : names.latent? other = some name) : latent = other := by
  rw [latent?_eq_find? hnames] at h h'
  have hsymbol : latentSymbol latent = latentSymbol other :=
    (isConsistent_of_names_eq_ok hnames).injective _ _ name h h'
  rcases eq_or_ne_unidim hl ho with heq | ⟨hne, hne'⟩
  · exact heq
  · cases latent <;> cases other <;> simp_all [latentSymbol]

/-! ### Indicators that fit -/

/-- The active items of a latent variable that is not formative fit its rule. -/
lemma measures_namedItems (hnamed : m.IsNamed names nameOf)
    (hmode : m.mode? latent ≠ some .formative) (hne : latent ≠ .secondOrder) :
    m.Measures names latent (m.namedItems nameOf latent) := by
  have hcandidates : m.candidates latent = (m.activeItems latent).map itemCandidate := by
    cases latent with
    | unidim => exact m.candidates_unidim
    | facet id => exact candidates_facet_of_not_formative hmode
    | secondOrder => exact absurd rfl hne
  have hreferent : ∀ id, m.referent? latent id =
      ((m.activeItems latent).find? fun item => Text.ofInt item.id.toInt == id).map
        fun item => .item item.id := by
    intro id
    unfold referent?
    rw [if_neg hmode]
    cases latent with
    | unidim => rfl
    | facet id => rfl
    | secondOrder => exact absurd rfl hne
  refine ⟨?_, ?_, ?_⟩
  · rw [namedItems, List.forall_mem_map]
    intro item hitem
    cases hfound : (m.activeItems latent).find?
        fun other => Text.ofInt other.id.toInt == Text.ofInt item.id.toInt with
    | none => exact absurd (beq_self_eq_true _) (List.find?_eq_none.mp hfound item hitem)
    | some found =>
      -- Items are found by their numbers, since different numbers have different texts.
      have hid : found.id = item.id := by
        exact Text.ofInt_toInt_inj.mp (by simpa using List.find?_some hfound)
      have hsymbol : m.HasSymbol (.item item.id) :=
        .item (IsNamed.mem_items_of_mem_activeItems hitem)
      rw [referentName?, hreferent, hfound, Option.map_some, Option.bind_some, hid,
        hnamed.2 _ hsymbol]
  · rw [hcandidates, List.forall_mem_map]
    intro item hitem
    exact ⟨_, List.mem_map_of_mem hitem, rfl⟩
  · rw [hcandidates, namedItems, List.length_map, List.length_map]

/-- The compiled facets fit the rule of a higher-order construct that is not formative. -/
lemma measures_namedFacets (hnamed : m.IsNamed names nameOf)
    (hmode : m.mode? .secondOrder ≠ some .formative) :
    m.Measures names .secondOrder (m.namedFacets nameOf) := by
  rw [namedFacets]
  refine ⟨?_, ?_, ?_⟩
  · rw [List.forall_mem_map]
    intro facet hfacet
    have hsymbol : m.HasSymbol (.facet facet.id) := .facet (List.mem_of_mem_filter hfacet)
    rw [referentName?, referent?, if_neg hmode, Option.bind_some, hnamed.2 _ hsymbol]
  · rw [candidates_secondOrder_of_not_formative hmode, List.forall_mem_map]
    intro facet hfacet
    exact ⟨_, List.mem_map_of_mem hfacet, rfl⟩
  · rw [candidates_secondOrder_of_not_formative hmode, List.length_map, List.length_map]

/-- The present global items of a formative latent variable fit its rule, and so they do with other
global items of the same key behind them. -/
lemma measures_globals (hnamed : m.IsNamed names nameOf)
    (hmode : m.mode? latent = some .formative) {items : List GlobalItem}
    (hinitial : m.presentGlobals latent <+: items)
    (hsymbol : ∀ item ∈ items, m.HasSymbol (.global latent.key item.id)) :
    m.Measures names latent
      (items.map fun item => ⟨item.id, nameOf (.global latent.key item.id)⟩) := by
  refine ⟨?_, ?_, ?_⟩
  · rw [List.forall_mem_map]
    intro item hitem
    have hreferent : m.referent? latent item.id = some (.global latent.key item.id) := by
      unfold referent?
      rw [if_pos hmode]
    rw [referentName?, hreferent, Option.bind_some, hnamed.2 _ (hsymbol item hitem)]
  · rw [candidates_of_formative hmode, List.forall_mem_map]
    intro item hitem
    exact ⟨_, List.mem_map_of_mem (hinitial.subset hitem), rfl⟩
  · rw [candidates_of_formative hmode, List.length_map, List.length_map]
    exact hinitial.length_le

/-! ### Sections -/

/-- Blocks of some of the latent variables of a list, in the order of the list. -/
def AreBlocksOf (m : Model) (names : Names) (latents : List Latent)
    (blocks : List (List Statement)) : Prop :=
  ∃ compiled, compiled.Sublist latents ∧ List.Forall₂ (m.IsBlockOf names) compiled blocks

/-- No blocks are needed of any latent variables. -/
lemma areBlocksOf_nil (m : Model) (names : Names) (latents : List Latent) :
    m.AreBlocksOf names latents [] :=
  ⟨[], List.nil_sublist _, .nil⟩

/-- The block of a latent variable is a list of blocks. -/
lemma areBlocksOf_singleton {block : List Statement} (h : m.IsBlockOf names latent block) :
    m.AreBlocksOf names [latent] [block] :=
  ⟨[latent], List.Sublist.refl _, .cons h .nil⟩

/-- Blocks of latent variables can be put together. -/
lemma AreBlocksOf.append {latents latents' : List Latent} {blocks blocks' : List (List Statement)}
    (h : m.AreBlocksOf names latents blocks) (h' : m.AreBlocksOf names latents' blocks') :
    m.AreBlocksOf names (latents ++ latents') (blocks ++ blocks') := by
  obtain ⟨compiled, hsub, hblocks⟩ := h
  obtain ⟨compiled', hsub', hblocks'⟩ := h'
  exact ⟨compiled ++ compiled', hsub.append hsub', List.rel_append hblocks hblocks'⟩

/-- The present global items that carry the key of a facet: its own, and those of the higher-order
construct if the key is the same. -/
def keyedGlobals (m : Model) (facet : Facet) : List GlobalItem :=
  m.presentGlobals (.facet facet.id) ++
    if facet.id = Latent.secondOrderKey ∧ m.configuration.secondOrder.mode = some .formative then
      m.presentGlobals .secondOrder
    else []

/-- The items and the global items that the relations of a facet refer to. -/
lemma referents_filter_indicators (hnodup : (m.instrument.facets.map Facet.id).Nodup)
    (hfacet : facet ∈ m.instrument.facets) :
    let own := m.indicators.filter fun r => r.latentKey == facet.id
    (m.facetMode? facet.id = some .reflective →
      ((own.filter fun r => r.direction == .outward && !r.isGlobal).filterMap Indicator.itemId?) =
        (m.activeItems (.facet facet.id)).map Item.id) ∧
    (m.facetMode? facet.id = some .formative →
      ((own.filter fun r => r.direction == .inward).filterMap Indicator.itemId?) =
        (m.activeItems (.facet facet.id)).map Item.id ∧
      ((own.filter fun r => r.isGlobal).map fun r => r.ref.text) =
        (m.keyedGlobals facet).map GlobalItem.id) := by
  have hforeign : ∀ p, ((if facet.id = Latent.secondOrderKey then m.secondOrderIndicators
      else []).filter p).filterMap Indicator.itemId? = [] := by
    intro p
    split
    · exact filterMap_itemId?_filter_secondOrderIndicators p
    · rfl
  dsimp only
  rw [filter_latentKey_indicators hnodup hfacet]
  refine ⟨fun hmode => ?_, fun hmode => ⟨?_, ?_⟩⟩
  · rw [List.filter_append, List.filterMap_append, hforeign, List.append_nil,
      filterMap_itemId?_facetIndicators_of_reflective hmode]
  · rw [List.filter_append, List.filterMap_append, hforeign, List.append_nil,
      filterMap_itemId?_facetIndicators_of_formative hmode]
  · rw [List.filter_append, List.map_append, map_text_facetIndicators_of_formative hmode,
      keyedGlobals, List.map_append]
    congr 1
    by_cases hkey : facet.id = Latent.secondOrderKey
    · simp only [hkey, true_and, if_true, map_text_filter_secondOrderIndicators]
      split <;> rfl
    · simp only [hkey, false_and, if_false]
      rfl

/-- The global items that carry the key of a facet are symbols of the model under that key. -/
lemma hasSymbol_of_mem_keyedGlobals (hfacet : facet ∈ m.instrument.facets) {item : GlobalItem}
    (h : item ∈ m.keyedGlobals facet) : m.HasSymbol (.global facet.id item.id) := by
  rcases List.mem_append.mp h with h | h
  · exact .facetGlobal hfacet (List.mem_of_mem_filter h)
  · split at h
    · next hkey =>
      rw [hkey.1]
      exact .secondOrderGlobal (List.mem_of_mem_filter h)
    · cases h

/-- A facet with a mode is compiled to a block of its own, or to nothing. -/
lemma exists_facetSection_eq_ok (hnamed : m.IsNamed names nameOf)
    (hmulti : m.isUnidimensional = false)
    (hnodup : (m.instrument.facets.map Facet.id).Nodup) (hfacet : facet ∈ m.instrument.facets)
    {mode : Mode} (hmode : m.facetMode? facet.id = some mode) :
    ∃ sections, m.facetSection names m.indicators facet mode = .ok sections ∧
      m.AreBlocksOf names [.facet facet.id] (sections.map Section.body) := by
  have hname : names.latent? (.facet facet.id) = some (nameOf (.facet facet.id)) :=
    hnamed.2 _ (.facet hfacet)
  have hget : names.get (.facet facet.id) = .ok (nameOf (.facet facet.id)) :=
    hnamed.get_eq_ok (.facet hfacet)
  have hscaled : Latent.facet facet.id ∈ m.scaledLatents := by
    have hknown : (m.instrument.facet? facet.id).isSome = true :=
      List.find?_isSome.mpr ⟨facet, hfacet, beq_self_eq_true _⟩
    exact mem_scaledLatents_iff.mpr ⟨hknown, by simp [takesPart, hmulti, mode?, hmode]⟩
  obtain ⟨hreflective, hformative⟩ := referents_filter_indicators hnodup hfacet
  unfold facetSection
  cases mode with
  | reflective =>
    simp only [hget, hreflective hmode, hnamed.items_eq_ok, List.isEmpty_iff, bind, Except.bind]
    split
    · exact ⟨[], rfl, m.areBlocksOf_nil names _⟩
    · next hne =>
      have hmeasures : m.Measures names (.facet facet.id) (m.namedItems nameOf (.facet facet.id)) :=
        measures_namedItems hnamed (by simp [mode?, hmode]) (by simp)
      exact ⟨_, rfl,
        areBlocksOf_singleton (hmeasures.isBlockOf_measurementBlock hscaled hname hne)⟩
  | formative =>
    -- Global items of the construct count, too, if the facet has its key.
    obtain ⟨hcauses, hanchors⟩ := hformative hmode
    have hmode' : m.mode? (.facet facet.id) = some .formative := hmode
    have hsymbol : ∀ item ∈ m.keyedGlobals facet,
        m.HasSymbol (.global (Latent.facet facet.id).key item.id) :=
      fun item hitem => hasSymbol_of_mem_keyedGlobals hfacet hitem
    have hglobals : names.globals (.facet facet.id) ((m.keyedGlobals facet).map GlobalItem.id) =
        .ok ((m.keyedGlobals facet).map fun item =>
          ⟨item.id, nameOf (.global (Latent.facet facet.id).key item.id)⟩) := by
      rw [Names.globals, hnamed.mapM_eq_ok (List.forall_mem_map.mpr hsymbol), List.map_map]
      rfl
    simp only [hget, hcauses, hanchors, hnamed.items_eq_ok, hglobals, bind, Except.bind]
    have hmeasures : m.Measures names (.facet facet.id) ((m.keyedGlobals facet).map fun item =>
        ⟨item.id, nameOf (.global (Latent.facet facet.id).key item.id)⟩) :=
      measures_globals hnamed hmode' (List.prefix_append _ _) hsymbol
    exact ⟨_, rfl, areBlocksOf_singleton (hmeasures.isBlockOf_anchorBlock hscaled hname _)⟩

/-- Facets are compiled one by one, each to a block of its own or to nothing. -/
lemma exists_mapM_facetSection_eq_ok (hnamed : m.IsNamed names nameOf)
    (hmulti : m.isUnidimensional = false)
    (hnodup : (m.instrument.facets.map Facet.id).Nodup) {facets : List Facet}
    (hfacets : ∀ facet ∈ facets, facet ∈ m.instrument.facets) :
    ∃ parts, (facets.mapM fun facet =>
        match m.facetMode? facet.id with
        | none => Except.ok []
        | some mode => m.facetSection names m.indicators facet mode) = .ok parts ∧
      m.AreBlocksOf names (facets.map fun facet => .facet facet.id)
        (parts.flatten.map Section.body) := by
  induction facets with
  | nil => exact ⟨[], rfl, m.areBlocksOf_nil names _⟩
  | cons first rest ih =>
    obtain ⟨hfirst, hrest⟩ := List.forall_mem_cons.mp hfacets
    obtain ⟨parts, hparts, hblocks⟩ := ih hrest
    rw [List.mapM_cons, hparts, List.map_cons]
    cases hmode : m.facetMode? first.id with
    | none => exact ⟨[] :: parts, rfl, (m.areBlocksOf_nil names [.facet first.id]).append hblocks⟩
    | some mode =>
      obtain ⟨sections, hsections, hown⟩ :=
        exists_facetSection_eq_ok hnamed hmulti hnodup hfirst hmode
      refine ⟨sections :: parts, ?_, ?_⟩
      · simp only [hsections]
        rfl
      · rw [List.flatten_cons, List.map_append]
        exact hown.append hblocks

/-- The facets are compiled to blocks of their own, in declaration order. -/
lemma exists_facetSections_eq_ok (hnamed : m.IsNamed names nameOf)
    (hmulti : m.isUnidimensional = false)
    (hnodup : (m.instrument.facets.map Facet.id).Nodup) :
    ∃ sections, m.facetSections names m.indicators = .ok sections ∧
      m.AreBlocksOf names (m.instrument.facets.map fun facet => .facet facet.id)
        (sections.map Section.body) := by
  obtain ⟨parts, hparts, hblocks⟩ :=
    exists_mapM_facetSection_eq_ok hnamed hmulti hnodup fun _ hfacet => hfacet
  exact ⟨parts.flatten, bind_eq_ok_iff.mpr ⟨parts, hparts, rfl⟩, hblocks⟩

/-- The higher-order construct is compiled to a block of its own, or to nothing. -/
lemma exists_secondOrderSection_eq_ok (hnamed : m.IsNamed names nameOf)
    (hmulti : m.isUnidimensional = false) :
    ∃ sections, m.secondOrderSection names m.indicators = .ok sections ∧
      m.AreBlocksOf names [.secondOrder] (sections.map Section.body) := by
  have hname : names.latent? .secondOrder = some names.overall := rfl
  have howner : Latent.secondOrder ∈ m.globalOwners :=
    List.mem_append_right _ (List.mem_singleton_self _)
  refine ⟨m.secondOrderParts nameOf, secondOrderSection_eq_ok hnamed, ?_⟩
  unfold secondOrderParts
  rw [← hnamed.1]
  dsimp only
  split
  · exact m.areBlocksOf_nil names _
  · next hemitted =>
    have hscaled : m.configuration.secondOrder.mode.isSome = true →
        Latent.secondOrder ∈ m.scaledLatents := fun hmode =>
      mem_scaledLatents_iff.mpr ⟨rfl, by simp [takesPart, hmulti, mode?, hmode]⟩
    split
    · exact m.areBlocksOf_nil names _
    · next hmode =>
      have hne : m.namedFacets nameOf ≠ [] := by
        rw [namedFacets, Ne, List.map_eq_nil_iff]
        exact hemitted
      have hmeasures := measures_namedFacets hnamed (by simp [mode?, hmode])
      exact areBlocksOf_singleton
        (hmeasures.isBlockOf_measurementBlock (hscaled (by rw [hmode]; rfl)) hname hne)
    · next hmode =>
      have hmode' : m.mode? .secondOrder = some .formative := hmode
      have hsymbol : ∀ item ∈ m.presentGlobals .secondOrder,
          m.HasSymbol (.global Latent.secondOrder.key item.id) :=
        fun item hitem => .global howner (List.mem_of_mem_filter hitem)
      have hmeasures : m.Measures names .secondOrder (m.namedGlobals nameOf .secondOrder) :=
        measures_globals hnamed hmode' List.prefix_rfl hsymbol
      exact areBlocksOf_singleton
        (hmeasures.isBlockOf_anchorBlock (hscaled (by rw [hmode]; rfl)) hname _)

/-- A unidimensional model is compiled to a single block, or to nothing. -/
lemma exists_unidimBlock_eq_ok (hnamed : m.IsNamed names nameOf)
    (hsingle : m.isUnidimensional = true) :
    ∃ block blocks, m.unidimBlock names = .ok block ∧ block = blocks.flatten ∧
      m.AreBlocksOf names [.unidim] blocks := by
  have hblock := hnamed.unidimBlock_eq_ok
  by_cases hempty : m.namedItems nameOf .unidim = []
  · refine ⟨_, [], hblock, ?_, m.areBlocksOf_nil names _⟩
    rw [hempty]
    rfl
  · have hscaled : Latent.unidim ∈ m.scaledLatents := by simp [scaledLatents, hsingle]
    have hmeasures : m.Measures names .unidim (m.namedItems nameOf .unidim) :=
      measures_namedItems hnamed (by simp [mode?]) (by simp)
    refine ⟨_, [_], hblock, (List.flatten_singleton).symm, areBlocksOf_singleton ?_⟩
    exact hmeasures.isBlockOf_measurementBlock hscaled rfl hempty

/-! ### All blocks of a model -/

/-- The outline of a model consists of blocks of different latent variables, titles apart. -/
lemma exists_outline_eq_ok (hnodup : (m.instrument.facets.map Facet.id).Nodup)
    (hnames : m.names = .ok names) :
    ∃ parts compiled blocks, m.outline names = .ok parts ∧
      parts.1.flatMap Section.body ++ parts.2 = blocks.flatten ∧
      compiled.Nodup ∧ List.Forall₂ (m.IsBlockOf names) compiled blocks := by
  have hnamed := isNamed_of_names_eq_ok hnames
  have htitle : m.titleSections.flatMap Section.body = [] := by
    unfold titleSections
    dsimp only
    split <;> rfl
  cases hdimension : m.isUnidimensional with
  | true =>
    obtain ⟨block, blocks, hblock, rfl, compiled, hsub, hblocks⟩ :=
      exists_unidimBlock_eq_ok hnamed hdimension
    refine ⟨(m.titleSections, blocks.flatten), compiled, blocks, ?_, ?_,
      (List.nodup_singleton _).sublist hsub, hblocks⟩
    · rw [outline, if_pos hdimension, hblock]
      rfl
    · rw [htitle, List.nil_append]
  | false =>
    obtain ⟨facets, hfacets, hfacetBlocks⟩ := exists_facetSections_eq_ok hnamed hdimension hnodup
    obtain ⟨second, hsecond, hsecondBlocks⟩ := exists_secondOrderSection_eq_ok hnamed hdimension
    obtain ⟨compiled, hsub, hblocks⟩ := hfacetBlocks.append hsecondBlocks
    have howners : m.globalOwners.Nodup := by
      have hinjective : Function.Injective Latent.facet := fun _ _ => Latent.facet.inj
      refine List.nodup_append.mpr ⟨?_, List.nodup_singleton _, ?_⟩
      · have hids := hnodup.map hinjective
        rwa [List.map_map] at hids
      · intro latent hlatent other hother
        obtain ⟨facet, -, rfl⟩ := List.mem_map.mp hlatent
        obtain rfl := List.mem_singleton.mp hother
        exact Latent.noConfusion
    refine ⟨(m.titleSections ++ facets ++ second, []), compiled, _, ?_, ?_,
      howners.sublist hsub, hblocks⟩
    · rw [outline, if_neg (by simp [hdimension]), hfacets, hsecond]
      rfl
    · rw [List.flatMap_append, List.flatMap_append, htitle, List.nil_append, List.append_nil,
        ← List.map_append, ← List.flatMap_def, List.flatMap_append]

section Blocks

variable {compiled : List Latent} {blocks : List (List Statement)} {s : Statement}

/-- A statement of a block is about the latent variable of that block. -/
lemma exists_mem_of_subject?_eq_some (h : List.Forall₂ (m.IsBlockOf names) compiled blocks)
    (hs : s ∈ blocks.flatten) (hsubject : s.subject? = some name) :
    ∃ latent ∈ compiled, latent ∈ m.scaledLatents ∧ names.latent? latent = some name ∧
      m.FollowsRule names latent s := by
  induction h with
  | nil => cases hs
  | @cons first block rest blocks hfirst _ ih =>
    rcases List.mem_append.mp hs with hs | hs
    · exact ⟨first, List.mem_cons_self, hfirst.scaled, hfirst.subject s hs name hsubject,
        hfirst.follows s hs⟩
    · obtain ⟨latent, hlatent, hfound⟩ := ih hs
      exact ⟨latent, List.mem_cons_of_mem _ hlatent, hfound⟩

/-- Blocks of other latent variables do not fix the scale of a latent variable. -/
lemma countP_fixesScaleOf_eq_zero (hnames : m.names = .ok names)
    (h : List.Forall₂ (m.IsBlockOf names) compiled blocks) (hscaled : latent ∈ m.scaledLatents)
    (hname : names.latent? latent = some name) (hother : latent ∉ compiled) :
    blocks.flatten.countP (Statement.fixesScaleOf name) = 0 := by
  refine List.countP_eq_zero.mpr fun s hs hfixes => ?_
  obtain ⟨owner, howner, hscaled', hname', -⟩ :=
    exists_mem_of_subject?_eq_some h hs (Statement.subject?_of_fixesScaleOf hfixes)
  exact hother (eq_of_latent?_eq_some hnames hscaled hscaled' hname hname' ▸ howner)

/-- Among blocks of different latent variables, the scale of each is fixed once. -/
lemma countP_fixesScaleOf_eq_one (hnames : m.names = .ok names)
    (h : List.Forall₂ (m.IsBlockOf names) compiled blocks) (hnodup : compiled.Nodup)
    (hlatent : latent ∈ compiled) (hscaled : latent ∈ m.scaledLatents)
    (hname : names.latent? latent = some name) :
    blocks.flatten.countP (Statement.fixesScaleOf name) = 1 := by
  induction h with
  | nil => cases hlatent
  | @cons first block rest blocks hfirst hrest ih =>
    rw [List.nodup_cons] at hnodup
    rw [List.flatten_cons, List.countP_append]
    rcases List.mem_cons.mp hlatent with rfl | hlater
    · rw [hfirst.once name hname,
        countP_fixesScaleOf_eq_zero hnames hrest hscaled hname hnodup.1]
    · -- The first block is about another latent variable.
      have hne : latent ∉ [first] := by
        rw [List.mem_singleton]
        rintro rfl
        exact hnodup.1 hlater
      have hblock := countP_fixesScaleOf_eq_zero hnames (.cons hfirst .nil) hscaled hname hne
      rw [List.flatten_singleton] at hblock
      rw [hblock, ih hnodup.2 hlater]

end Blocks

/-- Compiled latent variables are identified exactly once.  In the statements of a model whose
facets have different ids, exactly one statement fixes the scale of each latent variable that a
statement is about, by the loading of its first indicator or by its variance.  A reflective
statement fixes that loading exactly when the effective rule of the latent variable has a reference,
and then it lists at least two indicators with the reference at the front. -/
theorem identified_once_of_names_eq_ok (hnodup : (m.instrument.facets.map Facet.id).Nodup)
    (hnames : m.names = .ok names) (comments : Bool) :
    ∃ statements, m.statements names comments = .ok statements ∧
      (∀ s ∈ statements, ∀ name, s.subject? = some name →
        statements.countP (Statement.fixesScaleOf name) = 1 ∧
        ∃ latent ∈ m.scaledLatents, names.latent? latent = some name) ∧
      ∀ latent ∈ m.scaledLatents, ∀ name, names.latent? latent = some name →
        ∀ indicators fixedFirst, .reflective name indicators fixedFirst ∈ statements →
          (fixedFirst = true ↔ (m.effectiveRule latent).reference.isSome = true) ∧
          (fixedFirst = true → 2 ≤ indicators.length ∧
            indicators.head? =
              (m.effectiveRule latent).reference.bind (m.referentName? names latent)) := by
  obtain ⟨parts, compiled, blocks, hparts, hflat, hcompiled, hblocks⟩ :=
    exists_outline_eq_ok hnodup hnames
  obtain ⟨statements, hstatements, -, hfilter⟩ := filter_statements_of_outline hparts comments
  have hsame : statements.filter Statement.isMeaningful =
      blocks.flatten.filter Statement.isMeaningful := by
    rw [hfilter, ← hflat, List.filter_append, List.filter_flatMap]
  have hmem : ∀ s ∈ statements, ∀ name, s.subject? = some name → s ∈ blocks.flatten := by
    intro s hs name hsubject
    have hs' : s ∈ statements.filter Statement.isMeaningful :=
      List.mem_filter.mpr ⟨hs, Statement.isMeaningful_of_subject?_eq_some hsubject⟩
    rw [hsame] at hs'
    exact List.mem_of_mem_filter hs'
  -- Only statements with a meaning fix scales, so that those of the blocks are counted.
  have hcount : ∀ name, statements.countP (Statement.fixesScaleOf name) =
      blocks.flatten.countP (Statement.fixesScaleOf name) := by
    intro name
    rw [← Statement.countP_fixesScaleOf_filter_isMeaningful, hsame,
      Statement.countP_fixesScaleOf_filter_isMeaningful]
  refine ⟨statements, hstatements, ?_, ?_⟩
  · intro s hs name hsubject
    obtain ⟨latent, hlatent, hscaled, hname, -⟩ :=
      exists_mem_of_subject?_eq_some hblocks (hmem s hs name hsubject) hsubject
    rw [hcount]
    exact ⟨countP_fixesScaleOf_eq_one hnames hblocks hcompiled hlatent hscaled hname,
      latent, hscaled, hname⟩
  · intro latent hscaled name hname indicators fixedFirst hs
    obtain ⟨owner, -, hscaled', hname', hfollows⟩ :=
      exists_mem_of_subject?_eq_some hblocks (hmem _ hs name rfl) rfl
    obtain rfl := eq_of_latent?_eq_some hnames hscaled hscaled' hname hname'
    exact hfollows

/-- A model in which a formative facet bears the key of the formative higher-order construct, so
that a global item of that construct stands among its own. -/
def sharedKey : Model where
  instrument :=
    { facets := [{ id := "a" }, { id := Latent.secondOrderKey }]
      items := [{ id := 2, facetId := some "a" }, { id := 1, facetId := some "a" }] }
  configuration :=
    { modes := ((∅ : Table Mode).insert "a" .reflective).insert Latent.secondOrderKey .formative
      globals := (∅ : Table (List GlobalItem)).insert Latent.secondOrderKey
        [⟨"p", "Overall"⟩, ⟨"q", "In general"⟩]
      secondOrder := { mode := some .formative, globals := some [⟨"r", "All in all"⟩] } }

lemma length_nameRequests_sharedKey : sharedKey.nameRequests.length = 7 := by
  simp [nameRequests, Instrument.sortedItems, Instrument.sortById, sharedKey, globalOwners, globals,
    globals?, Latent.secondOrderKey]

/-- The latent variables of that model are identified once. -/
theorem identified_once_sharedKey :
    ∃ names, sharedKey.names = .ok names ∧ ∀ comments, ∃ statements,
      sharedKey.statements names comments = .ok statements ∧
      (∀ s ∈ statements, ∀ name, s.subject? = some name →
        statements.countP (Statement.fixesScaleOf name) = 1 ∧
        ∃ latent ∈ sharedKey.scaledLatents, names.latent? latent = some name) ∧
      ∀ latent ∈ sharedKey.scaledLatents, ∀ name, names.latent? latent = some name →
        ∀ indicators fixedFirst, .reflective name indicators fixedFirst ∈ statements →
          (fixedFirst = true ↔ (sharedKey.effectiveRule latent).reference.isSome = true) ∧
          (fixedFirst = true → 2 ≤ indicators.length ∧
            indicators.head? = (sharedKey.effectiveRule latent).reference.bind
              (sharedKey.referentName? names latent)) := by
  have hfew : sharedKey.nameRequests.length < Names.numbers.length := by
    rw [length_nameRequests_sharedKey, Names.length_numbers]
    decide
  obtain ⟨names, hnames⟩ := exists_names_eq_ok hfew
  exact ⟨names, hnames, identified_once_of_names_eq_ok (by decide) hnames⟩

end Model

end Psychometrics
