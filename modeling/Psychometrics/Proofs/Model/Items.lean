import Mathlib
import Psychometrics.Listing.Basic
import Psychometrics.Report.OfModel

/-!
# What is seen of the items

Items reach the outside in many ways: as relations, as candidates for a reference, through the
shortest text, as numbers in a report, as names and as lines of a legend.  Every one of them goes
through the items of a latent variable in ascending order of ids and asks of each item whether it is
excluded.  So a model with other items and other exclusions measures alike when these two are the
same (`Model.measuresAlike_withItems`).

In particular it does not matter in which order the items of an instrument are given, as long as
their ids are different (`Model.measuresAlike_of_perm`).
-/

namespace Psychometrics

/-! ### Items in ascending order -/

namespace Instrument

variable {items others : List Item}

/-- Sorted items are in ascending order of ids. -/
lemma pairwise_sortById (items : List Item) :
    (sortById items).Pairwise fun a b => a.id ≤ b.id := by
  have htrans : ∀ a b c : Item, decide (a.id ≤ b.id) = true → decide (b.id ≤ c.id) = true →
      decide (a.id ≤ c.id) = true := by
    intro a b c hab hbc
    exact decide_eq_true (Int64.le_trans (of_decide_eq_true hab) (of_decide_eq_true hbc))
  have htotal : ∀ a b : Item, (decide (a.id ≤ b.id) || decide (b.id ≤ a.id)) = true := by
    intro a b
    rw [Bool.or_eq_true, decide_eq_true_iff, decide_eq_true_iff]
    exact Int64.le_total a.id b.id
  exact (List.pairwise_mergeSort htrans htotal items).imp of_decide_eq_true

/-- Items with different ids can be put in ascending order in one way only. -/
lemma sortById_eq_of_perm (hnodup : (others.map Item.id).Nodup) (hperm : items.Perm others) :
    sortById items = sortById others := by
  have hsorted : ∀ list : List Item, (sortById list).Perm list := fun list =>
    List.mergeSort_perm list _
  refine List.Perm.eq_of_pairwise ?_ (pairwise_sortById items) (pairwise_sortById others)
    ((hsorted items).trans (hperm.trans (hsorted others).symm))
  intro a b ha hb hab hba
  have ha' : a ∈ others := hperm.mem_iff.mp ((hsorted items).mem_iff.mp ha)
  have hb' : b ∈ others := (hsorted others).mem_iff.mp hb
  exact List.inj_on_of_nodup_map hnodup ha' hb' (Int64.le_antisymm hab hba)

end Instrument

namespace Model

variable {m : Model} {items : List Item} {table : Table ItemSet}

/-- A model with other items and another table of excluded items. -/
def withItems (m : Model) (items : List Item) (table : Table ItemSet) : Model :=
  ⟨{ m.instrument with items }, { m.configuration with excluded := table }⟩

/-! ### The same items under other circumstances -/

section SameItems

variable (hown : (m.withItems items table).ownItems = m.ownItems)
  (hexcluded : (m.withItems items table).isExcluded = m.isExcluded)

include hown hexcluded

/-- Latent variables keep their active items. -/
lemma activeItems_withItems : (m.withItems items table).activeItems = m.activeItems := by
  funext latent
  simp only [activeItems, hown, hexcluded]

/-- The same facets are compiled. -/
lemma isEmitted_withItems : (m.withItems items table).isEmitted = m.isEmitted := by
  funext facet
  simp only [isEmitted, activeItems_withItems hown hexcluded]
  rfl

/-- The compiled facets are the same, in the same order. -/
lemma emittedFacets_withItems : (m.withItems items table).emittedFacets = m.emittedFacets := by
  simp only [emittedFacets, isEmitted_withItems hown hexcluded]
  rfl

/-- Latent variables keep their candidates. -/
lemma candidates_withItems : (m.withItems items table).candidates = m.candidates := by
  have hmode : (m.withItems items table).mode? = m.mode? := by
    funext latent
    cases latent <;> rfl
  have hglobals : (m.withItems items table).presentGlobals = m.presentGlobals := by
    funext latent
    cases latent <;> rfl
  funext latent
  simp only [candidates, hmode, hglobals, emittedFacets_withItems hown hexcluded,
    activeItems_withItems hown hexcluded]

/-- Latent variables keep their default rules. -/
lemma defaultRule_withItems : (m.withItems items table).defaultRule = m.defaultRule := by
  have hmode : (m.withItems items table).mode? = m.mode? := by
    funext latent
    cases latent <;> rfl
  have hpreferred : (m.withItems items table).preferredFacet? = m.preferredFacet? := by
    simp only [preferredFacet?, emittedFacets_withItems hown hexcluded]
    rfl
  funext latent
  simp only [defaultRule, hmode, hpreferred, candidates_withItems hown hexcluded]

/-- Latent variables keep their effective rules. -/
lemma effectiveRule_withItems : (m.withItems items table).effectiveRule = m.effectiveRule := by
  have hrule : (m.withItems items table).scalingRule? = m.scalingRule? := by
    funext latent
    cases latent <;> rfl
  funext latent
  simp only [effectiveRule, hrule, candidates_withItems hown hexcluded,
    defaultRule_withItems hown hexcluded]

/-- The relations are the same, in the same order. -/
lemma indicators_withItems : (m.withItems items table).indicators = m.indicators := by
  have hfacet : (m.withItems items table).facetIndicators = m.facetIndicators := by
    funext facet
    simp only [facetIndicators, activeItems_withItems hown hexcluded]
    rfl
  simp only [indicators, hfacet]
  rfl

omit hexcluded in
/-- All items in ascending order are the same. -/
lemma sortedItems_withItems :
    (m.withItems items table).instrument.sortedItems = m.instrument.sortedItems :=
  congrFun hown .unidim

omit hexcluded in
/-- Every symbol gets the same name, or the names run out in the same way. -/
lemma names_withItems : (m.withItems items table).names = m.names := by
  simp only [names, nameRequests, sortedItems_withItems hown]
  rfl

/-- The statements are the same under all names. -/
lemma statements_withItems : (m.withItems items table).statements = m.statements := by
  have hunidim : (m.withItems items table).unidimBlock = m.unidimBlock := by
    funext names
    simp only [unidimBlock, activeItems_withItems hown hexcluded,
      effectiveRule_withItems hown hexcluded]
  have hfacets : (m.withItems items table).facetSections = m.facetSections := by
    funext names relations
    simp only [facetSections, facetSection, effectiveRule_withItems hown hexcluded]
    rfl
  have hsecond : (m.withItems items table).secondOrderSection = m.secondOrderSection := by
    funext names relations
    simp only [secondOrderSection, emittedFacets_withItems hown hexcluded,
      effectiveRule_withItems hown hexcluded]
    rfl
  funext names comments
  simp only [statements, hunidim, hfacets, hsecond, indicators_withItems hown hexcluded]
  rfl

/-- The legend is the same. -/
lemma legendLines_withItems : (m.withItems items table).legendLines = m.legendLines := by
  funext names width
  simp only [legendLines, legendEntries, itemEntries, sortedItems_withItems hown, hexcluded]
  rfl

/-- The compiled text or the failure to compile is the same. -/
lemma text?_withItems : (m.withItems items table).text? = m.text? := by
  funext options
  simp only [text?, names_withItems hown, statements_withItems hown hexcluded,
    legendLines_withItems hown hexcluded]

/-- The text is the same. -/
lemma text_withItems : (m.withItems items table).text = m.text := by
  funext options
  simp only [text, text?_withItems hown hexcluded]

/-- The report is the same. -/
lemma report_withItems : (m.withItems items table).report = m.report := by
  have hfindings : (m.withItems items table).itemFindings = m.itemFindings := by
    funext latent subject
    simp only [itemFindings, activeItems_withItems hown hexcluded]
  have hfacet : (m.withItems items table).facetFindings = m.facetFindings := by
    funext facet
    simp only [facetFindings, hfindings]
    rfl
  simp only [report, findings, firstOrderFindings, hfindings, hfacet]
  rfl

end SameItems

/-! ### Measuring alike -/

/-- Two models measure alike: they have the same active items, candidates, rules and relations, the
same report, the same names, and the same compiled text with all its parts. -/
structure MeasuresAlike (m n : Model) : Prop where
  activeItems : n.activeItems = m.activeItems
  candidates : n.candidates = m.candidates
  defaultRule : n.defaultRule = m.defaultRule
  effectiveRule : n.effectiveRule = m.effectiveRule
  indicators : n.indicators = m.indicators
  report : n.report = m.report
  names : n.names = m.names
  statements : n.statements = m.statements
  legendLines : n.legendLines = m.legendLines
  text? : n.text? = m.text?
  text : n.text = m.text

/-- What is measured depends on the items of each latent variable and on which items are
excluded. -/
lemma measuresAlike_withItems (hown : (m.withItems items table).ownItems = m.ownItems)
    (hexcluded : (m.withItems items table).isExcluded = m.isExcluded) :
    m.MeasuresAlike (m.withItems items table) where
  activeItems := activeItems_withItems hown hexcluded
  candidates := candidates_withItems hown hexcluded
  defaultRule := defaultRule_withItems hown hexcluded
  effectiveRule := effectiveRule_withItems hown hexcluded
  indicators := indicators_withItems hown hexcluded
  report := report_withItems hown hexcluded
  names := names_withItems hown
  statements := statements_withItems hown hexcluded
  legendLines := legendLines_withItems hown hexcluded
  text? := text?_withItems hown hexcluded
  text := text_withItems hown hexcluded

/-! ### Items in another order -/

/-- Every latent variable has the same items, in whatever order the instrument gives them. -/
lemma ownItems_withItems_of_perm (hnodup : (m.instrument.items.map Item.id).Nodup)
    (hperm : items.Perm m.instrument.items) :
    (m.withItems items table).ownItems = m.ownItems := by
  funext latent
  cases latent with
  | unidim => exact Instrument.sortById_eq_of_perm hnodup hperm
  | facet id =>
    have hfiltered := hperm.filter fun item => item.facetId == some id
    have hsublist : ((m.instrument.items.filter fun item =>
        item.facetId == some id).map Item.id).Nodup :=
      hnodup.sublist (List.filter_sublist.map Item.id)
    exact Instrument.sortById_eq_of_perm hsublist hfiltered
  | secondOrder => rfl

/-- The order in which an instrument gives its items is of no importance. -/
theorem measuresAlike_of_perm (hnodup : (m.instrument.items.map Item.id).Nodup)
    (hperm : items.Perm m.instrument.items) :
    m.MeasuresAlike { m with instrument.items := items } := by
  have hown : (m.withItems items m.configuration.excluded).ownItems = m.ownItems :=
    ownItems_withItems_of_perm hnodup hperm
  exact measuresAlike_withItems hown rfl

/-- An instrument with two items for each of two facets. -/
def shuffled : Model where
  instrument :=
    { facets := [{ id := "a" }, { id := "b" }]
      items := [{ id := 4, facetId := some "a" }, { id := -1, facetId := some "b" },
        { id := 3, facetId := some "a" }, { id := 2, facetId := some "b" }] }
  configuration :=
    { modes := ((∅ : Table Mode).insert "a" .reflective).insert "b" .formative }

/-- The items may be given backwards. -/
theorem measuresAlike_shuffled :
    shuffled.instrument.items.reverse ≠ shuffled.instrument.items ∧
      shuffled.MeasuresAlike
        { shuffled with instrument.items := shuffled.instrument.items.reverse } :=
  ⟨by decide, measuresAlike_of_perm (by decide) (List.reverse_perm _)⟩

end Model

end Psychometrics
