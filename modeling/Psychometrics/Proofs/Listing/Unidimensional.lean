import Mathlib
import Psychometrics.Proofs.Listing.Failure
import Psychometrics.Proofs.Naming.Exhaustion
import Psychometrics.Proofs.Report.Measured

/-!
# Unidimensional models

A model with a single latent variable may still carry facets, global items and the settings of a
higher-order construct, which take part in naming and live in the same tables.  None of this can be
seen in the compiled text.  The statements measure the single latent variable once
(`Model.MeasuresOnce`), and the whole text is determined by the name and the short code of the
construct, by the items with their texts, and by what is stored under the key of the single latent
variable (`Model.AgreesUnidim`).

Names are the delicate point, since a name depends on those that were given away before.  Items are
named directly after the construct, and so before anything that a unidimensional model does not
show.
-/

namespace Psychometrics

/-! ### The statements of a measurement -/

/-- A statement that says by which causes a latent variable is formed. -/
def Statement.isFormative : Statement → Bool
  | .formative _ _ => true
  | _ => false

/-- A statement of causes has a meaning. -/
lemma Statement.isMeaningful_of_isFormative {s : Statement} (h : s.isFormative = true) :
    s.isMeaningful = true := by
  cases s with
  | formative latent causes => rfl
  | _ => cases h

/-- A measurement states no causes. -/
lemma filter_isFormative_measurementBlock (latent : String) (indicators : List NamedIndicator)
    (rule : ScalingRule) :
    (measurementBlock latent indicators rule).filter Statement.isFormative = [] := by
  unfold measurementBlock
  split
  · rfl
  · split <;> rfl

namespace Model

variable {m n : Model} {names names' : Names} {statements : List Statement}

/-! ### One measurement -/

/-- What the statements of a unidimensional model say: no latent variable is formed by causes, and
the construct shows in its items if there are any, once.  The items are those that are not excluded,
by ascending ids, except that the reference is moved to the front. -/
structure MeasuresOnce (m : Model) (names : Names) (statements : List Statement) : Prop where
  noCauses : ∀ s ∈ statements, s.isFormative = false
  silent : m.activeItems .unidim = [] → statements.filter Statement.isReflective = []
  once : m.activeItems .unidim ≠ [] →
    ∃ before first after listed fixedFirst, m.activeItems .unidim = before ++ first :: after ∧
      (fixedFirst = true →
        (m.effectiveRule .unidim).reference = some (Text.ofInt first.id.toInt)) ∧
      (fixedFirst = false → before = []) ∧
      (first :: (before ++ after)).map (fun item => names.find? (.item item.id)) =
        listed.map some ∧
      statements.filter Statement.isReflective = [.reflective names.overall listed fixedFirst]

/-- The items of a unidimensional model that count are all those that are not excluded. -/
lemma activeItems_unidim_perm (m : Model) :
    (m.activeItems .unidim).Perm
      (m.instrument.items.filter fun item => !m.isExcluded Latent.unidimKey item.id) :=
  (List.mergeSort_perm _ _).filter _

/-- The block of a unidimensional model with active items shows the construct in them, the reference
first. -/
lemma exists_unidimBlock_eq (names : Names) (nameOf : Symbol → String)
    (hne : m.activeItems .unidim ≠ []) :
    ∃ before first after fixedFirst rest, m.activeItems .unidim = before ++ first :: after ∧
      measurementBlock names.overall (m.namedItems nameOf .unidim) (m.effectiveRule .unidim) =
        .reflective names.overall
          ((first :: (before ++ after)).map fun item => nameOf (.item item.id)) fixedFirst :: rest ∧
      (fixedFirst = true →
        (m.effectiveRule .unidim).reference = some (Text.ofInt first.id.toInt)) ∧
      (fixedFirst = false → before = []) ∧ ∀ s ∈ rest, s = .fixVariance names.overall := by
  have hnamed : m.namedItems nameOf .unidim ≠ [] := by simpa [namedItems] using hne
  obtain ⟨before, first, after, fixedFirst, rest, hsplit, hblock, hfixed, hfree, hrest⟩ :=
    exists_measurement_eq_split hnamed names.overall (m.effectiveRule .unidim).reference
  obtain ⟨before, others, hitems, rfl, hothers⟩ := List.map_eq_append_iff.mp hsplit
  obtain ⟨item, after, rfl, rfl, rfl⟩ := List.map_eq_cons_iff.mp hothers
  refine ⟨before, item, after, fixedFirst, rest, hitems, ?_, hfixed,
    fun hfixedFirst => List.map_eq_nil_iff.mp (hfree hfixedFirst), hrest⟩
  rw [measurementBlock_eq_measurement, hblock]
  simp [Function.comp_def]

/-- A unidimensional model with names compiles, and measures its latent variable once. -/
lemma measuresOnce_of_isUnidimensional (hu : m.isUnidimensional = true)
    (hnames : m.names = .ok names) (comments : Bool) :
    ∃ statements, m.statements names comments = .ok statements ∧
      m.MeasuresOnce names statements := by
  obtain ⟨nameOf, hnamed⟩ : ∃ nameOf, m.IsNamed names nameOf := ⟨_, isNamed_of_names_eq_ok hnames⟩
  have hstatements := statements_eq_ok_of_isUnidimensional hnamed hu comments
  have hformative := filter_statements_of_isUnidimensional hnamed hu hstatements
    fun s => Statement.isMeaningful_of_isFormative (s := s)
  have hreflective := filter_statements_of_isUnidimensional hnamed hu hstatements
    fun s => Statement.isMeaningful_of_isReflective (s := s)
  refine ⟨_, hstatements, ?_, fun hempty => ?_, fun hne => ?_⟩
  · rw [filter_isFormative_measurementBlock] at hformative
    intro s hs
    simpa using List.filter_eq_nil_iff.mp hformative s hs
  · rw [hreflective, namedItems, hempty]
    rfl
  · obtain ⟨before, first, after, fixedFirst, rest, hitems, hblock, hfixed, hfree, hrest⟩ :=
      exists_unidimBlock_eq names nameOf hne
    refine ⟨before, first, after,
      (first :: (before ++ after)).map fun item => nameOf (.item item.id), fixedFirst, hitems,
      hfixed, hfree, ?_, ?_⟩
    · rw [List.map_map]
      refine List.map_congr_left fun item hitem => ?_
      have hactive : item ∈ m.activeItems .unidim := by
        rw [hitems]
        simp only [List.mem_cons, List.mem_append] at hitem ⊢
        tauto
      exact hnamed.2 _ (.item (IsNamed.mem_items_of_mem_activeItems hactive))
    · -- Behind the measurement there is at most a fixed variance.
      have hnone : ∀ s ∈ rest, ¬ s.isReflective = true := by
        intro s hs
        rw [hrest s hs]
        exact Bool.false_ne_true
      rw [hreflective, hblock, List.filter_cons_of_pos rfl, List.filter_eq_nil_iff.mpr hnone]

/-- The compiled text of a unidimensional model states its only block. -/
lemma read_text_of_isUnidimensional (hu : m.isUnidimensional = true) (hnames : m.names = .ok names)
    {nameOf : Symbol → String} (hnamed : m.IsNamed names nameOf) (options : ListingOptions) :
    Listing.read (m.text options) =
      measurementBlock names.overall (m.namedItems nameOf .unidim) (m.effectiveRule .unidim) := by
  obtain ⟨text, htext⟩ := exists_text?_eq_ok_of_names hnames options
  obtain ⟨-, names', statements, hnames', hstatements, hread⟩ := lines_of_text?_eq_ok htext
  obtain rfl := Except.ok.inj (hnames.symm.trans hnames')
  rw [text_of_text?_eq_ok htext, hread,
    filter_statements_of_isUnidimensional hnamed hu hstatements fun _ => id,
    filter_isMeaningful_measurementBlock]

/-! ### Agreement -/

/-- Two models agree on what a unidimensional model is about: the name and the short code of the
construct, the items with their texts, and what is stored under the key of the single latent
variable. -/
structure AgreesUnidim (m n : Model) : Prop where
  construct : n.instrument.construct.name = m.instrument.construct.name
  shortCode : n.configuration.shortCode = m.configuration.shortCode
  items : n.instrument.items.map (fun item => (item.id, item.text)) =
    m.instrument.items.map fun item => (item.id, item.text)
  scaling : n.configuration.scaling[Latent.unidimKey]? =
    m.configuration.scaling[Latent.unidimKey]?
  excluded : n.configuration.excluded[Latent.unidimKey]? =
    m.configuration.excluded[Latent.unidimKey]?

/-- What a unidimensional model shows of an item. -/
def itemContent (item : Item) : Int64 × String :=
  (item.id, item.text)

namespace AgreesUnidim

variable (h : AgreesUnidim m n)

include h

/-- The items of both models show the same in ascending order of ids. -/
lemma map_itemContent_sortedItems :
    n.instrument.sortedItems.map itemContent = m.instrument.sortedItems.map itemContent := by
  have hsorted : ∀ items : List Item, (Instrument.sortById items).map itemContent =
      (items.map itemContent).mergeSort fun c d => c.1 ≤ d.1 :=
    fun items => List.map_mergeSort fun _ _ _ _ => rfl
  rw [Instrument.sortedItems, Instrument.sortedItems, hsorted, hsorted]
  exact congrArg (List.mergeSort · _) h.items

/-- Models that agree exclude the same items from the single latent variable. -/
lemma isExcluded_eq (itemId : Int64) :
    n.isExcluded Latent.unidimKey itemId = m.isExcluded Latent.unidimKey itemId := by
  rw [isExcluded, isExcluded, h.excluded]

/-- So do the active items. -/
lemma map_itemContent_activeItems :
    (n.activeItems .unidim).map itemContent = (m.activeItems .unidim).map itemContent := by
  have hactive : ∀ k : Model, (k.activeItems .unidim).map itemContent =
      (k.instrument.sortedItems.map itemContent).filter fun c =>
        !k.isExcluded Latent.unidimKey c.1 := by
    intro k
    rw [List.filter_map]
    rfl
  rw [hactive, hactive, h.map_itemContent_sortedItems]
  simp only [h.isExcluded_eq]

/-- The rule of the single latent variable is the same. -/
lemma effectiveRule_eq : n.effectiveRule .unidim = m.effectiveRule .unidim := by
  have hcandidates : n.candidates .unidim = m.candidates .unidim := by
    have hcontent : ∀ k : Model, k.candidates .unidim =
        ((k.activeItems .unidim).map itemContent).map fun c => ⟨Text.ofInt c.1.toInt, c.2⟩ := by
      intro k
      rw [candidates_unidim, List.map_map]
      rfl
    rw [hcontent, hcontent, h.map_itemContent_activeItems]
  have hdefault : n.defaultRule .unidim = m.defaultRule .unidim := by
    simp only [defaultRule, reduceCtorEq, false_and, if_false, hcandidates]
  have hstored : n.scalingRule? .unidim = m.scalingRule? .unidim := h.scaling
  rw [effectiveRule, effectiveRule, hstored, hcandidates, hdefault]

/-! ### Names -/

/-- Models that agree ask for the same name for the construct. -/
lemma overallName_eq : n.overallName = m.overallName := by
  rw [overallName, overallName, Model.shortCode, Model.shortCode, h.shortCode, h.construct]

/-- Models that agree ask for the same names for their items. -/
lemma itemRequests_eq : n.itemRequests = m.itemRequests := by
  have hcontent : ∀ k : Model, k.itemRequests =
      (k.instrument.sortedItems.map itemContent).map fun c => (.item c.1, itemName c.1) := by
    intro k
    rw [List.map_map]
    rfl
  rw [hcontent, hcontent, h.map_itemContent_sortedItems]

variable (hm : m.names = .ok names) (hn : n.names = .ok names')

include hm hn

/-- What is named before anything that a unidimensional model does not show has the same name. -/
lemma find?_eq {symbol : Symbol}
    (hsymbol : symbol = .overall ∨ ∃ item ∈ m.instrument.items, symbol = .item item.id) :
    names'.find? symbol = names.find? symbol := by
  rw [Model.names, nameRequests_eq, List.append_assoc, List.foldlM_append] at hm hn
  rw [h.overallName_eq, h.itemRequests_eq] at hn
  obtain ⟨settled, hsettled, hm⟩ := bind_eq_ok_iff.mp hm
  obtain ⟨settled', hsettled', hn⟩ := bind_eq_ok_iff.mp hn
  obtain rfl := Except.ok.inj (hsettled.symm.trans hsettled')
  obtain ⟨hkept, hnamed⟩ := Names.find?_foldlM_add hsettled
  have hsome : ∃ name, settled.find? symbol = some name := by
    rcases hsymbol with rfl | ⟨item, hitem, rfl⟩
    · exact ⟨_, hkept .overall m.overallName (by simp [Names.find?_start])⟩
    · refine Option.isSome_iff_exists.mp (hnamed (.item item.id, itemName item.id) ?_)
      exact List.mem_map.mpr ⟨item, List.mem_mergeSort.mpr hitem, rfl⟩
  obtain ⟨name, hname⟩ := hsome
  rw [(Names.find?_foldlM_add hm).1 _ _ hname, (Names.find?_foldlM_add hn).1 _ _ hname]

/-- Models that agree give the construct the same name. -/
lemma overall_eq : names'.overall = names.overall := by
  have hoverall := h.find?_eq hm hn (.inl rfl)
  rw [(isConsistent_of_names_eq_ok hm).overall,
    (isConsistent_of_names_eq_ok hn).overall] at hoverall
  exact Option.some.inj hoverall

/-! ### Texts -/

variable (hu : m.isUnidimensional = true) (hu' : n.isUnidimensional = true)

include hu hu'

/-- Models that agree are compiled to the same statements. -/
lemma statements_eq (comments : Bool) :
    n.statements names' comments = m.statements names comments := by
  have htitle : n.titleSections = m.titleSections := by
    simp only [titleSections, h.construct]
  have hids : ∀ k : Model, (k.activeItems .unidim).map Item.id =
      ((k.activeItems .unidim).map itemContent).map Prod.fst := by
    intro k
    rw [List.map_map]
    rfl
  have hblock : n.unidimBlock names' = m.unidimBlock names := by
    have hitems : names'.items ((n.activeItems .unidim).map Item.id) =
        names.items ((m.activeItems .unidim).map Item.id) := by
      rw [hids n, h.map_itemContent_activeItems, ← hids m]
      refine mapM_congr_of_mem (List.forall_mem_map.mpr fun item hitem => ?_)
      have hfound := h.find?_eq hm hn
        (.inr ⟨item, IsNamed.mem_items_of_mem_activeItems hitem, rfl⟩)
      simp only [Names.get, hfound]
    rw [unidimBlock, unidimBlock, hitems, h.overall_eq hm hn, h.effectiveRule_eq]
  simp only [Model.statements, hu, hu', if_true, htitle, hblock]

/-- Models that agree explain their items in the same way. -/
lemma itemEntries_eq (width : ℕ) : n.itemEntries names' width = m.itemEntries names width := by
  have hcontent : ∀ (k : Model) (given : Names), k.isUnidimensional = true →
      k.itemEntries given width = (k.instrument.sortedItems.map itemContent).filterMap fun c =>
        (given.find? (.item c.1)).map fun name =>
          { name
            symbol := .item c.1
            kind := "item " ++ Text.ofInt c.1.toInt
            excluded := k.isExcluded Latent.unidimKey c.1
            text := some (Legend.clip width c.2) } := by
    intro k given hk
    have howner : k.ownerKey = fun _ => Latent.unidimKey := by
      funext item
      rw [ownerKey, if_pos hk]
    rw [List.filterMap_map, itemEntries, howner]
    rfl
  rw [hcontent n names' hu', hcontent m names hu, h.map_itemContent_sortedItems]
  refine List.filterMap_congr (List.forall_mem_map.mpr fun item hitem => ?_)
  have hfound := h.find?_eq hm hn (.inr ⟨item, List.mem_mergeSort.mp hitem, rfl⟩)
  simp only [itemContent, hfound, h.isExcluded_eq]

/-- Models that agree have the same legend. -/
lemma legendLines_eq (width : ℕ) : n.legendLines names' width = m.legendLines names width := by
  simp only [legendLines, legendEntries, hu, hu', if_true, h.itemEntries_eq hm hn hu hu',
    overallEntry, h.construct, h.overall_eq hm hn]

/-- The compiled texts are the same. -/
lemma text?_eq (options : ListingOptions) : n.text? options = m.text? options := by
  simp only [text?, hm, hn, bind, Except.bind, h.statements_eq hm hn hu hu',
    h.legendLines_eq hm hn hu hu']

end AgreesUnidim

/-- Unidimensional models on which names are assigned measure their construct once, in the items
that are not excluded, and nothing but what belongs to this measurement can be seen in their text:
two such models have the same text under all options when they agree on the name and the short code
of the construct, on the items with their texts, and on the rule and the exclusions under the key of
the single latent variable. -/
theorem measuresOnce_and_text?_eq (hu : m.isUnidimensional = true) (hnames : m.names = .ok names) :
    ((m.activeItems .unidim).Pairwise fun a b => a.id ≤ b.id) ∧
      (m.activeItems .unidim).Perm
        (m.instrument.items.filter fun item => !m.isExcluded Latent.unidimKey item.id) ∧
      (∀ comments, ∃ statements, m.statements names comments = .ok statements ∧
        m.MeasuresOnce names statements) ∧
      ∀ n names', n.isUnidimensional = true → n.names = .ok names' → AgreesUnidim m n →
        ∀ options, ∃ text, m.text? options = .ok text ∧ n.text? options = .ok text := by
  refine ⟨m.pairwise_activeItems _, m.activeItems_unidim_perm,
    measuresOnce_of_isUnidimensional hu hnames, fun n names' hu' hnames' hagrees options => ?_⟩
  obtain ⟨text, htext⟩ := exists_text?_eq_ok_of_names hnames options
  exact ⟨text, htext, (hagrees.text?_eq hnames hnames' hu hu' options).trans htext⟩

/-- A model without facets, in which the second item is the reference and the third is excluded. -/
def plain : Model where
  instrument :=
    { construct := { name := "Joy at work" }
      items := [{ id := 3, text := "I like Mondays" }, { id := 2, text := "Work is fun" },
        { id := 1, text := "I enjoy my work" }] }
  configuration :=
    { scaling := (∅ : Table ScalingRule).insert Latent.unidimKey (.fixingLoadingOf "2")
      excluded := (∅ : Table ItemSet).insert Latent.unidimKey ((∅ : ItemSet).insert 3) }

/-- The same model with much that it does not show: a formative facet that wants the name of an
item, its global items, exclusions from it, and a formative higher-order construct. -/
def laden : Model where
  instrument :=
    { construct := { name := "Joy at work" }
      dimensionality := some Instrument.unidimensional
      facets := [{ id := "f", name := "i1" }]
      items := [{ id := 3, text := "I like Mondays" },
        { id := 2, text := "Work is fun", facetId := some "f" },
        { id := 1, text := "I enjoy my work", facetId := some "f" }] }
  configuration :=
    { plain.configuration with
      modes := (∅ : Table Mode).insert "f" .formative
      excluded := plain.configuration.excluded.insert "f" ((∅ : ItemSet).insert 1)
      globals := (∅ : Table (List GlobalItem)).insert "f" [⟨"i2", "Overall"⟩, ⟨"g_2", "In general"⟩]
      secondOrder := { mode := some .formative, globals := some [⟨"g_1", "All in all"⟩] } }

lemma length_nameRequests_plain : plain.nameRequests.length = 3 := by
  simp [nameRequests, Instrument.sortedItems, Instrument.sortById, plain, globalOwners, globals,
    globals?]

lemma length_nameRequests_laden : laden.nameRequests.length = 7 := by
  simp [nameRequests, Instrument.sortedItems, Instrument.sortById, laden, plain, globalOwners,
    globals, globals?]

/-- Both models have the same text. -/
theorem measuresOnce_and_text?_eq_laden :
    ∃ names, plain.names = .ok names ∧
      (∀ comments, ∃ statements, plain.statements names comments = .ok statements ∧
        plain.MeasuresOnce names statements) ∧
      ∀ options, ∃ text, plain.text? options = .ok text ∧ laden.text? options = .ok text := by
  obtain ⟨names, hnames⟩ := exists_names_eq_ok_of_length length_nameRequests_plain (by omega)
  obtain ⟨names', hnames'⟩ := exists_names_eq_ok_of_length length_nameRequests_laden (by omega)
  obtain ⟨-, -, hstatements, htext⟩ := measuresOnce_and_text?_eq (m := plain) rfl hnames
  refine ⟨names, hnames, hstatements, fun options => htext laden names' rfl hnames' ?_ options⟩
  exact ⟨rfl, rfl, rfl, rfl, by simp [laden, Std.ExtTreeMap.getElem?_insert, Latent.unidimKey]⟩

end Model

end Psychometrics
