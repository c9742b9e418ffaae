import Mathlib
import Psychometrics.Proofs.Naming.Exhaustion
import Psychometrics.Proofs.Statement.Occurrence

/-!
# Compiling under the names of another model

Names may stem from another model than the one that is compiled, say from an earlier state of it.
Compiling then fails exactly when it needs the name of a symbol that the other model does not have,
and the failure mentions such a symbol (`Model.statements_eq_ok_iff_of_names_eq_ok`).

Not every symbol that is needed occurs in the compiled text: a facet with a mode has its name looked
up before it turns out that a reflective facet without active items is left out (`Model.Needs`).

Looking up is described once for all (`RefersTo`): a computation that refers to symbols succeeds if
all of them are known, and otherwise fails on account of one that is not.  Steps in a row refer to
what each of them refers to, whichever comes first.
-/

namespace Psychometrics

/-! ### Computations that refer to symbols -/

/-- A computation that looks up the names of some symbols: it succeeds when all of them are known,
and otherwise says that one of them which is not known has no name. -/
inductive RefersTo {α : Type} (known needed : Symbol → Prop) : Except CompileError α → Prop
  | found (a : α) (h : ∀ s, needed s → known s) : RefersTo known needed (.ok a)
  | missing (s : Symbol) (hneeded : needed s) (hunknown : ¬ known s) :
      RefersTo known needed (.error (.unnamed s))

namespace RefersTo

variable {α β : Type} {known needed needed' : Symbol → Prop} {x : Except CompileError α}

/-- The symbols that are needed can be described differently. -/
lemma congr (h : RefersTo known needed x) (hneeded : ∀ s, needed s ↔ needed' s) :
    RefersTo known needed' x := by
  obtain rfl : needed = needed' := funext fun s => propext (hneeded s)
  exact h

/-- A result at hand needs no symbol. -/
lemma ok (a : α) : RefersTo known (fun _ => False) (.ok a) :=
  .found a fun _ => False.elim

/-- Two steps in a row refer to what either of them refers to. -/
lemma bind (hx : RefersTo known needed x) {f : α → Except CompileError β}
    (hf : ∀ a, x = .ok a → RefersTo known needed' (f a)) :
    RefersTo known (fun s => needed s ∨ needed' s) (x >>= f) := by
  cases hx with
  | missing s hs hunknown => exact .missing s (.inl hs) hunknown
  | found a h =>
    have hnext : RefersTo known needed' (f a) := hf a rfl
    change RefersTo _ _ (f a)
    generalize f a = y at hnext ⊢
    cases hnext with
    | found b h' => exact .found b fun s hs => hs.elim (h s) (h' s)
    | missing s hs hunknown => exact .missing s (.inr hs) hunknown

/-- What is made of a result without failure needs no further symbol. -/
lemma andThen (hx : RefersTo known needed x) {f : α → Except CompileError β}
    (hf : ∀ a, ∃ b, f a = .ok b) : RefersTo known needed (x >>= f) := by
  refine (hx.bind fun a _ => ?_).congr fun _ => or_iff_left id
  obtain ⟨b, hb⟩ := hf a
  exact hb ▸ ok b

/-- What comes on a condition is needed only under the condition. -/
lemma ite_ok {c : Prop} [Decidable c] (a : α) (h : RefersTo known needed x) :
    RefersTo known (fun s => ¬ c ∧ needed s) (if c then .ok a else x) := by
  split
  · next hc => exact (ok a).congr fun s => by simp [hc]
  · next hc => exact h.congr fun s => by simp [hc]

/-- A traversal refers to what its steps refer to. -/
lemma mapM {f : α → Except CompileError β} {needs : α → Symbol → Prop} {xs : List α}
    (h : ∀ x ∈ xs, RefersTo known (needs x) (f x)) :
    RefersTo known (fun s => ∃ x ∈ xs, needs x s) (xs.mapM f) := by
  induction xs with
  | nil => exact (ok []).congr fun s => by simp
  | cons x xs ih =>
    obtain ⟨hx, hxs⟩ := List.forall_mem_cons.mp h
    rw [List.mapM_cons]
    refine (hx.bind fun y _ => (ih hxs).andThen fun ys => ⟨y :: ys, rfl⟩).congr fun s => ?_
    rw [List.exists_mem_cons_iff]

/-- A computation that refers to symbols succeeds exactly when all of them are known. -/
lemma exists_eq_ok_iff (h : RefersTo known needed x) :
    (∃ a, x = .ok a) ↔ ∀ s, needed s → known s := by
  cases h with
  | found a h => exact ⟨fun _ => h, fun _ => ⟨a, rfl⟩⟩
  | missing s hs hunknown =>
    constructor
    · rintro ⟨a, ha⟩
      cases ha
    · exact fun hall => absurd (hall s hs) hunknown

/-- When a symbol that is needed is not known, the failure mentions one. -/
lemma exists_eq_error (h : RefersTo known needed x) (hnot : ¬ ∀ s, needed s → known s) :
    ∃ s, needed s ∧ ¬ known s ∧ x = .error (.unnamed s) := by
  cases h with
  | found a h => exact absurd h hnot
  | missing s hs hunknown => exact ⟨s, hs, hunknown, rfl⟩

end RefersTo

namespace Model

variable {m n : Model} {names : Names} {facet : Facet} {mode : Mode}

/-! ### Looking up the symbols of a model -/

/-- Looking up a symbol refers to that symbol. -/
lemma refersTo_get (hnames : n.names = .ok names) (symbol : Symbol) :
    RefersTo n.HasSymbol (· = symbol) (names.get symbol) := by
  have hknown : (names.find? symbol).isSome = true ↔ n.HasSymbol symbol := isSome_find?_iff hnames
  unfold Names.get
  cases hfind : names.find? symbol with
  | some name =>
    rw [hfind, Option.isSome_some] at hknown
    exact .found name fun s hs => hs ▸ hknown.mp rfl
  | none =>
    rw [hfind, Option.isSome_none] at hknown
    exact .missing symbol rfl fun h => Bool.false_ne_true (hknown.mpr h)

/-- Looking up a list of indicators refers to their symbols. -/
lemma refersTo_mapM_get (hnames : n.names = .ok names) {α : Type} (id : α → String)
    (symbol : α → Symbol) (xs : List α) :
    RefersTo n.HasSymbol (fun s => ∃ x ∈ xs, s = symbol x)
      (xs.mapM fun x => do return (⟨id x, ← names.get (symbol x)⟩ : NamedIndicator)) :=
  .mapM fun x _ => (refersTo_get hnames (symbol x)).andThen fun name => ⟨⟨id x, name⟩, rfl⟩

/-- Looking up items refers to the symbols of these items. -/
lemma refersTo_items (hnames : n.names = .ok names) (ids : List Int64) :
    RefersTo n.HasSymbol (fun s => ∃ id ∈ ids, s = .item id) (names.items ids) :=
  refersTo_mapM_get hnames _ _ ids

/-- Looking up global items refers to their symbols under the key of their owner. -/
lemma refersTo_globals (hnames : n.names = .ok names) (latent : Latent) (ids : List String) :
    RefersTo n.HasSymbol (fun s => ∃ id ∈ ids, s = .global latent.key id)
      (names.globals latent ids) :=
  refersTo_mapM_get hnames _ _ ids

/-- Looking up facets refers to the symbols of these facets. -/
lemma refersTo_facets (hnames : n.names = .ok names) (facets : List Facet) :
    RefersTo n.HasSymbol (fun s => ∃ facet ∈ facets, s = .facet facet.id) (names.facets facets) :=
  refersTo_mapM_get hnames _ _ facets

/-! ### What compiling looks up -/

/-- The symbols that compiling a model looks up.  A unidimensional model looks up its active items.
A model with facets looks up each facet with a mode, the active items of such a facet, and its
present global items if it is formative, and for a formative higher-order construct above compiled
facets the present global items of that construct. -/
inductive Needs (m : Model) : Symbol → Prop
  | unidimItem {item : Item} (huni : m.isUnidimensional = true)
      (h : item ∈ m.activeItems .unidim) : m.Needs (.item item.id)
  | facet {facet : Facet} (hmulti : m.isUnidimensional = false)
      (hfacet : facet ∈ m.instrument.facets) (hmode : (m.facetMode? facet.id).isSome = true) :
      m.Needs (.facet facet.id)
  | item {facet : Facet} {item : Item} (hmulti : m.isUnidimensional = false)
      (hfacet : facet ∈ m.instrument.facets) (hmode : (m.facetMode? facet.id).isSome = true)
      (h : item ∈ m.activeItems (.facet facet.id)) : m.Needs (.item item.id)
  | facetGlobal {facet : Facet} {item : GlobalItem} (hmulti : m.isUnidimensional = false)
      (hfacet : facet ∈ m.instrument.facets) (hmode : m.facetMode? facet.id = some .formative)
      (h : item ∈ m.presentGlobals (.facet facet.id)) : m.Needs (.global facet.id item.id)
  | secondOrderGlobal {item : GlobalItem} (hmulti : m.isUnidimensional = false)
      (hmode : m.configuration.secondOrder.mode = some .formative) (hne : m.emittedFacets ≠ [])
      (h : item ∈ m.presentGlobals .secondOrder) :
      m.Needs (.global Latent.secondOrderKey item.id)

/-- The symbols that the section of a facet looks up: the facet, its active items, and if it is
formative the global items that carry its key. -/
def FacetSectionNeeds (m : Model) (facet : Facet) (s : Symbol) : Prop :=
  s = .facet facet.id ∨ (∃ item ∈ m.activeItems (.facet facet.id), s = .item item.id) ∨
    m.facetMode? facet.id = some .formative ∧
      ∃ item ∈ m.keyedGlobals facet, s = .global facet.id item.id

/-- The section of a facet looks up what it needs. -/
lemma refersTo_facetSection (hnames : n.names = .ok names) (hfacet : facet ∈ m.instrument.facets)
    (hmode : m.facetMode? facet.id = some mode) :
    RefersTo n.HasSymbol (m.FacetSectionNeeds facet)
      (m.facetSection names m.indicators facet mode) := by
  unfold facetSection
  cases mode with
  | reflective =>
    refine ((refersTo_get hnames (.facet facet.id)).bind fun name _ =>
      (refersTo_items hnames _).andThen fun items => ?_).congr fun s => ?_
    · split
      · exact ⟨[], rfl⟩
      · exact ⟨_, rfl⟩
    · simp only [FacetSectionNeeds, hmode, mem_filterMap_itemId?_iff hfacet,
        filterMap_itemId?_facetIndicators_of_reflective hmode, List.mem_map,
        exists_exists_and_eq_and, Option.some.injEq, reduceCtorEq, false_and, or_false]
  | formative =>
    refine ((refersTo_get hnames (.facet facet.id)).bind fun name _ =>
      (refersTo_items hnames _).bind fun items _ =>
        (refersTo_globals hnames (.facet facet.id) _).andThen fun globals => ?_).congr fun s => ?_
    · exact ⟨_, rfl⟩
    · simp only [FacetSectionNeeds, hmode, mem_filterMap_itemId?_iff hfacet,
        filterMap_itemId?_facetIndicators_of_formative hmode,
        mem_map_text_iff_mem_keyedGlobals hfacet hmode, List.mem_map, exists_exists_and_eq_and,
        Latent.key, true_and]

/-- The sections of the facets look up what the facets with a mode need. -/
lemma refersTo_facetSections (hnames : n.names = .ok names) :
    RefersTo n.HasSymbol (fun s => ∃ facet ∈ m.instrument.facets,
        (m.facetMode? facet.id).isSome = true ∧ m.FacetSectionNeeds facet s)
      (m.facetSections names m.indicators) := by
  unfold facetSections
  refine RefersTo.andThen (.mapM fun facet hfacet => ?_) fun parts => ⟨_, rfl⟩
  cases hmode : m.facetMode? facet.id with
  | none => exact (RefersTo.ok []).congr fun s => by simp
  | some mode => exact (refersTo_facetSection hnames hfacet hmode).congr fun s => by simp

/-- The symbols that the section of the higher-order construct looks up: the compiled facets, and if
the construct is formative and there are any, its present global items. -/
def SecondOrderSectionNeeds (m : Model) (s : Symbol) : Prop :=
  (m.configuration.secondOrder.mode.isSome = true ∧
    ∃ facet ∈ m.emittedFacets, s = .facet facet.id) ∨
  m.configuration.secondOrder.mode = some .formative ∧ m.emittedFacets ≠ [] ∧
    ∃ item ∈ m.presentGlobals .secondOrder, s = .global Latent.secondOrderKey item.id

/-- The section of the higher-order construct looks up what it needs. -/
lemma refersTo_secondOrderSection (hnames : n.names = .ok names) :
    RefersTo n.HasSymbol m.SecondOrderSectionNeeds (m.secondOrderSection names m.indicators) := by
  unfold secondOrderSection SecondOrderSectionNeeds
  cases hmode : m.configuration.secondOrder.mode with
  | none => exact (RefersTo.ok []).congr fun s => by simp
  | some mode =>
    cases mode with
    | reflective =>
      refine ((refersTo_facets hnames m.emittedFacets).andThen fun facets => ?_).congr fun s => ?_
      · dsimp only
        split
        · exact ⟨[], rfl⟩
        · exact ⟨_, rfl⟩
      · simp
    | formative =>
      -- The global items are only looked up behind some facet.
      suffices h : ∀ facets, names.facets m.emittedFacets = .ok facets →
          RefersTo n.HasSymbol (fun s => m.emittedFacets ≠ [] ∧ ∃ item ∈
            m.presentGlobals .secondOrder, s = .global Latent.secondOrderKey item.id) _ from
        ((refersTo_facets hnames m.emittedFacets).bind h).congr fun s => by simp
      intro facets hfacets
      have hempty : facets = [] ↔ m.emittedFacets = [] := eq_nil_iff_of_mapM_eq_ok hfacets
      refine (RefersTo.ite_ok [] ((refersTo_globals hnames .secondOrder _).andThen
        fun globals => ⟨_, rfl⟩)).congr fun s => ?_
      simp only [map_text_filter_indicators hmode, List.isEmpty_iff, hempty, List.mem_map,
        exists_exists_and_eq_and, Latent.key]

/-- The block of a unidimensional model looks up its active items. -/
lemma refersTo_unidimBlock (hnames : n.names = .ok names) :
    RefersTo n.HasSymbol (fun s => ∃ item ∈ m.activeItems .unidim, s = .item item.id)
      (m.unidimBlock names) := by
  unfold unidimBlock
  refine ((refersTo_items hnames _).andThen fun items => ⟨_, rfl⟩).congr fun s => ?_
  simp only [List.mem_map, exists_exists_and_eq_and]

/-! ### What compiling needs -/

/-- What the section of a facet with a mode looks up is needed. -/
lemma FacetSectionNeeds.needs {s : Symbol} (h : m.FacetSectionNeeds facet s)
    (hmulti : m.isUnidimensional = false) (hfacet : facet ∈ m.instrument.facets)
    (hmode : (m.facetMode? facet.id).isSome = true) : m.Needs s := by
  rcases h with rfl | ⟨item, hitem, rfl⟩ | ⟨hformative, item, hitem, rfl⟩
  · exact .facet hmulti hfacet hmode
  · exact .item hmulti hfacet hmode hitem
  · rcases List.mem_append.mp hitem with hitem | hitem
    · exact .facetGlobal hmulti hfacet hformative hitem
    · -- The facet bears the key of the higher-order construct, and is itself compiled.
      split at hitem
      · next hkey =>
        have hemitted : facet ∈ m.emittedFacets :=
          List.mem_filter.mpr ⟨hfacet, by simp [isEmitted, hformative]⟩
        exact hkey.1 ▸ .secondOrderGlobal hmulti hkey.2 (List.ne_nil_of_mem hemitted) hitem
      · cases hitem

/-- A unidimensional model needs its active items. -/
lemma needs_iff_of_isUnidimensional (huni : m.isUnidimensional = true) {s : Symbol} :
    m.Needs s ↔ ∃ item ∈ m.activeItems .unidim, s = .item item.id := by
  constructor
  · intro h
    cases h with
    | unidimItem _ hitem => exact ⟨_, hitem, rfl⟩
    | facet hmulti => cases huni.symm.trans hmulti
    | item hmulti => cases huni.symm.trans hmulti
    | facetGlobal hmulti => cases huni.symm.trans hmulti
    | secondOrderGlobal hmulti => cases huni.symm.trans hmulti
  · rintro ⟨item, hitem, rfl⟩
    exact .unidimItem huni hitem

/-- A model with facets needs what the sections of its facets and that of its higher-order construct
look up. -/
lemma needs_iff_of_facets (hmulti : m.isUnidimensional = false) {s : Symbol} :
    m.Needs s ↔
      (∃ facet ∈ m.instrument.facets,
        (m.facetMode? facet.id).isSome = true ∧ m.FacetSectionNeeds facet s) ∨
      m.SecondOrderSectionNeeds s := by
  constructor
  · intro h
    cases h with
    | unidimItem huni => cases huni.symm.trans hmulti
    | facet _ hfacet hmode => exact .inl ⟨_, hfacet, hmode, .inl rfl⟩
    | item _ hfacet hmode hitem => exact .inl ⟨_, hfacet, hmode, .inr (.inl ⟨_, hitem, rfl⟩)⟩
    | facetGlobal _ hfacet hmode hitem =>
      refine .inl ⟨_, hfacet, by rw [hmode, Option.isSome_some], ?_⟩
      exact .inr (.inr ⟨hmode, _, List.mem_append_left _ hitem, rfl⟩)
    | secondOrderGlobal _ hmode hne hitem => exact .inr (.inr ⟨hmode, hne, _, hitem, rfl⟩)
  · rintro (⟨facet, hfacet, hmode, hneeds⟩ | ⟨-, facet, hfacet, rfl⟩ |
      ⟨hmode, hne, item, hitem, rfl⟩)
    · exact hneeds.needs hmulti hfacet hmode
    · obtain ⟨hfacet, hemitted⟩ := List.mem_filter.mp hfacet
      exact .facet hmulti hfacet
        (Option.isSome_iff_exists.mpr (exists_facetMode?_of_isEmitted hemitted))
    · exact .secondOrderGlobal hmulti hmode hne hitem

/-- Compiling looks up what the model needs. -/
lemma refersTo_statements (hnames : n.names = .ok names) (comments : Bool) :
    RefersTo n.HasSymbol m.Needs (m.statements names comments) := by
  unfold statements
  cases hu : m.isUnidimensional with
  | true =>
    exact ((refersTo_unidimBlock hnames).andThen fun block => ⟨_, rfl⟩).congr fun s =>
      (needs_iff_of_isUnidimensional hu).symm
  | false =>
    exact ((refersTo_facetSections hnames).bind fun sections _ =>
      (refersTo_secondOrderSection hnames).andThen fun part => ⟨_, rfl⟩).congr fun s =>
        (needs_iff_of_facets hu).symm

/-- Under the names of any model, a model is compiled exactly when the other model has all symbols
that compiling needs.  Otherwise the failure mentions a symbol that is needed and that the other
model does not have. -/
theorem statements_eq_ok_iff_of_names_eq_ok (hnames : n.names = .ok names) (comments : Bool) :
    ((∃ statements, m.statements names comments = .ok statements) ↔
        ∀ s, m.Needs s → n.HasSymbol s) ∧
      ((¬ ∀ s, m.Needs s → n.HasSymbol s) →
        ∃ s, m.Needs s ∧ ¬ n.HasSymbol s ∧ m.statements names comments = .error (.unnamed s)) :=
  have h := refersTo_statements (m := m) hnames comments
  ⟨h.exists_eq_ok_iff, h.exists_eq_error⟩

/-- A formative facet that has no global items yet. -/
def unanchored : Model where
  instrument := { facets := [{ id := "a" }] }
  configuration := { modes := (∅ : Table Mode).insert "a" .formative }

/-- The facet has got a global item. -/
def anchored : Model :=
  unanchored.setGlobals (.facet "a") [⟨"g", "Overall"⟩]

/-- Under the names from before, the new global item is missed. -/
theorem statements_anchored_eq_error :
    ∃ names, unanchored.names = .ok names ∧
      ∀ comments, anchored.statements names comments = .error (.unnamed (.global "a" "g")) := by
  have hlength : unanchored.nameRequests.length = 1 := by
    simp [nameRequests, Instrument.sortedItems, Instrument.sortById, unanchored, globalOwners,
      globals, globals?]
  obtain ⟨names, hnames⟩ := exists_names_eq_ok_of_length hlength (by decide)
  refine ⟨names, hnames, fun comments => ?_⟩
  -- Before there were no global items, and now there is this one.
  have hknown : ∀ key id, ¬ unanchored.HasSymbol (.global key id) := by
    intro key id h
    generalize hs : Symbol.global key id = s at h
    cases h with
    | facetGlobal _ h => simp [unanchored, globals, globals?] at h
    | secondOrderGlobal h => cases h
    | _ => cases hs
  have hglobals : anchored.presentGlobals (.facet "a") = [⟨"g", "Overall"⟩] := by decide
  have hneeded : anchored.Needs (.global "a" "g") := by
    have hfacet : ({ id := "a" } : Facet) ∈ anchored.instrument.facets := List.mem_singleton_self _
    have hmode : anchored.facetMode? "a" = some .formative := by decide
    have hitem : (⟨"g", "Overall"⟩ : GlobalItem) ∈ anchored.presentGlobals (.facet "a") := by
      rw [hglobals, List.mem_singleton]
    exact .facetGlobal rfl hfacet hmode hitem
  obtain ⟨s, hs, hunknown, heq⟩ :=
    (statements_eq_ok_iff_of_names_eq_ok hnames comments).2 fun h => hknown _ _ (h _ hneeded)
  cases hs with
  | unidimItem huni => cases huni
  | facet _ hfacet => exact absurd (.facet hfacet) hunknown
  | item _ _ _ hitem => cases IsNamed.mem_items_of_mem_activeItems hitem
  | facetGlobal _ hfacet _ h =>
    obtain rfl := List.mem_singleton.mp hfacet
    rw [hglobals, List.mem_singleton] at h
    obtain rfl := h
    exact heq
  | secondOrderGlobal _ hmode => cases hmode

end Model

end Psychometrics
