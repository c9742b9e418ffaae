import Mathlib
import Psychometrics.Proofs.Session.Change

/-!
# What an edit leaves alone

What a user chooses is kept in many places: the mode, the rule, the exclusions and the global items
of each latent variable, and the short code.  An edit is aimed at one latent variable, but it sets
off a cascade: slots are created, rules are resolved, the rule of the higher-order construct follows
the facets, relations are rebuilt, and the model is compiled anew.

All of this stays within the few places that belong to the edit (`Edit.writes`).  One edit agrees
with the model before it off these places (`Model.agreesOff_result`), and so does a whole run off
the places of all its edits (`Session.agreesOff_run`).  In particular an edit leaves every facet
alone that it is not aimed at (`Session.isFramed_edit`).
-/

namespace Psychometrics

/-! ### Places -/

/-- Where a choice is kept: the mode or the global items of a latent variable, the rule in a slot,
the exclusions under a key, and the short code. -/
inductive Place
  | mode (latent : Latent)
  | rule (slot : Option String)
  | exclusions (key : String)
  | globals (latent : Latent)
  | shortCode
  deriving DecidableEq

/-- The slot of the latent variable that a place belongs to.  The higher-order construct has none,
and the short code belongs to no latent variable. -/
def Place.slot : Place → Option String
  | .mode latent => latent.slot
  | .rule slot => slot
  | .exclusions key => some key
  | .globals latent => latent.slot
  | .shortCode => none

/-- A slot is the key of its latent variable. -/
lemma Latent.eq_key_of_slot_eq_some {latent : Latent} {id : String} (h : latent.slot = some id) :
    id = latent.key := by
  cases latent with
  | secondOrder => cases h
  | _ => exact (Option.some.inj h).symm

/-- The places that an edit may write to. -/
def Edit.writes (m : Model) : Edit → List Place
  | .mode id _ => [.mode (.facet id), .globals (.facet id), .rule (some id), .rule none]
  | .method latent _ => [.rule latent.slot]
  | .reference latent _ => [.rule latent.slot]
  | .exclusion itemId _ =>
    match m.itemLatent? itemId with
    | none => []
    | some latent => [.exclusions latent.key, .rule latent.slot, .rule none]
  | .globalText latent _ _ => [.globals latent, .rule latent.slot]
  | .secondOrder _ => [.mode .secondOrder, .globals .secondOrder, .rule none]
  | .shortCode _ => [.shortCode]

/-- The latent variable that an edit is aimed at: for an item, the one that the item belongs to. -/
def Edit.target? (m : Model) : Edit → Option Latent
  | .mode id _ => some (.facet id)
  | .method latent _ => some latent
  | .reference latent _ => some latent
  | .exclusion itemId _ => m.itemLatent? itemId
  | .globalText latent _ _ => some latent
  | .secondOrder _ => some .secondOrder
  | .shortCode _ => none

/-- Where an edit may write to depends on the instrument. -/
lemma Edit.writes_congr {m n : Model} (h : n.instrument = m.instrument) (e : Edit) :
    e.writes n = e.writes m := by
  cases e with
  | exclusion itemId excluded =>
    have hlatent : n.itemLatent? itemId = m.itemLatent? itemId := by
      unfold Model.itemLatent? Model.isUnidimensional
      rw [h]
    simp only [writes, hlatent]
  | _ => rfl

namespace Model

/-- Two models agree off some places: whatever is kept elsewhere is the same, and so are the
instrument and what was saved last. -/
structure AgreesOff (places : List Place) (m n : Model) : Prop where
  instrument : n.instrument = m.instrument
  mode : ∀ latent, .mode latent ∉ places → n.mode? latent = m.mode? latent
  rule : ∀ latent, .rule latent.slot ∉ places → n.scalingRule? latent = m.scalingRule? latent
  excluded : ∀ key, .exclusions key ∉ places →
    n.configuration.excluded[key]? = m.configuration.excluded[key]?
  globals : ∀ latent, .globals latent ∉ places → n.globals? latent = m.globals? latent
  shortCode : .shortCode ∉ places → n.configuration.shortCode = m.configuration.shortCode
  compiled : n.configuration.compiled = m.configuration.compiled
  updatedAt : n.configuration.updatedAt = m.configuration.updatedAt

variable {places others : List Place} {m n k : Model} {latent : Latent}

namespace AgreesOff

/-- A model agrees with itself off any places. -/
lemma refl (places : List Place) (m : Model) : AgreesOff places m m :=
  ⟨rfl, fun _ _ => rfl, fun _ _ => rfl, fun _ _ => rfl, fun _ _ => rfl, fun _ => rfl, rfl, rfl⟩

/-- What two changes in a row leave alone stays as it was. -/
lemma trans (h : AgreesOff places m n) (h' : AgreesOff places n k) : AgreesOff places m k where
  instrument := h'.instrument.trans h.instrument
  mode latent hplace := (h'.mode latent hplace).trans (h.mode latent hplace)
  rule latent hplace := (h'.rule latent hplace).trans (h.rule latent hplace)
  excluded key hplace := (h'.excluded key hplace).trans (h.excluded key hplace)
  globals latent hplace := (h'.globals latent hplace).trans (h.globals latent hplace)
  shortCode hplace := (h'.shortCode hplace).trans (h.shortCode hplace)
  compiled := h'.compiled.trans h.compiled
  updatedAt := h'.updatedAt.trans h.updatedAt

/-- Models that agree off some places agree off more of them. -/
lemma mono (h : AgreesOff places m n) (hsub : places ⊆ others) : AgreesOff others m n where
  instrument := h.instrument
  mode latent hplace := h.mode latent fun hmem => hplace (hsub hmem)
  rule latent hplace := h.rule latent fun hmem => hplace (hsub hmem)
  excluded key hplace := h.excluded key fun hmem => hplace (hsub hmem)
  globals latent hplace := h.globals latent fun hmem => hplace (hsub hmem)
  shortCode hplace := h.shortCode fun hmem => hplace (hsub hmem)
  compiled := h.compiled
  updatedAt := h.updatedAt

end AgreesOff

/-! ### Elementary changes -/

/-- Storing a rule changes nothing off its slot. -/
lemma agreesOff_setScalingRule (h : .rule latent.slot ∈ places) (rule : ScalingRule) :
    AgreesOff places m (m.setScalingRule latent rule) where
  instrument := instrument_setScalingRule ..
  mode other _ := by cases latent <;> cases other <;> rfl
  rule other hplace :=
    scalingRule?_setScalingRule_of_slot_ne (fun hslot => hplace (hslot ▸ h)) rule
  excluded key _ := by cases latent <;> rfl
  globals other _ := by cases latent <;> cases other <;> rfl
  shortCode _ := by cases latent <;> rfl
  compiled := by cases latent <;> rfl
  updatedAt := by cases latent <;> rfl

/-- Storing an effective rule changes nothing off its slot. -/
lemma agreesOff_resolveScaling (latent : Latent) (h : .rule latent.slot ∈ places) :
    AgreesOff places m (m.resolveScaling latent) :=
  agreesOff_setScalingRule h _

/-- Bringing the rule of the higher-order construct up to date changes nothing but that rule. -/
lemma agreesOff_refreshSecondOrder (h : .rule none ∈ places) :
    AgreesOff places m m.refreshSecondOrder := by
  unfold refreshSecondOrder
  split
  · exact agreesOff_resolveScaling .secondOrder h
  · exact .refl places m

/-- Replacing global items changes nothing off their owner. -/
lemma agreesOff_setGlobals (h : .globals latent ∈ places) (items : List GlobalItem) :
    AgreesOff places m (m.setGlobals latent items) where
  instrument := instrument_setGlobals ..
  mode other _ := by cases latent <;> cases other <;> rfl
  rule other _ := scalingRule?_setGlobals ..
  excluded key _ := by rw [excluded_setGlobals]
  globals other hplace := m.globals?_setGlobals_of_ne items fun heq => hplace (heq ▸ h)
  shortCode _ := by cases latent <;> rfl
  compiled := by cases latent <;> rfl
  updatedAt := by cases latent <;> rfl

/-- Creating slots changes nothing off their owner. -/
lemma agreesOff_withSlots (h : .globals latent ∈ places) :
    AgreesOff places m (m.withSlots latent) := by
  rcases m.withSlots_eq latent with heq | ⟨-, heq⟩
  · rw [heq]
    exact .refl places m
  · rw [heq]
    exact agreesOff_setGlobals h _

/-- Writing a global item changes nothing off its owner. -/
lemma agreesOff_setGlobalText? {index : Nat} {text : String} (h : .globals latent ∈ places)
    (htext : m.setGlobalText? latent index text = some n) : AgreesOff places m n := by
  obtain ⟨items, item, -, -, rfl⟩ := m.setGlobalText?_eq_some_iff.mp htext
  exact agreesOff_setGlobals h _

/-- Storing the mode of a facet changes no other mode. -/
lemma agreesOff_setFacetMode {id : String} (h : .mode (.facet id) ∈ places) (mode : Mode) :
    AgreesOff places m (m.setFacetMode id (some mode)) where
  instrument := rfl
  mode other hplace := by
    cases other with
    | facet other =>
      have hne : id ≠ other := fun heq => hplace (heq ▸ h)
      simp [mode?, facetMode?, Std.ExtTreeMap.getElem?_insert, hne]
    | _ => rfl
  rule other _ := by cases other <;> rfl
  excluded _ _ := rfl
  globals other _ := by cases other <;> rfl
  shortCode _ := rfl
  compiled := rfl
  updatedAt := rfl

/-- Choosing the mode of a facet changes that mode and may create the slots of the facet. -/
lemma agreesOff_withMode {id : String} (hmode : .mode (.facet id) ∈ places)
    (hglobals : .globals (.facet id) ∈ places) (mode : Mode) :
    AgreesOff places m (m.withMode id mode) := by
  unfold withMode
  split
  · exact (agreesOff_setFacetMode hmode mode).trans (agreesOff_withSlots hglobals)
  · exact agreesOff_setFacetMode hmode mode

/-- Excluding an item, or taking it back, changes nothing off the key it is stored under. -/
lemma agreesOff_exclusions {key : String} (h : .exclusions key ∈ places) (itemId : Int64)
    (excluded : Bool) :
    AgreesOff places m (if excluded then m.exclude key itemId else m.restore key itemId) := by
  obtain ⟨ids, hids, hother⟩ := m.exists_exclusions_eq key itemId excluded
  rw [hids]
  exact
    { instrument := rfl
      mode := fun other _ => by cases other <;> rfl
      rule := fun other _ => by cases other <;> rfl
      excluded := fun other hplace => hother other fun heq => hplace (heq ▸ h)
      globals := fun other _ => by cases other <;> rfl
      shortCode := fun _ => rfl
      compiled := rfl
      updatedAt := rfl }

/-- The settings of the higher-order construct are its mode, its rule and its global items. -/
lemma agreesOff_secondOrder (hmode : .mode .secondOrder ∈ places)
    (hglobals : .globals .secondOrder ∈ places) (hrule : .rule none ∈ places)
    (settings : SecondOrder) :
    AgreesOff places m { m with configuration.secondOrder := settings } where
  instrument := rfl
  mode other hplace := by
    cases other with
    | secondOrder => exact absurd hmode hplace
    | _ => rfl
  rule other hplace := by
    cases other with
    | secondOrder => exact absurd hrule hplace
    | _ => rfl
  excluded _ _ := rfl
  globals other hplace := by
    cases other with
    | secondOrder => exact absurd hglobals hplace
    | _ => rfl
  shortCode _ := rfl
  compiled := rfl
  updatedAt := rfl

/-- Choosing a short code changes nothing else. -/
lemma agreesOff_shortCode (h : .shortCode ∈ places) (code : Option String) :
    AgreesOff places m { m with configuration.shortCode := code } where
  instrument := rfl
  mode other _ := by cases other <;> rfl
  rule other _ := by cases other <;> rfl
  excluded _ _ := rfl
  globals other _ := by cases other <;> rfl
  shortCode hplace := absurd h hplace
  compiled := rfl
  updatedAt := rfl

/-! ### Edits -/

/-- Choosing a mode writes where it may: a refusal writes nothing. -/
lemma agreesOff_mode (m : Model) (id : String) (mode : Mode) :
    AgreesOff ((Edit.mode id mode).writes m) m ((Edit.mode id mode).result m) := by
  by_cases hknown : (m.instrument.facet? id).isSome = true
  · rw [result_mode m id mode hknown]
    have hchosen : AgreesOff ((Edit.mode id mode).writes m) m (m.withMode id mode) :=
      agreesOff_withMode (by simp [Edit.writes]) (by simp [Edit.writes]) mode
    have hresolved := hchosen.trans
      (agreesOff_resolveScaling (.facet id) (by simp [Edit.writes, Latent.slot, Latent.key]))
    exact hresolved.trans (agreesOff_refreshSecondOrder (by simp [Edit.writes]))
  · rw [result_mode_of_unknown m id mode hknown]
    exact .refl _ m

/-- Choosing a method writes where it may: a refusal writes nothing. -/
lemma agreesOff_method (m : Model) (latent : Latent) (method : ScalingMethod) :
    AgreesOff ((Edit.method latent method).writes m) m ((Edit.method latent method).result m) := by
  have hstored : ∀ rule, AgreesOff ((Edit.method latent method).writes m) m
      (m.setScalingRule latent rule) :=
    agreesOff_setScalingRule (by simp [Edit.writes])
  simp only [Edit.result, Edit.apply, chooseMethod]
  cases m.checkActive latent with
  | error e => exact .refl _ m
  | ok =>
    cases method with
    | fixVariance => exact hstored _
    | fixLoading =>
      by_cases hfew : (m.candidates latent).length < minCandidates
      · simp only [if_pos hfew]
        exact .refl _ m
      · simp only [if_neg hfew]
        exact hstored _

/-- Choosing a reference writes where it may: a refusal writes nothing. -/
lemma agreesOff_reference (m : Model) (latent : Latent) (reference : String) :
    AgreesOff ((Edit.reference latent reference).writes m) m
      ((Edit.reference latent reference).result m) := by
  by_cases h : latent ∈ m.scaledLatents ∧
      ScalingRule.isCandidate (m.candidates latent) reference = true
  · rw [result_reference h.1 h.2]
    exact agreesOff_setScalingRule (by simp [Edit.writes]) _
  · rw [result_reference_of_refused h]
    exact .refl _ m

/-- An exclusion writes where it may: its item tells for which latent variable. -/
lemma agreesOff_exclusion (m : Model) (itemId : Int64) (excluded : Bool) :
    AgreesOff ((Edit.exclusion itemId excluded).writes m) m
      ((Edit.exclusion itemId excluded).result m) := by
  simp only [Edit.result, Edit.apply, chooseExclusion, Edit.writes]
  cases m.itemLatent? itemId with
  | none => exact .refl _ m
  | some latent =>
    have hchosen : AgreesOff [.exclusions latent.key, .rule latent.slot, .rule none] m
        (if excluded then m.exclude latent.key itemId else m.restore latent.key itemId) :=
      agreesOff_exclusions List.mem_cons_self itemId excluded
    dsimp only
    generalize (if excluded then m.exclude latent.key itemId else m.restore latent.key itemId) = n
      at hchosen ⊢
    refine AgreesOff.trans ?_ (agreesOff_refreshSecondOrder (by simp))
    split
    · exact hchosen.trans (agreesOff_resolveScaling latent (by simp))
    · exact hchosen

/-- Writing a global item writes where it may, also when it is refused after slots were created. -/
lemma agreesOff_globalText (m : Model) (latent : Latent) (index : Nat) (text : String) :
    AgreesOff ((Edit.globalText latent index text).writes m) m
      ((Edit.globalText latent index text).result m) := by
  have hslots : AgreesOff ((Edit.globalText latent index text).writes m) m (m.withSlots latent) :=
    agreesOff_withSlots (by simp [Edit.writes])
  simp only [Edit.result, Edit.apply, writeGlobal]
  cases m.checkActive latent with
  | error e => exact .refl _ m
  | ok =>
    dsimp only
    split
    · exact .refl _ m
    · cases htext : (m.withSlots latent).setGlobalText? latent index text with
      | none => exact hslots
      | some n =>
        have hwritten := hslots.trans (agreesOff_setGlobalText? (by simp [Edit.writes]) htext)
        exact hwritten.trans (agreesOff_resolveScaling latent (by simp [Edit.writes]))

/-- Choosing the mode of the higher-order construct writes where it may. -/
lemma agreesOff_chosenSecondOrder (m : Model) (mode : Option Mode) :
    AgreesOff ((Edit.secondOrder mode).writes m) m ((Edit.secondOrder mode).result m) := by
  have hset : ∀ settings, AgreesOff ((Edit.secondOrder mode).writes m) m
      { m with configuration.secondOrder := settings } :=
    agreesOff_secondOrder (by simp [Edit.writes]) (by simp [Edit.writes]) (by simp [Edit.writes])
  cases mode with
  | none => exact hset _
  | some mode =>
    have hchosen : AgreesOff ((Edit.secondOrder (some mode)).writes m) m
        (m.withSecondOrder mode) := by
      unfold withSecondOrder
      split
      · exact (hset _).trans (agreesOff_withSlots (by simp [Edit.writes]))
      · exact hset _
    exact hchosen.trans
      (agreesOff_resolveScaling .secondOrder (by simp [Edit.writes, Latent.slot]))

/-- An edit, carried out or refused, changes nothing off the places it may write to. -/
theorem agreesOff_result (m : Model) (e : Edit) : AgreesOff (e.writes m) m (e.result m) := by
  cases e with
  | mode id mode => exact m.agreesOff_mode id mode
  | method latent method => exact m.agreesOff_method latent method
  | reference latent reference => exact m.agreesOff_reference latent reference
  | exclusion itemId excluded => exact m.agreesOff_exclusion itemId excluded
  | globalText latent index text => exact m.agreesOff_globalText latent index text
  | secondOrder mode => exact m.agreesOff_chosenSecondOrder mode
  | shortCode code => exact agreesOff_shortCode (List.mem_singleton_self _) _

/-! ### Other facets -/

/-- The choices that are kept for a facet with some id are the same. -/
structure AgreesAt (m n : Model) (id : String) : Prop where
  mode : n.facetMode? id = m.facetMode? id
  rule : n.scalingRule? (.facet id) = m.scalingRule? (.facet id)
  excluded : n.configuration.excluded[id]? = m.configuration.excluded[id]?
  globals : n.globals? (.facet id) = m.globals? (.facet id)

/-- Places that belong to no facet with an id leave what is kept for that id alone. -/
lemma AgreesOff.agreesAt {id : String} (h : AgreesOff places m n)
    (hplaces : ∀ place ∈ places, place.slot ≠ some id) : AgreesAt m n id where
  mode := h.mode (.facet id) fun hmem => hplaces _ hmem rfl
  rule := h.rule (.facet id) fun hmem => hplaces _ hmem rfl
  excluded := h.excluded id fun hmem => hplaces _ hmem rfl
  globals := h.globals (.facet id) fun hmem => hplaces _ hmem rfl

/-- What an edit writes for some facet it writes for the latent variable that it is aimed at. -/
lemma exists_target?_of_mem_writes {e : Edit} {place : Place} (h : place ∈ e.writes m) {id : String}
    (hslot : place.slot = some id) : ∃ latent, e.target? m = some latent ∧ id = latent.key := by
  cases e with
  | mode other mode =>
    refine ⟨.facet other, rfl, ?_⟩
    simp only [Edit.writes, List.mem_cons, List.not_mem_nil, or_false] at h
    rcases h with rfl | rfl | rfl | rfl
    · exact (Option.some.inj hslot).symm
    · exact (Option.some.inj hslot).symm
    · exact (Option.some.inj hslot).symm
    · cases hslot
  | method latent method =>
    obtain rfl := List.mem_singleton.mp h
    exact ⟨latent, rfl, Latent.eq_key_of_slot_eq_some hslot⟩
  | reference latent reference =>
    obtain rfl := List.mem_singleton.mp h
    exact ⟨latent, rfl, Latent.eq_key_of_slot_eq_some hslot⟩
  | exclusion itemId excluded =>
    cases hlatent : m.itemLatent? itemId with
    | none => simp [Edit.writes, hlatent] at h
    | some latent =>
      refine ⟨latent, hlatent, ?_⟩
      simp only [Edit.writes, hlatent, List.mem_cons, List.not_mem_nil, or_false] at h
      rcases h with rfl | rfl | rfl
      · exact (Option.some.inj hslot).symm
      · exact Latent.eq_key_of_slot_eq_some hslot
      · cases hslot
  | globalText latent index text =>
    refine ⟨latent, rfl, ?_⟩
    simp only [Edit.writes, List.mem_cons, List.not_mem_nil, or_false] at h
    rcases h with rfl | rfl <;> exact Latent.eq_key_of_slot_eq_some hslot
  | secondOrder mode =>
    simp only [Edit.writes, List.mem_cons, List.not_mem_nil, or_false] at h
    rcases h with rfl | rfl | rfl <;> cases hslot
  | shortCode code =>
    obtain rfl := List.mem_singleton.mp h
    cases hslot

/-- The mode of the higher-order construct is written by one kind of edit. -/
lemma mode_secondOrder_not_mem_writes {e : Edit} (h : ∀ mode, e ≠ .secondOrder mode) :
    Place.mode .secondOrder ∉ e.writes m := by
  intro hmem
  cases e with
  | secondOrder mode => exact h mode rfl
  | exclusion itemId excluded =>
    cases hlatent : m.itemLatent? itemId <;> simp [Edit.writes, hlatent] at hmem
  | _ => simp [Edit.writes] at hmem

/-- The global items of the higher-order construct are written by two kinds of edits. -/
lemma globals_secondOrder_not_mem_writes {e : Edit} (h : ∀ mode, e ≠ .secondOrder mode)
    (htext : ∀ index text, e ≠ .globalText .secondOrder index text) :
    Place.globals .secondOrder ∉ e.writes m := by
  intro hmem
  cases e with
  | secondOrder mode => exact h mode rfl
  | globalText latent index text =>
    have hlatent : latent = .secondOrder := by simpa [Edit.writes, eq_comm] using hmem
    exact htext index text (hlatent ▸ rfl)
  | exclusion itemId excluded =>
    cases hlatent : m.itemLatent? itemId <;> simp [Edit.writes, hlatent] at hmem
  | _ => simp [Edit.writes] at hmem

/-- What an edit leaves alone: every facet that it is not aimed at, the mode and the global items of
the higher-order construct unless it is made to change them, the instrument, and what was saved
last. -/
structure IsFramed (e : Edit) (m n : Model) : Prop where
  agreesAt : ∀ facet ∈ m.instrument.facets,
    (∀ latent, e.target? m = some latent → facet.id ≠ latent.key) → AgreesAt m n facet.id
  secondOrder_mode : (∀ mode, e ≠ .secondOrder mode) →
    n.configuration.secondOrder.mode = m.configuration.secondOrder.mode
  secondOrder_globals : (∀ mode, e ≠ .secondOrder mode) →
    (∀ index text, e ≠ .globalText .secondOrder index text) →
      n.configuration.secondOrder.globals = m.configuration.secondOrder.globals
  instrument : n.instrument = m.instrument
  compiled : n.configuration.compiled = m.configuration.compiled
  updatedAt : n.configuration.updatedAt = m.configuration.updatedAt

/-- What agrees off the places of an edit is framed by it. -/
lemma AgreesOff.isFramed {e : Edit} (h : AgreesOff (e.writes m) m n) : IsFramed e m n where
  agreesAt facet _ htarget := h.agreesAt fun place hplace hslot => by
    obtain ⟨latent, hlatent, hid⟩ := exists_target?_of_mem_writes hplace hslot
    exact htarget latent hlatent hid
  secondOrder_mode hmode := h.mode .secondOrder (mode_secondOrder_not_mem_writes hmode)
  secondOrder_globals hmode htext :=
    h.globals .secondOrder (globals_secondOrder_not_mem_writes hmode htext)
  instrument := h.instrument
  compiled := h.compiled
  updatedAt := h.updatedAt

end Model

/-! ### Sessions -/

namespace Session

open Model (AgreesOff IsFramed)

variable {places : List Place} {m n : Model}

/-- Relations that are rebuilt are kept in no place of a choice. -/
lemma agreesOff_withRelations (h : AgreesOff places m n) (relations : List Indicator) :
    AgreesOff places m { n with configuration.indicators := relations } where
  instrument := h.instrument
  mode latent hplace := (h.mode latent hplace).symm ▸ by cases latent <;> rfl
  rule latent hplace := (h.rule latent hplace).symm ▸ by cases latent <;> rfl
  excluded := h.excluded
  globals latent hplace := (h.globals latent hplace).symm ▸ by cases latent <;> rfl
  shortCode := h.shortCode
  compiled := h.compiled
  updatedAt := h.updatedAt

/-- An edit of a session changes nothing off the places it may write to. -/
lemma agreesOff_edit (s : Session) (e : Edit) (now : Nat) (stamp : Timestamp) :
    AgreesOff (e.writes s.model) s.model (finalState (s.edit e now stamp)).model := by
  have hresult := s.model.agreesOff_result e
  rw [Edit.result] at hresult
  unfold edit
  cases hedit : e.apply s.model with
  | ok u model =>
    rw [hedit] at hresult
    exact agreesOff_withRelations hresult _
  | error cause model =>
    rw [hedit] at hresult
    exact hresult

/-- In every state of a session, an edit that is carried out leaves the facets alone that it is not
aimed at, and so does one that is refused. -/
theorem isFramed_edit (s : Session) (e : Edit) (now : Nat) (stamp : Timestamp) :
    IsFramed e s.model (finalState (s.edit e now stamp)).model :=
  (s.agreesOff_edit e now stamp).isFramed

/-! ### Runs -/

/-- Models that agree off some places agree there on their choices. -/
lemma agreesOff_choices (h : AgreesOff places m n) : AgreesOff places m.choices n.choices where
  instrument := h.instrument
  mode latent hplace := by simpa using h.mode latent hplace
  rule latent hplace := by simpa using h.rule latent hplace
  excluded := h.excluded
  globals latent hplace := by simpa using h.globals latent hplace
  shortCode := h.shortCode
  compiled := rfl
  updatedAt := rfl

/-- A run changes nothing off the places that its edits may write to, what was derived or saved on
the way apart. -/
theorem agreesOff_run (s : Session) (actions : List Action)
    (h : ∀ e now stamp, .edit e now stamp ∈ actions → e.writes s.model ⊆ places) :
    AgreesOff places s.model.choices (s.run actions).model.choices := by
  induction actions using List.reverseRecOn with
  | nil => exact .refl places _
  | append_singleton actions a ih =>
    have hrun := ih fun e now stamp he => h e now stamp (List.mem_append_left _ he)
    rw [run_append_singleton]
    by_cases ha : ∃ e now stamp, a = .edit e now stamp
    · obtain ⟨e, now, stamp, rfl⟩ := ha
      have hwrites : e.writes (s.run actions).model ⊆ places := by
        have hinstrument : (s.run actions).model.instrument = s.model.instrument := hrun.instrument
        rw [Edit.writes_congr hinstrument e]
        exact h e now stamp (List.mem_append_right _ (List.mem_singleton_self _))
      have hedit := ((s.run actions).agreesOff_edit e now stamp).mono hwrites
      exact hrun.trans (agreesOff_choices hedit)
    · rw [choices_model_act_of_not_edit _ fun e now stamp heq => ha ⟨e, now, stamp, heq⟩]
      exact hrun

end Session

end Psychometrics
