import Mathlib
import Psychometrics.Proofs.Configuration.Roundtrip
import Psychometrics.Proofs.Session.Change

/-!
# Named references along a run

Ids that users and instruments supply may be blank, and a reference to a blank id is not read back
from what was saved.  As long as no facet and no global item has a blank id
(`Model.HasNamedIds`), no reference can become blank: the slots that are created have ids of
their own, items are numbered, and rules refer to candidates.  So a model with named ids whose
stored rules all name their references keeps both properties through every change
(`Model.HasNamedReferences.change`), and hence along every run
(`Session.hasNamedReferences_run`).
-/

namespace Psychometrics

namespace Text

/-- A text with a character that is not blank is not blank. -/
lemma isBlankText_of_mem {s : String} {c : Char} (hmem : c ∈ s.toList) (hc : isBlank c = false) :
    isBlankText s = false := by
  rw [isBlankText, List.all_eq_false]
  exact ⟨c, hmem, by simp [hc]⟩

/-- The text of a number is not blank: it holds a digit or a minus sign. -/
lemma isBlankText_ofInt (i : Int) : isBlankText (ofInt i) = false := by
  cases i with
  | ofNat n =>
    obtain ⟨c, hc⟩ := List.exists_mem_of_ne_nil (Nat.toDigits 10 n) (by simp)
    have hdigit : c.isDigit = true := Nat.isDigit_of_mem_toDigits (by decide) (by decide) hc
    exact isBlankText_of_mem (by simpa [ofInt, intChars] using hc) (isBlank_of_isDigit hdigit)
  | negSucc n => exact isBlankText_of_mem (c := '-') (by simp [ofInt, intChars]) (by decide)

end Text

namespace Model

variable {m n : Model} {latent : Latent}

/-! ### Named ids -/

/-- No facet and no global item has a blank id. -/
structure HasNamedIds (m : Model) : Prop where
  facet : ∀ facet ∈ m.instrument.facets, Text.isBlankText facet.id = false
  global : ∀ latent items, m.globals? latent = some items →
    ∀ item ∈ items, Text.isBlankText item.id = false

/-- New slots have ids that are not blank. -/
lemma isBlankText_of_mem_blankSlots {item : GlobalItem} (h : item ∈ blankSlots latent) :
    Text.isBlankText item.id = false := by
  obtain ⟨id, hid, rfl⟩ := List.mem_map.mp h
  cases latent with
  | unidim => cases hid
  | facet key =>
    simp only [slotIds, List.mem_cons, List.not_mem_nil, or_false] at hid
    rcases hid with rfl | rfl <;> exact Text.isBlankText_of_mem (c := 'g') (by simp) (by decide)
  | secondOrder =>
    simp only [slotIds, List.mem_cons, List.not_mem_nil, or_false] at hid
    rcases hid with rfl | rfl <;> decide

/-- With named ids, candidates are named. -/
lemma HasNamedIds.candidate (h : m.HasNamedIds) {c : Candidate} (hc : c ∈ m.candidates latent) :
    Text.isBlankText c.id = false := by
  unfold candidates at hc
  split at hc
  · obtain ⟨item, hitem, rfl⟩ := List.mem_map.mp hc
    have hmem : item ∈ m.globals latent := List.mem_of_mem_filter hitem
    rw [globals] at hmem
    cases hglobals : m.globals? latent with
    | none => simp [hglobals] at hmem
    | some items => exact h.global latent items hglobals item (by simpa [hglobals] using hmem)
  · split at hc
    · obtain ⟨facet, hfacet, rfl⟩ := List.mem_map.mp hc
      exact h.facet facet (List.mem_of_mem_filter hfacet)
    · obtain ⟨item, -, rfl⟩ := List.mem_map.mp hc
      exact Text.isBlankText_ofInt _

/-- With named ids, a rule that draws on candidates names its reference. -/
lemma HasNamedIds.isNamed (h : m.HasNamedIds) {rule : ScalingRule}
    (hdraws : rule.DrawsOn (m.candidates latent)) : rule.IsNamed := by
  rintro id rfl
  obtain ⟨c, hc, hid⟩ := hdraws _ rfl
  exact Option.some.inj hid ▸ h.candidate hc

/-- Items with named ids may replace the global items of a latent variable. -/
lemma HasNamedIds.setGlobals (h : m.HasNamedIds) {items : List GlobalItem}
    (hitems : ∀ item ∈ items, Text.isBlankText item.id = false) (latent : Latent) :
    (m.setGlobals latent items).HasNamedIds := by
  refine ⟨by simpa using h.facet, fun other items' hother => ?_⟩
  by_cases heq : latent = other
  · subst heq
    cases latent with
    | unidim => exact h.global .unidim items' hother
    | facet id =>
      obtain rfl : items = items' := by simpa [Model.setGlobals, globals?] using hother
      exact hitems
    | secondOrder =>
      obtain rfl : items = items' := Option.some.inj hother
      exact hitems
  · rw [m.globals?_setGlobals_of_ne _ heq] at hother
    exact h.global other items' hother

/-- Slots are created with ids that are not blank. -/
lemma HasNamedIds.withSlots (h : m.HasNamedIds) (latent : Latent) :
    (m.withSlots latent).HasNamedIds := by
  rcases m.withSlots_eq latent with heq | ⟨-, heq⟩
  · rwa [heq]
  · rw [heq]
    exact h.setGlobals (fun item hitem => isBlankText_of_mem_blankSlots hitem) latent

/-- Changes elsewhere keep ids named, and so does dropping the global items of the higher-order
construct. -/
lemma HasNamedIds.congr (h : m.HasNamedIds) (hi : n.instrument = m.instrument)
    (hg : n.configuration.globals = m.configuration.globals)
    (hs : n.configuration.secondOrder.globals = m.configuration.secondOrder.globals ∨
      n.configuration.secondOrder.globals = none) : n.HasNamedIds := by
  refine ⟨hi ▸ h.facet, fun latent items hitems => h.global latent items ?_⟩
  cases latent with
  | unidim => exact hitems
  | facet id => simpa only [globals?, hg] using hitems
  | secondOrder =>
    rcases hs with hs | hs
    · simpa only [globals?, hs] using hitems
    · simp only [globals?, hs] at hitems
      cases hitems

/-- No elementary change brings in a blank id. -/
lemma HasNamedIds.change (hchange : m.Change n) (h : m.HasNamedIds) : n.HasNamedIds := by
  cases hchange with
  | @mode id known mode =>
    have hmode : (m.setFacetMode id (some mode)).HasNamedIds := h.congr rfl rfl (.inl rfl)
    unfold Model.withMode
    split
    · exact hmode.withSlots _
    · exact hmode
  | @rule latent rule draws =>
    exact h.congr (by simp) (by cases latent <;> rfl) (.inl (by cases latent <;> rfl))
  | exclusions excluded => exact h.congr rfl rfl (.inl rfl)
  | slots latent => exact h.withSlots latent
  | text htext =>
    obtain ⟨items, item, hitems, hitem, rfl⟩ := (setGlobalText?_eq_some_iff _).mp htext
    refine h.setGlobals (fun other hother => ?_) _
    rcases List.mem_or_eq_of_mem_set hother with hmem | rfl
    · exact h.global _ items hitems other hmem
    · exact h.global _ items hitems item (List.mem_of_getElem? hitem)
  | secondOrder mode =>
    have hmode : HasNamedIds { m with configuration.secondOrder.mode := some mode } :=
      h.congr rfl rfl (.inl rfl)
    unfold Model.withSecondOrder
    split
    · exact hmode.withSlots _
    · exact hmode
  | noSecondOrder => exact h.congr rfl rfl (.inr rfl)
  | shortCode code => exact h.congr rfl rfl (.inl rfl)

/-! ### Named rules -/

/-- No facet and no global item has a blank id, and no stored rule a blank reference. -/
structure HasNamedReferences (m : Model) : Prop extends HasNamedIds m where
  rule : ∀ latent rule, m.scalingRule? latent = some rule → rule.IsNamed

/-- The stored rules of a model are those of its configuration. -/
lemma hasNamedReferences_iff : m.configuration.HasNamedReferences ↔
    ∀ latent rule, m.scalingRule? latent = some rule → rule.IsNamed := by
  constructor
  · intro h latent rule hrule
    cases latent with
    | unidim => exact h.scaling _ rule hrule
    | facet id => exact h.scaling id rule hrule
    | secondOrder => exact h.secondOrder rule hrule
  · intro h
    exact ⟨fun key => h (.facet key), h .secondOrder⟩

/-- No elementary change brings in a blank reference. -/
lemma HasNamedReferences.change (hchange : m.Change n) (h : m.HasNamedReferences) :
    n.HasNamedReferences := by
  refine ⟨h.toHasNamedIds.change hchange, fun latent rule hrule => ?_⟩
  cases hchange with
  | mode known mode => exact h.rule latent rule (by simpa using hrule)
  | @rule changed stored draws =>
    by_cases hslot : changed.slot = latent.slot
    · rw [← scalingRule?_eq_of_slot_eq hslot, scalingRule?_setScalingRule_self] at hrule
      exact Option.some.inj hrule ▸ h.isNamed draws
    · rw [scalingRule?_setScalingRule_of_slot_ne hslot] at hrule
      exact h.rule latent rule hrule
  | exclusions excluded => exact h.rule latent rule (by cases latent <;> exact hrule)
  | slots latent => exact h.rule _ rule (by simpa using hrule)
  | text htext =>
    obtain ⟨items, item, -, -, rfl⟩ := (setGlobalText?_eq_some_iff _).mp htext
    exact h.rule latent rule (by simpa using hrule)
  | secondOrder mode =>
    refine h.rule latent rule ?_
    unfold Model.withSecondOrder at hrule
    split at hrule
    · rw [scalingRule?_withSlots] at hrule
      cases latent <;> exact hrule
    · cases latent <;> exact hrule
  | noSecondOrder =>
    cases latent with
    | unidim => exact h.rule .unidim rule hrule
    | facet id => exact h.rule (.facet id) rule hrule
    | secondOrder => cases hrule
  | shortCode code => exact h.rule latent rule (by cases latent <;> exact hrule)

/-- Whether rules name their references is a matter of the choices. -/
lemma hasNamedReferences_choices_iff : m.choices.HasNamedReferences ↔ m.HasNamedReferences := by
  constructor
  · intro h
    exact ⟨h.toHasNamedIds.congr rfl rfl (.inl rfl), fun latent rule hrule =>
      h.rule latent rule (by rwa [scalingRule?_choices])⟩
  · intro h
    exact ⟨h.toHasNamedIds.congr rfl rfl (.inl rfl), fun latent rule hrule =>
      h.rule latent rule (by rwa [scalingRule?_choices] at hrule)⟩

end Model

/-! ### Runs -/

namespace Session

/-- What a store holds has named references, since it was read. -/
lemma hasNamedReferences_of_load {store : Store} {stored : Option Configuration}
    (h : store.load = .ok stored) : (stored.getD {}).HasNamedReferences := by
  unfold Store.load at h
  split at h
  · obtain rfl := Except.ok.inj h
    exact Configuration.hasNamedReferences_empty
  · split at h
    · next hread =>
      obtain rfl := Except.ok.inj h
      exact Configuration.hasNamedReferences_of_ofStored? hread
    · cases h

/-- A session that was opened on named ids has named ids and named references ever after. -/
lemma hasNamedReferences_run {instrument : Instrument} {store : Store} {options : SessionOptions}
    {now : Nat} {stamp : Timestamp} {s : Session}
    (h : Session.load instrument store options now stamp = .ok s) {stored : Option Configuration}
    (hstored : store.load = .ok stored)
    (hids : Model.HasNamedIds ⟨instrument, stored.getD {}⟩) (actions : List Action) :
    (s.run actions).model.HasNamedReferences := by
  refine model_run_of_change (fun _ => Model.hasNamedReferences_choices_iff)
    Model.HasNamedReferences.change ?_ actions
  obtain ⟨stored', hstored', hmodel⟩ := model_of_load_eq_ok h
  obtain rfl := Except.ok.inj (hstored'.symm.trans hstored)
  rw [hmodel]
  refine Model.upgrade_of_change (fun _ => Model.hasNamedReferences_choices_iff)
    Model.HasNamedReferences.change ?_
  exact ⟨hids, Model.hasNamedReferences_iff.mp (hasNamedReferences_of_load hstored)⟩

end Session

end Psychometrics
