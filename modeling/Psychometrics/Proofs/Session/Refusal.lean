import Mathlib
import Psychometrics.Proofs.Model.Slots
import Psychometrics.Proofs.Session.Change

/-!
# Refused operations

An operation of a session that fails leaves behind what it found.  For most edits that is plain:
they check first and change afterwards.  Writing a global item is different, since it creates
missing slots before it looks for the one to be written.  It changes nothing all the same, because
in every state that a session can reach the formative latent variables have their slots already
(`Session.hasSlots_run`).  A refused edit returns the session as it was, and a failed save only
gives up the pending one.
-/

namespace Psychometrics

namespace Model

variable {m n : Model}

/-! ### Slots are kept -/

/-- Choosing a mode changes nothing about which latent variables exist. -/
lemma isKnown_withMode (m : Model) (id : String) (mode : Mode) (latent : Latent) :
    (m.withMode id mode).isKnown latent = m.isKnown latent := by
  cases latent <;> simp [isKnown]

/-- A facet that becomes formative gets its slots, and no others are lost. -/
lemma HasSlots.withMode (h : m.HasSlots) (id : String) (mode : Mode) :
    (m.withMode id mode).HasSlots := by
  have hkept : ∀ latent, (m.globals? latent).isSome = true →
      ((m.withMode id mode).globals? latent).isSome = true := by
    intro latent hslots
    have hslots' : ((m.setFacetMode id (some mode)).globals? latent).isSome = true := by
      cases latent <;> exact hslots
    unfold Model.withMode
    split
    · exact isSome_globals?_withSlots hslots' _
    · exact hslots'
  refine h.mono (fun latent hknown hmode => ?_) hkept
  rw [isKnown_withMode] at hknown
  rw [mode?_withMode] at hmode
  split at hmode
  · next heq =>
    subst heq
    obtain rfl := Option.some.inj hmode
    refine .inr ?_
    rw [Model.withMode, if_pos rfl]
    exact isSome_globals?_withSlots_self _ (by simp)
  · exact .inl ⟨hknown, hmode⟩

/-- A higher-order construct that becomes formative gets its slots, and no others are lost. -/
lemma HasSlots.withSecondOrder (h : m.HasSlots) (mode : Mode) :
    (m.withSecondOrder mode).HasSlots := by
  unfold Model.withSecondOrder
  split
  · refine h.mono (fun latent hknown hmode => ?_) fun latent hslots => ?_
    · rw [isKnown_withSlots] at hknown
      rw [mode?_withSlots] at hmode
      cases latent with
      | unidim => exact .inl ⟨hknown, hmode⟩
      | facet id => exact .inl ⟨hknown, hmode⟩
      | secondOrder => exact .inr (isSome_globals?_withSlots_self _ (by simp))
    · refine isSome_globals?_withSlots ?_ _
      cases latent <;> exact hslots
  · next hreflective =>
    intro latent hknown hmode
    cases latent with
    | unidim => exact h .unidim hknown hmode
    | facet id => exact h (.facet id) hknown hmode
    | secondOrder => exact absurd (Option.some.inj hmode) hreflective

/-- No elementary change takes slots away that are needed. -/
lemma HasSlots.change (hchange : m.Change n) (h : m.HasSlots) : n.HasSlots := by
  cases hchange with
  | mode known mode => exact h.withMode _ mode
  | rule draws => exact h.setScalingRule _ _
  | exclusions excluded => exact h
  | slots latent => exact h.withSlots latent
  | text htext =>
    obtain ⟨items, item, -, -, rfl⟩ := (setGlobalText?_eq_some_iff _).mp htext
    refine h.mono (fun latent hknown hmode => .inl ?_)
      fun latent hslots => isSome_globals?_setGlobals hslots _
    cases latent <;> simp_all [isKnown, mode?, facetMode?]
  | secondOrder mode => exact h.withSecondOrder mode
  | noSecondOrder =>
    intro latent hknown hmode
    cases latent with
    | unidim => exact h .unidim hknown hmode
    | facet id => exact h (.facet id) hknown hmode
    | secondOrder => simp [mode?] at hmode
  | shortCode code => exact h

/-! ### Refused edits -/

section Refused

variable {latent : Latent} {cause : EditError}

/-- Refusing a mode leaves the model as it is. -/
lemma eq_of_chooseMode_eq_error {id : String} {mode : Mode}
    (h : chooseMode id mode m = .error cause n) : n = m := by
  unfold chooseMode at h
  split at h <;> cases h
  rfl

/-- Refusing a method leaves the model as it is. -/
lemma eq_of_chooseMethod_eq_error {method : ScalingMethod}
    (h : chooseMethod latent method m = .error cause n) : n = m := by
  unfold chooseMethod at h
  split at h
  · cases h
    rfl
  · split at h
    · cases h
    · split at h <;> cases h
      rfl

/-- Refusing a reference leaves the model as it is. -/
lemma eq_of_chooseReference_eq_error {reference : String}
    (h : chooseReference latent reference m = .error cause n) : n = m := by
  unfold chooseReference at h
  split at h
  · cases h
    rfl
  · split at h <;> cases h
    rfl

/-- Refusing an exclusion leaves the model as it is. -/
lemma eq_of_chooseExclusion_eq_error {itemId : Int64} {excluded : Bool}
    (h : chooseExclusion itemId excluded m = .error cause n) : n = m := by
  unfold chooseExclusion at h
  split at h <;> cases h
  rfl

/-- Writing a global item may create slots before it fails, but not in a model that has them. -/
lemma HasSlots.eq_of_writeGlobal_eq_error (hslots : m.HasSlots) {index : Nat} {text : String}
    (h : writeGlobal latent index text m = .error cause n) : n = m := by
  unfold writeGlobal at h
  split at h
  · cases h
    rfl
  · next hactive =>
    split at h
    · cases h
      rfl
    · next hformative =>
      split at h <;> cases h
      have hknown := (mem_scaledLatents_iff.mp (checkActive_eq_ok_iff.mp hactive)).1
      exact withSlots_eq_self (hslots latent hknown (not_not.mp hformative))

/-- An edit that is refused returns a model with slots as it was. -/
lemma HasSlots.eq_of_apply_eq_error (hslots : m.HasSlots) {e : Edit}
    (h : e.apply m = .error cause n) : n = m := by
  cases e with
  | mode id mode => exact eq_of_chooseMode_eq_error h
  | method latent method =>
    unfold Edit.apply at h
    dsimp only at h
    split at h
    · cases h
    · next hmethod =>
      cases h
      exact eq_of_chooseMethod_eq_error hmethod
  | reference latent reference => exact eq_of_chooseReference_eq_error h
  | exclusion itemId excluded => exact eq_of_chooseExclusion_eq_error h
  | globalText latent index text => exact hslots.eq_of_writeGlobal_eq_error h
  | secondOrder mode => cases mode <;> cases h
  | shortCode code => cases h

end Refused

/-- Whether all slots are there is a matter of the choices. -/
lemma hasSlots_choices_iff : m.choices.HasSlots ↔ m.HasSlots := by
  have hknown : ∀ latent, m.choices.isKnown latent = m.isKnown latent := by
    intro latent
    cases latent <;> rfl
  simp only [HasSlots, hknown, mode?_choices, globals?_choices]

end Model

/-! ### Failures along a run -/

namespace Session

variable {s s' : Session}

/-- In every state of a run the formative latent variables have their slots. -/
lemma hasSlots_run {instrument : Instrument} {store : Store} {options : SessionOptions} {now : Nat}
    {stamp : Timestamp} (h : Session.load instrument store options now stamp = .ok s)
    (actions : List Action) : (s.run actions).model.HasSlots := by
  refine model_run_of_change (fun _ => Model.hasSlots_choices_iff) Model.HasSlots.change ?_ actions
  obtain ⟨stored, -, hmodel⟩ := model_of_load_eq_ok h
  rw [hmodel]
  exact Model.hasSlots_upgrade _

/-- A refused edit leaves a session as it was, once its model has slots. -/
lemma eq_of_edit_eq_error (hslots : s.model.HasSlots) {e : Edit} {now : Nat} {stamp : Timestamp}
    {cause : EditError} (h : s.edit e now stamp = .error cause s') : s' = s := by
  unfold edit at h
  split at h
  · cases h
  · next hrefused =>
    cases h
    rw [hslots.eq_of_apply_eq_error hrefused]

/-- A save that fails leaves a session as it was. -/
lemma eq_of_save_eq_error {stamp : Timestamp} {cause : EditError}
    (h : save stamp s = .error cause s') : s' = s := by
  unfold save at h
  split at h
  · cases h
  · cases h
    rfl

/-- A save at once that fails gives up the pending one, and nothing else. -/
lemma eq_of_flush_eq_error {stamp : Timestamp} {cause : EditError}
    (h : s.flush stamp = .error cause s') : s' = { s with timer := s.timer.cancel } :=
  eq_of_save_eq_error h

/-- A due save that fails is given up, and nothing else changes. -/
lemma eq_of_poll_eq_error {now : Nat} {stamp : Timestamp} {cause : EditError}
    (h : s.poll now stamp = .error cause s') : s' = { s with timer := s.timer.cancel } := by
  rcases s.poll_cases now stamp with ⟨t, -, hpoll⟩ | ⟨reason, t, hsave, hpoll⟩ | hpoll
  · cases hpoll.symm.trans h
  · cases hpoll.symm.trans h
    exact eq_of_save_eq_error hsave
  · cases hpoll.symm.trans h

/-- Whatever has happened to a session since it was opened: an edit that is refused returns it as it
was, with its model, its compiled text, its store and its timer, and a save that fails gives up the
pending save and leaves everything else as it was. -/
theorem run_unchanged_of_error {instrument : Instrument} {store : Store} {options : SessionOptions}
    {now : Nat} {stamp : Timestamp} (h : Session.load instrument store options now stamp = .ok s)
    (actions : List Action) :
    (∀ e time date cause s', (s.run actions).edit e time date = .error cause s' →
      s' = s.run actions) ∧
    (∀ time date cause s', (s.run actions).poll time date = .error cause s' →
      s' = { s.run actions with timer := (s.run actions).timer.cancel }) ∧
    (∀ date cause s', (s.run actions).flush date = .error cause s' →
      s' = { s.run actions with timer := (s.run actions).timer.cancel }) := by
  refine ⟨?_, ?_, ?_⟩
  · intro e time date cause s' hrefused
    exact eq_of_edit_eq_error (hasSlots_run h actions) hrefused
  · intro time date cause s' hfailed
    exact eq_of_poll_eq_error hfailed
  · intro date cause s' hfailed
    exact eq_of_flush_eq_error hfailed

/-- An instrument with a single facet. -/
def oneFacet : Instrument where
  facets := [{ id := "f" }]
  items := [{ id := 1, text := "I enjoy my work", facetId := some "f" }]

/-- A store that rejects writes and holds a configuration in which the facet is formative, but has
no slots yet. -/
def slotlessStore : Store where
  held := some (.object [("facetModes", .object [("f", .string "formative")])])
  rejecting := true

/-- A global item beyond the two slots is refused, and so is a write; neither leaves a trace. -/
theorem run_unchanged_of_error_slotless :
    ∃ s, Session.load oneFacet slotlessStore {} 0 epoch = .ok s ∧
      (∃ cause s', s.edit (.globalText (.facet "f") 2 "Late") 0 epoch = .error cause s' ∧ s' = s) ∧
      (∃ cause s', s.flush epoch = .error cause s' ∧
        s' = { s with timer := s.timer.cancel }) := by
  have hstored : slotlessStore.load =
      .ok (some { modes := (∅ : Table Mode).insert "f" .formative }) := by cbv
  obtain ⟨s, hs, -⟩ := exists_load_eq_ok hstored oneFacet {} 0 epoch
  obtain ⟨stored, hstored', hmodel, hstore, -⟩ := state_of_load_eq_ok hs
  obtain rfl := Except.ok.inj (hstored.symm.trans hstored')
  obtain ⟨hedit, -, hflush⟩ := run_unchanged_of_error hs []
  refine ⟨s, hs, ?_, ?_⟩
  · have hrefused : ∃ cause n,
        (Edit.globalText (.facet "f") 2 "Late").apply s.model = .error cause n := by
      rw [hmodel]
      exact ⟨_, _, by cbv⟩
    obtain ⟨cause, n, hrefused⟩ := hrefused
    have hs' : s.edit (.globalText (.facet "f") 2 "Late") 0 epoch =
        .error cause { s with model := n } := by
      rw [edit, hrefused]
    exact ⟨cause, _, hs', hedit _ _ _ _ _ hs'⟩
  · have hs' : s.flush epoch =
        .error (.store .rejected) { s with timer := s.timer.cancel } := by
      rw [flush, save, Store.write, hstore]
      rfl
    exact ⟨_, _, hs', hflush _ _ _ hs'⟩

end Session

end Psychometrics
