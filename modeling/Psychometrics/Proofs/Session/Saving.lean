import Mathlib
import Psychometrics.Proofs.Session.Named
import Psychometrics.Proofs.Session.Refusal

/-!
# No edit is silently lost

An edit lives in memory until it is saved, and a save may fail.  This file shows that a user can
always know about it: in every state of a run a save is pending, or the last write that was
attempted since the last edit has failed and its caller was told so, or the store holds what is in
memory (`Session.pending_or_failed_or_saved_run`).

Each action is classified by its outcome (`Session.outcome`), which is what its caller is told.
`Session.step_act` says all that an action with a given outcome can do to a session, and
`Session.Step.effect` what that means for the timer, the store and the configuration.

Saved configurations are compared after reading them back, so that ids have to be named: a blank
reference would be dropped by reading.
-/

namespace Psychometrics.Session

variable {s : Session}

/-! ### Outcomes -/

/-- What the caller of an action is told: that an edit was carried out or refused, that a write was
done or has failed, or that there was nothing to do. -/
inductive Outcome
  | edited
  | refused
  | written
  | failed
  | idle
  deriving DecidableEq

/-- The outcome of an action in a state. -/
def outcome (s : Session) : Action → Outcome
  | .edit e now stamp =>
    match s.edit e now stamp with
    | .ok _ _ => .edited
    | .error _ _ => .refused
  | .poll now stamp =>
    match s.poll now stamp with
    | .ok true _ => .written
    | .ok false _ => .idle
    | .error _ _ => .failed
  | .flush stamp =>
    match s.flush stamp with
    | .ok _ _ => .written
    | .error _ _ => .failed
  | .recompile _ => .idle
  | .rejectWrites _ => .idle

/-- The outcomes of a list of actions, one after the other. -/
def outcomes (s : Session) : List Action → List Outcome
  | [] => []
  | a :: actions => s.outcome a :: (s.act a).outcomes actions

/-- The last of these outcomes that is an edit or an attempt to write is a write that has failed. -/
def EndsInFailure (outcomes : List Outcome) : Prop :=
  ∃ before after, outcomes = before ++ .failed :: after ∧ ∀ o ∈ after, o = .refused ∨ o = .idle

/-- The store holds the configuration that is in memory, where nothing stored stands for the empty
configuration. -/
def IsSaved (s : Session) : Prop :=
  ∃ stored, s.store.load = .ok stored ∧ stored.getD {} = s.model.configuration

/-- A run with one action more has one outcome more. -/
lemma outcomes_append_singleton (s : Session) (actions : List Action) (a : Action) :
    s.outcomes (actions ++ [a]) = s.outcomes actions ++ [(s.run actions).outcome a] := by
  induction actions generalizing s with
  | nil => rfl
  | cons first actions ih =>
    rw [List.cons_append, outcomes, ih, outcomes, List.cons_append]
    rfl

/-- Outcomes that end with a failed write end in failure. -/
lemma endsInFailure_concat_failed (outcomes : List Outcome) :
    EndsInFailure (outcomes ++ [.failed]) :=
  ⟨outcomes, [], rfl, nofun⟩

/-- Refused edits and times at which nothing was due do not make up for a failure. -/
lemma EndsInFailure.concat {outcomes : List Outcome} (h : EndsInFailure outcomes) {o : Outcome}
    (ho : o = .refused ∨ o = .idle) : EndsInFailure (outcomes ++ [o]) := by
  obtain ⟨before, after, rfl, hafter⟩ := h
  refine ⟨before, after ++ [o], by simp, fun other hother => ?_⟩
  rcases List.mem_append.mp hother with hother | hother
  · exact hafter other hother
  · exact List.mem_singleton.mp hother ▸ ho

/-! ### What an action does -/

/-- What a successful save does: the store holds the configuration with its derived data in writing,
and the session keeps the same configuration. -/
lemma eq_of_save_eq_ok {s' : Session} {stamp : Timestamp} (h : save stamp s = .ok () s') :
    s' = { s with
      store := { s.store with
        held := some (s.payload stamp).toJson, writes := s.store.writes + 1 }
      model.configuration := s.payload stamp } := by
  unfold save at h
  split at h
  · next store hwrite =>
    cases h
    unfold Store.write at hwrite
    split at hwrite <;> cases hwrite
    rfl
  · cases h

/-- The ways in which an action leads from one state to another, with the outcome of each. -/
inductive Step (s : Session) : Session → Outcome → Prop
  /-- An edit is carried out. -/
  | edited {e : Edit} {n : Model} (applied : e.apply s.model = .ok () n) (now : Nat)
      (stamp : Timestamp) : Step s ({ s with model := n }.afterEdit now stamp) .edited
  /-- An edit is refused. -/
  | refused : Step s s .refused
  /-- A save succeeds, whatever becomes of the timer before. -/
  | written {s' : Session} {stamp : Timestamp} {timer : Timer}
      (saved : save stamp { s with timer } = .ok () s') : Step s s' .written
  /-- A save fails. -/
  | failed (timer : Timer) : Step s { s with timer } .failed
  /-- No save is due. -/
  | waiting : Step s s .idle
  /-- The model is compiled anew. -/
  | recompiled (stamp : Timestamp) : Step s (s.recompile stamp) .idle
  /-- The store stops or starts accepting writes. -/
  | switched (rejecting : Bool) : Step s { s with store.rejecting := rejecting } .idle

/-- These are all ways. -/
lemma step_act (hslots : s.model.HasSlots) (a : Action) : Step s (s.act a) (s.outcome a) := by
  cases a with
  | edit e now stamp =>
    rw [outcome, act]
    cases hedit : s.edit e now stamp with
    | error cause s' =>
      obtain rfl := eq_of_edit_eq_error hslots hedit
      exact .refused
    | ok u s' =>
      unfold edit at hedit
      split at hedit
      · next happly =>
        cases hedit
        exact .edited happly now stamp
      · cases hedit
  | poll now stamp =>
    rw [outcome, act]
    rcases s.poll_cases now stamp with ⟨s', hsave, hpoll⟩ | ⟨cause, s', -, hpoll⟩ | hpoll
    · rw [hpoll]
      exact .written hsave
    · obtain rfl := eq_of_poll_eq_error hpoll
      rw [hpoll]
      exact .failed _
    · rw [hpoll]
      exact .waiting
  | flush stamp =>
    rw [outcome, act]
    cases hflush : s.flush stamp with
    | error cause s' =>
      obtain rfl := eq_of_flush_eq_error hflush
      exact .failed _
    | ok u s' => exact .written hflush
  | recompile stamp => exact .recompiled stamp
  | rejectWrites rejecting => exact .switched rejecting

/-- What an action with a given outcome does to the timer, the store and the configuration. -/
inductive Effect (s s' : Session) : Outcome → Prop
  /-- After an edit a save is pending. -/
  | edited (pending : s'.timer.isPending = true) : Effect s s' .edited
  /-- An edit that is refused changes nothing. -/
  | refused (same : s' = s) : Effect s s' .refused
  /-- A write that was done has saved the configuration, whatever became of the timer. -/
  | written {stamp : Timestamp} {timer : Timer} (saved : save stamp { s with timer } = .ok () s') :
      Effect s s' .written
  /-- A write has failed. -/
  | failed : Effect s s' .failed
  /-- Where nothing was to be done, the timer, the stored value and the configuration stay. -/
  | idle (timer : s'.timer = s.timer) (held : s'.store.held = s.store.held)
      (configuration : s'.model.configuration = s.model.configuration) : Effect s s' .idle

/-- Every step has the effect of its outcome. -/
lemma Step.effect {s' : Session} {o : Outcome} (h : Step s s' o) : Effect s s' o := by
  cases h with
  | edited applied now stamp => exact .edited rfl
  | refused => exact .refused rfl
  | written saved => exact .written saved
  | failed timer => exact .failed
  | waiting => exact .idle rfl rfl rfl
  | recompiled stamp => exact .idle rfl rfl rfl
  | switched rejecting => exact .idle rfl rfl rfl

/-- A save that succeeds leaves in the store what it leaves in memory, once references are named. -/
lemma isSaved_of_save_eq_ok {stamp : Timestamp} {s' : Session}
    (hnamed : s.model.HasNamedReferences) (h : save stamp s = .ok () s') : s'.IsSaved := by
  have hpayload : (s.payload stamp).HasNamedReferences := by
    obtain ⟨hscaling, hsecondOrder⟩ := Model.hasNamedReferences_iff.mpr hnamed.rule
    exact ⟨hscaling, hsecondOrder⟩
  obtain rfl := eq_of_save_eq_ok h
  refine ⟨some (s.payload stamp), ?_, rfl⟩
  simp only [Store.load, hpayload.ofStored?_toJson]

/-- Whether the configuration is saved depends on the stored value and on the configuration. -/
lemma IsSaved.congr {s' : Session} (h : s.IsSaved) (hheld : s'.store.held = s.store.held)
    (hconfiguration : s'.model.configuration = s.model.configuration) : s'.IsSaved := by
  obtain ⟨stored, hload, heq⟩ := h
  refine ⟨stored, ?_, heq.trans hconfiguration.symm⟩
  rw [← hload, Store.load, Store.load, hheld]

/-! ### Runs -/

/-- A session that was just opened has a save pending, or else its configuration is the stored
one. -/
lemma isPending_or_isSaved_of_load {instrument : Instrument} {store : Store}
    {options : SessionOptions} {now : Nat} {stamp : Timestamp}
    (h : Session.load instrument store options now stamp = .ok s) :
    s.timer.isPending = true ∨ s.IsSaved := by
  obtain ⟨stored, hstored, hmodel, hstore, htimer⟩ := state_of_load_eq_ok h
  cases hupgraded : (Model.load instrument stored).2 with
  | true => exact .inl (htimer.trans hupgraded)
  | false =>
    refine .inr ⟨stored, by rw [hstore, hstored], ?_⟩
    have hsame : (Model.load instrument stored).1.configuration = stored.getD {} := by
      simpa [Model.load] using hupgraded
    rw [hmodel, hsame]

/-- No edit is silently lost.  A session is opened on an instrument and a stored configuration in
which no facet and no global item has a blank id.  Whatever happens to it then, a save is pending,
or the last write that was attempted since the last edit has failed and its caller was told so, or
what is stored reads as the configuration in memory. -/
theorem pending_or_failed_or_saved_run {instrument : Instrument} {store : Store}
    {options : SessionOptions} {now : Nat} {stamp : Timestamp} {stored : Option Configuration}
    (hstored : store.load = .ok stored)
    (hids : Model.HasNamedIds ⟨instrument, stored.getD {}⟩)
    (h : Session.load instrument store options now stamp = .ok s) (actions : List Action) :
    (s.run actions).timer.isPending = true ∨ EndsInFailure (s.outcomes actions) ∨
      (s.run actions).IsSaved := by
  induction actions using List.reverseRecOn with
  | nil =>
    rcases isPending_or_isSaved_of_load h with hpending | hsaved
    · exact .inl hpending
    · exact .inr (.inr hsaved)
  | append_singleton actions a ih =>
    -- Each action has one of five effects, and only a write brings the store up to date.
    have hnamed := hasNamedReferences_run h hstored hids actions
    have heffect := (step_act (hasSlots_run h actions) a).effect
    rw [outcomes_append_singleton, run_append_singleton]
    generalize (s.run actions).outcome a = o at heffect ⊢
    generalize (s.run actions).act a = s' at heffect ⊢
    cases heffect with
    | edited pending => exact .inl pending
    | refused same =>
      subst same
      exact ih.imp id (Or.imp (fun hfailed => hfailed.concat (.inl rfl)) id)
    | @written date timer saved =>
      exact .inr (.inr (isSaved_of_save_eq_ok (s := { s.run actions with timer }) hnamed saved))
    | failed => exact .inr (.inl (endsInFailure_concat_failed _))
    | idle timer held configuration =>
      rw [timer]
      exact ih.imp id (Or.imp (fun hfailed => hfailed.concat (.inr rfl))
        fun hsaved => hsaved.congr held configuration)

/-- Choosing a short code and saving at once leaves nothing pending and no failure, so that the
choice has been stored. -/
theorem pending_or_failed_or_saved_run_flushed :
    ∃ s, Session.load oneFacet (.ofHeld none) {} 0 epoch = .ok s ∧
      (s.run [.edit (.shortCode (some "we")) 0 epoch, .flush epoch]).IsSaved := by
  have hstored : (Store.ofHeld none).load = .ok none := rfl
  obtain ⟨s, hs, -⟩ := exists_load_eq_ok hstored oneFacet {} 0 epoch
  obtain ⟨-, -, -, hstore, -⟩ := state_of_load_eq_ok hs
  have hids : Model.HasNamedIds ⟨oneFacet, {}⟩ :=
    ⟨by decide, fun latent items hitems => by cases latent <;> simp [Model.globals?] at hitems⟩
  have houtcomes : s.outcomes [.edit (.shortCode (some "we")) 0 epoch, .flush epoch] =
      [.edited, .written] := by
    simp only [outcomes, outcome, flush, save, Store.write, act, edit, Edit.apply,
      Model.chooseShortCode, afterEdit, recompile, finalState, hstore, Store.ofHeld]
    rfl
  refine ⟨s, hs, ?_⟩
  rcases pending_or_failed_or_saved_run hstored hids hs
    [.edit (.shortCode (some "we")) 0 epoch, .flush epoch] with hpending | hfailed | hsaved
  · have htimer : ∀ t : Session, (t.act (.flush epoch)).timer.isPending = false := by
      intro t
      simp only [act, flush, save]
      split <;> rfl
    have hflushed := htimer (s.act (.edit (.shortCode (some "we")) 0 epoch))
    exact absurd (hflushed.symm.trans hpending) Bool.false_ne_true
  · obtain ⟨before, after, heq, -⟩ := hfailed
    have hmem : Outcome.failed ∈ [Outcome.edited, .written] := by
      rw [← houtcomes, heq]
      simp
    exact absurd hmem (by decide)
  · exact hsaved

end Psychometrics.Session
