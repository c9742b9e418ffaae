import Mathlib
import Psychometrics.Proofs.Model.Frame
import Psychometrics.Session.Basic

/-!
# Runs of a session

A session is used by edits, by asking for the save that is due, by saves at once and by recompiling,
and the backend of its store may stop accepting writes and start again.  `Session.act` is the state
after one such action, whether the action succeeded or failed, and `Session.run` the state after a
list of them.  The states that can be reached from a freshly opened session are those of its runs.

Of the model, an edit leaves behind what `Edit.result` says, and no other action changes anything
but derived data (`Session.choices_model_act_edit`, `Session.choices_model_act_of_not_edit`).
-/

namespace Psychometrics

/-- The state in which an operation ends, in success or failure. -/
def finalState {ε σ α : Type} : EStateM.Result ε σ α → σ
  | .ok _ s => s
  | .error _ s => s

/-- The model that an edit leaves behind, whether it was carried out or refused. -/
def Edit.result (e : Edit) (m : Model) : Model :=
  finalState (e.apply m)

namespace Session

/-- The first second of the epoch. -/
def epoch : Timestamp :=
  ⟨⟨1970, 1, 1, 0, 0, 0, 0⟩, by decide⟩

/-- What can happen to a session. -/
inductive Action
  | edit (e : Edit) (now : Nat) (stamp : Timestamp)
  | poll (now : Nat) (stamp : Timestamp)
  | flush (stamp : Timestamp)
  | recompile (stamp : Timestamp)
  | rejectWrites (rejecting : Bool)

/-- The state of a session after an action. -/
def act (s : Session) : Action → Session
  | .edit e now stamp => finalState (s.edit e now stamp)
  | .poll now stamp => finalState (s.poll now stamp)
  | .flush stamp => finalState (s.flush stamp)
  | .recompile stamp => s.recompile stamp
  | .rejectWrites rejecting => { s with store.rejecting := rejecting }

/-- The state of a session after a list of actions. -/
def run (s : Session) (actions : List Action) : Session :=
  actions.foldl act s

@[simp] lemma run_nil (s : Session) : s.run [] = s := rfl

/-- A run with one action more ends with that action. -/
lemma run_append_singleton (s : Session) (actions : List Action) (a : Action) :
    s.run (actions ++ [a]) = (s.run actions).act a := by
  simp [run]

/-! ### Opening a session -/

section Opening

variable {instrument : Instrument} {store : Store} {options : SessionOptions} {now : Nat}
  {stamp : Timestamp} {stored : Option Configuration} {s : Session}

variable (instrument store options now stamp stored) in
/-- The session that is opened on what a store holds. -/
def opened : Session :=
  let loaded := Model.load instrument stored
  let compiled := Cache.compile {} loaded.1 options.listing
  { model := loaded.1
    store, options
    timer := if loaded.2 then options.timer.schedule now else options.timer
    cache := compiled.2
    compiled := ⟨compiled.1, stamp⟩ }

/-- A session opens exactly when what is stored can be read. -/
lemma load_eq_ok_iff : Session.load instrument store options now stamp = .ok s ↔
    ∃ stored, store.load = .ok stored ∧ s = opened instrument store options now stamp stored := by
  unfold Session.load
  cases store.load with
  | error e => simp [bind, Except.bind]
  | ok stored =>
    constructor
    · intro h
      exact ⟨stored, rfl, (Except.ok.inj h).symm⟩
    · rintro ⟨other, hother, rfl⟩
      obtain rfl := Except.ok.inj hother
      rfl

/-- A session opens when what is stored can be read, and then on the loaded model. -/
lemma exists_load_eq_ok (h : store.load = .ok stored) (instrument : Instrument)
    (options : SessionOptions) (now : Nat) (stamp : Timestamp) :
    ∃ s, Session.load instrument store options now stamp = .ok s ∧
      s.model = (Model.load instrument stored).1 :=
  ⟨_, load_eq_ok_iff.mpr ⟨stored, h, rfl⟩, rfl⟩

/-- Nothing else opens a session. -/
lemma model_of_load_eq_ok (h : Session.load instrument store options now stamp = .ok s) :
    ∃ stored, store.load = .ok stored ∧ s.model = (Model.load instrument stored).1 := by
  obtain ⟨stored, hstored, rfl⟩ := load_eq_ok_iff.mp h
  exact ⟨stored, hstored, rfl⟩

/-- What a session is opened with: the loaded model, the given store, and a pending save exactly
when loading has changed what was stored. -/
lemma state_of_load_eq_ok (h : Session.load instrument store options now stamp = .ok s) :
    ∃ stored, store.load = .ok stored ∧ s.model = (Model.load instrument stored).1 ∧
      s.store = store ∧ s.timer.isPending = (Model.load instrument stored).2 := by
  obtain ⟨stored, hstored, rfl⟩ := load_eq_ok_iff.mp h
  refine ⟨stored, hstored, rfl, rfl, ?_⟩
  cases hupgraded : (Model.load instrument stored).2 <;>
    simp [opened, hupgraded, SessionOptions.timer, Timer.isPending, Timer.ofDelay, Timer.schedule]

end Opening

/-! ### The model after an action -/

/-- What asking for the due save does: it saves and tells what has come of it, or there is nothing
to be done. -/
lemma poll_cases (s : Session) (now : Nat) (stamp : Timestamp) :
    (∃ s', save stamp { s with timer := s.timer.cancel } = .ok () s' ∧
      s.poll now stamp = .ok true s') ∨
    (∃ cause s', save stamp { s with timer := s.timer.cancel } = .error cause s' ∧
      s.poll now stamp = .error cause s') ∨
    s.poll now stamp = .ok false s := by
  by_cases hdue : s.timer.isDue now = true
  · simp only [poll, Timer.takeDue, hdue, if_true]
    cases hsave : save stamp { s with timer := s.timer.cancel } with
    | ok u s' => exact .inl ⟨s', rfl, rfl⟩
    | error cause s' => exact .inr (.inl ⟨cause, s', rfl, rfl⟩)
  · simp only [poll, Timer.takeDue, hdue, if_false, Bool.false_eq_true]
    exact .inr (.inr trivial)

/-- Saving changes derived data only. -/
lemma choices_model_save (s : Session) (stamp : Timestamp) :
    (finalState (save stamp s)).model.choices = s.model.choices := by
  unfold save
  split <;> rfl

/-- An edit leaves behind its result, up to the relations that are rebuilt after it. -/
lemma choices_model_act_edit (s : Session) (e : Edit) (now : Nat) (stamp : Timestamp) :
    (s.act (.edit e now stamp)).model.choices = (e.result s.model).choices := by
  simp only [act, edit, Edit.result]
  cases e.apply s.model <;> rfl

/-- No action other than an edit changes a choice. -/
lemma choices_model_act_of_not_edit (s : Session) {a : Action}
    (h : ∀ e now stamp, a ≠ .edit e now stamp) : (s.act a).model.choices = s.model.choices := by
  cases a with
  | edit e now stamp => exact absurd rfl (h e now stamp)
  | poll now stamp =>
    have hsave := choices_model_save { s with timer := s.timer.cancel } stamp
    rw [act]
    rcases s.poll_cases now stamp with ⟨s', hs', hpoll⟩ | ⟨cause, s', hs', hpoll⟩ | hpoll
    · rw [hs'] at hsave
      rw [hpoll]
      exact hsave
    · rw [hs'] at hsave
      rw [hpoll]
      exact hsave
    · rw [hpoll]
      rfl
  | flush stamp => exact choices_model_save _ stamp
  | recompile stamp => rfl
  | rejectWrites rejecting => rfl

/-- A property of the choices of a model that every edit keeps, carried out or refused, holds
throughout a run once it holds at its start. -/
lemma model_run_of_result {P : Model → Prop} (hchoices : ∀ m : Model, P m.choices ↔ P m)
    (hresult : ∀ (m : Model) (e : Edit), P m → P (e.result m)) {s : Session} (h : P s.model)
    (actions : List Action) : P (s.run actions).model := by
  induction actions using List.reverseRecOn with
  | nil => exact h
  | append_singleton actions a ih =>
    rw [run_append_singleton, ← hchoices]
    by_cases ha : ∃ e now stamp, a = .edit e now stamp
    · obtain ⟨e, now, stamp, rfl⟩ := ha
      rw [choices_model_act_edit, hchoices]
      exact hresult _ e ih
    · rw [choices_model_act_of_not_edit _ fun e now stamp heq => ha ⟨e, now, stamp, heq⟩, hchoices]
      exact ih

end Session

end Psychometrics
