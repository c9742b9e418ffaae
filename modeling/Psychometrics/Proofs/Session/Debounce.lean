import Mathlib
import Psychometrics.Proofs.Session.Saving
import Psychometrics.Proofs.Session.Timer

/-!
# Debounced saving

Every edit puts the next save off, so that a burst of edits is saved once.  For the timer of a
session, what happens to the session comes down to three kinds of events (`Session.timerEvent`): an
edit that is carried out schedules a save, an attempt to write settles the pending save even when it
fails, and all else leaves the timer alone.  To open a session on a configuration that has to be
brought up to date schedules a save as well.

The law of the timer thereby becomes one about sessions: asking for the due save leads to an attempt
to write exactly when the last edit that was carried out, or the opening, has not been followed by
such an attempt yet, and the delay has passed since
(`Session.takeDue_iff_and_isAttempt_iff`).
-/

namespace Psychometrics.Session

variable {s : Session}

/-! ### Sessions and their timers -/

/-- A write was attempted, with or without success. -/
def Outcome.isAttempt : Outcome → Bool
  | .written => true
  | .failed => true
  | _ => false

/-- What an action means to the timer of the session. -/
def timerEvent (s : Session) : Action → Timer.Event
  | .edit e now stamp => if s.outcome (.edit e now stamp) = .edited then .scheduled now else .idle
  | .poll now stamp => if (s.outcome (.poll now stamp)).isAttempt then .settled else .idle
  | .flush _ => .settled
  | .recompile _ => .idle
  | .rejectWrites _ => .idle

/-- What a list of actions means to the timer, one after the other. -/
def timerEvents (s : Session) : List Action → List Timer.Event
  | [] => []
  | a :: actions => s.timerEvent a :: (s.act a).timerEvents actions

/-- What the opening of a session means to its timer: a save is scheduled if the stored
configuration had to be brought up to date. -/
def openingEvents (instrument : Instrument) (stored : Option Configuration) (now : Nat) :
    List Timer.Event :=
  if (Model.load instrument stored).2 then [.scheduled now] else []

/-- A session that was just opened has the timer that its opening has made. -/
lemma timer_of_load_eq_ok {instrument : Instrument} {store : Store} {options : SessionOptions}
    {now : Nat} {stamp : Timestamp} {stored : Option Configuration}
    (hstored : store.load = .ok stored)
    (h : Session.load instrument store options now stamp = .ok s) :
    s.timer = options.timer.afterAll (openingEvents instrument stored now) := by
  obtain ⟨loaded, hloaded, rfl⟩ := load_eq_ok_iff.mp h
  obtain rfl : stored = loaded := Except.ok.inj (hstored.symm.trans hloaded)
  rw [opened, openingEvents]
  cases (Model.load instrument stored).2 <;> rfl

/-- A save leaves the timer alone. -/
lemma timer_save (s : Session) (stamp : Timestamp) :
    (finalState (save stamp s)).timer = s.timer := by
  unfold save
  split <;> rfl

/-- Asking for the due save leads to an attempt to write exactly when a save is due. -/
lemma isAttempt_outcome_poll (s : Session) (now : Nat) (stamp : Timestamp) :
    (s.outcome (.poll now stamp)).isAttempt = s.timer.isDue now := by
  rw [outcome, poll, Timer.takeDue]
  cases s.timer.isDue now with
  | false => rfl
  | true =>
    simp only [if_true]
    cases save stamp { s with timer := s.timer.cancel } <;> rfl

/-- An action makes of the timer what it means to it. -/
lemma timer_act (s : Session) (a : Action) : (s.act a).timer = s.timer.after (s.timerEvent a) := by
  cases a with
  | edit e now stamp =>
    cases happly : e.apply s.model with
    | ok u m =>
      have hedited : s.outcome (.edit e now stamp) = .edited := by rw [outcome, edit, happly]
      rw [timerEvent, if_pos hedited, act, edit, happly]
      rfl
    | error cause m =>
      have hrefused : s.outcome (.edit e now stamp) = .refused := by rw [outcome, edit, happly]
      rw [timerEvent, hrefused, act, edit, happly]
      rfl
  | poll now stamp =>
    rw [timerEvent, isAttempt_outcome_poll, act, poll, Timer.takeDue]
    cases s.timer.isDue now with
    | false => rfl
    | true =>
      have hsave := timer_save { s with timer := s.timer.cancel } stamp
      simp only [if_true]
      cases hresult : save stamp { s with timer := s.timer.cancel } with
      | ok u s' => rwa [hresult] at hsave
      | error cause s' => rwa [hresult] at hsave
  | flush stamp => exact timer_save _ stamp
  | recompile stamp => rfl
  | rejectWrites rejecting => rfl

/-- The timer after a run is what the run has made of it. -/
lemma timer_run (s : Session) (actions : List Action) :
    (s.run actions).timer = s.timer.afterAll (s.timerEvents actions) := by
  induction actions generalizing s with
  | nil => rfl
  | cons a actions ih =>
    calc (s.run (a :: actions)).timer
        = (s.act a).timer.afterAll ((s.act a).timerEvents actions) := ih _
      _ = (s.timer.after (s.timerEvent a)).afterAll ((s.act a).timerEvents actions) :=
        congrArg (Timer.afterAll · _) (timer_act s a)
      _ = s.timer.afterAll (s.timerEvents (a :: actions)) := rfl

/-! ### The law of debouncing -/

/-- A timer answers by its history, and so does a session, whatever the resolution of the clock.
Taking the due save succeeds exactly when a save was scheduled, neither put off nor cancelled nor
taken since then, and the delay of at most a day has passed.  A session that is asked for the due
save attempts to write exactly when an edit was carried out, or the session was opened on a
configuration that had to be brought up to date, and since then there was no such edit and no
attempt to write, and the delay has passed. -/
theorem takeDue_iff_and_isAttempt_iff :
    (∀ (delay resolution : Nat) (calls : List Timer.Call) (now : Nat),
      (((Timer.ofDelay delay resolution).run calls).takeDue now).1 = true ↔
        ∃ time, Timer.PendingSince ((Timer.ofDelay delay resolution).events calls) time ∧
          time + min delay (Timer.maxDelay resolution) ≤ now) ∧
    ∀ (instrument : Instrument) (store : Store) (options : SessionOptions) (opened : Nat)
      (stamp : Timestamp) (stored : Option Configuration) (s : Session),
      store.load = .ok stored → Session.load instrument store options opened stamp = .ok s →
      ∀ (actions : List Action) (now : Nat) (date : Timestamp),
        ((s.run actions).outcome (.poll now date)).isAttempt = true ↔
          ∃ time, Timer.PendingSince
              (openingEvents instrument stored opened ++ s.timerEvents actions) time ∧
            time + min (options.delay * options.resolution)
              (Timer.maxDelay options.resolution) ≤ now := by
  refine ⟨fun delay resolution calls now => ?_, ?_⟩
  · rw [Timer.fst_takeDue, Timer.run_eq_afterAll, Timer.isDue_afterAll_iff]
  · intro instrument store options opened stamp stored s hstored hload actions now date
    rw [isAttempt_outcome_poll, timer_run, timer_of_load_eq_ok hstored hload,
      ← Timer.afterAll_append, SessionOptions.timer, Timer.isDue_afterAll_iff]

/-- Two edits with a clock that was put back in between: the save is due as long after the second
one as the delay says, neither earlier nor later.  The clock of the session counts nanoseconds. -/
theorem takeDue_iff_and_isAttempt_iff_putBack :
    (((Timer.ofDelay 400).run [.schedule 1000, .schedule 300, .isDue 650]).takeDue 700).1 = true ∧
    ∃ s, Session.load oneFacet (.ofHeld none) { resolution := 1000000 } 0 epoch = .ok s ∧
      ∀ now, ((s.run [.edit (.shortCode (some "we")) 1000 epoch,
        .edit (.shortCode none) 300 epoch]).outcome (.poll now epoch)).isAttempt = true ↔
          400000300 ≤ now := by
  obtain ⟨htimer, hsession⟩ := takeDue_iff_and_isAttempt_iff
  refine ⟨?_, ?_⟩
  · rw [htimer]
    exact ⟨300, ⟨[.scheduled 1000], [.idle], rfl, by simp⟩, by decide⟩
  · have hstored : (Store.ofHeld none).load = .ok none := rfl
    obtain ⟨s, hs, -⟩ := exists_load_eq_ok hstored oneFacet { resolution := 1000000 } 0 epoch
    refine ⟨s, hs, fun now => ?_⟩
    rw [hsession _ _ _ _ _ _ s hstored hs]
    have hevents : openingEvents oneFacet none 0 ++
        s.timerEvents [.edit (.shortCode (some "we")) 1000 epoch,
          .edit (.shortCode none) 300 epoch] =
        (openingEvents oneFacet none 0 ++ [.scheduled 1000]) ++ [.scheduled 300] := by
      rw [List.append_assoc]
      rfl
    rw [hevents]
    have hdelay : min (Timer.defaultDelay * 1000000) (Timer.maxDelay 1000000) = 400000000 := rfl
    simp only [Timer.pendingSince_append_singleton_iff, Timer.Event.scheduled.injEq, hdelay,
      reduceCtorEq, false_and, or_false, exists_eq_left']

end Psychometrics.Session
