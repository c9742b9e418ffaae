import Mathlib
import Psychometrics.Session.Timer

/-!
# The history of a timer

A timer keeps a single deadline, but what it answers is a matter of its whole history.  What can
befall it is that a save is scheduled, that the pending save is settled, or nothing at all
(`Timer.Event`).  A save is due exactly when it was scheduled at some time, was neither put off nor
settled since then, and the delay has passed (`Timer.isDue_afterAll_iff`).  The clock of the owner
need not run forwards for this, and may have any resolution.

The calls that an owner makes are read as such events (`Timer.event`): to cancel settles the pending
save, and so does to take it, but only where it was due.
-/

namespace Psychometrics.Timer

/-! ### Events -/

/-- What befalls a timer: a save is scheduled at a given time, the pending save is settled, or
nothing comes to pass. -/
inductive Event
  | scheduled (time : Nat)
  | settled
  | idle
  deriving DecidableEq

/-- The timer after an event. -/
def after (timer : Timer) : Event → Timer
  | .scheduled time => timer.schedule time
  | .settled => timer.cancel
  | .idle => timer

/-- The timer after a history of events. -/
def afterAll (timer : Timer) (history : List Event) : Timer :=
  history.foldl after timer

/-- A save has been pending since a given time: it was scheduled then, and since then none was
scheduled anew, and none was settled. -/
def PendingSince (history : List Event) (time : Nat) : Prop :=
  ∃ earlier later, history = earlier ++ .scheduled time :: later ∧ ∀ e ∈ later, e = .idle

variable {history : List Event} {e : Event} {time now : Nat}

@[simp] lemma afterAll_nil (timer : Timer) : timer.afterAll [] = timer := rfl

/-- A history with one event more ends with that event. -/
lemma afterAll_append_singleton (timer : Timer) (history : List Event) (e : Event) :
    timer.afterAll (history ++ [e]) = (timer.afterAll history).after e := by
  simp [afterAll]

/-- Events that follow a history are met by the timer that the history leaves. -/
lemma afterAll_append (timer : Timer) (first second : List Event) :
    timer.afterAll (first ++ second) = (timer.afterAll first).afterAll second :=
  List.foldl_append

/-- Nothing is pending before the first event. -/
lemma not_pendingSince_nil : ¬ PendingSince [] time := by
  rintro ⟨earlier, later, h, -⟩
  simp at h

/-- After one event more, the save that is pending is the one just scheduled, or the same as before
if nothing has come to pass. -/
lemma pendingSince_append_singleton_iff :
    PendingSince (history ++ [e]) time ↔
      e = .scheduled time ∨ e = .idle ∧ PendingSince history time := by
  constructor
  · rintro ⟨earlier, later, h, hlater⟩
    induction later using List.reverseRecOn with
    | nil => exact .inl (List.singleton_inj.mp (List.append_inj' h rfl).2)
    | append_singleton later last =>
      rw [← List.cons_append, ← List.append_assoc] at h
      obtain ⟨rfl, hlast⟩ := List.append_inj' h rfl
      rw [List.singleton_inj.mp hlast]
      refine .inr ⟨hlater last (List.mem_append_right _ (List.mem_singleton_self _)), ?_⟩
      exact ⟨earlier, later, rfl, fun o ho => hlater o (List.mem_append_left _ ho)⟩
  · rintro (rfl | ⟨rfl, earlier, later, rfl, hlater⟩)
    · exact ⟨history, [], rfl, nofun⟩
    · refine ⟨earlier, later ++ [.idle], by simp, fun o ho => ?_⟩
      rcases List.mem_append.mp ho with ho | ho
      · exact hlater o ho
      · exact List.mem_singleton.mp ho

/-! ### What a timer answers -/

/-- No event changes the delay of a timer. -/
lemma delay_after (timer : Timer) (e : Event) : (timer.after e).delay = timer.delay := by
  cases e <;> rfl

/-- The delay of a timer never changes. -/
lemma delay_afterAll (timer : Timer) (history : List Event) :
    (timer.afterAll history).delay = timer.delay := by
  induction history using List.reverseRecOn with
  | nil => rfl
  | append_singleton history e ih => rw [afterAll_append_singleton, delay_after, ih]

/-- The deadline of a timer is that of the save that is pending. -/
lemma deadline_afterAll_iff {delay resolution deadline : Nat} :
    ((ofDelay delay resolution).afterAll history).deadline = some deadline ↔
      ∃ time, PendingSince history time ∧ time + min delay (maxDelay resolution) = deadline := by
  induction history using List.reverseRecOn with
  | nil => simp [ofDelay, not_pendingSince_nil]
  | append_singleton history e ih =>
    simp only [afterAll_append_singleton, pendingSince_append_singleton_iff]
    cases e with
    | scheduled time =>
      have hdelay : ((ofDelay delay resolution).afterAll history).delay =
          min delay (maxDelay resolution) :=
        delay_afterAll _ history
      simp [after, schedule, hdelay]
    | settled => simp [after, cancel]
    | idle => simpa [after] using ih

/-- A save is due exactly when it has been pending since some time and the delay has passed, where a
delay of more than a day counts as a day. -/
lemma isDue_afterAll_iff {delay resolution : Nat} :
    ((ofDelay delay resolution).afterAll history).isDue now = true ↔
      ∃ time, PendingSince history time ∧ time + min delay (maxDelay resolution) ≤ now := by
  rw [isDue, Option.any_eq_true]
  simp only [deadline_afterAll_iff, decide_eq_true_eq]
  constructor
  · rintro ⟨deadline, ⟨time, htime, rfl⟩, hnow⟩
    exact ⟨time, htime, hnow⟩
  · rintro ⟨time, htime, hnow⟩
    exact ⟨_, ⟨time, htime, rfl⟩, hnow⟩

/-! ### Calls -/

/-- What the owner of a timer may call. -/
inductive Call
  | schedule (now : Nat)
  | cancel
  | isDue (now : Nat)
  | takeDue (now : Nat)
  deriving DecidableEq

/-- The timer after a call. -/
def call (timer : Timer) : Call → Timer
  | .schedule now => timer.schedule now
  | .cancel => timer.cancel
  | .isDue _ => timer
  | .takeDue now => (timer.takeDue now).2

/-- The timer after a list of calls. -/
def run (timer : Timer) (calls : List Call) : Timer :=
  calls.foldl call timer

/-- What a call brings about.  A save that is not due is not taken, so that nothing comes of it. -/
def event (timer : Timer) : Call → Event
  | .schedule now => .scheduled now
  | .cancel => .settled
  | .isDue _ => .idle
  | .takeDue now => if (timer.takeDue now).1 then .settled else .idle

/-- What a list of calls brings about, one after the other. -/
def events (timer : Timer) : List Call → List Event
  | [] => []
  | c :: calls => timer.event c :: (timer.call c).events calls

/-- A timer is taken as due exactly when it is. -/
lemma fst_takeDue (timer : Timer) (now : Nat) : (timer.takeDue now).1 = timer.isDue now := by
  unfold takeDue
  split
  · next hdue => exact hdue.symm
  · next hdue => exact (Bool.not_eq_true _ ▸ hdue).symm

/-- A call does to a timer what its event does. -/
lemma call_eq_after (timer : Timer) (c : Call) : timer.call c = timer.after (timer.event c) := by
  cases c with
  | schedule now => rfl
  | cancel => rfl
  | isDue now => rfl
  | takeDue now =>
    rw [call, event, fst_takeDue, takeDue]
    cases timer.isDue now <;> rfl

/-- A timer is what the events have made of it that its calls have brought about. -/
lemma run_eq_afterAll (timer : Timer) (calls : List Call) :
    timer.run calls = timer.afterAll (timer.events calls) := by
  induction calls generalizing timer with
  | nil => rfl
  | cons c calls ih =>
    calc timer.run (c :: calls) = (timer.call c).afterAll ((timer.call c).events calls) := ih _
      _ = (timer.after (timer.event c)).afterAll ((timer.call c).events calls) :=
        congrArg (afterAll · _) (call_eq_after timer c)
      _ = timer.afterAll (timer.events (c :: calls)) := rfl

end Psychometrics.Timer
