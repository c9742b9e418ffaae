import Mathlib
import Psychometrics.Proofs.Listing.Reload
import Psychometrics.Proofs.Session.Fresh
import Psychometrics.Proofs.Session.Identification

/-!
# Reopening a saved session

A session that has been saved can be opened again on what was written, and then shows the compiled
text that it had (`Session.reopened_text`).  The configuration itself may come back changed, with
blank references dropped and rules brought up to date; that none of this shows is a matter of the
model (`Model.text_upgrade_named`), once it has the slots and the rules that every model of a run
has.
-/

namespace Psychometrics

/-! ### What every model of a run has -/

/-- No elementary change touches the instrument. -/
lemma Model.Change.instrument_eq {m n : Model} (h : m.Change n) : n.instrument = m.instrument := by
  cases h with
  | mode known mode => exact instrument_withMode _ _ _
  | rule draws => exact instrument_setScalingRule _ _ _
  | exclusions excluded => rfl
  | slots latent => exact instrument_withSlots _ _
  | text htext =>
    obtain ⟨items, item, -, -, rfl⟩ := (setGlobalText?_eq_some_iff _).mp htext
    exact instrument_setGlobals _ _ _
  | secondOrder mode =>
    unfold withSecondOrder
    split <;> simp
  | noSecondOrder => rfl
  | shortCode code => rfl

namespace Session

variable {s s' : Session} {instrument : Instrument} {store : Store} {options : SessionOptions}
  {now : Nat} {stamp : Timestamp}

/-- No action of a session changes the instrument. -/
lemma instrument_run (h : Session.load instrument store options now stamp = .ok s)
    (actions : List Action) : (s.run actions).model.instrument = instrument := by
  have hchange : ∀ {m n : Model}, m.Change n → m.instrument = instrument →
      n.instrument = instrument := fun hmn hm => hmn.instrument_eq.trans hm
  refine model_run_of_change (fun _ => Iff.rfl) hchange ?_ actions
  obtain ⟨stored, -, hmodel⟩ := model_of_load_eq_ok h
  rw [hmodel]
  exact Model.upgrade_of_change (fun _ => Iff.rfl) hchange rfl

/-- After any run of a loaded session, all rules are stored and complete. -/
lemma hasCompleteRules_run (h : Session.load instrument store options now stamp = .ok s)
    (actions : List Action) : (s.run actions).model.HasCompleteRules :=
  model_run_of_result (fun _ => Model.hasCompleteRules_choices_iff) (fun _ e hm => hm.result e)
    (isIdentified_of_load h).hasCompleteRules actions

/-! ### Saving and opening -/

/-- A session opens on any configuration in writing, and shows the text of the model that is loaded
from it. -/
lemma exists_load_toJson (configuration : Configuration) (instrument : Instrument)
    (options : SessionOptions) (now : Nat) (stamp : Timestamp) :
    ∃ s, Session.load instrument (.ofHeld (some configuration.toJson)) options now stamp = .ok s ∧
      s.compiled.text =
        (Model.named ⟨instrument, configuration⟩).upgrade.text options.listing := by
  have hstored : (Store.ofHeld (some configuration.toJson)).load =
      .ok (some configuration.named) := by
    simp only [Store.load, Store.ofHeld, configuration.ofStored?_toJson]
  obtain ⟨s, hs, hmodel⟩ := exists_load_eq_ok hstored instrument options now stamp
  obtain ⟨hoptions, hcompiled⟩ := compiled_of_load_eq_ok hs
  refine ⟨s, hs, ?_⟩
  rw [hcompiled.text, hmodel, hoptions]
  rfl

/-- A saved session shows the same when it is reopened.  After any run whose key texts have
different digests, once a save succeeds, at once or when it is due, a session can be opened on the
same instrument, with the same options, and on a new store with what was written; and its compiled
text is that of the saved session. -/
theorem reopened_text (h : Session.load instrument store options now stamp = .ok s)
    (actions : List Action) (hno : Sha256.NoCollision (s.keyTexts actions))
    (hsaved : (∃ date, (s.run actions).flush date = .ok () s') ∨
      ∃ time date, (s.run actions).poll time date = .ok true s') (now' : Nat)
    (stamp' : Timestamp) :
    ∃ r, Session.load instrument (.ofHeld s'.store.held) options now' stamp' = .ok r ∧
      r.compiled.text = s'.compiled.text := by
  have hsave : ∃ date timer, save date { s.run actions with timer } = .ok () s' := by
    rcases hsaved with ⟨date, hflush⟩ | ⟨time, date, hpoll⟩
    · exact ⟨date, _, hflush⟩
    · rcases (s.run actions).poll_cases time date with ⟨t, ht, hsome⟩ | ⟨cause, t, -, hsome⟩ | hsome
      · cases hsome.symm.trans hpoll
        exact ⟨date, _, ht⟩
      · cases hsome.symm.trans hpoll
      · cases hsome.symm.trans hpoll
  obtain ⟨date, timer, hsave⟩ := hsave
  obtain rfl := eq_of_save_eq_ok hsave
  -- What is loaded is what was written, and loading completes nothing in it.
  set saved : Model := ⟨instrument, payload { s.run actions with timer } date⟩ with hmodel
  have hchoices : saved.choices = (s.run actions).model.choices := by
    rw [hmodel, ← instrument_run h actions]
    rfl
  have hslots : saved.HasSlots := by
    rw [← Model.hasSlots_choices_iff, hchoices, Model.hasSlots_choices_iff]
    exact hasSlots_run h actions
  have hrules : saved.HasRules := by
    rw [← Model.hasRules_choices_iff, hchoices, Model.hasRules_choices_iff]
    exact (hasCompleteRules_run h actions).hasRules
  obtain ⟨r, hr, htext⟩ := exists_load_toJson saved.configuration instrument options now' stamp'
  refine ⟨r, hr, ?_⟩
  calc r.compiled.text = saved.named.upgrade.text options.listing := htext
    _ = saved.text options.listing := Model.text_upgrade_named hslots hrules _
    _ = (s.run actions).model.text options.listing := Model.text_eq_of_choices_eq hchoices _
    _ = (s.run actions).compiled.text := (text_compiled_run h actions hno).symm

/-- Loading makes a global item with a blank id the reference of a facet.  That rule is saved, its
reference is dropped when the session is reopened, and the compiled text is the same. -/
theorem reopened_text_blankShorter :
    ∃ s s' r, Session.load Model.bareFacet (.ofHeld (some Model.blankShorter.toJson)) {} 0 epoch =
        .ok s ∧
      s.model.scalingRule? (.facet "f") = some (.fixingLoadingOf " ") ∧
      s.flush epoch = .ok () s' ∧
      Session.load Model.bareFacet (.ofHeld s'.store.held) {} 1 epoch = .ok r ∧
      r.compiled.text = s'.compiled.text := by
  have hnamed : Model.blankShorter.named = Model.blankShorter := rfl
  have hstored : (Store.ofHeld (some Model.blankShorter.toJson)).load =
      .ok (some Model.blankShorter) := by
    simp only [Store.load, Store.ofHeld, Configuration.ofStored?_toJson, hnamed]
  obtain ⟨s, hs, hmodel⟩ := exists_load_eq_ok hstored Model.bareFacet {} 0 epoch
  have hrule : s.model.scalingRule? (.facet "f") = some (.fixingLoadingOf " ") := by
    rw [hmodel]
    cbv
  have hno : Sha256.NoCollision (s.keyTexts []) := by
    intro text htext other hother _
    rw [List.mem_singleton.mp htext, List.mem_singleton.mp hother]
  obtain ⟨s', hflush⟩ : ∃ s', s.flush epoch = .ok () s' := by
    obtain ⟨-, -, -, hstore, -⟩ := state_of_load_eq_ok hs
    rw [flush, save, Store.write, hstore]
    exact ⟨_, rfl⟩
  obtain ⟨r, hr, htext⟩ := reopened_text hs [] hno (.inl ⟨epoch, hflush⟩) 1 epoch
  exact ⟨s, s', r, hs, hrule, hflush, hr, htext⟩

end Session

end Psychometrics
