import Mathlib
import Psychometrics.Proofs.Scaling.Lapse

/-!
# Identification over the runs of a session

A session is opened on an identified model.  Saves, refusals and recompiling change nothing that
identification depends on, so that it can be lost only by an edit, and only by one that is a lapse
(`Model.isIdentified_result_iff`).

`Session.isIdentified_run_iff` puts this together for whole runs: every state of a run is identified
exactly when no edit of the run is a lapse in the state in which it is made.  Both kinds of lapse do
occur (`Session.exists_run_not_isIdentified`).
-/

namespace Psychometrics.Session

variable {s : Session}

/-- A session is opened on an identified model, whatever was stored. -/
lemma isIdentified_of_load {instrument : Instrument} {store : Store} {options : SessionOptions}
    {now : Nat} {stamp : Timestamp} (h : Session.load instrument store options now stamp = .ok s) :
    s.model.IsIdentified := by
  obtain ⟨stored, -, hmodel⟩ := model_of_load_eq_ok h
  rw [hmodel]
  exact Model.isIdentified_load instrument stored

/-- An edit keeps the model of a session identified exactly when it is no lapse. -/
lemma isIdentified_act_edit_iff (h : s.model.IsIdentified) (e : Edit) (now : Nat)
    (stamp : Timestamp) : (s.act (.edit e now stamp)).model.IsIdentified ↔ ¬ s.model.Lapse e := by
  rw [← Model.isIdentified_choices_iff, choices_model_act_edit, Model.isIdentified_choices_iff]
  exact Model.isIdentified_result_iff h e

/-- No other action has an influence on identification. -/
lemma isIdentified_act_of_not_edit (h : s.model.IsIdentified) {a : Action}
    (ha : ∀ e now stamp, a ≠ .edit e now stamp) : (s.act a).model.IsIdentified := by
  rw [← Model.isIdentified_choices_iff, choices_model_act_of_not_edit s ha]
  exact Model.isIdentified_choices_iff.mpr h

/-- The state after one more action of a run. -/
lemma run_take_succ (s : Session) {actions : List Action} {n : Nat} {a : Action}
    (h : actions[n]? = some a) :
    s.run (actions.take (n + 1)) = (s.run (actions.take n)).act a := by
  rw [List.take_add_one, h, Option.toList_some, run_append_singleton]

/-- Every state of a run has a model in which each latent variable that needs a scaling rule has an
admissible one stored, exactly when no edit of the run is a lapse in the state in which it is
made. -/
theorem isIdentified_run_iff {instrument : Instrument} {store : Store} {options : SessionOptions}
    {now : Nat} {stamp : Timestamp} (h : Session.load instrument store options now stamp = .ok s)
    (actions : List Action) :
    (∀ n, (s.run (actions.take n)).model.IsIdentified) ↔
      ∀ n e time date, actions[n]? = some (.edit e time date) →
        ¬ (s.run (actions.take n)).model.Lapse e := by
  constructor
  · intro hall n e time date hn
    have hnext := hall (n + 1)
    rw [run_take_succ s hn] at hnext
    exact (isIdentified_act_edit_iff (hall n) e time date).mp hnext
  · intro hlapse n
    induction n with
    | zero => exact isIdentified_of_load h
    | succ n ih =>
      cases hn : actions[n]? with
      | none =>
        -- The run is over already.
        rwa [List.take_add_one, hn, Option.toList_none, List.append_nil]
      | some a =>
        rw [run_take_succ s hn]
        by_cases ha : ∃ e time date, a = .edit e time date
        · obtain ⟨e, time, date, rfl⟩ := ha
          exact (isIdentified_act_edit_iff ih e time date).mpr (hlapse n e time date hn)
        · exact isIdentified_act_of_not_edit ih fun e time date heq => ha ⟨e, time, date, heq⟩

/-- An instrument with a single item and no facets. -/
def singleItem : Instrument :=
  { items := [{ id := 1, text := "I enjoy my work" }] }

/-- An instrument of one dimension with two items and a facet that bears the reserved key. -/
def reservedFacet : Instrument where
  dimensionality := some Instrument.unidimensional
  facets := [{ id := Latent.unidimKey }]
  items := [{ id := 1, text := "I enjoy my work" }, { id := 2, text := "Work is fun" }]

/-- A store that holds two written global items for the facet with the reserved key. -/
def reservedStore : Store :=
  .ofHeld (some (.object [("globalReflective", .object [(Latent.unidimKey, .array [
    .object [("id", .string "p"), ("text", .string "Overall")],
    .object [("id", .string "q"), ("text", .string "In general")]])])]))

/-- The configuration in the store with two written global items. -/
def reservedConfiguration : Configuration :=
  { globals := (∅ : Table (List GlobalItem)).insert Latent.unidimKey
      [⟨"p", "Overall"⟩, ⟨"q", "In general"⟩] }

/-- The reserved facet becomes reflective, an item is excluded, and a save fails. -/
def reservedActions : List Action :=
  [.edit (.mode Latent.unidimKey .reflective) 0 epoch, .edit (.exclusion 2 true) 10 epoch,
    .rejectWrites true, .flush epoch]

/-- The equivalence for a run on the instrument whose facet bears the reserved key. -/
theorem isIdentified_run_iff_reserved :
    ∃ s, Session.load reservedFacet reservedStore {} 0 epoch = .ok s ∧
      ((∀ n, (s.run (reservedActions.take n)).model.IsIdentified) ↔
        ∀ n e time date, reservedActions[n]? = some (.edit e time date) →
          ¬ (s.run (reservedActions.take n)).model.Lapse e) := by
  have hstored : reservedStore.load = .ok (some reservedConfiguration) := by cbv
  obtain ⟨s, hs, -⟩ := exists_load_eq_ok hstored reservedFacet {} 0 epoch
  exact ⟨s, hs, isIdentified_run_iff hs _⟩

/-- Both kinds of lapse occur: the only item can be chosen as the reference, and the mode of a facet
with the reserved key can put one of its global items in the place of the reference of the single
latent variable. -/
theorem exists_run_not_isIdentified :
    (∃ s, Session.load singleItem {} {} 0 epoch = .ok s ∧
      ¬ (s.run [.edit (.reference .unidim "1") 0 epoch]).model.IsIdentified) ∧
    (∃ s, Session.load reservedFacet reservedStore {} 0 epoch = .ok s ∧
      ¬ (s.run [.edit (.mode Latent.unidimKey .formative) 0 epoch]).model.IsIdentified) := by
  constructor
  · have hstored : Store.load {} = .ok none := rfl
    obtain ⟨s, hs, hmodel⟩ := exists_load_eq_ok hstored singleItem {} 0 epoch
    refine ⟨s, hs, (isIdentified_act_edit_iff (isIdentified_of_load hs) _ 0 epoch).not.mpr ?_⟩
    rw [hmodel, not_not]
    have hscaled : (Model.load singleItem none).1.scaledLatents = [.unidim] := by cbv
    have hcand : (Model.load singleItem none).1.candidates .unidim =
        [⟨"1", "I enjoy my work"⟩] := by cbv
    exact .reference (by simp [hscaled]) (by simp [hcand, ScalingRule.isCandidate])
      (by simp [hcand, minCandidates])
  · have hstored : reservedStore.load = .ok (some reservedConfiguration) := by cbv
    obtain ⟨s, hs, hmodel⟩ := exists_load_eq_ok hstored reservedFacet {} 0 epoch
    refine ⟨s, hs, (isIdentified_act_edit_iff (isIdentified_of_load hs) _ 0 epoch).not.mpr ?_⟩
    rw [hmodel, not_not]
    have hglobals : (Model.load reservedFacet (some reservedConfiguration)).1.presentGlobals
        (.facet Latent.unidimKey) = [⟨"p", "Overall"⟩, ⟨"q", "In general"⟩] := by cbv
    have hrule : (Model.load reservedFacet (some reservedConfiguration)).1.scalingRule? .unidim =
        some (.fixLoading (some "2")) := by cbv
    have hcand : (Model.load reservedFacet (some reservedConfiguration)).1.candidates .unidim =
        [⟨"1", "I enjoy my work"⟩, ⟨"2", "Work is fun"⟩] := by cbv
    refine .mode (by cbv) (by cbv) hrule hglobals ?_ (by simp [hcand])
    rw [hglobals]
    decide

end Psychometrics.Session
