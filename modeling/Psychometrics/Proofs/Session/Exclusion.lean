import Mathlib
import Psychometrics.Proofs.Scaling.Exclusion
import Psychometrics.Proofs.Session.Reopening

/-!
# Excluding items in any order

The items that a user leaves out of a measurement are excluded one after the other, and each
exclusion has its consequences for the stored rules and for the compiled text.  In the end only
matters which items were excluded, and not in which order or when (`Session.exclusions_perm`).  The
argument is about models (`Model.foldl_afterExclusion_perm`); a session contributes that all rules
that its model needs are stored.
-/

namespace Psychometrics.Session

variable {s : Session} {instrument : Instrument} {store : Store} {options : SessionOptions}
  {now : Nat} {stamp : Timestamp}

/-- An edit acts on the model of a session alone, wherever the times and the store stand. -/
lemma model_act_edit (s : Session) (e : Edit) (now : Nat) (stamp : Timestamp) :
    (s.act (.edit e now stamp)).model = s.model.afterEdit e := by
  rw [act, edit, Model.afterEdit]
  cases e.apply s.model <;> rfl

/-- The exclusions of some items, each at its time. -/
def exclusions (calls : List (Int64 × Nat × Timestamp)) : List Action :=
  calls.map fun call => .edit (.exclusion call.1 true) call.2.1 call.2.2

/-- After a run of exclusions the items have been excluded from the model one by one. -/
lemma model_run_exclusions (s : Session) (calls : List (Int64 × Nat × Timestamp)) :
    (s.run (exclusions calls)).model = (calls.map Prod.fst).foldl Model.afterExclusion s.model := by
  induction calls generalizing s with
  | nil => rfl
  | cons call calls ih =>
    rw [List.map_cons, List.foldl_cons, Model.afterExclusion,
      ← model_act_edit s _ call.2.1 call.2.2]
    exact ih _

/-- Items can be excluded in any order.  After any run of a session on an instrument in which no
facet bears the reserved key of the single latent variable, the same items are excluded in two
orders and at any times, known items and unknown ones.  The models that result are the same, with
all stored rules and relations, and so are the compiled texts if the key texts of either run have
different digests. -/
theorem exclusions_perm (h : Session.load instrument store options now stamp = .ok s)
    (hfree : ∀ facet ∈ instrument.facets, facet.id ≠ Latent.unidimKey) (actions : List Action)
    {first second : List (Int64 × Nat × Timestamp)}
    (hperm : (first.map Prod.fst).Perm (second.map Prod.fst)) :
    (s.run (actions ++ exclusions first)).model = (s.run (actions ++ exclusions second)).model ∧
      (Sha256.NoCollision (s.keyTexts (actions ++ exclusions first)) →
        Sha256.NoCollision (s.keyTexts (actions ++ exclusions second)) →
          (s.run (actions ++ exclusions first)).compiled.text =
            (s.run (actions ++ exclusions second)).compiled.text) := by
  have hmodel : (s.run (actions ++ exclusions first)).model =
      (s.run (actions ++ exclusions second)).model := by
    have hrun : ∀ calls, s.run (actions ++ exclusions calls) =
        (s.run actions).run (exclusions calls) := fun calls => List.foldl_append
    rw [hrun, hrun, model_run_exclusions, model_run_exclusions]
    exact Model.foldl_afterExclusion_perm hperm (hasCompleteRules_run h actions)
      (by rwa [instrument_run h])
  refine ⟨hmodel, fun hfirst hsecond => ?_⟩
  rw [text_compiled_run h _ hfirst, text_compiled_run h _ hsecond, hmodel]

/-- A configuration without blank references is loaded as it was written. -/
lemma load_ofHeld_toJson {c : Configuration} (h : c.named = c) :
    (Store.ofHeld (some c.toJson)).load = .ok (some c) := by
  simp only [Store.load, Store.ofHeld, Configuration.ofStored?_toJson, h]

/-- An instrument with two facets. -/
def pairedFacets : Instrument where
  facets := [{ id := "f", name := "Joy" }, { id := "g", name := "Pride" }]
  items := [{ id := 1, text := "I enjoy my work", facetId := some "f" },
    { id := 2, text := "Work is fun", facetId := some "f" },
    { id := 3, text := "I look forward to work", facetId := some "f" },
    { id := 4, text := "I am proud of my work", facetId := some "g" }]

/-- A configuration in which the first item and the first facet are references. -/
def pairedConfiguration : Configuration where
  modes := ((∅ : Table Mode).insert "f" .reflective).insert "g" .reflective
  scaling := (∅ : Table ScalingRule).insert "f" (.fixingLoadingOf "1")
  secondOrder := { mode := some .reflective, scaling := some (.fixingLoadingOf "f") }

/-- The reference of a facet and the only item of the other facet are excluded. -/
def pairedCalls : List (Int64 × Nat × Timestamp) :=
  [(1, 0, epoch), (4, 10, epoch)]

/-- The same exclusions the other way round and at other times. -/
def swappedCalls : List (Int64 × Nat × Timestamp) :=
  [(4, 5, epoch), (1, 20, epoch)]

/-- A configuration in which the only facet of an instrument is reflective. -/
def loneConfiguration : Configuration where
  modes := (∅ : Table Mode).insert "f" .reflective

/-- That configuration as it is loaded for an instrument with one facet and one item. -/
def loneModel : Model :=
  Model.upgrade ⟨oneFacet, loneConfiguration⟩

/-- The only item and an unknown one are excluded. -/
def loneCalls : List (Int64 × Nat × Timestamp) :=
  [(1, 0, epoch), (2, 10, epoch)]

/-- The unknown item is excluded first. -/
def loneSwapped : List (Int64 × Nat × Timestamp) :=
  [(2, 0, epoch), (1, 10, epoch)]

/-- The second item is unknown. -/
lemma afterExclusion_two {m : Model} (h : m.instrument = oneFacet) : m.afterExclusion 2 = m := by
  refine Model.afterExclusion_of_unknown ?_
  rw [Model.itemLatent?, h]
  rfl

/-- The key of the model changes with the exclusion. -/
lemma key_loneModel_ne : (loneModel.afterExclusion 1).key {} ≠ loneModel.key {} := by
  rw [Model.key_eq_digest, Model.key_eq_digest]
  decide +kernel

/-- The key texts of both runs are that of the loaded model and that without the item. -/
lemma noCollision_lone {store : Store} (h : Session.load oneFacet store {} 0 epoch = .ok s)
    (hmodel : s.model = loneModel) :
    Sha256.NoCollision (s.keyTexts (exclusions loneCalls)) ∧
      Sha256.NoCollision (s.keyTexts (exclusions loneSwapped)) := by
  have hpair : Sha256.NoCollision
      ([loneModel, loneModel.afterExclusion 1].map (·.keyText {})) :=
    Model.noCollision_keyTexts (by simp [key_loneModel_ne.symm])
  have hkey : ∀ calls, (s.run (exclusions calls)).keyText =
      ((calls.map Prod.fst).foldl Model.afterExclusion loneModel).keyText {} := by
    intro calls
    exact keyText_run h _ (by rw [model_run_exclusions, hmodel])
  have htwo : loneModel.afterExclusion 2 = loneModel := afterExclusion_two rfl
  have htwo' : (loneModel.afterExclusion 1).afterExclusion 2 = loneModel.afterExclusion 1 :=
    afterExclusion_two (Model.instrument_afterExclusion _ _)
  have htexts : ∀ c d, s.keyTexts (exclusions [c, d]) = [(s.run (exclusions [])).keyText,
      (s.run (exclusions [c])).keyText, (s.run (exclusions [c, d])).keyText] := fun _ _ => rfl
  constructor
  · rw [loneCalls, htexts, hkey, hkey, hkey]
    exact hpair.mono (by simp [htwo'])
  · rw [loneSwapped, htexts, hkey, hkey, hkey]
    exact hpair.mono (by simp [htwo])

/-- In either order the reference falls to the second item, and the higher-order construct is left
without a fixed loading.  An unknown item can be excluded before or after a known one, and the
compiled text is the same. -/
theorem exclusions_perm_paired :
    (∃ s, Session.load pairedFacets (.ofHeld (some pairedConfiguration.toJson)) {} 0 epoch =
        .ok s ∧
      (s.run (exclusions pairedCalls)).model = (s.run (exclusions swappedCalls)).model ∧
      (s.run (exclusions pairedCalls)).model.scalingRule? (.facet "f") =
        some (.fixingLoadingOf "2") ∧
      (s.run (exclusions pairedCalls)).model.scalingRule? .secondOrder = some .fixVariance) ∧
    ∃ s, Session.load oneFacet (.ofHeld (some loneConfiguration.toJson)) {} 0 epoch = .ok s ∧
      (s.run (exclusions loneCalls)).compiled.text =
        (s.run (exclusions loneSwapped)).compiled.text := by
  constructor
  · have hstored := load_ofHeld_toJson (c := pairedConfiguration) (by cbv)
    obtain ⟨s, hs, hmodel⟩ := exists_load_eq_ok hstored pairedFacets {} 0 epoch
    have hperm : (pairedCalls.map Prod.fst).Perm (swappedCalls.map Prod.fst) :=
      List.Perm.swap 4 1 []
    refine ⟨s, hs, (exclusions_perm hs (by decide) [] hperm).1, ?_, ?_⟩
    · rw [model_run_exclusions, hmodel]
      cbv
    · rw [model_run_exclusions, hmodel]
      cbv
  · have hstored := load_ofHeld_toJson (c := loneConfiguration) rfl
    obtain ⟨s, hs, hmodel⟩ := exists_load_eq_ok hstored oneFacet {} 0 epoch
    have hperm : (loneCalls.map Prod.fst).Perm (loneSwapped.map Prod.fst) :=
      List.Perm.swap 2 1 []
    obtain ⟨hfirst, hsecond⟩ := noCollision_lone hs hmodel
    exact ⟨s, hs, (exclusions_perm hs (by decide) [] hperm).2 hfirst hsecond⟩

end Psychometrics.Session
