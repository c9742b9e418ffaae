import Mathlib
import Psychometrics.Proofs.Listing.Restoring
import Psychometrics.Proofs.Scaling.Effective
import Psychometrics.Proofs.Session.Exclusion

/-!
# Taking an excluded item back in a session

Excluding an item and taking it back leaves a session with the items, candidates, relations and
names that it had, and with all rules but those that the two edits bring up to date
(`Session.exclusion_reversible`).  If the item is not the reference of its latent variable and
enough candidates are left without it, the compiled text is the same, unless the item stands in for
a lost reference.  References are lost only in unidimensional models with a facet that bears the
reserved key of the single latent variable; there it does happen
(`Session.exists_exclusion_not_reversible`).
-/

namespace Psychometrics

/-- No edit touches the instrument. -/
lemma Model.instrument_result (m : Model) (e : Edit) : (e.result m).instrument = m.instrument :=
  keeps_of_changes (P := fun n => n.instrument = m.instrument)
    (fun hchange hn => hchange.instrument_eq.trans hn) (m.changes_result e) rfl

namespace Session

variable {s : Session} {instrument : Instrument} {store : Store} {options : SessionOptions}
  {now : Nat} {stamp : Timestamp}

/-! ### Lost references -/

/-- Throughout a session the rule of every latent variable that needs one draws on its
candidates. -/
lemma hasDrawnRules_run (h : Session.load instrument store options now stamp = .ok s)
    (hkey : ¬ instrument.SharesKey) (actions : List Action) :
    (s.run actions).model.HasDrawnRules := by
  have hresult : ∀ (m : Model) (e : Edit), m.instrument = instrument ∧ m.HasDrawnRules →
      (e.result m).instrument = instrument ∧ (e.result m).HasDrawnRules :=
    fun m e hm => ⟨(m.instrument_result e).trans hm.1, hm.2.result (by rwa [hm.1]) e⟩
  exact (model_run_of_result
    (fun _ => and_congr_right fun _ => Model.hasDrawnRules_choices_iff) hresult
    ⟨instrument_run h [], (isIdentified_of_load h).hasDrawnRules⟩ actions).2

/-- References are lost only where a facet shares the key of the single latent variable. -/
lemma sharesKey_of_standsIn (h : Session.load instrument store options now stamp = .ok s)
    {actions : List Action} {itemId : Int64} (hstands : (s.run actions).model.StandsIn itemId) :
    instrument.SharesKey := by
  by_contra hkey
  obtain ⟨hu, ⟨rule, hrule, hlost⟩, -⟩ := hstands
  have hdraws := hasDrawnRules_run h hkey actions .unidim (by simp [Model.scaledLatents, hu]) rule
    hrule
  refine hdraws.not_isLost (fun c hc => ?_) hlost
  rw [Model.candidates_unidim] at hc
  exact Model.isBlankText_of_mem_map_itemCandidate hc

/-! ### Excluding and taking back -/

/-- An item is excluded at some time. -/
def excluding (itemId : Int64) (time : Nat × Timestamp) : Action :=
  .edit (.exclusion itemId true) time.1 time.2

/-- An item is taken back at some time. -/
def restoring (itemId : Int64) (time : Nat × Timestamp) : Action :=
  .edit (.exclusion itemId false) time.1 time.2

/-- A run that ends with an exclusion leaves the model after the exclusion. -/
lemma model_run_excluding (s : Session) (actions : List Action) (itemId : Int64)
    (out : Nat × Timestamp) : (s.run (actions ++ [excluding itemId out])).model =
      (s.run actions).model.afterExclusion itemId := by
  rw [run_append_singleton]
  exact model_act_edit _ _ _ _

/-- A run that ends with an exclusion taken back leaves the model after the detour. -/
lemma model_run_restoring (s : Session) (actions : List Action) (itemId : Int64)
    (out back : Nat × Timestamp) :
    (s.run (actions ++ [excluding itemId out, restoring itemId back])).model =
      (s.run actions).model.afterDetour itemId := by
  rw [List.append_cons, run_append_singleton, Model.afterDetour, ← model_run_excluding s _ _ out]
  exact model_act_edit _ _ _ _

/-- Exclusion is reversible.  After any run of a session, let an item be excluded that was accepted
and not excluded from its latent variable, and then be taken back.  All active items, candidates,
relations and names are the same as before, and so are all stored rules but that of the latent
variable of the item and that of the higher-order construct.  If the item was not the stored
reference, at least two candidates were left without it, and the key texts of the run have different
digests, then the compiled text is the same, unless the item stood in for a lost reference; and that
happens only on an instrument of one dimension that has a facet with the reserved key. -/
theorem exclusion_reversible (h : Session.load instrument store options now stamp = .ok s)
    (actions : List Action) {itemId : Int64} {own : Latent}
    (hitem : (s.run actions).model.itemLatent? itemId = some own)
    (hactive : (s.run actions).model.isExcluded own.key itemId = false)
    (out back : Nat × Timestamp) :
    (s.run actions).model.Reversed
        (s.run (actions ++ [excluding itemId out, restoring itemId back])).model own ∧
      (((s.run actions).model.scalingRule? own).bind ScalingRule.reference ≠
          some (Text.ofInt itemId.toInt) →
        2 ≤ ((s.run (actions ++ [excluding itemId out])).model.candidates own).length →
        Sha256.NoCollision
          (s.keyTexts (actions ++ [excluding itemId out, restoring itemId back])) →
        ((s.run (actions ++ [excluding itemId out, restoring itemId back])).compiled.text =
            (s.run actions).compiled.text ↔
          ¬ ((∃ names, (s.run actions).model.names = .ok names) ∧
            (s.run actions).model.StandsIn itemId))) ∧
      ((s.run actions).model.StandsIn itemId → instrument.SharesKey) := by
  rw [model_run_restoring, model_run_excluding, Model.candidates_afterExclusion hitem]
  refine ⟨Model.reversed_afterDetour hitem hactive, fun href henough hno => ?_,
    sharesKey_of_standsIn h⟩
  have hbefore : ∀ text ∈ s.keyTexts actions,
      text ∈ s.keyTexts (actions ++ [excluding itemId out, restoring itemId back]) := by
    intro text htext
    rw [List.append_cons, keyTexts_append_singleton, keyTexts_append_singleton]
    exact List.mem_append_left _ (List.mem_append_left _ htext)
  rw [text_compiled_run h _ hno, text_compiled_run h _ (hno.mono hbefore), model_run_restoring]
  refine Model.text_afterDetour_iff hitem hactive henough
    (hasCompleteRules_run h actions).hasRules href (fun hmulti => ?_) _
  refine hasDrawnRules_run h (fun hkey => ?_) actions
  have hsingle : (s.run actions).model.isUnidimensional = true := by
    rw [Model.isUnidimensional, instrument_run h actions, hkey.1]
  exact Bool.false_ne_true (hmulti.symm.trans hsingle)

/-- One item is excluded from the single latent variable, and nothing else. -/
def excludedOnly (itemId : Int64) : Table ItemSet :=
  (∅ : Table ItemSet).insert Latent.unidimKey ((∅ : ItemSet).insert itemId)

/-- Three items of one dimension, the first of which is the reference. -/
def threeItemsModel (excluded : Table ItemSet) : Model where
  instrument := Model.threeItems
  configuration :=
    { excluded, scaling := (∅ : Table ScalingRule).insert Latent.unidimKey (.fixingLoadingOf "1") }

/-- The first of the three items becomes the reference, and stays it when the second one is excluded
and taken back. -/
lemma choices_threeItems :
    (Model.load Model.threeItems none).1 = threeItemsModel ∅ ∧
      ((threeItemsModel ∅).afterExclusion 2).choices = (threeItemsModel (excludedOnly 2)).choices ∧
      ((threeItemsModel ∅).afterDetour 2).choices = (threeItemsModel ∅).choices :=
  ⟨by cbv, by cbv, by cbv⟩

/-- The two models that are compiled on the way have different keys. -/
lemma nodup_keys_threeItems :
    ([threeItemsModel ∅, threeItemsModel (excludedOnly 2)].map (·.key {})).Nodup := by
  simp only [List.map_cons, List.map_nil, Model.key_eq_digest]
  decide +kernel

/-- The key texts of the model with the second item and of that without it are different. -/
lemma noCollision_threeItems (hs : Session.load Model.threeItems {} {} 0 epoch = .ok s)
    (hmodel : s.model = threeItemsModel ∅) :
    Sha256.NoCollision (s.keyTexts [excluding 2 (0, epoch), restoring 2 (10, epoch)]) := by
  have hfirst : (s.run [excluding 2 (0, epoch)]).model.choices =
      (threeItemsModel (excludedOnly 2)).choices := by
    rw [← List.nil_append [_], model_run_excluding, run_nil, hmodel]
    exact choices_threeItems.2.1
  have hsecond : (s.run [excluding 2 (0, epoch), restoring 2 (10, epoch)]).model.choices =
      (threeItemsModel ∅).choices := by
    rw [← List.nil_append [_, _], model_run_restoring, run_nil, hmodel]
    exact choices_threeItems.2.2
  have hkeys : s.keyTexts [excluding 2 (0, epoch), restoring 2 (10, epoch)] =
      [(s.run []).keyText, (s.run [excluding 2 (0, epoch)]).keyText,
        (s.run [excluding 2 (0, epoch), restoring 2 (10, epoch)]).keyText] := rfl
  rw [hkeys, keyText_run hs [] (congrArg _ hmodel), keyText_run hs _ hfirst,
    keyText_run hs _ hsecond]
  exact (Model.noCollision_keyTexts nodup_keys_threeItems).mono (by simp)

/-- The second of three items is excluded and taken back.  The first one is the reference
throughout, and the compiled text is as it was. -/
theorem exclusion_reversible_threeItems :
    ∃ s, Session.load Model.threeItems {} {} 0 epoch = .ok s ∧
      s.model.Reversed (s.run [excluding 2 (0, epoch), restoring 2 (10, epoch)]).model .unidim ∧
      (s.run [excluding 2 (0, epoch), restoring 2 (10, epoch)]).compiled.text =
        s.compiled.text := by
  have hstored : Store.load {} = .ok none := rfl
  obtain ⟨s, hs, hmodel⟩ := exists_load_eq_ok hstored Model.threeItems {} 0 epoch
  rw [choices_threeItems.1] at hmodel
  have hitem : (s.run []).model.itemLatent? 2 = some .unidim := by
    rw [run_nil, hmodel]
    rfl
  have hactive : (s.run []).model.isExcluded Latent.unidimKey 2 = false := by
    rw [run_nil, hmodel]
    rfl
  obtain ⟨hreversed, htext, hshares⟩ :=
    exclusion_reversible hs [] hitem hactive (0, epoch) (10, epoch)
  refine ⟨s, hs, hreversed, (htext ?_ ?_ (noCollision_threeItems hs hmodel)).mpr
    fun hstands => ?_⟩
  · have hrule : (s.run []).model.scalingRule? .unidim = some (.fixingLoadingOf "1") := by
      rw [run_nil, hmodel]
      cbv
    rw [hrule]
    decide
  · have hcandidates : ((threeItemsModel ∅).afterExclusion 2).candidates .unidim =
        [⟨"1", "a"⟩, ⟨"3", "c"⟩] := by cbv
    rw [model_run_excluding, run_nil, hmodel, hcandidates]
    decide
  · obtain ⟨-, facet, hfacet, -⟩ := hshares hstands.2
    exact absurd hfacet List.not_mem_nil

/-- Three items of one dimension and a facet with the reserved key. -/
def sharedKeyItems : Instrument :=
  { Model.threeItems with
    dimensionality := some Instrument.unidimensional
    facets := [{ id := Latent.unidimKey }] }

/-- A configuration in which that facet has two written global items. -/
def sharedKeyConfiguration : Configuration where
  globals := (∅ : Table (List GlobalItem)).insert Latent.unidimKey [⟨"p", "P"⟩, ⟨"q", "Q"⟩]

/-- That configuration with modes, exclusions and the reference of the single latent variable. -/
def sharedKeyModel (modes : Table Mode) (excluded : Table ItemSet) (reference : String) :
    Model where
  instrument := sharedKeyItems
  configuration :=
    { sharedKeyConfiguration with
      modes, excluded
      scaling := (∅ : Table ScalingRule).insert Latent.unidimKey (.fixingLoadingOf reference) }

/-- The facet with the reserved key is formative. -/
def sharedKeyModes : Table Mode :=
  (∅ : Table Mode).insert Latent.unidimKey .formative

/-- The model after the facet has become formative, which makes one of its global items the
reference of the single latent variable. -/
def lostModel : Model :=
  { sharedKeyModel sharedKeyModes ∅ "p" with
    configuration.indicators := (sharedKeyModel sharedKeyModes ∅ "p").indicators }

/-- The shortest text makes the first item the reference of the single latent variable. -/
lemma load_sharedKey :
    (Model.load sharedKeyItems (some sharedKeyConfiguration)).1 = sharedKeyModel ∅ ∅ "1" := by
  cbv

/-- The mode of the facet puts a global item in the place of that reference. -/
lemma afterEdit_sharedKey :
    (sharedKeyModel ∅ ∅ "1").afterEdit (.mode Latent.unidimKey .formative) = lostModel := by
  cbv

/-- The detour makes the second item the reference, since the first one is away when the lost
reference is replaced. -/
lemma choices_lostModel :
    (lostModel.afterExclusion 1).choices =
        (sharedKeyModel sharedKeyModes (excludedOnly 1) "2").choices ∧
      (lostModel.afterDetour 1).choices = (sharedKeyModel sharedKeyModes ∅ "2").choices :=
  ⟨by cbv, by cbv⟩

/-- The four models that are compiled on the way have different keys. -/
lemma nodup_keys_sharedKey :
    ([sharedKeyModel ∅ ∅ "1", sharedKeyModel sharedKeyModes ∅ "p",
      sharedKeyModel sharedKeyModes (excludedOnly 1) "2",
      sharedKeyModel sharedKeyModes ∅ "2"].map (·.key {})).Nodup := by
  simp only [List.map_cons, List.map_nil, Model.key_eq_digest]
  decide +kernel

/-- The first item stands in for the lost reference of the single latent variable. -/
lemma standsIn_lostModel : lostModel.StandsIn 1 where
  single := rfl
  lost := by
    have hrule : lostModel.scalingRule? .unidim = some (.fixingLoadingOf "p") := by cbv
    have hcandidates : lostModel.candidates .unidim = [⟨"1", "a"⟩, ⟨"2", "b"⟩, ⟨"3", "c"⟩] := by cbv
    refine ⟨_, hrule, by decide, fun id hid => ?_⟩
    obtain rfl : "p" = id := Option.some.inj hid
    rw [hcandidates]
    decide
  first := by
    have hitems : lostModel.activeItems .unidim = Model.threeItems.items := by cbv
    rw [hitems]
    exact ⟨_, rfl, rfl⟩

/-- The detour changes the text, since the item stands in for a lost reference. -/
lemma text_afterDetour_lostModel : (lostModel.afterDetour 1).text {} ≠ lostModel.text {} := by
  have hitem : lostModel.itemLatent? 1 = some .unidim := by cbv
  have hcandidates : (lostModel.exclude Latent.unidimKey 1).candidates .unidim =
      [⟨"2", "b"⟩, ⟨"3", "c"⟩] := by cbv
  have hrule : lostModel.scalingRule? .unidim = some (.fixingLoadingOf "p") := by cbv
  have hrules : lostModel.HasRules := by
    intro latent hl
    rw [Model.eq_unidim_of_mem_scaledLatents rfl hl, hrule]
    rfl
  have hlength : lostModel.nameRequests.length = 6 := by cbv
  have hnames : ∃ names, lostModel.names = .ok names :=
    Model.exists_names_eq_ok (by rw [hlength, Names.length_numbers]; decide)
  have hdrawn : lostModel.isUnidimensional = false → lostModel.HasDrawnRules :=
    fun hmulti => absurd (hmulti.symm.trans standsIn_lostModel.single) Bool.false_ne_true
  intro htext
  exact (Model.text_afterDetour_iff hitem (by cbv) (hcandidates ▸ le_refl 2) hrules
    (by rw [hrule]; decide) hdrawn _).mp htext ⟨hnames, standsIn_lostModel⟩

/-- The facet with the reserved key becomes formative. -/
def reserving : List Action :=
  [.edit (.mode Latent.unidimKey .formative) 0 epoch]

section Reserving

variable (hs : Session.load sharedKeyItems (.ofHeld (some sharedKeyConfiguration.toJson)) {} 0
  epoch = .ok s)

include hs

/-- The session starts with the first item as the reference. -/
lemma model_of_load_sharedKey : s.model = sharedKeyModel ∅ ∅ "1" := by
  have hstored := load_ofHeld_toJson (c := sharedKeyConfiguration) rfl
  obtain ⟨s', hs', hmodel⟩ := exists_load_eq_ok hstored sharedKeyItems {} 0 epoch
  obtain rfl := Except.ok.inj (hs.symm.trans hs')
  rw [hmodel, load_sharedKey]

/-- Once the facet is formative, the reference is lost. -/
lemma model_run_reserving : (s.run reserving).model = lostModel := by
  rw [← afterEdit_sharedKey, ← model_of_load_sharedKey hs]
  exact model_act_edit s _ 0 epoch

/-- The key texts of the loaded model, of the lost one, and of those that follow are different. -/
lemma noCollision_reserving : Sha256.NoCollision
    (s.keyTexts (reserving ++ [excluding 1 (0, epoch), restoring 1 (0, epoch)])) := by
  have hlost := model_run_reserving hs
  have hfirst : (s.run (reserving ++ [excluding 1 (0, epoch)])).model.choices =
      (sharedKeyModel sharedKeyModes (excludedOnly 1) "2").choices := by
    rw [model_run_excluding, hlost]
    exact choices_lostModel.1
  have hsecond : (s.run (reserving ++
      [excluding 1 (0, epoch), restoring 1 (0, epoch)])).model.choices =
        (sharedKeyModel sharedKeyModes ∅ "2").choices := by
    rw [model_run_restoring, hlost]
    exact choices_lostModel.2
  have hkeys : s.keyTexts (reserving ++ [excluding 1 (0, epoch), restoring 1 (0, epoch)]) =
      [(s.run []).keyText, (s.run reserving).keyText,
        (s.run (reserving ++ [excluding 1 (0, epoch)])).keyText,
        (s.run (reserving ++ [excluding 1 (0, epoch), restoring 1 (0, epoch)])).keyText] := rfl
  rw [hkeys, keyText_run hs [] (congrArg _ (model_of_load_sharedKey hs)),
    keyText_run hs _ (congrArg _ hlost), keyText_run hs _ hfirst, keyText_run hs _ hsecond]
  exact Model.noCollision_keyTexts nodup_keys_sharedKey

end Reserving

/-- In a unidimensional model the mode of a facet with the reserved key makes a global item the
reference of the single latent variable.  The first item, which is not the reference, is then
excluded, while two candidates are left, and taken back; after that the compiled text fixes the
loading of another item. -/
theorem exists_exclusion_not_reversible :
    ∃ s, Session.load sharedKeyItems (.ofHeld (some sharedKeyConfiguration.toJson)) {} 0 epoch =
        .ok s ∧
      (s.run reserving).model.itemLatent? 1 = some .unidim ∧
      (s.run reserving).model.isExcluded Latent.unidimKey 1 = false ∧
      (s.run reserving).model.scalingRule? .unidim = some (.fixingLoadingOf "p") ∧
      2 ≤ ((s.run (reserving ++ [excluding 1 (0, epoch)])).model.candidates .unidim).length ∧
      (s.run (reserving ++ [excluding 1 (0, epoch), restoring 1 (0, epoch)])).compiled.text ≠
        (s.run reserving).compiled.text := by
  have hstored := load_ofHeld_toJson (c := sharedKeyConfiguration) rfl
  obtain ⟨s, hs, -⟩ := exists_load_eq_ok hstored sharedKeyItems {} 0 epoch
  have hlost := model_run_reserving hs
  have hno := noCollision_reserving hs
  have hbefore : Sha256.NoCollision (s.keyTexts reserving) :=
    hno.mono (by simp [reserving, excluding, restoring, keyTexts])
  have hcandidates : (lostModel.afterExclusion 1).candidates .unidim =
      [⟨"2", "b"⟩, ⟨"3", "c"⟩] := by cbv
  refine ⟨s, hs, ?_, ?_, ?_, ?_, ?_⟩
  · rw [hlost]
    cbv
  · rw [hlost]
    cbv
  · rw [hlost]
    cbv
  · rw [model_run_excluding, hlost, hcandidates]
    decide
  · rw [text_compiled_run hs _ hno, text_compiled_run hs _ hbefore, model_run_restoring, hlost]
    exact text_afterDetour_lostModel

end Session

end Psychometrics
