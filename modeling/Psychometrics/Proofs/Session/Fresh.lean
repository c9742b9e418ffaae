import Mathlib
import Psychometrics.Proofs.Cache.Transparency
import Psychometrics.Proofs.Session.Saving

/-!
# Derived data is never stale

A session keeps the compiled text of its model, which it takes from its cache, and the relations of
its model, which it rebuilds after an edit and at a save.  This file shows that neither is ever out
of date (`Session.fresh_run`), as long as no two key texts of the run have one digest.

An action either compiles the model that it leaves behind, or leaves the compiled text, the cache
and the choices of the model as they were (`Session.Step.compiled`).  Likewise it either leaves
behind rebuilt relations, or is no successful edit or save and leaves the model as it was
(`Session.Step.indicators`).
-/

namespace Psychometrics.Session

variable {s s' : Session} {o : Outcome} {texts : List String}

/-! ### What an action does to derived data -/

/-- The compiled text and the cache of a state come from compiling its model through a cache. -/
structure IsCompiledThrough (s : Session) (cache : Cache) : Prop where
  text : s.compiled.text = (cache.compile s.model s.options.listing).1
  cache : s.cache = (cache.compile s.model s.options.listing).2

/-- The compiled text, the cache, the options and all choices are the same in two states. -/
structure SameCompiled (s s' : Session) : Prop where
  compiled : s'.compiled = s.compiled
  cache : s'.cache = s.cache
  options : s'.options = s.options
  choices : s'.model.choices = s.model.choices

/-- An action compiles the model that it leaves behind through the cache, or leaves everything about
the compiled text as it was. -/
lemma Step.compiled (h : Step s s' o) :
    s'.IsCompiledThrough s.cache ∧ s'.options = s.options ∨ SameCompiled s s' := by
  cases h with
  | edited applied now stamp => exact .inl ⟨⟨rfl, rfl⟩, rfl⟩
  | refused => exact .inr ⟨rfl, rfl, rfl, rfl⟩
  | written saved =>
    obtain rfl := eq_of_save_eq_ok saved
    exact .inr ⟨rfl, rfl, rfl, rfl⟩
  | failed timer => exact .inr ⟨rfl, rfl, rfl, rfl⟩
  | waiting => exact .inr ⟨rfl, rfl, rfl, rfl⟩
  | recompiled stamp => exact .inl ⟨⟨rfl, rfl⟩, rfl⟩
  | switched rejecting => exact .inr ⟨rfl, rfl, rfl, rfl⟩

/-- After an action the relations are rebuilt, or it was no successful edit or save and has left the
model as it was. -/
lemma Step.indicators (h : Step s s' o) :
    s'.model.configuration.indicators = s'.model.indicators ∨
      o ≠ .edited ∧ o ≠ .written ∧ s'.model = s.model := by
  cases h with
  | edited applied now stamp => exact .inl rfl
  | refused => exact .inr ⟨nofun, nofun, rfl⟩
  | written saved =>
    obtain rfl := eq_of_save_eq_ok saved
    exact .inl rfl
  | failed timer => exact .inr ⟨nofun, nofun, rfl⟩
  | waiting => exact .inr ⟨nofun, nofun, rfl⟩
  | recompiled stamp => exact .inr ⟨nofun, nofun, rfl⟩
  | switched rejecting => exact .inr ⟨nofun, nofun, rfl⟩

/-! ### Key texts of a run -/

/-- The key text of the model of a session under its options. -/
def keyText (s : Session) : String :=
  s.model.keyText s.options.listing

/-- The key texts of all states of a run, the first one included.  Only models of these states are
compiled, under the options of the session. -/
def keyTexts (s : Session) : List Action → List String
  | [] => [s.keyText]
  | a :: actions => s.keyText :: (s.act a).keyTexts actions

/-- A run with one action more looks up one key text more. -/
lemma keyTexts_append_singleton (s : Session) (actions : List Action) (a : Action) :
    s.keyTexts (actions ++ [a]) = s.keyTexts actions ++ [(s.run (actions ++ [a])).keyText] := by
  induction actions generalizing s with
  | nil => rfl
  | cons first actions ih =>
    rw [List.cons_append, keyTexts, ih, keyTexts, List.cons_append]
    rfl

/-! ### Fresh sessions -/

/-- The compiled text of a session is that of its model, and its cache is sound. -/
structure IsFresh (s : Session) (texts : List String) : Prop where
  text : s.compiled.text = s.model.text s.options.listing
  sound : s.cache.IsSound texts

/-- Compiling through a sound cache makes a session fresh. -/
lemma IsCompiledThrough.isFresh {cache : Cache} (h : s.IsCompiledThrough cache)
    (hsound : cache.IsSound texts) (hno : Sha256.NoCollision texts) (hkey : s.keyText ∈ texts) :
    s.IsFresh texts where
  text := h.text.trans (hsound.fst_compile hno hkey)
  sound := by
    rw [h.cache]
    exact hsound.snd_compile hkey

/-- An action keeps a session fresh. -/
lemma IsFresh.step (h : s.IsFresh texts) (hstep : Step s s' o) (hno : Sha256.NoCollision texts)
    (hkey : s'.keyText ∈ texts) : s'.IsFresh texts := by
  rcases hstep.compiled with ⟨hcompiled, -⟩ | hsame
  · exact hcompiled.isFresh h.sound hno hkey
  · refine ⟨?_, ?_⟩
    · rw [hsame.compiled, hsame.options, h.text]
      exact (Model.text_eq_of_choices_eq hsame.choices _).symm
    · rw [hsame.cache]
      exact h.sound

section Run

variable {instrument : Instrument} {store : Store} {options : SessionOptions} {now : Nat}
  {stamp : Timestamp}

/-- A session is opened with the given options, and its model is compiled through a new cache. -/
lemma compiled_of_load_eq_ok (h : Session.load instrument store options now stamp = .ok s) :
    s.options = options ∧ s.IsCompiledThrough {} := by
  obtain ⟨stored, -, rfl⟩ := load_eq_ok_iff.mp h
  exact ⟨rfl, rfl, rfl⟩

/-- The options of a session never change. -/
lemma options_run (h : Session.load instrument store options now stamp = .ok s)
    (actions : List Action) : (s.run actions).options = options := by
  induction actions using List.reverseRecOn with
  | nil => exact (compiled_of_load_eq_ok h).1
  | append_singleton actions a ih =>
    rw [run_append_singleton, ← ih]
    rcases (step_act (hasSlots_run h actions) a).compiled with ⟨-, hoptions⟩ | hsame
    · exact hoptions
    · exact hsame.options

/-- The key text of a state is that of any model with the same choices. -/
lemma keyText_run (h : Session.load instrument store options now stamp = .ok s)
    (actions : List Action) {m : Model} (hchoices : (s.run actions).model.choices = m.choices) :
    (s.run actions).keyText = m.keyText options.listing := by
  rw [keyText, options_run h]
  exact Model.keyText_eq_of_choices_eq hchoices _

/-- A session is fresh in every state of a run. -/
lemma isFresh_run (h : Session.load instrument store options now stamp = .ok s)
    (hno : Sha256.NoCollision texts) (actions : List Action)
    (hkeys : ∀ text ∈ s.keyTexts actions, text ∈ texts) : (s.run actions).IsFresh texts := by
  induction actions using List.reverseRecOn with
  | nil =>
    have hempty : Cache.IsSound {} texts := Cache.isSound_of_entries_eq_nil rfl texts
    exact (compiled_of_load_eq_ok h).2.isFresh hempty hno (hkeys _ List.mem_cons_self)
  | append_singleton actions a ih =>
    rw [keyTexts_append_singleton] at hkeys
    have hbefore := ih fun text htext => hkeys text (List.mem_append_left _ htext)
    have hkey : ((s.run actions).act a).keyText ∈ texts := by
      rw [← run_append_singleton]
      exact hkeys _ (by simp)
    rw [run_append_singleton]
    exact hbefore.step (step_act (hasSlots_run h actions) a) hno hkey

/-- The compiled text of a session is that of its model in every state of a run. -/
lemma text_compiled_run (h : Session.load instrument store options now stamp = .ok s)
    (actions : List Action) (hno : Sha256.NoCollision (s.keyTexts actions)) :
    (s.run actions).compiled.text = (s.run actions).model.text options.listing := by
  have hfresh := isFresh_run h hno actions fun _ htext => htext
  rw [hfresh.text, options_run h actions]

/-- After a successful edit or save the relations of the model are the present ones. -/
lemma indicators_run (h : Session.load instrument store options now stamp = .ok s)
    (actions : List Action)
    (hdone : .edited ∈ s.outcomes actions ∨ .written ∈ s.outcomes actions) :
    (s.run actions).model.configuration.indicators = (s.run actions).model.indicators := by
  induction actions using List.reverseRecOn with
  | nil => simp [outcomes] at hdone
  | append_singleton actions a ih =>
    rw [run_append_singleton]
    have hstep := step_act (hasSlots_run h actions) a
    rcases hstep.indicators with hrebuilt | ⟨hedited, hwritten, hsame⟩
    · exact hrebuilt
    · rw [outcomes_append_singleton, List.mem_append, List.mem_append, List.mem_singleton,
        List.mem_singleton, or_iff_left hedited.symm, or_iff_left hwritten.symm] at hdone
      rw [hsame]
      exact ih hdone

/-- Derived data is never stale.  In every state of a session, whatever has happened to it since it
was opened, the compiled text is that of the model, provided that the key texts of the run have
different digests; and as soon as one edit or save has succeeded, the relations of the configuration
are those of the model. -/
theorem fresh_run (h : Session.load instrument store options now stamp = .ok s)
    (actions : List Action) (hno : Sha256.NoCollision (s.keyTexts actions)) :
    (s.run actions).compiled.text = (s.run actions).model.text options.listing ∧
      (.edited ∈ s.outcomes actions ∨ .written ∈ s.outcomes actions →
        (s.run actions).model.configuration.indicators = (s.run actions).model.indicators) :=
  ⟨text_compiled_run h actions hno, indicators_run h actions⟩

end Run

/-- The choice of a short code for the construct. -/
def coding : Action :=
  .edit (.shortCode (some "we")) 0 epoch

/-- On an instrument without facets and items, choosing a short code and saving leads from one key
text to another. -/
lemma keyTexts_coding (h : Session.load {} (.ofHeld none) {} 0 epoch = .ok s) :
    s.keyTexts [coding, .flush epoch] =
      [Cache.bare.keyText {}, Cache.coded.keyText {}, Cache.coded.keyText {}] := by
  obtain ⟨stored, hstored, hmodel⟩ := model_of_load_eq_ok h
  obtain rfl : none = stored := Except.ok.inj hstored
  have hbare : s.model = Cache.bare := by
    rw [hmodel]
    cbv
  have hresult : (Edit.shortCode (some "we")).result Cache.bare = Cache.coded := rfl
  have hcoded : (s.act coding).model.choices = Cache.coded.choices := by
    rw [coding, choices_model_act_edit, hbare, hresult]
  have hsaved : ((s.act coding).act (.flush epoch)).model.choices = Cache.coded.choices :=
    (choices_model_save _ epoch).trans hcoded
  have hfirst : s.keyText = Cache.bare.keyText {} := keyText_run h [] (congrArg _ hbare)
  have hsecond : (s.act coding).keyText = Cache.coded.keyText {} := keyText_run h [coding] hcoded
  have hthird : ((s.act coding).act (.flush epoch)).keyText = Cache.coded.keyText {} :=
    keyText_run h [coding, .flush epoch] hsaved
  rw [keyTexts, keyTexts, keyTexts, hfirst, hsecond, hthird]

/-- A session on an empty instrument, in which the construct gets a short code and is saved. -/
theorem fresh_run_coding :
    ∃ s, Session.load {} (.ofHeld none) {} 0 epoch = .ok s ∧
      (s.run [coding, .flush epoch]).compiled.text =
        (s.run [coding, .flush epoch]).model.text {} ∧
      (s.run [coding, .flush epoch]).model.configuration.indicators =
        (s.run [coding, .flush epoch]).model.indicators := by
  have hstored : (Store.ofHeld none).load = .ok none := rfl
  obtain ⟨s, hs, -⟩ := exists_load_eq_ok hstored {} {} 0 epoch
  have hno : Sha256.NoCollision (s.keyTexts [coding, .flush epoch]) := by
    rw [keyTexts_coding hs]
    exact Cache.noCollision_coded.mono (by simp)
  have hedited : Outcome.edited ∈ s.outcomes [coding, .flush epoch] := by
    have hfirst : s.outcome coding = .edited := rfl
    rw [outcomes, hfirst]
    exact List.mem_cons_self
  obtain ⟨htext, hindicators⟩ := fresh_run hs [coding, .flush epoch] hno
  exact ⟨s, hs, htext, hindicators (.inl hedited)⟩

end Psychometrics.Session
