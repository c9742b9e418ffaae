import Mathlib
import Psychometrics.Cache.Basic
import Psychometrics.Proofs.Cache.Key

/-!
# Transparency of the compile cache

A cache answers as if it compiled every time, as long as no two of the texts that its keys are made
from have one digest (`Sha256.NoCollision`).  What carries this through a run is that every entry
belongs to a model and options whose key text was used (`Cache.IsSound`); neither the entry that is
added by compiling nor the entries that are given up for it break that.

`Cache.transparent_run` says what every call of a run answers, that the cache stays within its
bound, and what the hits count.
-/

namespace Psychometrics

/-- Of the given texts, different ones have different digests. -/
def Sha256.NoCollision (texts : List String) : Prop :=
  ∀ text ∈ texts, ∀ other ∈ texts, ofText text = ofText other → text = other

/-- Fewer texts do not collide if more of them do not. -/
lemma Sha256.NoCollision.mono {texts others : List String} (h : NoCollision others)
    (hsub : ∀ text ∈ texts, text ∈ others) : NoCollision texts :=
  fun text htext other hother => h text (hsub text htext) other (hsub other hother)

/-- Models with different keys have key texts with different digests. -/
lemma Model.noCollision_keyTexts {models : List Model} {options : ListingOptions}
    (h : (models.map (·.key options)).Nodup) :
    Sha256.NoCollision (models.map (·.keyText options)) := by
  intro text htext other hother heq
  obtain ⟨m, hm, rfl⟩ := List.mem_map.mp htext
  obtain ⟨n, hn, rfl⟩ := List.mem_map.mp hother
  rw [List.inj_on_of_nodup_map h hm hn heq]

namespace Cache

variable {cache : Cache} {texts : List String} {m : Model} {options : ListingOptions}

/-! ### Sound entries -/

/-- Every entry is the compiled text of a model under options, by their key, whose text is one of
those given. -/
def IsSound (cache : Cache) (texts : List String) : Prop :=
  ∀ entry ∈ cache.entries, ∃ (m : Model) (options : ListingOptions),
    m.keyText options ∈ texts ∧ entry = (m.key options, m.text options)

/-- An empty cache is sound. -/
lemma isSound_of_entries_eq_nil (h : cache.entries = []) (texts : List String) :
    cache.IsSound texts := by
  intro entry hentry
  rw [h] at hentry
  cases hentry

/-- A cache stays sound when more texts are known. -/
lemma IsSound.mono {others : List String} (h : cache.IsSound texts)
    (hsub : ∀ text ∈ texts, text ∈ others) : cache.IsSound others := by
  intro entry hentry
  obtain ⟨m, options, hkey, rfl⟩ := h entry hentry
  exact ⟨m, options, hsub _ hkey, rfl⟩

/-- What a sound cache remembers is what would be compiled. -/
lemma IsSound.eq_text_of_find? (h : cache.IsSound texts) (hno : Sha256.NoCollision texts)
    (hkey : m.keyText options ∈ texts) {text : String} (hfind : cache.find? m options = some text) :
    text = m.text options := by
  have hmem : (m.key options, text) ∈ cache.entries := by
    obtain ⟨before, after, hentries, -⟩ := List.lookup_eq_some_iff.mp hfind
    simp [hentries]
  obtain ⟨n, other, hother, heq⟩ := h _ hmem
  obtain ⟨hdigest, rfl⟩ := Prod.mk.inj heq
  exact (Model.text_eq_of_keyText_eq (hno _ hkey _ hother hdigest)).symm

/-- Compiling through a sound cache is compiling. -/
lemma IsSound.fst_compile (h : cache.IsSound texts) (hno : Sha256.NoCollision texts)
    (hkey : m.keyText options ∈ texts) : (cache.compile m options).1 = m.text options := by
  unfold compile
  cases hfind : cache.find? m options with
  | some text => exact h.eq_text_of_find? hno hkey hfind
  | none => rfl

/-- A sound cache is sound after compiling through it. -/
lemma IsSound.snd_compile (h : cache.IsSound texts) (hkey : m.keyText options ∈ texts) :
    (cache.compile m options).2.IsSound texts := by
  unfold compile
  cases cache.find? m options with
  | some text => exact h
  | none =>
    intro entry hentry
    rcases List.mem_cons.mp hentry with rfl | hentry
    · exact ⟨m, options, hkey, rfl⟩
    · refine h entry ?_
      unfold kept at hentry
      split at hentry
      · cases hentry
      · exact hentry

/-! ### Runs -/

/-- A call of a cache. -/
inductive Call
  | compile (m : Model) (options : ListingOptions)
  | get (m : Model) (options : ListingOptions)
  | clear

/-- The text whose digest is the key of a call. -/
def Call.keyText? : Call → Option String
  | .compile m options => some (m.keyText options)
  | .get m options => some (m.keyText options)
  | .clear => none

/-- The cache after a call. -/
def act (cache : Cache) : Call → Cache
  | .compile m options => (cache.compile m options).2
  | .get _ _ => cache
  | .clear => cache.clear

/-- A new cache after a list of calls. -/
def run (calls : List Call) : Cache :=
  calls.foldl act {}

/-- A call compiles what the cache would have answered for if asked. -/
def isHit (cache : Cache) : Call → Bool
  | .compile m options => (cache.find? m options).isSome
  | _ => false

/-- The positions in a list of calls at which the new cache is hit. -/
def hitPositions (calls : List Call) : List Nat :=
  (List.range calls.length).filter fun i => calls[i]?.any (run (calls.take i)).isHit

@[simp] lemma run_nil : run [] = {} := rfl

/-- A run with one call more ends with that call. -/
lemma run_append_singleton (calls : List Call) (call : Call) :
    run (calls ++ [call]) = (run calls).act call := by
  simp [run]

/-- A call counts as a hit exactly when it finds an entry. -/
lemma hits_act (cache : Cache) (call : Call) :
    (cache.act call).hits = cache.hits + if cache.isHit call then 1 else 0 := by
  cases call with
  | compile m options =>
    cases hfind : cache.find? m options <;> simp [act, compile, isHit, hfind]
  | get m options => rfl
  | clear => rfl

/-- One more call is one more position or none. -/
lemma hitPositions_append_singleton (calls : List Call) (call : Call) :
    hitPositions (calls ++ [call]) =
      hitPositions calls ++ if (run calls).isHit call then [calls.length] else [] := by
  have hbefore : ∀ i ∈ List.range calls.length,
      (calls ++ [call])[i]?.any (run ((calls ++ [call]).take i)).isHit =
        calls[i]?.any (run (calls.take i)).isHit := by
    intro i hi
    have hlt : i < calls.length := List.mem_range.mp hi
    rw [List.getElem?_append_left hlt, List.take_append_of_le_length hlt.le]
  rw [hitPositions, List.length_append, List.length_singleton, List.range_succ, List.filter_append,
    List.filter_congr hbefore, hitPositions]
  simp [List.filter_singleton]

/-- The hits of a cache count the calls that hit it. -/
lemma hits_run (calls : List Call) : (run calls).hits = (hitPositions calls).length := by
  induction calls using List.reverseRecOn with
  | nil => rfl
  | append_singleton calls call ih =>
    rw [run_append_singleton, hits_act, ih, hitPositions_append_singleton, List.length_append]
    split <;> rfl

/-- The cache never holds more than its capacity. -/
lemma size_run_le (calls : List Call) : (run calls).size ≤ capacity := by
  induction calls using List.reverseRecOn with
  | nil => exact Nat.zero_le _
  | append_singleton calls call ih =>
    rw [run_append_singleton]
    cases call with
    | compile m options => exact size_compile_le ih m options
    | get m options => exact ih
    | clear => exact Nat.zero_le _

/-- After any calls, every entry belongs to a text that was hashed in one of them. -/
lemma isSound_run (calls : List Call) : (run calls).IsSound (calls.filterMap Call.keyText?) := by
  induction calls using List.reverseRecOn with
  | nil => exact isSound_of_entries_eq_nil rfl _
  | append_singleton calls call ih =>
    have hsound : (run calls).IsSound ((calls ++ [call]).filterMap Call.keyText?) :=
      ih.mono fun text htext => by simp_all
    rw [run_append_singleton]
    cases call with
    | compile m options => exact hsound.snd_compile (by simp [Call.keyText?])
    | get m options => exact hsound
    | clear => exact isSound_of_entries_eq_nil rfl _

/-- A cache is transparent.  In a run of calls on a new cache whose key texts have different
digests, every compilation yields the text of its model, every look-up yields that text or nothing,
and right after a compilation it does yield it.  The cache stays within its bound, and the hits
count the compilations for which a look-up would have yielded a text. -/
theorem transparent_run {calls : List Call}
    (hno : Sha256.NoCollision (calls.filterMap Call.keyText?)) :
    (∀ (before after : List Call) (m : Model) (options : ListingOptions),
      calls = before ++ .compile m options :: after →
        ((run before).compile m options).1 = m.text options) ∧
    (∀ (before after : List Call) (m : Model) (options : ListingOptions),
      calls = before ++ .get m options :: after →
        (run before).find? m options = none ∨
          (run before).find? m options = some (m.text options)) ∧
    (∀ (before after : List Call) (m : Model) (options : ListingOptions),
      calls = before ++ .compile m options :: .get m options :: after →
        (run (before ++ [.compile m options])).find? m options = some (m.text options)) ∧
    (∀ before after : List Call, calls = before ++ after → (run before).size ≤ capacity) ∧
    (run calls).hits = (hitPositions calls).length := by
  -- Collision freedom of all calls covers the calls of each initial part.
  have hsound : ∀ before after : List Call, calls = before ++ after →
      (run before).IsSound (calls.filterMap Call.keyText?) := by
    rintro before after rfl
    exact (isSound_run before).mono fun text htext => by simp_all
  have hcompile : ∀ (before after : List Call) (m : Model) (options : ListingOptions),
      calls = before ++ .compile m options :: after →
        ((run before).compile m options).1 = m.text options := by
    intro before after m options heq
    exact (hsound before _ heq).fst_compile hno (by simp [heq, Call.keyText?])
  refine ⟨hcompile, ?_, ?_, fun before _ _ => size_run_le before, hits_run calls⟩
  · intro before after m options heq
    have hkey : m.keyText options ∈ calls.filterMap Call.keyText? := by simp [heq, Call.keyText?]
    cases hfind : (run before).find? m options with
    | none => exact .inl rfl
    | some text =>
      rw [(hsound before _ heq).eq_text_of_find? hno hkey hfind]
      exact .inr rfl
  · intro before after m options heq
    rw [run_append_singleton, act, find?_compile, hcompile before _ m options heq]

/-- A model without facets and items, in which the variance of the construct is fixed. -/
def bare : Model where
  configuration := { scaling := (∅ : Table ScalingRule).insert Latent.unidimKey .fixVariance }

/-- The same with a relation from an earlier time. -/
def outdated : Model :=
  { bare with configuration.indicators := [⟨"f", .item 1, .outward, false, false⟩] }

/-- The same with a short code. -/
def coded : Model :=
  { bare with configuration.shortCode := some "WE" }

/-- The two models of the witness have different keys. -/
lemma key_coded_ne : coded.key {} ≠ bare.key {} := by
  rw [Model.key_eq_digest, Model.key_eq_digest]
  decide +kernel

/-- Relations do not enter into the key text, and short codes do. -/
lemma noCollision_coded :
    Sha256.NoCollision
      [bare.keyText {}, outdated.keyText {}, coded.keyText {}, coded.keyText {}] := by
  have hsame : outdated.keyText {} = bare.keyText {} := rfl
  have hpair : Sha256.NoCollision ([bare, coded].map (·.keyText {})) :=
    Model.noCollision_keyTexts (by simp [key_coded_ne.symm])
  exact hpair.mono (by simp [hsame])

/-- The second of these compilations is answered from memory, although the model has other
relations than the one that was compiled before. -/
theorem transparent_run_coded :
    ((run [.compile bare {}]).compile outdated {}).1 = outdated.text {} ∧
      (run [.compile bare {}, .compile outdated {}, .compile coded {}]).find? coded {} =
        some (coded.text {}) := by
  have hno : Sha256.NoCollision ([Call.compile bare {}, .compile outdated {}, .compile coded {},
      .get coded {}].filterMap Call.keyText?) := noCollision_coded
  obtain ⟨hcompile, -, hget, -⟩ := transparent_run hno
  exact ⟨hcompile [.compile bare {}] _ outdated {} rfl,
    hget [.compile bare {}, .compile outdated {}] [] coded {} rfl⟩

end Cache

end Psychometrics
