import Mathlib
import Psychometrics.Proofs.Model.Frame
import Psychometrics.Session.Edit

/-!
# Slots for global items

A formative latent variable owns slots for its global items, blank at first.  They are created when
a model is loaded and when a latent variable becomes formative, so that they are always there
(`Model.HasSlots`), and creating missing slots once more changes nothing
(`Model.HasSlots.withSlots_eq_self`).

The file shows that a loaded model has its slots (`Model.hasSlots_upgrade`), and which elementary
changes of a model can take none away.
-/

namespace Psychometrics.Model

variable {m n : Model} {latent other : Latent}

/-! ### Creating slots -/

/-- Replacing global items takes no slots away. -/
lemma isSome_globals?_setGlobals (h : (m.globals? other).isSome = true) (items : List GlobalItem) :
    ((m.setGlobals latent items).globals? other).isSome = true := by
  by_cases heq : latent = other
  · subst heq
    cases latent with
    | unidim => exact h
    | facet id => simp [setGlobals, globals?]
    | secondOrder => rfl
  · rwa [m.globals?_setGlobals_of_ne items heq]

/-- Slots that are there stay there when others are created. -/
lemma isSome_globals?_withSlots (h : (m.globals? other).isSome = true) (latent : Latent) :
    ((m.withSlots latent).globals? other).isSome = true := by
  rcases m.withSlots_eq latent with heq | ⟨-, heq⟩
  · rwa [heq]
  · rw [heq]
    exact isSome_globals?_setGlobals h _

/-- After they have been created, slots are there. -/
lemma isSome_globals?_withSlots_self (m : Model) (h : latent ≠ .unidim) :
    ((m.withSlots latent).globals? latent).isSome = true := by
  unfold withSlots
  split
  · cases latent with
    | unidim => exact absurd rfl h
    | facet id => simp [setGlobals, globals?]
    | secondOrder => rfl
  · next hlacks => simpa [lacksSlots, h, Option.isSome_iff_ne_none] using hlacks

/-- Slots are created only where they are missing. -/
lemma withSlots_eq_self (h : (m.globals? latent).isSome = true) : m.withSlots latent = m := by
  have hnone : (m.globals? latent).isNone = false := by simpa using h
  rw [withSlots, if_neg (by simp [lacksSlots, hnone])]

@[simp] lemma mode?_withSlots (m : Model) (latent other : Latent) :
    (m.withSlots latent).mode? other = m.mode? other := by
  cases other <;> simp [mode?, facetMode?]

@[simp] lemma isKnown_withSlots (m : Model) (latent other : Latent) :
    (m.withSlots latent).isKnown other = m.isKnown other := by
  cases other <;> simp [isKnown]

/-! ### Models with slots -/

/-- The latent variables that exist and are formative have slots for their global items. -/
def HasSlots (m : Model) : Prop :=
  ∀ latent, m.isKnown latent = true → m.mode? latent = some .formative →
    (m.globals? latent).isSome = true

/-- A model with slots keeps them when no formative latent variable is new. -/
lemma HasSlots.mono (h : m.HasSlots)
    (hformative : ∀ latent, n.isKnown latent = true → n.mode? latent = some .formative →
      (m.isKnown latent = true ∧ m.mode? latent = some .formative) ∨
        (n.globals? latent).isSome = true)
    (hglobals : ∀ latent, (m.globals? latent).isSome = true →
      (n.globals? latent).isSome = true) : n.HasSlots := by
  intro latent hknown hmode
  rcases hformative latent hknown hmode with ⟨hknown', hmode'⟩ | hslots
  · exact hglobals latent (h latent hknown' hmode')
  · exact hslots

/-- A formative latent variable is a facet or the higher-order construct. -/
lemma ne_unidim_of_formative (h : m.mode? latent = some .formative) : latent ≠ .unidim := by
  rintro rfl
  simp [mode?] at h

/-- Creating slots adds slots only. -/
lemma HasSlots.withSlots (h : m.HasSlots) (latent : Latent) : (m.withSlots latent).HasSlots := by
  refine h.mono (fun other hknown hmode => .inl ⟨?_, ?_⟩)
    fun other hother => isSome_globals?_withSlots hother latent
  · rwa [isKnown_withSlots] at hknown
  · rwa [mode?_withSlots] at hmode

/-! ### Loading -/

/-- Slots are created along the way for every latent variable of a list, and none is lost. -/
lemma isSome_globals?_foldl_withSlots (latents : List Latent) (m : Model) {latent : Latent}
    (hne : latent ≠ .unidim) (h : latent ∈ latents ∨ (m.globals? latent).isSome = true) :
    ((latents.foldl Model.withSlots m).globals? latent).isSome = true := by
  induction latents generalizing m with
  | nil => exact h.resolve_left List.not_mem_nil
  | cons first rest ih =>
    refine ih (m.withSlots first) ?_
    rcases h with h | h
    · rcases List.mem_cons.mp h with rfl | h
      · exact .inr (m.isSome_globals?_withSlots_self hne)
      · exact .inl h
    · exact .inr (isSome_globals?_withSlots h first)

/-- Creating slots changes neither modes nor the instrument. -/
lemma frame_foldl_withSlots (latents : List Latent) (m : Model) :
    (latents.foldl Model.withSlots m).mode? = m.mode? ∧
      (latents.foldl Model.withSlots m).isKnown = m.isKnown := by
  induction latents generalizing m with
  | nil => exact ⟨rfl, rfl⟩
  | cons first rest ih =>
    obtain ⟨hmode, hknown⟩ := ih (m.withSlots first)
    exact ⟨hmode.trans (funext (mode?_withSlots m first)),
      hknown.trans (funext (isKnown_withSlots m first))⟩

/-- The formative facets are the facets of the instrument that were given that mode. -/
lemma mem_formativeFacets_iff {id : String} :
    Latent.facet id ∈ m.formativeFacets ↔
      m.isKnown (.facet id) = true ∧ m.mode? (.facet id) = some .formative := by
  simp only [formativeFacets, List.mem_map, List.mem_filter, Latent.facet.injEq, isKnown,
    Instrument.facet?, List.find?_isSome, beq_iff_eq, mode?]
  constructor
  · rintro ⟨facet, ⟨hmem, hmode⟩, rfl⟩
    exact ⟨⟨facet, hmem, rfl⟩, hmode⟩
  · rintro ⟨⟨facet, hmem, rfl⟩, hmode⟩
    exact ⟨facet, ⟨hmem, hmode⟩, rfl⟩

/-- After the slots of all formative latent variables have been created, none is missing. -/
lemma hasSlots_withAllSlots (m : Model) : m.withAllSlots.HasSlots := by
  obtain ⟨hmode, hknown⟩ := frame_foldl_withSlots m.formativeFacets m
  have hfacets : ∀ id, m.isKnown (.facet id) = true → m.mode? (.facet id) = some .formative →
      ((m.formativeFacets.foldl Model.withSlots m).globals? (.facet id)).isSome = true := by
    intro id hid hform
    have hmem : Latent.facet id ∈ m.formativeFacets := mem_formativeFacets_iff.mpr ⟨hid, hform⟩
    exact isSome_globals?_foldl_withSlots _ m (ne_unidim_of_formative hform) (.inl hmem)
  unfold withAllSlots
  dsimp only
  generalize m.formativeFacets.foldl Model.withSlots m = n at hmode hknown hfacets ⊢
  rw [← hknown, ← hmode] at hfacets
  split
  · intro latent hid hform
    rw [isKnown_withSlots] at hid
    rw [mode?_withSlots] at hform
    cases latent with
    | unidim => exact absurd rfl (ne_unidim_of_formative hform)
    | facet id => exact isSome_globals?_withSlots (hfacets id hid hform) .secondOrder
    | secondOrder => exact n.isSome_globals?_withSlots_self nofun
  · next hsecond =>
    intro latent hid hform
    cases latent with
    | unidim => exact absurd rfl (ne_unidim_of_formative hform)
    | facet id => exact hfacets id hid hform
    | secondOrder => exact absurd hform hsecond

/-- A model with slots needs no others. -/
lemma HasSlots.withAllSlots_eq_self (h : m.HasSlots) : m.withAllSlots = m := by
  have hfacets : m.formativeFacets.foldl Model.withSlots m = m := by
    refine List.foldlRecOn (motive := (· = m)) _ _ rfl ?_
    rintro _ rfl latent hlatent
    obtain ⟨facet, hfacet, rfl⟩ := List.mem_map.mp hlatent
    obtain ⟨hknown, hmode⟩ := mem_formativeFacets_iff.mp hlatent
    exact withSlots_eq_self (h _ hknown hmode)
  unfold withAllSlots
  rw [hfacets]
  dsimp only
  split
  · next hsecond => exact withSlots_eq_self (h .secondOrder rfl hsecond)
  · rfl

/-- Storing rules does not touch slots. -/
lemma HasSlots.setScalingRule (h : m.HasSlots) (latent : Latent) (rule : ScalingRule) :
    (m.setScalingRule latent rule).HasSlots := by
  cases latent <;> exact h

/-- A loaded model has its slots. -/
lemma hasSlots_upgrade (m : Model) : m.upgrade.HasSlots := by
  have hindicators : m.withAllSlots.withIndicators.HasSlots := by
    unfold withIndicators
    split
    · exact m.hasSlots_withAllSlots
    · exact m.hasSlots_withAllSlots
  exact resolveAll_of_setScalingRule _ (fun n latent rule hn => hn.setScalingRule latent rule)
    hindicators

end Psychometrics.Model
