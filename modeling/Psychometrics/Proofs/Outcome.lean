import Mathlib

/-!
# Computations that may fail

Compiling a model looks up names, one after the other, and stops at the first that is missing.  The
lemmas of this file take such a computation apart: what its steps gave when it succeeds, when a
traversal of a list succeeds, and at which element a run over a list stopped.  They also say how two
computations compare that differ in the wording of their failures.
-/

namespace Psychometrics

variable {α α' β β' ε ε' : Type}

/-- A computation in two steps succeeds when both steps do. -/
lemma bind_eq_ok_iff {x : Except ε α} {f : α → Except ε β} {b : β} :
    x >>= f = .ok b ↔ ∃ a, x = .ok a ∧ f a = .ok b := by
  cases x with
  | error e =>
    constructor
    · intro h
      cases h
    · rintro ⟨a, ha, -⟩
      simp at ha
  | ok a =>
    constructor
    · intro h
      exact ⟨a, rfl, h⟩
    · rintro ⟨a', ha, h⟩
      obtain rfl := Except.ok.inj ha
      exact h

/-- A traversal that succeeds at every element is a map. -/
lemma mapM_eq_ok_map {f : α → Except ε β} {g : α → β} {xs : List α}
    (h : ∀ x ∈ xs, f x = .ok (g x)) : xs.mapM f = .ok (xs.map g) := by
  induction xs with
  | nil => rfl
  | cons x xs ih =>
    have hx : f x = .ok (g x) := h x List.mem_cons_self
    have hxs : xs.mapM f = .ok (xs.map g) := ih fun y hy => h y (List.mem_cons_of_mem x hy)
    rw [List.mapM_cons, hx, hxs]
    rfl

/-- A traversal succeeds if every element does. -/
lemma exists_mapM_eq_ok {f : α → Except ε β} {xs : List α} (h : ∀ x ∈ xs, ∃ y, f x = .ok y) :
    ∃ ys, xs.mapM f = .ok ys := by
  induction xs with
  | nil => exact ⟨[], rfl⟩
  | cons x xs ih =>
    obtain ⟨⟨y, hx⟩, hrest⟩ := List.forall_mem_cons.mp h
    obtain ⟨ys, hxs⟩ := ih hrest
    refine ⟨y :: ys, ?_⟩
    rw [List.mapM_cons, hx, hxs]
    rfl

/-- A traversal depends on what is done at the elements of the list. -/
lemma mapM_congr_of_mem {f g : α → Except ε β} {xs : List α} (h : ∀ x ∈ xs, f x = g x) :
    xs.mapM f = xs.mapM g := by
  induction xs with
  | nil => rfl
  | cons x xs ih =>
    rw [List.mapM_cons, List.mapM_cons, h x List.mem_cons_self,
      ih fun y hy => h y (List.mem_cons_of_mem x hy)]

/-- What a traversal gives was given at some element. -/
lemma exists_mem_of_mapM_eq_ok {f : α → Except ε β} {xs : List α} {ys : List β}
    (h : xs.mapM f = .ok ys) : ∀ y ∈ ys, ∃ x ∈ xs, f x = .ok y := by
  induction xs generalizing ys with
  | nil =>
    obtain rfl := Except.ok.inj h
    exact fun y hy => absurd hy List.not_mem_nil
  | cons x xs ih =>
    rw [List.mapM_cons] at h
    obtain ⟨y, hx, h⟩ := bind_eq_ok_iff.mp h
    obtain ⟨rest, hxs, h⟩ := bind_eq_ok_iff.mp h
    obtain rfl := Except.ok.inj h
    intro z hz
    rcases List.mem_cons.mp hz with rfl | hz
    · exact ⟨x, List.mem_cons_self, hx⟩
    · obtain ⟨w, hw, hfw⟩ := ih hxs z hz
      exact ⟨w, List.mem_cons_of_mem x hw, hfw⟩

/-- Each element that is traversed gives something. -/
lemma exists_eq_ok_of_mapM_eq_ok {f : α → Except ε β} {xs : List α} {ys : List β}
    (h : xs.mapM f = .ok ys) : ∀ x ∈ xs, ∃ y ∈ ys, f x = .ok y := by
  induction xs generalizing ys with
  | nil => exact fun x hx => absurd hx List.not_mem_nil
  | cons first rest ih =>
    rw [List.mapM_cons] at h
    obtain ⟨y, hy, h⟩ := bind_eq_ok_iff.mp h
    obtain ⟨others, hothers, h⟩ := bind_eq_ok_iff.mp h
    obtain rfl := Except.ok.inj h
    refine List.forall_mem_cons.mpr ⟨⟨y, List.mem_cons_self, hy⟩, fun x hx => ?_⟩
    obtain ⟨z, hz, hxz⟩ := ih hothers x hx
    exact ⟨z, List.mem_cons_of_mem _ hz, hxz⟩

/-- A traversal gives nothing exactly when there is nothing to traverse. -/
lemma eq_nil_iff_of_mapM_eq_ok {f : α → Except ε β} {xs : List α} {ys : List β}
    (h : xs.mapM f = .ok ys) : ys = [] ↔ xs = [] := by
  constructor
  · rintro rfl
    refine List.eq_nil_iff_forall_not_mem.mpr fun x hx => ?_
    obtain ⟨y, hy, -⟩ := exists_eq_ok_of_mapM_eq_ok h x hx
    cases hy
  · rintro rfl
    exact (Except.ok.inj h).symm

/-- Two traversals of one list give the same parts if the outcomes at each element have the same
parts. -/
lemma flatMap_eq_of_mapM_eq_ok {γ : Type} {f g : α → Except ε β} {parts : β → List γ}
    {xs : List α} {ys zs : List β} (hf : xs.mapM f = .ok ys) (hg : xs.mapM g = .ok zs)
    (h : ∀ x ∈ xs, ∀ y z, f x = .ok y → g x = .ok z → parts y = parts z) :
    ys.flatMap parts = zs.flatMap parts := by
  induction xs generalizing ys zs with
  | nil =>
    obtain rfl := Except.ok.inj hf
    obtain rfl := Except.ok.inj hg
    rfl
  | cons x xs ih =>
    rw [List.mapM_cons] at hf hg
    obtain ⟨y, hy, hf⟩ := bind_eq_ok_iff.mp hf
    obtain ⟨ys, hys, hf⟩ := bind_eq_ok_iff.mp hf
    obtain rfl := Except.ok.inj hf
    obtain ⟨z, hz, hg⟩ := bind_eq_ok_iff.mp hg
    obtain ⟨zs, hzs, hg⟩ := bind_eq_ok_iff.mp hg
    obtain rfl := Except.ok.inj hg
    rw [List.flatMap_cons, List.flatMap_cons, h x List.mem_cons_self y z hy hz,
      ih hys hzs fun w hw => h w (List.mem_cons_of_mem x hw)]

/-! ### Failures in other words -/

/-- Rewording the failures of a computation rewords those of its steps. -/
lemma mapError_bind (r : ε → ε') (x : Except ε α) (f : α → Except ε β) :
    (x >>= f).mapError r = x.mapError r >>= fun a => (f a).mapError r := by
  cases x <;> rfl

/-- A traversal of translated elements, when the outcomes of the steps are translated, too. -/
lemma mapM_map_eq_map_mapError {f : α → Except ε β} {f' : α' → Except ε' β'} {g : α → α'}
    {k : β → β'} {r : ε → ε'} {xs : List α}
    (h : ∀ x ∈ xs, f' (g x) = ((f x).map k).mapError r) :
    (xs.map g).mapM f' = ((xs.mapM f).map (List.map k)).mapError r := by
  induction xs with
  | nil => rfl
  | cons x xs ih =>
    obtain ⟨hx, hxs⟩ := List.forall_mem_cons.mp h
    rw [List.map_cons, List.mapM_cons, List.mapM_cons, hx, ih hxs]
    cases f x with
    | error => rfl
    | ok y => cases xs.mapM f <;> rfl

/-- A traversal of translated elements, when only the failures of the steps are reworded. -/
lemma mapM_map_eq_mapError {f : α → Except ε β} {f' : α' → Except ε' β} {g : α → α'} {r : ε → ε'}
    {xs : List α} (h : ∀ x ∈ xs, f' (g x) = (f x).mapError r) :
    (xs.map g).mapM f' = (xs.mapM f).mapError r := by
  have hmap : (xs.map g).mapM f' = ((xs.mapM f).map (List.map id)).mapError r :=
    mapM_map_eq_map_mapError fun x hx => by rw [h x hx, Except.map_id, id]
  rwa [List.map_id_fun, Except.map_id, id] at hmap

/-! ### Runs over a list -/

/-- What every step of a run preserves holds at the end of it. -/
lemma foldlM_preserves {f : β → α → Except ε β} {P : β → Prop} {xs : List α} {b b' : β}
    (hstep : ∀ x ∈ xs, ∀ c c', P c → f c x = .ok c' → P c') (hb : P b)
    (h : xs.foldlM f b = .ok b') : P b' := by
  induction xs generalizing b with
  | nil =>
    obtain rfl := Except.ok.inj h
    exact hb
  | cons x xs ih =>
    rw [List.foldlM_cons] at h
    obtain ⟨next, hx, hrest⟩ := bind_eq_ok_iff.mp h
    have hnext : P next := hstep x List.mem_cons_self b next hb hx
    exact ih (fun y hy => hstep y (List.mem_cons_of_mem x hy)) hnext hrest

/-- A run that fails stops at one element, behind others at which it went well. -/
lemma exists_of_foldlM_eq_error {f : β → α → Except ε β} {xs : List α} {b : β} {e : ε}
    (h : xs.foldlM f b = .error e) :
    ∃ before x after c, xs = before ++ x :: after ∧ before.foldlM f b = .ok c ∧
      f c x = .error e := by
  induction xs generalizing b with
  | nil => cases h
  | cons x xs ih =>
    rw [List.foldlM_cons] at h
    cases hx : f b x with
    | error e' =>
      rw [hx] at h
      obtain rfl := Except.error.inj h
      exact ⟨[], x, xs, b, rfl, rfl, hx⟩
    | ok next =>
      rw [hx] at h
      obtain ⟨before, y, after, c, rfl, hbefore, hy⟩ := ih h
      refine ⟨x :: before, y, after, c, rfl, ?_, hy⟩
      rw [List.foldlM_cons, hx]
      exact hbefore

end Psychometrics
