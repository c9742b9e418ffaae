import Mathlib
import Psychometrics.Proofs.Json.Record

/-!
# Trees

A value is a tree when its numbers are integers of 64 bits, its objects do not repeat a key, and its
containers are nested to a bounded depth (`Json.IsTree`).  These are the values that a text can be
read as without loss: a longer number would become a double, and of a repeated key only the last
occurrence would count.

Writers of records, lists and tables write trees when they write their parts as trees.
-/

namespace Psychometrics.Json

/-- A value with at most `depth` nested containers, whose numbers are integers of 64 bits and whose
objects do not repeat a key. -/
inductive IsTree : Nat → Json → Prop
  | null {depth : Nat} : IsTree depth .null
  | bool {depth : Nat} (b : Bool) : IsTree depth (.bool b)
  | int {depth : Nat} {i : Int} (h : Number.isWord i = true) : IsTree depth (.int i)
  | string {depth : Nat} (s : String) : IsTree depth (.string s)
  | array {depth : Nat} {items : List Json} (h : ∀ item ∈ items, IsTree depth item) :
      IsTree (depth + 1) (.array items)
  | object {depth : Nat} {fields : List (String × Json)} (nodup : (fields.map Prod.fst).Nodup)
      (h : ∀ field ∈ fields, IsTree depth field.2) : IsTree (depth + 1) (.object fields)

variable {α : Type} {depth : Nat} {write : α → Json}

/-- An integer of a word is a leaf. -/
lemma isTree_int64 (i : Int64) : IsTree depth (int64 i) := by
  refine .int ?_
  have hlower := i.minValue_le_toInt
  have hupper := i.toInt_lt
  simp only [Number.isWord, Bool.and_eq_true, decide_eq_true_eq]
  exact ⟨hlower, hupper.trans (by decide)⟩

/-- An optional value is a tree if the value is one. -/
lemma isTree_nullable (h : ∀ a, IsTree depth (write a)) (a : Option α) :
    IsTree depth (nullable write a) := by
  cases a with
  | none => exact .null
  | some a => exact h a

/-- A list is a tree one level deeper than its elements. -/
lemma isTree_list (h : ∀ a, IsTree depth (write a)) (as : List α) :
    IsTree (depth + 1) (list write as) := by
  refine .array fun item hitem => ?_
  obtain ⟨a, -, rfl⟩ := List.mem_map.mp hitem
  exact h a

/-- A set of integers is a list of leaves. -/
lemma isTree_int64Set (s : Std.ExtTreeSet Int64) : IsTree (depth + 1) (int64Set s) :=
  isTree_list isTree_int64 _

/-- A table has distinct keys. -/
lemma isTree_table (h : ∀ a, IsTree depth (write a)) (t : Std.ExtTreeMap String α) :
    IsTree (depth + 1) (table write t) := by
  refine .object ?_ fun field hfield => ?_
  · have hkeys : t.toList.Pairwise fun a b => a.1 ≠ b.1 :=
      Std.ExtTreeMap.distinct_keys_toList.imp fun hne heq => hne (by rw [heq]; simp)
    rw [List.map_map]
    exact List.pairwise_map.mpr hkeys
  · obtain ⟨entry, -, rfl⟩ := List.mem_map.mp hfield
    exact h entry.2

/-- A record has distinct keys when its parts do. -/
lemma isTree_written {parts : List (String × Option Json)} (hnodup : (parts.map Prod.fst).Nodup)
    (h : ∀ part ∈ parts, ∀ value, part.2 = some value → IsTree depth value) :
    IsTree (depth + 1) (.object (written parts)) := by
  refine .object (hnodup.sublist ?_) fun field hfield => ?_
  · clear hnodup h
    induction parts with
    | nil => exact List.Sublist.refl _
    | cons part parts ih =>
      rw [written_cons, List.map_append, List.map_cons]
      cases part.2 with
      | none => exact ih.cons _
      | some value => exact ih.cons_cons _
  · obtain ⟨part, hpart, hfield⟩ := List.mem_flatMap.mp hfield
    obtain ⟨value, hvalue, rfl⟩ := Option.map_eq_some_iff.mp (Option.mem_toList.mp hfield)
    exact h part hpart value hvalue

end Psychometrics.Json
