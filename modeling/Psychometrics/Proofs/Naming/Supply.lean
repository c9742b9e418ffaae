import Mathlib
import Psychometrics.Naming.Names

/-!
# The supply of names

A wanted name has as many numbered forms as there are numbers to try, and all of them differ.  As
long as fewer names are taken, one of them is free (`Names.exists_freeForm?_eq_some`).  A model with
fewer symbols than that therefore always gets its names (`Model.exists_names_eq_ok`).
-/

namespace Psychometrics

namespace Names

/-! ### Numbered forms -/

/-- Different numbers give different names. -/
lemma numbered_injective (name : String) : Function.Injective (numbered name) := by
  intro m n h
  have hchars : (numbered name m).toList = (numbered name n).toList := congrArg String.toList h
  simp only [numbered, String.toList_append, Text.ofNat, String.toList_ofList] at hchars
  exact Text.toDigits_injective (List.append_cancel_left hchars)

@[simp] lemma length_numbers : numbers.length = 999 :=
  List.length_range'

/-- A list of different names that are all taken is no longer than the set of taken names. -/
lemma length_le_size_of_forall_contains {taken : Std.HashSet String} {names : List String}
    (hnodup : names.Nodup) (h : ∀ name ∈ names, taken.contains name = true) :
    names.length ≤ taken.size := by
  have hsubset : names ⊆ taken.toList := by
    intro name hname
    exact Std.HashSet.mem_toList.mpr (Std.HashSet.mem_iff_contains.mpr (h name hname))
  calc names.length ≤ taken.toList.length := (hnodup.subperm hsubset).length_le
    _ = taken.size := Std.HashSet.length_toList

/-- While fewer names are taken than there are numbers, every wanted name has a free form. -/
lemma exists_freeForm?_eq_some {taken : Std.HashSet String} (h : taken.size < numbers.length)
    (symbol : Symbol) (wanted : String) : ∃ name, freeForm? taken symbol wanted = some name := by
  unfold freeForm?
  split
  · exact ⟨_, rfl⟩
  · split
    · exact ⟨_, rfl⟩
    · have hfree : ∃ n ∈ numbers, taken.contains (numbered (marked symbol wanted) n) = false := by
        by_contra hnone
        simp only [not_exists, not_and, Bool.not_eq_false] at hnone
        have hnodup : (numbers.map (numbered (marked symbol wanted))).Nodup :=
          List.Nodup.map (numbered_injective _) List.nodup_range'
        have hle := length_le_size_of_forall_contains hnodup (List.forall_mem_map.mpr hnone)
        rw [List.length_map] at hle
        omega
      obtain ⟨n, hn, hfree⟩ := hfree
      have hfind : (numbers.find? fun n =>
          !taken.contains (numbered (marked symbol wanted) n)).isSome = true :=
        List.find?_isSome.mpr ⟨n, hn, by simp [hfree]⟩
      obtain ⟨k, hk⟩ := Option.isSome_iff_exists.mp hfind
      exact ⟨numbered (marked symbol wanted) k, by rw [hk, Option.map_some]⟩

/-! ### Walking through few requests -/

/-- One request succeeds while names are left, and takes at most one of them. -/
lemma exists_add_eq_ok {names : Names} (h : names.taken.size < numbers.length)
    (request : Symbol × String) :
    ∃ names', names.add request = .ok names' ∧ names'.taken.size ≤ names.taken.size + 1 := by
  unfold add
  split
  · exact ⟨names, rfl, Nat.le_succ _⟩
  · obtain ⟨name, hname⟩ := exists_freeForm?_eq_some h request.1 request.2
    rw [hname]
    exact ⟨_, rfl, Std.HashSet.size_insert_le⟩

/-- A run of requests succeeds if names are left for all of them. -/
lemma exists_foldlM_add_eq_ok {requests : List (Symbol × String)} {names : Names}
    (h : names.taken.size + requests.length ≤ numbers.length) :
    ∃ names', requests.foldlM Names.add names = .ok names' := by
  induction requests generalizing names with
  | nil => exact ⟨names, rfl⟩
  | cons request requests ih =>
    rw [List.length_cons] at h
    have hroom : names.taken.size < numbers.length := by omega
    obtain ⟨next, hnext, hsize⟩ := exists_add_eq_ok hroom request
    have hroom' : next.taken.size + requests.length ≤ numbers.length := by omega
    obtain ⟨last, hlast⟩ := ih hroom'
    refine ⟨last, ?_⟩
    rw [List.foldlM_cons, hnext]
    exact hlast

end Names

namespace Model

/-- A model with fewer symbols than there are numbers to try gets its names. -/
lemma exists_names_eq_ok {m : Model} (h : m.nameRequests.length < Names.numbers.length) :
    ∃ names, m.names = .ok names := by
  have hstart : (Names.start m.overallName).taken.size = 1 := by
    simp [Names.start, Std.HashSet.size_insert]
  exact Names.exists_foldlM_add_eq_ok (by omega)

/-- A model with a known number of symbols gets its names if the number is small. -/
lemma exists_names_eq_ok_of_length {m : Model} {n : ℕ} (h : m.nameRequests.length = n)
    (hfew : n < 999) : ∃ names, m.names = .ok names := by
  refine exists_names_eq_ok ?_
  rwa [h, Names.length_numbers]

end Model

end Psychometrics
