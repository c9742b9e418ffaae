import Mathlib
import Psychometrics.Json.Record

/-!
# Reading back records and tables

Records leave out fields that have nothing to say, and write the others once.  `Json.written` is
what such a record writes, and `Json.record?_written` says that every part is found again, missing
ones as missing.

Tables and sets are written entry by entry in ascending order and are read back whole
(`Json.table?_table`, `Json.int64Set?_int64Set`).
-/

namespace Psychometrics.Json

variable {α : Type}

/-! ### Records -/

/-- The fields of a record of which some parts may be missing. -/
def written (parts : List (String × Option Json)) : List (String × Json) :=
  parts.flatMap fun part => (part.2.map fun value => (part.1, value)).toList

@[simp] lemma written_nil : written [] = [] := rfl

/-- A part is written in front of those that follow if it has a value. -/
lemma written_cons (part : String × Option Json) (parts : List (String × Option Json)) :
    written (part :: parts) =
      (part.2.map fun value => (part.1, value)).toList ++ written parts := by
  rw [written, written, List.flatMap_cons]

/-- Every field stands under the key of a part. -/
lemma fst_mem_of_mem_written {field : String × Json} {parts : List (String × Option Json)}
    (h : field ∈ written parts) : field.1 ∈ parts.map Prod.fst := by
  obtain ⟨part, hpart, hfield⟩ := List.mem_flatMap.mp h
  obtain ⟨value, -, rfl⟩ := Option.map_eq_some_iff.mp (Option.mem_toList.mp hfield)
  exact List.mem_map_of_mem hpart

/-- No field stands under a key that no part has. -/
lemma filter_written_of_not_mem {key : String} {parts : List (String × Option Json)}
    (h : key ∉ parts.map Prod.fst) :
    (written parts).filter (fun field => [key].contains field.1) = [] := by
  refine List.filter_eq_nil_iff.mpr fun field hfield => ?_
  rw [List.contains_iff_mem, List.mem_singleton]
  rintro rfl
  exact h (fst_mem_of_mem_written hfield)

/-- A key that no part has can be left out. -/
lemma withoutKey_written_of_not_mem {key : String} {parts : List (String × Option Json)}
    (h : key ∉ parts.map Prod.fst) :
    (Json.object (written parts)).withoutKey key = .object (written parts) := by
  refine congrArg Json.object (List.filter_eq_self.mpr fun field hfield => ?_)
  rw [bne_iff_ne]
  rintro rfl
  exact h (fst_mem_of_mem_written hfield)

/-- A part is found under its key. -/
lemma field?_written {parts : List (String × Option Json)} (hnodup : (parts.map Prod.fst).Nodup)
    {part : String × Option Json} (hpart : part ∈ parts) :
    field? [part.1] (written parts) = some part.2 := by
  have hfilter : (written parts).filter (fun field => [part.1].contains field.1) =
      (part.2.map fun value => (part.1, value)).toList := by
    induction parts with
    | nil => cases hpart
    | cons first rest ih =>
      rw [List.map_cons, List.nodup_cons] at hnodup
      rw [written_cons, List.filter_append]
      rcases List.mem_cons.mp hpart with rfl | hrest
      · rw [filter_written_of_not_mem hnodup.1, List.append_nil]
        cases part.2 <;> simp
      · have hne : first.1 ≠ part.1 := by
          intro heq
          exact hnodup.1 (heq ▸ List.mem_map_of_mem hrest)
        rw [ih hnodup.2 hrest]
        cases first.2 <;> simp [hne]
  rw [field?, hfilter]
  cases part.2 <;> rfl

/-- A record that writes each of its parts at most once is read back part by part. -/
lemma record?_written (parts : List (String × Option Json))
    (hnodup : (parts.map Prod.fst).Nodup) :
    record? (parts.map fun part => [part.1]) (.object (written parts)) =
      some (parts.map Prod.snd) := by
  have hmap : ∀ some' : List (String × Option Json), (∀ part ∈ some', part ∈ parts) →
      (some'.map fun part => [part.1]).mapM (fun names => field? names (written parts)) =
        some (some'.map Prod.snd) := by
    intro some' hsub
    induction some' with
    | nil => rfl
    | cons first rest ih =>
      rw [List.map_cons, List.mapM_cons, field?_written hnodup (hsub first List.mem_cons_self),
        ih fun part hpart => hsub part (List.mem_cons_of_mem _ hpart)]
      rfl
  exact hmap parts fun _ h => h

/-- Records with the same keys write the same only if their parts are the same. -/
lemma map_snd_eq_of_written_eq {parts parts' : List (String × Option Json)}
    (hkeys : parts.map Prod.fst = parts'.map Prod.fst) (hnodup : (parts.map Prod.fst).Nodup)
    (h : written parts = written parts') : parts.map Prod.snd = parts'.map Prod.snd := by
  have hnames : (parts.map fun part => [part.1]) = parts'.map fun part => [part.1] := by
    simpa [Function.comp_def] using congrArg (List.map fun key => [key]) hkeys
  have hread := record?_written parts hnodup
  rw [hnames, h, record?_written parts' (hkeys ▸ hnodup)] at hread
  exact (Option.some.inj hread).symm

/-! ### Tables and sets -/

/-- A table is determined by its list of entries. -/
lemma ofList_toList (t : Std.ExtTreeMap String α) : Std.ExtTreeMap.ofList t.toList = t := by
  refine Std.ExtTreeMap.ext_getElem? fun key => ?_
  cases hkey : t[key]? with
  | some a =>
    have hmem : (key, a) ∈ t.toList := Std.ExtTreeMap.mem_toList_iff_getElem?_eq_some.mpr hkey
    exact Std.ExtTreeMap.getElem?_ofList_of_mem Std.ReflCmp.compare_self
      Std.ExtTreeMap.distinct_keys_toList hmem
  | none =>
    refine Std.ExtTreeMap.getElem?_ofList_of_contains_eq_false ?_
    rw [Std.ExtTreeMap.map_fst_toList_eq_keys]
    simpa using hkey

/-- A table is read as a table of what is read from its entries. -/
lemma table?_table_map {β : Type} {read : Json → Option β} {write : α → Json} {f : α → β}
    {t : Std.ExtTreeMap String α}
    (h : ∀ (key : String) (a : α), t[key]? = some a → read (write a) = some (f a)) :
    table? read (table write t) = some (t.map fun _ a => f a) := by
  have hentries : ∀ entries : List (String × α), (∀ entry ∈ entries, entry ∈ t.toList) →
      entries? read (entries.map fun entry => (entry.1, write entry.2)) =
        some (entries.map fun entry => (entry.1, f entry.2)) := by
    intro entries hsub
    induction entries with
    | nil => rfl
    | cons entry entries ih =>
      have ha : t[entry.1]? = some entry.2 :=
        Std.ExtTreeMap.mem_toList_iff_getElem?_eq_some.mp (hsub entry List.mem_cons_self)
      have hrest := ih fun other hother => hsub other (List.mem_cons_of_mem _ hother)
      rw [entries?] at hrest ⊢
      rw [List.map_cons, List.mapM_cons, h entry.1 entry.2 ha, hrest]
      rfl
  have hlist : (t.map fun _ a => f a).toList = t.toList.map fun entry => (entry.1, f entry.2) :=
    Std.ExtTreeMap.toList_map
  rw [table, table?, hentries t.toList fun _ hentry => hentry, Option.map_some, ← hlist,
    ofList_toList]

/-- A table is read back when each of its entries is. -/
lemma table?_table {read : Json → Option α} {write : α → Json} {t : Std.ExtTreeMap String α}
    (h : ∀ (key : String) (a : α), t[key]? = some a → read (write a) = some a) :
    table? read (table write t) = some t := by
  rw [table?_table_map h, Std.ExtTreeMap.map_id]

/-- What a traversal reads was read from some element. -/
lemma exists_mem_of_mapM_eq_some {β : Type} {read : β → Option α} {xs : List β} {ys : List α}
    (h : xs.mapM read = some ys) {y : α} (hy : y ∈ ys) : ∃ x ∈ xs, read x = some y := by
  induction xs generalizing ys with
  | nil =>
    obtain rfl := Option.some.inj h
    cases hy
  | cons x xs ih =>
    rw [List.mapM_cons] at h
    obtain ⟨first, hfirst, h⟩ := Option.bind_eq_some_iff.mp h
    obtain ⟨rest, hrest, h⟩ := Option.bind_eq_some_iff.mp h
    obtain rfl := Option.some.inj h
    rcases List.mem_cons.mp hy with rfl | hy
    · exact ⟨x, List.mem_cons_self, hfirst⟩
    · obtain ⟨w, hw, hread⟩ := ih hrest hy
      exact ⟨w, List.mem_cons_of_mem x hw, hread⟩

/-- Every entry of a table that has been read is one that its reader yields. -/
lemma exists_of_table?_eq_some {read : Json → Option α} {value : Json}
    {t : Std.ExtTreeMap String α} (h : table? read value = some t) {key : String} {a : α}
    (ha : t[key]? = some a) : ∃ part, read part = some a := by
  cases value with
  | object fields =>
    obtain ⟨entries, hentries, rfl⟩ := Option.map_eq_some_iff.mp h
    -- Of a repeated key the last entry counts, which is still one of the entries.
    rw [Std.ExtTreeMap.ofList_eq_insertMany_empty, Std.ExtTreeMap.getElem?_insertMany_list,
      Std.ExtTreeMap.getElem?_empty, Option.or_none, List.findSomeRev?_eq_findSome?_reverse] at ha
    obtain ⟨entry, hentry, heq⟩ := List.exists_of_findSome?_eq_some ha
    have hsnd : entry.2 = a := by
      revert heq
      simp
    obtain ⟨field, -, hfield⟩ := exists_mem_of_mapM_eq_some hentries (List.mem_reverse.mp hentry)
    obtain ⟨b, hb, rfl⟩ := Option.map_eq_some_iff.mp hfield
    exact ⟨field.2, hsnd ▸ hb⟩
  | _ => cases h

/-- A set of integers is read back. -/
lemma int64Set?_int64Set (s : Std.ExtTreeSet Int64) : int64Set? (int64Set s) = some s := by
  have hset : Std.ExtTreeSet.ofList s.toList = s := by
    refine Std.ExtTreeSet.ext_mem fun i => ?_
    rw [Std.ExtTreeSet.mem_ofList, List.contains_iff_mem, Std.ExtTreeSet.mem_toList]
  rw [int64Set?, int64Set, list?_list fun i _ => int64?_int64 i, Option.map_some, hset]

end Psychometrics.Json
