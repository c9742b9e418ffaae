import Mathlib
import Psychometrics.Timestamp.Text

/-!
# Reading back a timestamp

The reader of timestamps takes back every timestamp from its text (`Timestamp.parse?_format`).  The
text is a row of numbers, each filled up with zeros and ended by a mark.  A number is read to its
end because it has all the digits that the reader takes at most, or because no digit follows; what
is read is the number itself, since leading zeros do not count.
-/

namespace Psychometrics

/-- Digits are not blank. -/
lemma Text.isBlank_of_isDigit {c : Char} (h : c.isDigit = true) : isBlank c = false := by
  have hrange : 48 ≤ c.toNat ∧ c.toNat ≤ 57 := by
    simpa [Char.isDigit, UInt32.le_iff_toNat_le] using h
  simp only [isBlank, Bool.or_eq_false_iff, Bool.and_eq_false_iff, beq_eq_false_iff_ne,
    decide_eq_false_iff_not]
  omega

namespace Timestamp

open Text (isBlank isBlank_of_isDigit)

/-! ### Padded numbers -/

section Padded

variable {width n : Nat}

/-- A padded number consists of digits. -/
lemma isDigit_of_mem_padded {c : Char} (h : c ∈ padded width n) : c.isDigit = true := by
  rcases List.mem_append.mp h with h | h
  · rw [List.eq_of_mem_replicate h]
    rfl
  · exact Nat.isDigit_of_mem_toDigits (by decide) (by decide) h

/-- Leading zeros do not count. -/
lemma ofDigitChars_padded (width n : Nat) : Nat.ofDigitChars 10 (padded width n) 0 = n := by
  rw [padded, Nat.ofDigitChars_append, Nat.ofDigitChars_replicate_zero, Nat.mul_zero,
    Nat.ofDigitChars_toDigits (by decide) (by decide)]

/-- A padded number has digits, whatever its width is. -/
lemma padded_ne_nil (width n : Nat) : padded width n ≠ [] := by
  have hdigits : (Nat.toDigits 10 n) ≠ [] := List.ne_nil_of_length_pos Nat.length_toDigits_pos
  simp [padded, hdigits]

/-- A padded number begins with a digit. -/
lemma padded_append_ne_cons {c : Char} (h : c.isDigit = false) {rest others : List Char} :
    padded width n ++ rest ≠ c :: others := by
  cases hp : padded width n with
  | nil => exact absurd hp (padded_ne_nil width n)
  | cons d ds =>
    have hd : d.isDigit = true := isDigit_of_mem_padded (hp ▸ List.mem_cons_self)
    rintro heq
    rw [List.cons_append, List.cons.injEq] at heq
    rw [heq.1, h] at hd
    cases hd

/-- A number that fits is filled up to the width. -/
lemma length_padded (hwidth : 0 < width) (h : n < 10 ^ width) :
    (padded width n).length = width := by
  have hdigits : (Nat.toDigits 10 n).length ≤ width :=
    (Nat.length_toDigits_le_iff (by decide) hwidth).mpr h
  rw [padded, List.length_append, List.length_replicate]
  omega

end Padded

/-! ### Runs of digits -/

section Digits

variable {most : Nat} {ds rest : List Char}

/-- No blanks are in front of a digit. -/
lemma dropWhile_isBlank_append (hne : ds ≠ []) (hdigits : ∀ c ∈ ds, c.isDigit = true) :
    (ds ++ rest).dropWhile isBlank = ds ++ rest := by
  cases ds with
  | nil => exact absurd rfl hne
  | cons d ds =>
    have hd : isBlank d = false := isBlank_of_isDigit (hdigits d List.mem_cons_self)
    rw [List.cons_append, List.dropWhile_cons_of_neg (by simp [hd])]

/-- A run of digits is read to its end when the reader takes no more, or when no digit follows. -/
lemma digits?_append (hne : ds ≠ []) (hdigits : ∀ c ∈ ds, c.isDigit = true)
    (hmost : ds.length ≤ most)
    (hend : ds.length = most ∨ ∀ c ∈ rest.head?, c.isDigit = false) :
    digits? most (ds ++ rest) = some (ds, rest) := by
  have hrest : (rest.take (most - ds.length)).takeWhile Char.isDigit = [] := by
    rcases hend with hlen | hhead
    · rw [hlen, Nat.sub_self, List.take_zero, List.takeWhile_nil]
    · cases rest with
      | nil => simp
      | cons c rest =>
        have hc : c.isDigit = false := hhead c rfl
        cases most - ds.length with
        | zero => simp
        | succ k => simp [hc]
  have hrun : ((ds ++ rest).take most).takeWhile Char.isDigit = ds := by
    rw [List.take_append, List.take_of_length_le hmost, List.takeWhile_append_of_pos hdigits, hrest,
      List.append_nil]
  unfold digits?
  simp only [hrun, beq_iff_eq, if_neg hne, List.drop_left]

/-- A padded number is read back when it is no longer than the reader takes, and ends there. -/
lemma number?_padded {width n : Nat} (hlen : (padded width n).length ≤ most)
    (hend : (padded width n).length = most ∨ ∀ c ∈ rest.head?, c.isDigit = false) :
    number? most (padded width n ++ rest) = some (n, rest) := by
  have hdigits : ∀ c ∈ padded width n, c.isDigit = true := fun c hc => isDigit_of_mem_padded hc
  rw [number?, dropWhile_isBlank_append (padded_ne_nil width n) hdigits,
    digits?_append (padded_ne_nil width n) hdigits hlen hend]
  simp only [Option.map_some, ofDigitChars_padded]

/-- A padded number is read back however long it is, when no digit follows. -/
lemma longNumber?_padded (width n : Nat) (hend : ∀ c ∈ rest.head?, c.isDigit = false) :
    longNumber? (padded width n ++ rest) = some (n, rest) := by
  have hdigits : ∀ c ∈ padded width n, c.isDigit = true := fun c hc => isDigit_of_mem_padded hc
  have hlen : (padded width n).length ≤ (padded width n ++ rest).length := by simp
  rw [longNumber?, digits?_append (padded_ne_nil width n) hdigits hlen (.inr hend)]
  simp only [Option.map_some, ofDigitChars_padded]

/-- A number of two digits is read back, whatever follows. -/
lemma number?_padded_two {n : Nat} (h : n < 100) (rest : List Char) :
    number? 2 (padded 2 n ++ rest) = some (n, rest) := by
  have hlen : (padded 2 n).length = 2 := length_padded (by decide) h
  exact number?_padded hlen.le (.inl hlen)

end Digits

/-! ### Parts of a timestamp -/

/-- A year is read back from its text. -/
lemma year?_yearChars (year : Int) (rest : List Char) :
    year? (yearChars year ++ '-' :: rest) = some (year, '-' :: rest) := by
  have hend : ∀ c ∈ ('-' :: rest).head?, c.isDigit = false := by
    intro c hc
    obtain rfl := Option.some.inj hc
    rfl
  unfold yearChars
  split
  · next hshort =>
    -- Four digits without a sign: the first character is none.
    have hlen : (padded 4 year.toNat).length = 4 := length_padded (by decide) (by omega)
    have hdigits : ∀ c ∈ padded 4 year.toNat, c.isDigit = true :=
      fun c hc => isDigit_of_mem_padded hc
    have hread : number? 4 (padded 4 year.toNat ++ '-' :: rest) =
        some (year.toNat, '-' :: rest) := number?_padded hlen.le (.inl hlen)
    have hyear : ((year.toNat : Nat) : Int) = year := Int.toNat_of_nonneg hshort.1
    unfold year?
    rw [dropWhile_isBlank_append (padded_ne_nil _ _) hdigits]
    split
    · next heq => exact absurd heq (padded_append_ne_cons (by decide))
    · next heq => exact absurd heq (padded_append_ne_cons (by decide))
    · simp only [hread, Option.map_some, hyear]
  · next hlong =>
    split
    · next hneg =>
      have hread := longNumber?_padded 4 year.natAbs hend
      have hblank : isBlank '-' = false := by decide
      have hyear : -(year.natAbs : Int) = year := by omega
      simp only [year?, List.cons_append, List.dropWhile_cons, hblank, Bool.false_eq_true, if_false,
        hread, Option.map_some, hyear]
    · next hpos =>
      have hread := longNumber?_padded 4 year.natAbs hend
      have hblank : isBlank '+' = false := by decide
      have hyear : (year.natAbs : Int) = year := by omega
      simp only [year?, List.cons_append, List.dropWhile_cons, hblank, Bool.false_eq_true, if_false,
        hread, Option.map_some, hyear]

/-- A mark that is not blank is read. -/
lemma mark?_cons {mark : Char} (h : isBlank mark = false) (rest : List Char) :
    mark? mark (mark :: rest) = some rest := by
  simp [mark?, h]

/-- A fraction in groups of three digits is read back. -/
lemma fraction?_group {width nanos scale : Nat} (hwidth : 0 < width ∧ width ≤ 9)
    (hscale : scale = 10 ^ (9 - width)) (hexact : nanos % scale = 0)
    (hnanos : nanos / scale < 10 ^ width) :
    fraction? ('.' :: padded width (nanos / scale) ++ ['Z']) = some (nanos, ['Z']) := by
  have hlen : (padded width (nanos / scale)).length = width := length_padded hwidth.1 hnanos
  have hend : ∀ c ∈ ['Z'].head?, c.isDigit = false := by
    intro c hc
    obtain rfl := Option.some.inj hc
    rfl
  have hread : digits? 9 (padded width (nanos / scale) ++ ['Z']) =
      some (padded width (nanos / scale), ['Z']) :=
    digits?_append (padded_ne_nil width _) (fun c hc => isDigit_of_mem_padded hc)
      (hlen.le.trans hwidth.2) (.inr hend)
  have hvalue : nanos / scale * Nat.pow 10 (9 - width) = nanos := by
    rw [hscale] at hexact ⊢
    exact Nat.div_mul_cancel (Nat.dvd_of_mod_eq_zero hexact)
  have hrest : ['Z'].dropWhile Char.isDigit = ['Z'] := rfl
  simp only [fraction?, List.cons_append, hread, Option.map_some, ofDigitChars_padded, hlen, hvalue,
    hrest]

/-- The fraction of a second is read back from its text. -/
lemma fraction?_fractionChars {nanos : Nat} (h : nanos < 1000000000) :
    fraction? (fractionChars nanos ++ ['Z']) = some (nanos, ['Z']) := by
  unfold fractionChars
  simp only [beq_iff_eq]
  split
  · next hzero =>
    rw [hzero]
    rfl
  · split
    · next hmillis => exact fraction?_group (by decide) (by decide) hmillis (by omega)
    · split
      · next hmicros => exact fraction?_group (by decide) (by decide) hmicros (by omega)
      · have hnanos : fraction? ('.' :: padded 9 (nanos / 1) ++ ['Z']) = some (nanos, ['Z']) :=
          fraction?_group (by decide) (by decide) (Nat.mod_one nanos) (by omega)
        rwa [Nat.div_one] at hnanos

/-! ### Timestamps -/

/-- The bounds of the fields of a timestamp. -/
lemma Fields.bounds_of_isValid {f : Fields} (h : f.isValid = true) :
    f.month < 100 ∧ f.day < 100 ∧ f.hour < 100 ∧ f.minute < 100 ∧ f.second < 100 ∧
      f.nanos < 1000000000 := by
  simp only [isValid, Bool.and_eq_true, decide_eq_true_eq] at h
  obtain ⟨⟨⟨⟨⟨⟨⟨-, hmonth⟩, -⟩, hday⟩, hhour⟩, hminute⟩, hsecond⟩, hnanos⟩ := h
  have hdays : daysIn f.year f.month ≤ 31 := by
    unfold daysIn
    split
    · split <;> omega
    · split <;> omega
  omega

/-- Every timestamp is read back from its text. -/
theorem parse?_format (t : Timestamp) : parse? t.format = some t := by
  obtain ⟨f, hvalid⟩ := t
  obtain ⟨hmonth, hday, hhour, hminute, hsecond, hnanos⟩ := Fields.bounds_of_isValid hvalid
  have hdash : isBlank '-' = false := by decide
  have hcolon : isBlank ':' = false := by decide
  have hzone : zone? ['Z'] = some (0, []) := by decide
  have hfields : ofFields? f = some ⟨f, hvalid⟩ := by rw [ofFields?, dif_pos hvalid]
  have hchars : f.chars = yearChars f.year ++ '-' :: (padded 2 f.month ++ '-' ::
      (padded 2 f.day ++ 'T' :: (padded 2 f.hour ++ ':' :: (padded 2 f.minute ++ ':' ::
        (padded 2 f.second ++ (fractionChars f.nanos ++ ['Z'])))))) := by
    simp only [Fields.chars, List.append_assoc, List.cons_append]
  have hstep : ∀ {α β : Type} {x : Option α} {a : α} {g : α → Option β} {b : β}, x = some a →
      g a = some b → x >>= g = some b := fun hx hg => Option.bind_eq_some_iff.mpr ⟨_, hx, hg⟩
  rw [parse?, format, String.toList_ofList, hchars]
  -- The reader goes through the parts in the order in which they were written.
  refine hstep (year?_yearChars f.year _) ?_
  refine hstep (mark?_cons hdash _) (hstep (number?_padded_two hmonth _) ?_)
  refine hstep (mark?_cons hdash _) (hstep (number?_padded_two hday _) ?_)
  refine hstep rfl (hstep (number?_padded_two hhour _) ?_)
  refine hstep (mark?_cons hcolon _) (hstep (number?_padded_two hminute _) ?_)
  refine hstep (mark?_cons hcolon _) (hstep (number?_padded_two hsecond _) ?_)
  refine hstep (fraction?_fractionChars hnanos) (hstep hzone (hstep hfields ?_))
  simp only [List.all_nil, if_true, Fields.toUtc_zero hvalid, hfields]

end Timestamp

end Psychometrics
