import Preflight.Timestamp

/-! # Points in time are read back from their texts
Numerals of a fixed width are read back whatever follows them, so each part of a text is read where it was written,
and the parts of a date make up the point in time again. -/
namespace Preflight

namespace Text

theorem length_padded {width n : Nat} (hw : 0 < width) (h : n < Nat.pow 10 width) :
    (padded width n).length = width := by
  have hlength : (numeral n).length ≤ width := (Nat.length_toDigits_le_iff (by decide) hw).2 h
  simp only [padded, List.length_append, List.length_replicate]
  omega

theorem isDigit_of_mem_padded {width n : Nat} {c : Char} (h : c ∈ padded width n) : c.isDigit = true :=
  isDigit_of_mem_zeros_append h

theorem numeralValue_padded (width n : Nat) : numeralValue (padded width n) = n := numeralValue_zeros_append _ n

theorem padded_ne_nil (width n : Nat) : padded width n ≠ [] :=
  List.append_ne_nil_of_right_ne_nil _ (numeral_ne_nil n)

theorem exists_padded_eq_cons (width n : Nat) : ∃ c s, padded width n = c :: s ∧ c.isDigit = true := by
  obtain ⟨c, s, hcons⟩ := List.exists_cons_of_ne_nil (padded_ne_nil width n)
  exact ⟨c, s, hcons, isDigit_of_mem_padded (hcons ▸ List.mem_cons_self)⟩

theorem trimStart_padded (width n : Nat) (rest : List Char) :
    trimStart (padded width n ++ rest) = padded width n ++ rest := by
  obtain ⟨c, s, hcons, hdigit⟩ := exists_padded_eq_cons width n
  rw [hcons, List.cons_append]
  exact trimStart_of_head (isBlank_of_isDigit hdigit) _

end Text

namespace Timestamp

open Text

/-- Digits are read up to the width, or up to the first character that is none. -/
theorem takeDigits?_append {width : Nat} {digits rest : List Char} (hne : digits ≠ [])
    (hdigits : ∀ c ∈ digits, c.isDigit = true) (hwidth : digits.length ≤ width)
    (hrest : digits.length = width ∨ ∀ c ∈ rest.head?, c.isDigit = false) :
    takeDigits? width (digits ++ rest) = some (numeralValue digits, rest) := by
  have htaken : ((digits ++ rest).take width).takeWhile Char.isDigit = digits := by
    rw [List.take_append, List.take_of_length_le hwidth, List.takeWhile_append_of_pos hdigits]
    rcases hrest with hfull | hstop
    · rw [hfull, Nat.sub_self, List.take_zero, List.takeWhile_nil, List.append_nil]
    · cases rest with
      | nil => simp
      | cons c rest =>
        have hc : c.isDigit = false := hstop c rfl
        cases width - digits.length with
        | zero => simp
        | succ k => simp [hc]
  simp only [takeDigits?, htaken, if_neg hne, List.drop_left]

theorem takeDigits?_padded {width n : Nat} (hw : 0 < width) (h : n < Nat.pow 10 width) (rest : List Char) :
    takeDigits? width (padded width n ++ rest) = some (n, rest) := by
  have hlength := length_padded hw h
  rw [takeDigits?_append (padded_ne_nil width n) (fun _ => isDigit_of_mem_padded) (by omega) (.inl hlength),
    numeralValue_padded]

private theorem takeNumber?_padded {width n : Nat} (hw : 0 < width) (h : n < Nat.pow 10 width) (rest : List Char) :
    takeNumber? width (padded width n ++ rest) = some (n, rest) := by
  rw [takeNumber?, trimStart_padded, takeDigits?_padded hw h]

theorem takeSeparator?_cons {c : Char} (hc : isBlank c = false) (rest : List Char) :
    takeSeparator? c (c :: rest) = some rest := by
  rw [takeSeparator?, trimStart_of_head hc]
  exact if_pos rfl

/-- A signed year ends at the hyphen behind it. -/
theorem takeDigits?_year (n : Nat) (rest : List Char) :
    takeDigits? (padded 4 n ++ '-' :: rest).length (padded 4 n ++ '-' :: rest) = some (n, '-' :: rest) := by
  rw [takeDigits?_append (padded_ne_nil 4 n) (fun _ => isDigit_of_mem_padded) (by simp)
    (.inr fun c hc => by cases hc; rfl), numeralValue_padded]

private theorem takeYear?_yearChars (year : Int) (rest : List Char) :
    takeYear? (yearChars year ++ '-' :: rest) = some (year, '-' :: rest) := by
  unfold yearChars
  by_cases hfour : 0 ≤ year ∧ year ≤ 9999
  · obtain ⟨c, s, hcons, hdigit⟩ := exists_padded_eq_cons 4 year.toNat
    have hread := takeDigits?_padded (show 0 < 4 by decide) (show year.toNat < 10000 by omega) ('-' :: rest)
    have hvalue : ((year.toNat : Nat) : Int) = year := Int.toNat_of_nonneg hfour.1
    rw [if_pos hfour, takeYear?, trimStart_padded]
    rw [hcons, List.cons_append] at hread ⊢
    -- the first digit is no sign
    split
    · next heq => exact absurd hdigit (by rw [(List.cons.inj heq).1]; decide)
    · next heq => exact absurd hdigit (by rw [(List.cons.inj heq).1]; decide)
    · rw [hread, Option.map_some, hvalue]
  · rw [if_neg hfour]
    by_cases hneg : year < 0
    · have hvalue : -((year.natAbs : Nat) : Int) = year := by omega
      rw [if_pos hneg, List.cons_append, takeYear?, trimStart_of_head (by decide)]
      simp only [takeDigits?_year, Option.map_some, hvalue]
    · have hvalue : ((year.natAbs : Nat) : Int) = year := by omega
      rw [if_neg hneg, List.cons_append, takeYear?, trimStart_of_head (by decide)]
      simp only [takeDigits?_year, Option.map_some, hvalue]

/-- A fraction of `width` digits is read as nanoseconds. -/
theorem takeFraction?_padded {width n : Nat} (hw : 0 < width) (hnine : width ≤ 9) (h : n < Nat.pow 10 width) :
    takeFraction? ('.' :: (padded width n ++ ['Z'])) = some (n * Nat.pow 10 (9 - width), ['Z']) := by
  have hdigits : ∀ c ∈ padded width n, c.isDigit = true := fun _ => isDigit_of_mem_padded
  have hlength := length_padded hw h
  have htaken : (padded width n ++ ['Z']).takeWhile Char.isDigit = padded width n := by
    rw [List.takeWhile_append_of_pos hdigits]
    simp
  have hleft : (padded width n ++ ['Z']).dropWhile Char.isDigit = ['Z'] := by
    rw [List.dropWhile_append_of_pos hdigits]
    simp
  simp only [takeFraction?, htaken, hleft, if_neg (padded_ne_nil width n)]
  rw [hlength, List.take_of_length_le (by omega), numeralValue_padded]

private theorem takeFraction?_fraction {nanos : Nat} (h : nanos < 1000000000) :
    takeFraction? (fraction nanos ++ ['Z']) = some (nanos, ['Z']) := by
  unfold fraction
  by_cases hzero : nanos = 0
  · rw [if_pos hzero, hzero]
    rfl
  rw [if_neg hzero]
  by_cases hmillis : nanos % 1000000 = 0
  · have hvalue : nanos / 1000000 * Nat.pow 10 (9 - 3) = nanos := by
      rw [show Nat.pow 10 (9 - 3) = 1000000 from rfl]
      omega
    have hwidth : nanos / 1000000 < 1000 := by omega
    rw [if_pos hmillis, List.cons_append, takeFraction?_padded (by decide) (by decide) hwidth, hvalue]
  rw [if_neg hmillis]
  by_cases hmicros : nanos % 1000 = 0
  · have hvalue : nanos / 1000 * Nat.pow 10 (9 - 6) = nanos := by
      rw [show Nat.pow 10 (9 - 6) = 1000 from rfl]
      omega
    have hwidth : nanos / 1000 < 1000000 := by omega
    rw [if_pos hmicros, List.cons_append, takeFraction?_padded (by decide) (by decide) hwidth, hvalue]
  · have hvalue : nanos * Nat.pow 10 (9 - 9) = nanos := Nat.mul_one nanos
    rw [if_neg hmicros, List.cons_append, takeFraction?_padded (by decide) (by decide) h, hvalue]

theorem time_bounds (t : Timestamp) : t.hour ≤ 23 ∧ t.minute ≤ 59 ∧ t.second ≤ 60 ∧ t.nanos < 1000000000 := by
  have htime := t.time_valid
  simp only [isTime, Bool.and_eq_true, decide_eq_true_eq] at htime
  obtain ⟨⟨⟨hhour, hminute⟩, hsecond⟩, hnanos⟩ := htime
  exact ⟨hhour, hminute, hsecond, hnanos⟩

private theorem date_bounds (t : Timestamp) : t.month ≤ 12 ∧ t.day ≤ 31 := by
  have hdate := t.date_valid
  simp only [isDate, Bool.and_eq_true, decide_eq_true_eq] at hdate
  obtain ⟨⟨⟨-, hmonth⟩, -⟩, hday⟩ := hdate
  have hdays : daysInMonth t.year t.month ≤ 31 := by
    unfold daysInMonth
    split
    · split <;> decide
    · split <;> decide
  exact ⟨hmonth, Nat.le_trans hday hdays⟩

/-- On a clock in UTC the parts are those of the point in time itself. -/
theorem ofLocal?_utc (t : Timestamp) :
    ofLocal? t.year t.month t.day t.hour t.minute t.second t.nanos 0 = some t := by
  obtain ⟨hhour, hminute, -, -⟩ := t.time_bounds
  have hminutes : ((t.hour : Int) * 60 + t.minute - 0) = ((t.hour * 60 + t.minute : Nat) : Int) := by omega
  have hofDay : (((t.hour * 60 + t.minute : Nat) : Int) % 1440).toNat = t.hour * 60 + t.minute := by omega
  have hdiv : (t.hour * 60 + t.minute) / 60 = t.hour := by omega
  have hmod : (t.hour * 60 + t.minute) % 60 = t.minute := by omega
  unfold ofLocal?
  rw [if_pos t.date_valid]
  dsimp only
  rw [hminutes, hofDay, if_neg (by omega), if_neg (by omega), hdiv, hmod]
  exact dif_pos ⟨t.date_valid, t.time_valid⟩

theorem parse?_text (t : Timestamp) : parse? t.text = some t := by
  obtain ⟨hhour, hminute, hsecond, hnanos⟩ := t.time_bounds
  obtain ⟨hmonth, hday⟩ := t.date_bounds
  have hnumber : ∀ {n : Nat}, n ≤ 60 → ∀ rest, takeNumber? 2 (padded 2 n ++ rest) = some (n, rest) :=
    fun {n} h => takeNumber?_padded (by decide) (show n < 100 by omega)
  have hhyphen : ∀ rest, takeSeparator? '-' ('-' :: rest) = some rest := takeSeparator?_cons (by decide)
  have hcolon : ∀ rest, takeSeparator? ':' (':' :: rest) = some rest := takeSeparator?_cons (by decide)
  have hoffset : takeOffset? (trimStart ['Z']) = some (0, []) := by decide
  have hend : ¬ (trimStart [] ≠ [] ∨ (!isTime t.hour t.minute t.second t.nanos) = true) := by
    rw [t.time_valid]
    decide
  unfold parse? text
  rw [String.toList_ofList]
  simp only [chars, List.append_assoc, List.cons_append]
  unfold parseChars?
  refine Option.bind_eq_some_iff.2 ⟨_, takeYear?_yearChars _ _, ?_⟩
  refine Option.bind_eq_some_iff.2 ⟨_, hhyphen _, ?_⟩
  refine Option.bind_eq_some_iff.2 ⟨_, hnumber (by omega) _, ?_⟩
  refine Option.bind_eq_some_iff.2 ⟨_, hhyphen _, ?_⟩
  refine Option.bind_eq_some_iff.2 ⟨_, hnumber (by omega) _, ?_⟩
  refine Option.bind_eq_some_iff.2 ⟨_, rfl, ?_⟩
  refine Option.bind_eq_some_iff.2 ⟨_, hnumber (by omega) _, ?_⟩
  refine Option.bind_eq_some_iff.2 ⟨_, hcolon _, ?_⟩
  refine Option.bind_eq_some_iff.2 ⟨_, hnumber (by omega) _, ?_⟩
  refine Option.bind_eq_some_iff.2 ⟨_, hcolon _, ?_⟩
  refine Option.bind_eq_some_iff.2 ⟨_, hnumber hsecond _, ?_⟩
  refine Option.bind_eq_some_iff.2 ⟨_, takeFraction?_fraction hnanos, ?_⟩
  refine Option.bind_eq_some_iff.2 ⟨_, hoffset, ?_⟩
  exact (if_neg hend).trans (ofLocal?_utc t)

end Timestamp

end Preflight
