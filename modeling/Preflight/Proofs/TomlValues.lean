import Preflight.Proofs.TomlStrings
import Preflight.Proofs.VersionText
import Preflight.Settings.File

/-! # Values of TOML are read back
The values that settings are made of: strings, natural numbers and arrays of strings. A numeral at the end of its
line is no date, since no hyphen stands behind its fourth digit, no time of day, since no colon stands behind its
second one, and no float. -/
namespace Preflight.Toml

open Text

theorem numeral_ne_cons {n : Nat} {c : Char} (hc : c.isDigit = false) (rest t : List Char) :
    numeral n ++ rest ≠ c :: t := by
  intro heq
  obtain ⟨d, s, hcons⟩ := List.exists_cons_of_ne_nil (numeral_ne_nil n)
  rw [hcons, List.cons_append] at heq
  have hd : d.isDigit = true := isDigit_of_mem_numeral (hcons ▸ List.mem_cons_self)
  exact ne_of_isDigit hd hc (List.cons.inj heq).1

/-- Behind a fixed number of digits at the end of a line there is a further digit or the end of the line. -/
theorem takeThe?_of_takeFixed? {width : Nat} {digits s rest : List Char} {value : Nat} {c : Char}
    (hdigits : ∀ d ∈ digits, d.isDigit = true) (hc : c.isDigit = false) (hline : c ≠ '\n')
    (h : takeFixed? width (digits ++ '\n' :: rest) = some (value, s)) : takeThe? c s = none := by
  unfold takeFixed? at h
  dsimp only at h
  split at h
  · next hfixed =>
    obtain ⟨-, rfl⟩ := Prod.mk.inj (Option.some.inj h)
    have hwidth : width ≤ digits.length := by
      refine Nat.le_of_not_lt fun hlt => ?_
      have hmem : '\n' ∈ (digits ++ '\n' :: rest).take width := by
        rw [List.take_append, List.take_of_length_le (Nat.le_of_lt hlt)]
        obtain ⟨k, hk⟩ := Nat.exists_eq_add_of_lt hlt
        rw [hk, show digits.length + k + 1 - digits.length = k + 1 by omega]
        exact List.mem_append_right _ List.mem_cons_self
      cases List.all_eq_true.1 hfixed.2 _ hmem
    rw [List.drop_append_of_le_length hwidth]
    cases hdrop : digits.drop width with
    | nil => exact if_neg (Ne.symm hline)
    | cons d t =>
      have hd : d.isDigit = true := hdigits d (List.mem_of_mem_drop (hdrop ▸ List.mem_cons_self))
      exact if_neg (ne_of_isDigit hd hc)
  · cases h

private theorem takeDateTime?_numeral (n : Nat) (rest : List Char) :
    takeDateTime? (numeral n ++ '\n' :: rest) = none := by
  have hdate : takeDate? (numeral n ++ '\n' :: rest) = none := by
    unfold takeDate?
    cases hyear : takeFixed? 4 (numeral n ++ '\n' :: rest) with
    | none => rfl
    | some p =>
      have hhyphen : takeThe? '-' p.2 = none :=
        takeThe?_of_takeFixed? (fun _ => isDigit_of_mem_numeral) rfl (by decide) hyear
      simp only [Option.bind_eq_bind, Option.bind_some, hhyphen, Option.bind_none]
  have htime : takeTime? (numeral n ++ '\n' :: rest) = none := by
    unfold takeTime?
    cases hhour : takeFixed? 2 (numeral n ++ '\n' :: rest) with
    | none => rfl
    | some p =>
      have hcolon : takeThe? ':' p.2 = none :=
        takeThe?_of_takeFixed? (fun _ => isDigit_of_mem_numeral) rfl (by decide) hhour
      simp only [Option.bind_eq_bind, Option.bind_some, hcolon, Option.bind_none]
  unfold takeDateTime?
  rw [hdate, htime]
  rfl

private theorem takeMoreDigits_append {digits : List Char} (h : ∀ c ∈ digits, c.isDigit = true) (rest : List Char) :
    takeMoreDigits Char.isDigit (digits ++ '\n' :: rest) = (digits, '\n' :: rest) := by
  induction digits with
  | nil => rfl
  | cons c digits ih =>
    obtain ⟨hc, hdigits⟩ := List.forall_mem_cons.1 h
    rw [List.cons_append, takeMoreDigits]
    · rw [if_pos hc, ih hdigits]
    · rintro d t rfl
      cases hc

theorem takeDecimal?_numeral (n : Nat) (rest : List Char) :
    takeDecimal? (numeral n ++ '\n' :: rest) = some (numeral n, '\n' :: rest) := by
  by_cases hzero : n = 0
  · rw [hzero]
    rfl
  · obtain ⟨c, s, hcons⟩ := List.exists_cons_of_ne_nil (numeral_ne_nil n)
    have hdigits : ∀ d ∈ c :: s, d.isDigit = true := fun d hd => isDigit_of_mem_numeral (hcons ▸ hd)
    obtain ⟨hc, hs⟩ := List.forall_mem_cons.1 hdigits
    have hne : c ≠ '0' := fun heq => head?_numeral hzero (by rw [hcons, heq]; rfl)
    rw [hcons, List.cons_append, takeDecimal?]
    · rw [takeDigits?, if_pos hc, takeMoreDigits_append hs]
    · rintro t heq
      exact hne (List.cons.inj heq).1

theorem takeSign_numeral (n : Nat) (rest : List Char) :
    takeSign (numeral n ++ rest) = (false, numeral n ++ rest) := by
  rw [takeSign]
  · exact fun t => numeral_ne_cons rfl rest t
  · exact fun t => numeral_ne_cons rfl rest t

private theorem takeFloat?_numeral (n : Nat) (rest : List Char) :
    takeFloat? (numeral n ++ '\n' :: rest) = none := by
  unfold takeFloat?
  rw [takeSign_numeral]
  dsimp only
  split
  · next heq => exact absurd heq (numeral_ne_cons rfl _ _)
  · next heq => exact absurd heq (numeral_ne_cons rfl _ _)
  · rw [takeDecimal?_numeral]
    rfl

private theorem integerOf?_numeral {n : Nat} (h : n < integerBound) :
    integerOf? false 10 (numeral n) = some (.int n) := by
  have hvalue : ∀ (digits : List Char) (value : Nat), (∀ c ∈ digits, c.isDigit = true) →
      digits.foldl (fun acc c => 10 * acc +
        (if c.isDigit then c.toNat - '0'.toNat else c.toLower.toNat - 'a'.toNat + 10)) value =
          Nat.ofDigitChars 10 digits value := by
    intro digits
    induction digits with
    | nil => exact fun _ _ => rfl
    | cons c digits ih =>
      intro value hall
      obtain ⟨hc, hdigits⟩ := List.forall_mem_cons.1 hall
      rw [List.foldl_cons, if_pos hc, ih _ hdigits]
      rfl
  have hnumeral : Nat.ofDigitChars 10 (numeral n) 0 = n := numeralValue_numeral n
  simp only [integerOf?, hvalue _ 0 fun _ => isDigit_of_mem_numeral, hnumeral]
  exact if_pos h

/-- A numeral does not name a base, neither behind a zero nor at its end. -/
theorem numeral_ne_based {n : Nat} {c : Char} (hc : c.isDigit = false) (hline : c ≠ '\n') (rest t : List Char) :
    numeral n ++ '\n' :: rest ≠ '0' :: c :: t := by
  intro heq
  obtain ⟨d, s, hcons⟩ := List.exists_cons_of_ne_nil (numeral_ne_nil n)
  have hdigits : ∀ e ∈ d :: s, e.isDigit = true := fun e he => isDigit_of_mem_numeral (hcons ▸ he)
  rw [hcons, List.cons_append] at heq
  have htail := (List.cons.inj heq).2
  cases s with
  | nil => exact hline (List.cons.inj htail).1.symm
  | cons e s =>
    have he := hdigits e (List.mem_cons_of_mem _ List.mem_cons_self)
    exact ne_of_isDigit he hc (List.cons.inj htail).1

private theorem takeInteger?_numeral {n : Nat} (h : n < integerBound) (rest : List Char) :
    takeInteger? (numeral n ++ '\n' :: rest) = some (.int n, '\n' :: rest) := by
  unfold takeInteger?
  split
  · next heq => exact absurd heq (numeral_ne_based rfl (by decide) _ _)
  · next heq => exact absurd heq (numeral_ne_based rfl (by decide) _ _)
  · next heq => exact absurd heq (numeral_ne_based rfl (by decide) _ _)
  · simp only [takeSign_numeral, takeDecimal?_numeral, integerOf?_numeral h, Option.bind_eq_bind, Option.bind_some,
      Option.pure_def]

/-- A value that begins with a quote is a string. -/
theorem takeValue?_of_quote {c : Char} (hc : c = '"' ∨ c = '\'') (depth : Nat) (s : List Char) :
    takeValue? depth (c :: s) = (takeString? (c :: s)).map fun p => (.str (String.ofList p.1), p.2) := by
  rw [takeValue?.eq_def]
  exact if_pos hc

/-- A value that begins with a digit is a date, a time of day or a number. -/
theorem takeValue?_of_isDigit {c : Char} (hc : c.isDigit = true) (depth : Nat) (s : List Char) :
    takeValue? depth (c :: s) = takeNumeric? (c :: s) := by
  have hne : ∀ d : Char, d.isDigit = false → c ≠ d := fun d hd => ne_of_isDigit hc hd
  rw [takeValue?.eq_def]
  dsimp only
  rw [if_neg (not_or.2 ⟨hne '"' rfl, hne '\'' rfl⟩), if_neg (hne '[' rfl), if_neg (hne '\x7b' rfl),
    if_pos (.inr (.inr hc))]

theorem takeValue?_bracket (depth : Nat) (s : List Char) :
    takeValue? (depth + 1) ('[' :: s) =
      (takeElements? (takeValue? depth) (s.length + 1) s).map fun p => (.arr p.1, p.2) := by
  rw [takeValue?, if_neg (by decide), if_pos rfl]

/-- A natural number at the end of its line is read back up to the greatest integer of the format. -/
theorem takeValue?_numeral {n : Nat} (h : n < integerBound) (depth : Nat) (rest : List Char) :
    takeValue? depth (numeral n ++ '\n' :: rest) = some (.int n, '\n' :: rest) := by
  have hnumeric : takeNumeric? (numeral n ++ '\n' :: rest) = some (.int n, '\n' :: rest) := by
    rw [takeNumeric?, takeDateTime?_numeral, takeFloat?_numeral, takeInteger?_numeral h]
    rfl
  obtain ⟨c, s, hcons⟩ := List.exists_cons_of_ne_nil (numeral_ne_nil n)
  have hc : c.isDigit = true := isDigit_of_mem_numeral (hcons ▸ List.mem_cons_self)
  rw [hcons, List.cons_append] at hnumeric ⊢
  rw [takeValue?_of_isDigit hc, hnumeric]

theorem exists_quote_eq_cons (s : List Char) : ∃ c t, quote s = c :: t ∧ (c = '"' ∨ c = '\'') := by
  unfold quote
  cases Quoting.choose s with
  | basic => exact ⟨_, _, rfl, .inl rfl⟩
  | literal => exact ⟨_, _, rfl, .inr rfl⟩
  | blockBasic => exact ⟨_, _, rfl, .inl rfl⟩
  | blockLiteral => exact ⟨_, _, rfl, .inr rfl⟩

theorem takeValue?_quote (s : String) (depth : Nat) {rest : List Char} (hrest : Unquoted rest) :
    takeValue? depth (quote s.toList ++ rest) = some (.str s, rest) := by
  have hstring := takeString?_quote s.toList hrest
  obtain ⟨c, t, hcons, hc⟩ := exists_quote_eq_cons s.toList
  rw [hcons, List.cons_append] at hstring ⊢
  rw [takeValue?_of_quote hc, hstring, Option.map_some, String.ofList_toList]

section elements

variable {value : Reader Json} {fuel : Nat} {c : Char} {s t r r' : List Char} {v : Json}

theorem takeElements?_close (h : dropTrivia false s = some (']' :: r)) :
    takeElements? value (fuel + 1) s = some ([], r) := by
  simp only [takeElements?, h, Option.bind_eq_bind, Option.bind_some, Option.pure_def]

private theorem takeElements?_last (hstart : dropTrivia false s = some (c :: t)) (hc : c ≠ ']')
    (hvalue : value (c :: t) = some (v, r)) (hend : dropTrivia false r = some (']' :: r')) :
    takeElements? value (fuel + 1) s = some ([v], r') := by
  simp only [takeElements?, hstart, Option.bind_eq_bind, Option.bind_some]
  split
  · next heq => exact absurd (List.cons.inj heq).1 hc
  · simp only [hvalue, hend, Option.bind_some, Option.pure_def]

private theorem takeElements?_next (hstart : dropTrivia false s = some (c :: t)) (hc : c ≠ ']')
    (hvalue : value (c :: t) = some (v, r)) (hcomma : dropTrivia false r = some (',' :: r')) :
    takeElements? value (fuel + 1) s = (takeElements? value fuel r').map fun p => (v :: p.1, p.2) := by
  simp only [takeElements?, hstart, Option.bind_eq_bind, Option.bind_some]
  split
  · next heq => exact absurd (List.cons.inj heq).1 hc
  · simp only [hvalue, hcomma, Option.bind_some, Option.pure_def]
    cases takeElements? value fuel r' <;> rfl

end elements

theorem dropTrivia_of_quote {c : Char} (hc : c = '"' ∨ c = '\'') (s : List Char) :
    dropTrivia false (c :: s) = some (c :: s) := by
  rcases hc with rfl | rfl <;> rfl

def elementLine (s : String) : List Char := "    ".toList ++ quote s.toList ++ [',', '\n']

private theorem length_le_elementLines (ss : List String) : ss.length ≤ (ss.flatMap elementLine).length := by
  induction ss with
  | nil => exact Nat.le_refl _
  | cons s ss ih =>
    simp only [List.flatMap_cons, List.length_append, List.length_cons, elementLine]
    omega

/-- Every element stands behind the line feed of the line before, and so does the bracket. -/
theorem takeElements?_elementLines {fuel : Nat} (ss : List String) (hfuel : ss.length < fuel) (depth : Nat)
    (rest : List Char) :
    takeElements? (takeValue? depth) fuel ('\n' :: (ss.flatMap elementLine ++ ']' :: rest)) =
      some (ss.map .str, rest) := by
  induction ss generalizing fuel with
  | nil =>
    obtain ⟨fuel, rfl⟩ := Nat.exists_eq_add_one_of_ne_zero (Nat.ne_of_gt hfuel)
    exact takeElements?_close rfl
  | cons s ss ih =>
    obtain ⟨fuel, rfl⟩ := Nat.exists_eq_add_one_of_ne_zero (Nat.ne_of_gt (Nat.zero_lt_of_lt hfuel))
    have hnext := ih (Nat.lt_of_succ_lt_succ hfuel)
    have hcomma : Unquoted (',' :: '\n' :: (ss.flatMap elementLine ++ ']' :: rest)) := ⟨by simp, by simp⟩
    have hvalue := takeValue?_quote s depth hcomma
    obtain ⟨c, t, hcons, hc⟩ := exists_quote_eq_cons s.toList
    have hbracket : c ≠ ']' := by rcases hc with rfl | rfl <;> decide
    rw [hcons, List.cons_append] at hvalue
    have hstart : dropTrivia false ('\n' :: ((s :: ss).flatMap elementLine ++ ']' :: rest)) =
        some (c :: (t ++ ',' :: '\n' :: (ss.flatMap elementLine ++ ']' :: rest))) := by
      rw [List.flatMap_cons, elementLine, hcons]
      simp only [List.append_assoc, List.cons_append, List.nil_append]
      exact dropTrivia_of_quote hc _
    rw [takeElements?_next hstart hbracket hvalue rfl, hnext]
    rfl

theorem takeValue?_arrayChars (ss : List String) (depth : Nat) (rest : List Char) :
    takeValue? (depth + 1) (Settings.arrayChars ss ++ rest) = some (Json.strings ss, rest) := by
  match ss with
  | [] =>
    change takeValue? (depth + 1) ('[' :: ']' :: rest) = _
    rw [takeValue?_bracket, takeElements?_close rfl]
    rfl
  | [s] =>
    have hend : Unquoted (']' :: rest) := ⟨by simp, by simp⟩
    have hvalue := takeValue?_quote s depth hend
    obtain ⟨c, t, hcons, hc⟩ := exists_quote_eq_cons s.toList
    have hbracket : c ≠ ']' := by rcases hc with rfl | rfl <;> decide
    have hchars : Settings.arrayChars [s] ++ rest = '[' :: (c :: t ++ ']' :: rest) := by
      simp only [Settings.arrayChars, hcons, List.cons_append, List.append_assoc, List.nil_append]
    rw [hcons, List.cons_append] at hvalue
    rw [hchars, takeValue?_bracket, List.cons_append,
      takeElements?_last (dropTrivia_of_quote hc _) hbracket hvalue rfl]
    rfl
  | s :: s' :: ss =>
    have hchars : Settings.arrayChars (s :: s' :: ss) ++ rest =
        '[' :: '\n' :: ((s :: s' :: ss).flatMap elementLine ++ ']' :: rest) := by
      simp only [Settings.arrayChars, List.append_assoc, List.singleton_append]
      rfl
    have hlines := length_le_elementLines (s :: s' :: ss)
    rw [hchars, takeValue?_bracket, takeElements?_elementLines]
    · rfl
    · simp only [List.length_cons, List.length_append] at hlines ⊢
      omega

end Preflight.Toml
