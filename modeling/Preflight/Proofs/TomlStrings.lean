import Preflight.Text.Split
import Preflight.Toml.Document

/-! # Strings of TOML are read back
Every text is read back from the form in which it is written, if no further quote follows it. The two basic forms
share their escapes, the two forms over several lines share what they make of runs of quotes, and the plainest form
is only chosen for texts that it can hold. -/
namespace Preflight.Toml

theorem Taken.push_some (c : Char) (s rest : List Char) : Taken.push c (some (s, rest)) = some (c :: s, rest) := rfl

theorem ne_of_isControl {c d : Char} (hc : isControl c = false) (hd : isControl d = true) : c ≠ d := by
  rintro rfl
  rw [hd] at hc
  cases hc

private theorem hexChar?_of_isControl {c : Char} (h : isControl c = true) :
    hexChar? ['0', '0', (Nat.digitChar (c.toNat / 16)).toUpper, (Nat.digitChar (c.toNat % 16)).toUpper] =
      some c := by
  have hbelow : c.toNat < 128 := by
    simp only [isControl, Bool.and_eq_true, Bool.or_eq_true, decide_eq_true_eq] at h
    omega
  have hall : ∀ n < 128, isControl (Char.ofNat n) = true →
      hexChar? ['0', '0', (Nat.digitChar (n / 16)).toUpper, (Nat.digitChar (n % 16)).toUpper] =
        some (Char.ofNat n) := by decide
  have hc := hall c.toNat hbelow
  rw [Char.ofNat_toNat] at hc
  exact hc h

/-- How a character is written that is no quote: behind a backslash as a letter or as a number, or as it stands. -/
inductive Escapes (c : Char) : Option (List Char) → Prop
  | letter {e : Char} (h : unescape? e = some c) : Escapes c (some ['\\', e])
  | number {w x y z : Char} (h : hexChar? [w, x, y, z] = some c) : Escapes c (some ['\\', 'u', w, x, y, z])
  | plain (hbackslash : c ≠ '\\') (hcontrol : isControl c = false) : Escapes c none

theorem escapes_escape? (c : Char) : Escapes c (escape? c) := by
  unfold escape?
  split
  · next h => exact .letter (by rw [h]; rfl)
  split
  · next h => exact .letter (by rw [h]; rfl)
  split
  · next h => exact .letter (by rw [h]; rfl)
  split
  · next h => exact .letter (by rw [h]; rfl)
  split
  · next h => exact .letter (by rw [h]; rfl)
  split
  · next h => exact .letter (by rw [h]; rfl)
  split
  · next h => exact .number (hexChar?_of_isControl h)
  · next hbackslash h => exact .plain hbackslash (Bool.eq_false_iff.2 h)

/-- A reader of a basic form, as far as characters are concerned that are no quotes. -/
structure ReadsEscapes (take : List Char → Taken) : Prop where
  plain : ∀ {c : Char}, c ≠ '"' → c ≠ '\\' → isControl c = false → ∀ s, take (c :: s) = (take s).push c
  letter : ∀ {e c : Char}, unescape? e = some c → ∀ s, take ('\\' :: e :: s) = (take s).push c
  number : ∀ {a b c d e : Char}, hexChar? [a, b, c, d] = some e → ∀ s,
    take ('\\' :: 'u' :: a :: b :: c :: d :: s) = (take s).push e

theorem ReadsEscapes.escaped {take : List Char → Taken} (h : ReadsEscapes take) {c : Char} (hquote : c ≠ '"')
    (s : List Char) : take ((escape? c).getD [c] ++ s) = (take s).push c := by
  have hescapes := escapes_escape? c
  generalize escape? c = escape at hescapes
  cases hescapes with
  | letter he => exact h.letter he s
  | number hdigits => exact h.number hdigits s
  | plain hbackslash hcontrol => exact h.plain hquote hbackslash hcontrol s

/-- A character that is no quote is not written with a quote in front. -/
theorem exists_escaped_eq_cons {c : Char} (hquote : c ≠ '"') :
    ∃ d s, (escape? c).getD [c] = d :: s ∧ d ≠ '"' ∧ (c ≠ '\n' → isControl d = false) := by
  have hescapes := escapes_escape? c
  generalize escape? c = escape at hescapes
  cases hescapes with
  | letter he => exact ⟨_, _, rfl, by decide, fun _ => rfl⟩
  | number hdigits => exact ⟨_, _, rfl, by decide, fun _ => rfl⟩
  | plain hbackslash hcontrol => exact ⟨_, _, rfl, hquote, fun _ => hcontrol⟩

theorem readsEscapes_takeBasic : ReadsEscapes takeBasic where
  plain hquote hbackslash hcontrol s := by
    rw [takeBasic]
    · rw [hcontrol]
      rfl
    all_goals simp [*]
  letter he s := by
    rw [takeBasic]
    · rw [he]
      rfl
    -- no letter escape is that of a number
    · rintro _ _ _ _ _ rfl
      cases he
    · rintro _ _ _ _ _ _ _ _ _ rfl
      cases he
  number hdigits s := by
    rw [takeBasic, hdigits]
    rfl

theorem takeBasic_basicChars (s rest : List Char) : takeBasic (basicChars s ++ '"' :: rest) = some (s, rest) := by
  induction s with
  | nil => rfl
  | cons c s ih =>
    by_cases hquote : c = '"'
    · have hread := readsEscapes_takeBasic.letter (e := '"') (c := '"') rfl (basicChars s ++ '"' :: rest)
      rw [ih] at hread
      rw [hquote]
      exact hread
    · have hread := readsEscapes_takeBasic.escaped hquote (basicChars s ++ '"' :: rest)
      rw [ih, ← List.append_assoc] at hread
      rw [basicChars, List.flatMap_cons, if_neg hquote]
      exact hread

theorem takeLiteral_append {s : List Char} (hquote : '\'' ∉ s) (hcontrol : ∀ c ∈ s, isControl c = false)
    (rest : List Char) : takeLiteral (s ++ '\'' :: rest) = some (s, rest) := by
  induction s with
  | nil => rfl
  | cons c s ih =>
    obtain ⟨hc, hs⟩ := List.forall_mem_cons.1 hcontrol
    have hne : c ≠ '\'' := (List.ne_of_not_mem_cons hquote).symm
    rw [List.cons_append, takeLiteral]
    · rw [hc, ih (List.not_mem_of_not_mem_cons hquote) hs]
      rfl
    · exact hne

/-- A reader of a form over several lines, as far as its quotes are concerned: three in a row close it, up to two
more in front of them belong to the text, and so do fewer quotes. -/
structure ClosesAtThree (q : Char) (take : List Char → Taken) : Prop where
  three : ∀ {s}, s.head? ≠ some q → take (q :: q :: q :: s) = some ([], s)
  four : ∀ {s}, s.head? ≠ some q → take (q :: q :: q :: q :: s) = some ([q], s)
  five : ∀ s, take (q :: q :: q :: q :: q :: s) = some ([q, q], s)
  one : ∀ {c}, c ≠ q → ∀ s, take (q :: c :: s) = (take (c :: s)).push q
  two : ∀ {c}, c ≠ q → ∀ s, take (q :: q :: c :: s) = (take (q :: c :: s)).push q

namespace ClosesAtThree

variable {q : Char} {take : List Char → Taken} {run : Nat}

theorem close (h : ClosesAtThree q take) (hrun : run ≤ 2) {rest : List Char} (hrest : rest.head? ≠ some q) :
    take (List.replicate run q ++ q :: q :: q :: rest) = some (List.replicate run q, rest) := by
  match run, hrun with
  | 0, _ => exact h.three hrest
  | 1, _ => exact h.four hrest
  | 2, _ => exact h.five rest

theorem open_run (h : ClosesAtThree q take) (hrun : run ≤ 2) {c : Char} (hc : c ≠ q) {s t rest : List Char}
    (hread : take (c :: s) = some (t, rest)) :
    take (List.replicate run q ++ c :: s) = some (List.replicate run q ++ t, rest) := by
  match run, hrun with
  | 0, _ => exact hread
  | 1, _ =>
    have hone := h.one hc s
    rw [hread] at hone
    exact hone
  | 2, _ =>
    have htwo := h.two hc s
    rw [h.one hc s, hread] at htwo
    exact htwo

end ClosesAtThree

theorem closesAtThree_takeBlockBasic : ClosesAtThree '"' (takeBlockBasic .text) where
  three hs := by
    rw [takeBlockBasic]
    all_goals simp
    · rintro s rfl
      exact hs rfl
    · rintro s rfl
      exact hs rfl
  four hs := by
    rw [takeBlockBasic]
    all_goals simp
    rintro s rfl
    exact hs rfl
  five s := by
    rw [takeBlockBasic]
    all_goals simp
  one hc s := by
    rw [takeBlockBasic]
    · rfl
    all_goals simp [hc]
  two hc s := by
    rw [takeBlockBasic]
    · rfl
    all_goals simp [hc]

theorem readsEscapes_takeBlockBasic : ReadsEscapes (takeBlockBasic .text) where
  plain hquote hbackslash hcontrol s := by
    have hreturn := ne_of_isControl hcontrol (d := '\r') rfl
    have hfeed := ne_of_isControl hcontrol (d := '\n') rfl
    rw [takeBlockBasic]
    · rw [hcontrol]
      rfl
    all_goals simp [*]
  letter he s := by
    rw [takeBlockBasic]
    · rw [he]
    · rintro _ _ _ _ _ rfl
      cases he
    · rintro _ _ _ _ _ _ _ _ _ rfl
      cases he
    all_goals simp
  number hdigits s := by
    rw [takeBlockBasic]
    · rw [hdigits]
      rfl
    all_goals simp

private theorem takeBlockBasic_feed (s : List Char) :
    takeBlockBasic .text ('\n' :: s) = (takeBlockBasic .text s).push '\n' := by
  rw [takeBlockBasic]
  all_goals simp

/-- The quotes in front of the rest of a text are its last run so far, which is why the third quote is escaped. -/
theorem takeBlockBasic_blockBasicChars {run : Nat} (hrun : run ≤ 2) (s : List Char) {rest : List Char}
    (hrest : rest.head? ≠ some '"') :
    takeBlockBasic .text (List.replicate run '"' ++ (blockBasicChars run s ++ '"' :: '"' :: '"' :: rest)) =
      some (List.replicate run '"' ++ s, rest) := by
  induction s generalizing run with
  | nil =>
    rw [List.append_nil]
    exact closesAtThree_takeBlockBasic.close hrun hrest
  | cons c s ih =>
    have hs := ih (Nat.zero_le 2)
    rw [List.replicate_zero, List.nil_append, List.nil_append] at hs
    unfold blockBasicChars
    by_cases hquote : c = '"'
    · rw [if_pos hquote, hquote]
      by_cases hthird : run = 2
      · rw [if_pos hthird, List.cons_append, List.cons_append]
        refine closesAtThree_takeBlockBasic.open_run hrun (by decide) ?_
        rw [readsEscapes_takeBlockBasic.letter (c := '"') rfl, hs, Taken.push_some]
      · rw [if_neg hthird]
        have hnext := ih (show run + 1 ≤ 2 by omega)
        rw [List.replicate_succ', List.append_assoc, List.append_assoc] at hnext
        exact hnext
    rw [if_neg hquote]
    by_cases hfeed : c = '\n'
    · rw [if_pos hfeed, hfeed, List.cons_append]
      refine closesAtThree_takeBlockBasic.open_run hrun (by decide) ?_
      rw [takeBlockBasic_feed, hs, Taken.push_some]
    · rw [if_neg hfeed]
      obtain ⟨d, t, hescaped, hd, -⟩ := exists_escaped_eq_cons hquote
      have hread := readsEscapes_takeBlockBasic.escaped hquote (blockBasicChars 0 s ++ '"' :: '"' :: '"' :: rest)
      rw [hs, Taken.push_some, ← List.append_assoc, hescaped] at hread
      rw [hescaped]
      exact closesAtThree_takeBlockBasic.open_run hrun hd hread

theorem closesAtThree_takeBlockLiteral : ClosesAtThree '\'' takeBlockLiteral where
  three hs := by
    rw [takeBlockLiteral]
    · rintro s rfl
      exact hs rfl
    · rintro s rfl
      exact hs rfl
  four hs := by
    rw [takeBlockLiteral]
    rintro s rfl
    exact hs rfl
  five s := by rw [takeBlockLiteral]
  one hc s := by
    rw [takeBlockLiteral]
    · rfl
    all_goals simp [hc]
  two hc s := by
    rw [takeBlockLiteral]
    · rfl
    all_goals simp [hc]

private theorem takeBlockLiteral_of_plain {c : Char} (hquote : c ≠ '\'') (h : c = '\n' ∨ isControl c = false)
    (s : List Char) :
    takeBlockLiteral (c :: s) = (takeBlockLiteral s).push c := by
  rcases h with rfl | hcontrol
  · rw [takeBlockLiteral]
  · have hreturn := ne_of_isControl hcontrol (d := '\r') rfl
    have hfeed := ne_of_isControl hcontrol (d := '\n') rfl
    rw [takeBlockLiteral]
    · rw [hcontrol]
      rfl
    all_goals simp [*]

theorem le_longestRun (q : Char) (s : List Char) (run longest : Nat) :
    run ≤ longestRun q run longest s ∧ longest ≤ longestRun q run longest s := by
  induction s generalizing run longest with
  | nil => exact ⟨Nat.le_max_left _ _, Nat.le_max_right _ _⟩
  | cons c s ih =>
    unfold longestRun
    split
    · have hlater := ih (run + 1) longest
      omega
    · have hlater := ih 0 (max run longest)
      omega

private theorem not_mem_of_longestRun {q : Char} {s : List Char} {run longest : Nat}
    (h : longestRun q run longest s = 0) :
    q ∉ s := by
  induction s generalizing run longest with
  | nil => exact List.not_mem_nil
  | cons c s ih =>
    unfold longestRun at h
    split at h
    · have hlater := (le_longestRun q s (run + 1) longest).1
      omega
    · next hne => exact List.not_mem_cons_of_ne_of_not_mem (Ne.symm hne) (ih h)

private theorem takeBlockLiteral_append {s : List Char} {run longest : Nat}
    (hrun : longestRun '\'' run longest s ≤ 2)
    (hplain : ∀ c ∈ s, c = '\n' ∨ isControl c = false) {rest : List Char} (hrest : rest.head? ≠ some '\'') :
    takeBlockLiteral (List.replicate run '\'' ++ (s ++ '\'' :: '\'' :: '\'' :: rest)) =
      some (List.replicate run '\'' ++ s, rest) := by
  have htwo : run ≤ 2 := Nat.le_trans (le_longestRun '\'' s run longest).1 hrun
  induction s generalizing run longest with
  | nil =>
    rw [List.append_nil]
    exact closesAtThree_takeBlockLiteral.close htwo hrest
  | cons c s ih =>
    obtain ⟨hc, hs⟩ := List.forall_mem_cons.1 hplain
    unfold longestRun at hrun
    split at hrun
    · next hquote =>
      have hnext := ih hrun hs (Nat.le_trans (le_longestRun '\'' s _ _).1 hrun)
      rw [List.replicate_succ', List.append_assoc, List.append_assoc] at hnext
      rw [hquote]
      exact hnext
    · next hquote =>
      have hnext := ih hrun hs (Nat.zero_le 2)
      refine closesAtThree_takeBlockLiteral.open_run htwo hquote ?_
      rw [takeBlockLiteral_of_plain hquote hc]
      exact congrArg (Taken.push c) hnext

/-- What a form asks of a text that is written in it. -/
def Quoting.Fits (s : List Char) : Quoting → Prop
  | .basic => True
  | .literal => '\'' ∉ s ∧ ∀ c ∈ s, isControl c = false
  | .blockBasic => True
  | .blockLiteral => longestRun '\'' 0 0 s ≤ 2 ∧ ∀ c ∈ s, c = '\n' ∨ isControl c = false

private theorem Quoting.choose_fits (s : List Char) : (choose s).Fits s := by
  unfold choose
  cases hescapes : needsEscapes s with
  | true =>
    dsimp only
    rw [if_pos rfl]
    split <;> trivial
  | false =>
    have hplain : ∀ c ∈ s, c = '\n' ∨ isControl c = false := by
      intro c hc
      have hnone := List.any_eq_false.1 hescapes c hc
      by_cases hfeed : c = '\n'
      · exact .inl hfeed
      · exact .inr (by simpa [hfeed] using hnone)
    dsimp only
    rw [if_neg Bool.false_ne_true]
    split
    · trivial
    split
    · next h =>
      simp only [Bool.and_eq_true, decide_eq_true_eq, Bool.not_eq_true', List.contains_eq_mem,
        decide_eq_false_iff_not] at h
      refine ⟨not_mem_of_longestRun h.1, fun c hc => (hplain c hc).resolve_left ?_⟩
      rintro rfl
      exact h.2 hc
    split
    · trivial
    split
    · next h => exact ⟨h, hplain⟩
    split <;> trivial

/-- Neither quote stands at the front of a text, so that no quote before it is taken for one of three. -/
def Unquoted (rest : List Char) : Prop := rest.head? ≠ some '"' ∧ rest.head? ≠ some '\''

private theorem dropNewline_of_head {s : List Char} (h : ∀ c ∈ s.head?, isControl c = false) :
    dropNewline s = s := by
  unfold dropNewline
  split
  · exact absurd (h '\r' rfl) (by decide)
  · exact absurd (h '\n' rfl) (by decide)
  · rfl

/-- The line feed that the opening quotes get where the text holds one is dropped again. -/
theorem dropNewline_opening {s written : List Char}
    (h : '\n' ∉ s → ∀ c ∈ written.head?, isControl c = false) :
    dropNewline ((if s.contains '\n' then ['\n'] else []) ++ written) = written := by
  by_cases hfeed : '\n' ∈ s
  · rw [if_pos (List.contains_iff_mem.2 hfeed)]
    rfl
  · rw [if_neg (mt List.contains_iff_mem.1 hfeed)]
    exact dropNewline_of_head (h hfeed)

private theorem takeString?_basic (s : List Char) {rest : List Char} (hrest : Unquoted rest) :
    takeString? (quoteAs .basic s ++ rest) = some (s, rest) := by
  have hone : ∀ t, basicChars s ++ '"' :: rest ≠ '"' :: '"' :: t := by
    cases s with
    | nil =>
      rintro t heq
      rw [(List.cons.inj heq).2] at hrest
      exact hrest.1 rfl
    | cons c s =>
      by_cases hquote : c = '"'
      · rw [hquote]
        rintro t heq
        cases heq
      · obtain ⟨d, e, hescaped, hd, -⟩ := exists_escaped_eq_cons hquote
        rw [basicChars, List.flatMap_cons, if_neg hquote, hescaped]
        rintro t heq
        exact hd (List.cons.inj heq).1
  simp only [quoteAs, List.cons_append, List.append_assoc, List.nil_append]
  rw [takeString?]
  · exact takeBasic_basicChars s rest
  · exact hone

private theorem takeString?_literal {s : List Char} (h : Quoting.literal.Fits s) {rest : List Char}
    (hrest : Unquoted rest) :
    takeString? (quoteAs .literal s ++ rest) = some (s, rest) := by
  have hone : ∀ t, s ++ '\'' :: rest ≠ '\'' :: '\'' :: t := by
    cases s with
    | nil =>
      rintro t heq
      rw [(List.cons.inj heq).2] at hrest
      exact hrest.2 rfl
    | cons c s =>
      rintro t heq
      exact List.ne_of_not_mem_cons h.1 (List.cons.inj heq).1.symm
  simp only [quoteAs, List.cons_append, List.append_assoc, List.nil_append]
  rw [takeString?]
  · exact takeLiteral_append h.1 h.2 rest
  · exact hone

private theorem takeString?_blockBasic (s : List Char) {rest : List Char} (hrest : Unquoted rest) :
    takeString? (quoteAs .blockBasic s ++ rest) = some (s, rest) := by
  have hread := takeBlockBasic_blockBasicChars (Nat.zero_le 2) s hrest.1
  have hhead : '\n' ∉ s → ∀ c ∈ (blockBasicChars 0 s ++ '"' :: '"' :: '"' :: rest).head?, isControl c = false := by
    intro hfeed c hc
    cases s with
    | nil =>
      cases hc
      rfl
    | cons d s =>
      unfold blockBasicChars at hc
      by_cases hquote : d = '"'
      · rw [if_pos hquote, if_neg (by decide)] at hc
        cases hc
        rfl
      · have hd : d ≠ '\n' := (List.ne_of_not_mem_cons hfeed).symm
        obtain ⟨e, t, hescaped, -, hcontrol⟩ := exists_escaped_eq_cons hquote
        rw [if_neg hquote, if_neg hd, hescaped] at hc
        cases hc
        exact hcontrol hd
  have hopening := dropNewline_opening hhead
  simp only [quoteAs, List.cons_append, List.append_assoc, List.nil_append, takeString?]
  rw [hopening]
  exact hread

private theorem takeString?_blockLiteral {s : List Char} (h : Quoting.blockLiteral.Fits s) {rest : List Char}
    (hrest : Unquoted rest) : takeString? (quoteAs .blockLiteral s ++ rest) = some (s, rest) := by
  have hread := takeBlockLiteral_append h.1 h.2 hrest.2
  have hhead : '\n' ∉ s → ∀ c ∈ (s ++ '\'' :: '\'' :: '\'' :: rest).head?, isControl c = false := by
    intro hfeed c hc
    cases s with
    | nil =>
      cases hc
      rfl
    | cons d s =>
      obtain rfl := Option.some.inj hc
      exact (h.2 _ List.mem_cons_self).resolve_left (List.ne_of_not_mem_cons hfeed).symm
  have hopening := dropNewline_opening hhead
  simp only [quoteAs, List.cons_append, List.append_assoc, List.nil_append, takeString?]
  rw [hopening]
  exact hread

theorem takeString?_quote (s : List Char) {rest : List Char} (hrest : Unquoted rest) :
    takeString? (quote s ++ rest) = some (s, rest) := by
  have hfits := Quoting.choose_fits s
  unfold quote
  generalize Quoting.choose s = form at hfits
  cases form with
  | basic => exact takeString?_basic s hrest
  | literal => exact takeString?_literal hfits hrest
  | blockBasic => exact takeString?_blockBasic s hrest
  | blockLiteral => exact takeString?_blockLiteral hfits hrest

theorem takeKeyPart?_quoteAs_basic (s rest : List Char) :
    takeKeyPart? (quoteAs .basic s ++ rest) = some (String.ofList s, rest) := by
  simp only [quoteAs, List.cons_append, List.append_assoc, List.nil_append, takeKeyPart?, takeBasic_basicChars,
    Option.map_some]

private theorem takeKeyPart?_quoteAs_literal {s : List Char} (h : Quoting.literal.Fits s) (rest : List Char) :
    takeKeyPart? (quoteAs .literal s ++ rest) = some (String.ofList s, rest) := by
  simp only [quoteAs, List.cons_append, List.append_assoc, List.nil_append, takeKeyPart?,
    takeLiteral_append h.1 h.2, Option.map_some]

/-- A bare key ends where the first character stands that is none of a bare key. -/
theorem takeKeyPart?_of_isBareKey {s : List Char} (h : isBareKey s = true) {rest : List Char}
    (hrest : ∀ c ∈ rest.head?, isBareChar c = false) :
    takeKeyPart? (s ++ rest) = some (String.ofList s, rest) := by
  simp only [isBareKey, Bool.and_eq_true, Bool.not_eq_true', List.all_eq_true] at h
  obtain ⟨hne, hbare⟩ := h
  have htaken : (s ++ rest).takeWhile isBareChar = s := Text.takeWhile_append hbare hrest
  obtain ⟨c, t, rfl⟩ := List.exists_cons_of_ne_nil (List.isEmpty_eq_false_iff.1 hne)
  have hc := hbare c List.mem_cons_self
  have hdouble : c ≠ '"' := by
    rintro rfl
    cases hc
  have hsingle : c ≠ '\'' := by
    rintro rfl
    cases hc
  rw [takeKeyPart?]
  · rw [htaken, List.drop_left]
    rfl
  · rintro _ heq
    exact hdouble (List.cons.inj heq).1
  · rintro _ heq
    exact hsingle (List.cons.inj heq).1

/-- A key is read back if a blank follows it. -/
theorem takeKeyPart?_quoteKey (s rest : List Char) :
    takeKeyPart? (quoteKey s ++ ' ' :: rest) = some (String.ofList s, ' ' :: rest) := by
  unfold quoteKey
  split
  · next hbare => exact takeKeyPart?_of_isBareKey hbare fun c hc => by cases hc; rfl
  split
  · exact takeKeyPart?_quoteAs_basic s _
  next hcontrol =>
  split
  · exact takeKeyPart?_quoteAs_basic s _
  split
  · next hsingle =>
    rw [Bool.not_eq_true, List.any_eq_false] at hcontrol
    rw [Bool.not_eq_true', List.contains_eq_mem, decide_eq_false_iff_not] at hsingle
    exact takeKeyPart?_quoteAs_literal ⟨hsingle, fun c hc => Bool.eq_false_iff.2 (hcontrol c hc)⟩ _
  · exact takeKeyPart?_quoteAs_basic s _

end Preflight.Toml
