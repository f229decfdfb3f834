import Mathlib.Data.List.Induction
import Preflight.Text.Numeral

/-! # Numerals and digits
A run of digits is the canonical numeral of its value with zeros in front, and there are none of these zeros if the
run is canonical itself. -/
namespace Preflight.Text

theorem head?_numeral {n : Nat} (h : n ≠ 0) : (numeral n).head? ≠ some '0' := by
  unfold numeral
  induction n using Nat.strongRecOn with
  | ind n ih =>
    by_cases hten : n < 10
    · rw [Nat.toDigits_of_lt_base hten, List.head?_cons, ne_eq, Option.some.injEq, Nat.digitChar_eq_zero]
      exact h
    · have hhead := ih (n / 10) (by omega) (by omega)
      obtain ⟨c, s, hcons⟩ := List.exists_cons_of_ne_nil (Nat.toDigits_ne_nil (n := n / 10) (b := 10))
      rw [hcons] at hhead
      rw [Nat.toDigits_of_base_le (by decide) (by omega), hcons]
      exact hhead

theorem isDigit_of_mem_numeral {n : Nat} {c : Char} (h : c ∈ numeral n) : c.isDigit = true :=
  List.all_eq_true.1 (numeral_all_isDigit n) c h

theorem isCanonical_iff {s : List Char} :
    isCanonical s = true ↔ (∀ c ∈ s, c.isDigit = true) ∧ (s = ['0'] ∨ s ≠ [] ∧ s.head? ≠ some '0') := by
  simp [isCanonical]

theorem isCanonical_numeral (n : Nat) : isCanonical (numeral n) = true := by
  refine isCanonical_iff.2 ⟨fun _ => isDigit_of_mem_numeral, ?_⟩
  by_cases hzero : n = 0
  · exact .inl (hzero ▸ rfl)
  · exact .inr ⟨numeral_ne_nil n, head?_numeral hzero⟩

theorem ne_of_isDigit {c d : Char} (hc : c.isDigit = true) (hd : d.isDigit = false) : c ≠ d := by
  rintro rfl
  rw [hc] at hd
  cases hd

theorem exists_eq_digitChar {c : Char} (h : c.isDigit = true) : ∃ n < 10, c = Nat.digitChar n := by
  obtain ⟨hlow, hhigh⟩ : 48 ≤ c.toNat ∧ c.toNat ≤ 57 := Char.isDigit_iff_toNat.1 h
  refine ⟨c.toNat - 48, by omega, Char.toNat_inj.1 ?_⟩
  rw [Nat.toNat_digitChar_of_lt_ten (by omega)]
  omega

/-- A run of digits is the numeral of its value with zeros in front. -/
theorem exists_replicate_numeral {s : List Char} (hne : s ≠ []) (hdigits : ∀ c ∈ s, c.isDigit = true) :
    ∃ zeros, s = List.replicate zeros '0' ++ numeral (numeralValue s) := by
  induction s using List.reverseRecOn with
  | nil => exact absurd rfl hne
  | append_singleton s c ih =>
    obtain ⟨n, hn, rfl⟩ := exists_eq_digitChar (hdigits c (by simp))
    have hvalue : numeralValue (s ++ [n.digitChar]) = 10 * numeralValue s + n := by
      rw [numeralValue, Nat.ofDigitChars_append, Nat.ofDigitChars_cons_digitChar_of_lt_ten hn]
      rfl
    have hlast : numeral n = [n.digitChar] := Nat.toDigits_of_lt_base hn
    rw [hvalue]
    by_cases hempty : s = []
    · subst hempty
      exact ⟨0, by rw [show numeralValue [] = 0 from rfl, Nat.mul_zero, Nat.zero_add, hlast]; rfl⟩
    obtain ⟨zeros, hs⟩ := ih hempty fun c hc => hdigits c (List.mem_append_left _ hc)
    by_cases hzero : numeralValue s = 0
    · -- The value so far is written as a zero, which now is one more of those in front.
      refine ⟨zeros + 1, ?_⟩
      rw [hzero] at hs ⊢
      rw [Nat.mul_zero, Nat.zero_add, hlast, List.replicate_succ', hs]
      rfl
    · refine ⟨zeros, ?_⟩
      have happend : numeral (numeralValue s) ++ numeral n = numeral (10 * numeralValue s + n) :=
        Nat.toDigits_append_toDigits (by decide) (Nat.pos_of_ne_zero hzero) hn
      rw [← happend, hlast, ← List.append_assoc, ← hs]

theorem readNumeral?_eq_some_iff {s : List Char} {n : Nat} :
    readNumeral? s = some n ↔ ∃ zeros, s = List.replicate zeros '0' ++ numeral n := by
  unfold readNumeral?
  constructor
  · intro h
    split at h
    · next hs =>
      cases h
      exact exists_replicate_numeral hs.1 (List.all_eq_true.1 hs.2)
    · cases h
  · rintro ⟨zeros, rfl⟩
    have hne : List.replicate zeros '0' ++ numeral n ≠ [] :=
      List.append_ne_nil_of_right_ne_nil _ (numeral_ne_nil n)
    rw [if_pos ⟨hne, List.all_eq_true.2 fun _ => isDigit_of_mem_zeros_append⟩, numeralValue_zeros_append]

theorem numeral_numeralValue {s : List Char} (h : isCanonical s = true) : numeral (numeralValue s) = s := by
  obtain ⟨hdigits, hshape⟩ := isCanonical_iff.1 h
  rcases hshape with rfl | ⟨hne, hhead⟩
  · rfl
  obtain ⟨zeros, hs⟩ := exists_replicate_numeral hne hdigits
  cases zeros with
  | zero => exact hs.symm
  | succ zeros =>
    rw [hs] at hhead
    exact absurd rfl hhead

end Preflight.Text
