import Preflight.Proofs.TomlValues

/-! # Documents of TOML are read back
A line that sets a value to a key is read as the statement that does so, whatever follows it, and a text made of
such lines is read as their statements, one after the other. -/
namespace Preflight.Toml

def StartsKey (c : Char) : Prop := isBareChar c = true ∨ c = '"' ∨ c = '\''

instance (c : Char) : Decidable (StartsKey c) := inferInstanceAs (Decidable (_ ∨ _))

theorem StartsKey.ne {c d : Char} (hc : StartsKey c) (hd : ¬ StartsKey d) : c ≠ d := by
  rintro rfl
  exact hd hc

theorem exists_quoteKey_eq_cons (s : List Char) : ∃ c t, quoteKey s = c :: t ∧ StartsKey c := by
  unfold quoteKey
  split
  · next hbare =>
    simp only [isBareKey, Bool.and_eq_true, Bool.not_eq_true', List.all_eq_true] at hbare
    obtain ⟨c, t, rfl⟩ := List.exists_cons_of_ne_nil (List.isEmpty_eq_false_iff.1 hbare.1)
    exact ⟨c, t, rfl, .inl (hbare.2 c List.mem_cons_self)⟩
  split
  · exact ⟨_, _, rfl, .inr (.inl rfl)⟩
  split
  · exact ⟨_, _, rfl, .inr (.inl rfl)⟩
  split
  · exact ⟨_, _, rfl, .inr (.inr rfl)⟩
  · exact ⟨_, _, rfl, .inr (.inl rfl)⟩

theorem dropSpace_of_head {c : Char} (h : isSpace c = false) (s : List Char) : dropSpace (c :: s) = c :: s :=
  List.dropWhile_cons_of_neg (Bool.eq_false_iff.1 h)

theorem isSpace_of_ne {c : Char} (hblank : c ≠ ' ') (htab : c ≠ '\t') : isSpace c = false := by
  simp [isSpace, hblank, htab]

private theorem takeKey?_quoteKey (s rest : List Char) :
    takeKey? (quoteKey s ++ " = ".toList ++ rest) = some (⟨[], String.ofList s⟩, '=' :: ' ' :: rest) := by
  have hpart := takeKeyPart?_quoteKey s ('=' :: ' ' :: rest)
  obtain ⟨c, t, hcons, hc⟩ := exists_quoteKey_eq_cons s
  rw [hcons, List.cons_append] at hpart
  have hstart := dropSpace_of_head (isSpace_of_ne (hc.ne (by decide)) (hc.ne (by decide)))
    (t ++ ' ' :: '=' :: ' ' :: rest)
  have hparts : takeKeyParts? ((c :: (t ++ ' ' :: '=' :: ' ' :: rest)).length + 1)
      (c :: (t ++ ' ' :: '=' :: ' ' :: rest)) = some ([String.ofList s], '=' :: ' ' :: rest) := by
    rw [takeKeyParts?, hstart, hpart]
    rfl
  have hchars : quoteKey s ++ " = ".toList ++ rest = c :: (t ++ ' ' :: '=' :: ' ' :: rest) := by
    rw [hcons, List.append_assoc]
    rfl
  rw [hchars, takeKey?, hparts]
  rfl

/-- A text that is read as a value at the end of its line. -/
structure Denotes (written : List Char) (v : Json) : Prop where
  head : ∃ c s, written = c :: s ∧ isSpace c = false
  read : ∀ rest, takeValue? nestingLimit (written ++ '\n' :: rest) = some (v, '\n' :: rest)

theorem denotes_quote (s : String) : Denotes (quote s.toList) (.str s) where
  head := by
    obtain ⟨c, t, hcons, hc⟩ := exists_quote_eq_cons s.toList
    exact ⟨c, t, hcons, by rcases hc with rfl | rfl <;> rfl⟩
  read rest := takeValue?_quote s nestingLimit ⟨by simp, by simp⟩

theorem denotes_numeral {n : Nat} (h : n < integerBound) : Denotes (Text.numeral n) (.int n) where
  head := by
    obtain ⟨c, s, hcons⟩ := List.exists_cons_of_ne_nil (Text.numeral_ne_nil n)
    have hdigit : c.isDigit = true := Text.isDigit_of_mem_numeral (hcons ▸ List.mem_cons_self)
    exact ⟨c, s, hcons, isSpace_of_ne (Text.ne_of_isDigit hdigit rfl) (Text.ne_of_isDigit hdigit rfl)⟩
  read rest := takeValue?_numeral h nestingLimit rest

theorem denotes_arrayChars (ss : List String) : Denotes (Settings.arrayChars ss) (Json.strings ss) where
  head := by
    match ss with
    | [] => exact ⟨_, _, rfl, rfl⟩
    | [s] => exact ⟨_, _, rfl, rfl⟩
    | s :: s' :: ss => exact ⟨_, _, rfl, rfl⟩
  read rest := takeValue?_arrayChars ss 78 ('\n' :: rest)

private theorem takeStatement?_entryLine (key : List Char) {written : List Char} {v : Json} (h : Denotes written v)
    (rest : List Char) :
    takeStatement? (Settings.entryLine (quoteKey key) written ++ rest) =
      some (.setValue ⟨[], String.ofList key⟩ v, rest) := by
  have hkey := takeKey?_quoteKey key (written ++ '\n' :: rest)
  obtain ⟨c, t, hcons, hc⟩ := exists_quoteKey_eq_cons key
  obtain ⟨d, u, rfl, hd⟩ := h.head
  have hvalue : dropSpace (' ' :: (d :: u ++ '\n' :: rest)) = d :: u ++ '\n' :: rest := dropSpace_of_head hd _
  have hpair : takePair? (takeValue? nestingLimit) (quoteKey key ++ " = ".toList ++ (d :: u ++ '\n' :: rest)) =
      some ((⟨[], String.ofList key⟩, v), '\n' :: rest) := by
    rw [takePair?, hkey]
    change (takeValue? nestingLimit (dropSpace (' ' :: (d :: u ++ '\n' :: rest))) >>= _) = _
    rw [hvalue, h.read rest]
    rfl
  have hchars : Settings.entryLine (quoteKey key) (d :: u) ++ rest =
      quoteKey key ++ " = ".toList ++ (d :: u ++ '\n' :: rest) := by
    simp only [Settings.entryLine, List.append_assoc, List.singleton_append]
  rw [hchars]
  rw [hcons] at hpair ⊢
  have hbracket : c ≠ '[' := hc.ne (by decide)
  simp only [List.cons_append] at hpair ⊢
  rw [takeStatement?]
  · rw [hpair]
    rfl
  · rintro t heq
    exact hbracket (List.cons.inj heq).1
  · rintro t heq
    exact hbracket (List.cons.inj heq).1

/-- A text that is read as some statements line by line, whatever follows it. -/
def Yields (text : List Char) (statements : List Statement) : Prop :=
  ∃ lines ≤ text.length, ∀ fuel rest,
    takeStatements? (fuel + lines) (text ++ rest) = (takeStatements? fuel rest).map (statements ++ ·)

namespace Yields

theorem nil : Yields [] [] := by
  refine ⟨0, Nat.le_refl 0, fun fuel rest => ?_⟩
  change takeStatements? fuel rest = _
  cases takeStatements? fuel rest <;> rfl

theorem append {text text' : List Char} {statements statements' : List Statement} (h : Yields text statements)
    (h' : Yields text' statements') : Yields (text ++ text') (statements ++ statements') := by
  obtain ⟨lines, hlines, hread⟩ := h
  obtain ⟨lines', hlines', hread'⟩ := h'
  refine ⟨lines' + lines, by rw [List.length_append]; omega, fun fuel rest => ?_⟩
  rw [← Nat.add_assoc, List.append_assoc, hread, hread', Option.map_map]
  congr 1
  funext later
  exact (List.append_assoc _ _ _).symm

theorem flatMap {α : Type} {text : α → List Char} {statement : α → Statement}
    (h : ∀ a, Yields (text a) [statement a]) (as : List α) : Yields (as.flatMap text) (as.map statement) := by
  induction as with
  | nil => exact nil
  | cons a as ih => exact (h a).append ih

theorem blank : Yields ['\n'] [] := by
  refine ⟨1, Nat.le_refl 1, fun fuel rest => ?_⟩
  change takeStatements? fuel rest = _
  cases takeStatements? fuel rest <;> rfl

/-- A line that begins with a key or a bracket is a statement. -/
theorem of_takeStatement? {c : Char} {s : List Char} {statement : Statement} (hc : StartsKey c ∨ c = '[')
    (h : ∀ rest, takeStatement? (c :: s ++ rest) = some (statement, rest)) : Yields (c :: s) [statement] := by
  have hne : ∀ d : Char, ¬ StartsKey d → d ≠ '[' → c ≠ d := by
    rintro d hd hbracket rfl
    rcases hc with hkey | hopen
    · exact hd hkey
    · exact hbracket hopen
  have hspace := isSpace_of_ne (hne ' ' (by decide) (by decide)) (hne '\t' (by decide) (by decide))
  refine ⟨1, by simp, fun fuel rest => ?_⟩
  rw [takeStatements?, List.cons_append, dropSpace_of_head hspace]
  split
  · next heq => cases heq
  · next heq => exact absurd (List.cons.inj heq).1 (hne '#' (by decide) (by decide))
  · next heq => exact absurd (List.cons.inj heq).1 (hne '\n' (by decide) (by decide))
  · next heq => exact absurd (List.cons.inj heq).1 (hne '\r' (by decide) (by decide))
  · have hread := h rest
    rw [List.cons_append] at hread
    rw [hread]
    change (takeStatements? fuel rest >>= _) = _
    cases takeStatements? fuel rest <;> rfl

theorem entryLine (key : String) {written : List Char} {v : Json} (h : Denotes written v) :
    Yields (Settings.entryLine (quoteKey key.toList) written) [.setValue ⟨[], key⟩ v] := by
  have hread := takeStatement?_entryLine key.toList h
  rw [String.ofList_toList] at hread
  obtain ⟨c, t, hcons, hc⟩ := exists_quoteKey_eq_cons key.toList
  rw [hcons] at hread ⊢
  exact of_takeStatement? (.inl hc) hread

theorem bareLine {key : String} (hbare : isBareKey key.toList = true) {written : List Char} {v : Json}
    (h : Denotes written v) : Yields (Settings.entryLine key.toList written) [.setValue ⟨[], key⟩ v] := by
  have hkey : quoteKey key.toList = key.toList := if_pos hbare
  have hline := entryLine key h
  rw [hkey] at hline
  exact hline

/-- A text is read to its end with as much fuel as it has characters. -/
theorem takeStatements?_eq {text : List Char} {statements : List Statement} (h : Yields text statements) :
    takeStatements? (text.length + 1) text = some statements := by
  obtain ⟨lines, hlines, hread⟩ := h
  have hall := hread (text.length - lines + 1) []
  have hfuel : text.length - lines + 1 + lines = text.length + 1 := by omega
  have hend : takeStatements? (text.length - lines + 1) [] = some [] := rfl
  rw [hfuel, List.append_nil, hend, Option.map_some, List.append_nil] at hall
  exact hall

end Yields

end Preflight.Toml
