import Preflight.Json.Printer
import Preflight.Json.Reader
import Preflight.Proofs.Numerals
import Preflight.Text.Split

/-! # Printed values are read back
A value is read back from its indented form, if what follows does not go on with a number. The reader runs along
with the printer: it has more fuel than there are characters left, and each value, item or member takes one at
least. -/
namespace Preflight.Json

open Toml Text

private theorem hexChar?_hexDigit {c : Char} (h : c.toNat < 0x20) :
    hexChar? ['0', '0', hexDigit (c.toNat / 16), hexDigit c.toNat] = some c := by
  have hall : ∀ n < 0x20, hexChar? ['0', '0', hexDigit (n / 16), hexDigit n] = some (Char.ofNat n) := by decide
  have hc := hall c.toNat h
  rwa [Char.ofNat_toNat] at hc

/-- One character of a text is read back, whether it is escaped or not. -/
private theorem takeQuoted_escapeChar (c : Char) (s : List Char) :
    takeQuoted (escapeChar c ++ s) = (takeQuoted s).push c := by
  unfold escapeChar
  split
  · next h => rw [h]; rfl
  split
  · next h => rw [h]; rfl
  split
  · next h => rw [h]; rfl
  split
  · next h => rw [h]; rfl
  split
  · next h => rw [h]; rfl
  split
  · next h => rw [h]; rfl
  split
  · next h => rw [h]; rfl
  split
  · next h =>
    simp only [List.cons_append, List.nil_append, takeQuoted, hexChar?_hexDigit h]
    rfl
  · next hquote hbackslash _ _ _ _ _ _ =>
    rw [List.singleton_append, takeQuoted]
    · exact hquote
    · rintro _ _ _ _ _ rfl
      exact absurd rfl hbackslash
    · rintro _ _ rfl
      exact absurd rfl hbackslash

theorem takeQuoted_quoted (s : String) (rest : List Char) :
    takeQuoted (s.toList.flatMap escapeChar ++ '"' :: rest) = some (s.toList, rest) := by
  induction s.toList with
  | nil => rfl
  | cons c s ih => rw [List.flatMap_cons, List.append_assoc, takeQuoted_escapeChar, ih]; rfl

/-- No number goes on with the text. -/
def Ends (rest : List Char) : Prop := ∀ c ∈ rest.head?, c.isDigit = false ∧ c ≠ '.'

private theorem takeUnsigned?_digits (negative : Bool) {digits rest : List Char} (hne : digits ≠ [])
    (hdigits : ∀ c ∈ digits, c.isDigit = true) (hrest : Ends rest) :
    takeUnsigned? negative (digits ++ rest) = some (.int (signed negative (numeralValue digits)), rest) := by
  have hend : ∀ c ∈ rest.head?, c.isDigit = false := fun c hc => (hrest c hc).1
  unfold takeUnsigned?
  rw [takeWhile_append hdigits hend, dropWhile_append hdigits hend]
  dsimp only
  rw [if_neg hne]
  split
  · exact absurd rfl (hrest '.' rfl).2
  · rfl

private theorem takeUnsigned?_point (negative : Bool) {digits places rest : List Char} (hne : digits ≠ [])
    (hdigits : ∀ c ∈ digits, c.isDigit = true) (hplaces : ∀ c ∈ places, c.isDigit = true) (hrest : Ends rest) :
    takeUnsigned? negative (digits ++ '.' :: (places ++ rest)) =
      some (.float ⟨signed negative (numeralValue (digits ++ places)), places.length⟩, rest) := by
  have hpoint : ∀ c ∈ ('.' :: (places ++ rest)).head?, c.isDigit = false := by
    rintro c hc
    cases hc
    rfl
  have hend : ∀ c ∈ rest.head?, c.isDigit = false := fun c hc => (hrest c hc).1
  unfold takeUnsigned?
  rw [takeWhile_append hdigits hpoint, dropWhile_append hdigits hpoint]
  rw [if_neg hne]
  simp only [takeWhile_append hplaces hend, dropWhile_append hplaces hend]

private theorem takeValue?_signed (fuel : Nat) (negative : Bool) {digits : List Char} (hne : digits ≠ [])
    (hdigits : ∀ c ∈ digits, c.isDigit = true) (s : List Char) :
    takeValue? (fuel + 1) ((if negative then ['-'] else []) ++ (digits ++ s)) =
      takeUnsigned? negative (digits ++ s) := by
  cases negative with
  | true => rfl
  | false =>
    obtain ⟨c, digits, rfl⟩ := List.exists_cons_of_ne_nil hne
    have hc : c.isDigit = true := hdigits c List.mem_cons_self
    have hblank : isBlank c = false := by
      simp [isBlank, ne_of_isDigit hc]
    have hdrop : dropBlanks (c :: (digits ++ s)) = c :: (digits ++ s) :=
      List.dropWhile_cons_of_neg (Bool.eq_false_iff.1 hblank)
    have hnumeric : isNumeric c = true := by rw [isNumeric, hc, Bool.true_or]
    have hminus : c ≠ '-' := ne_of_isDigit hc rfl
    simp only [Bool.false_eq_true, ↓reduceIte, List.nil_append, List.cons_append, takeValue?, hdrop,
      List.head?_cons, Option.any_some, hnumeric]
    rw [takeNumber?]
    rintro _ heq
    exact hminus (List.cons.inj heq).1

private theorem toList_toString (n : Int) :
    (toString n).toList = (if decide (n < 0) then ['-'] else []) ++ numeral n.natAbs := by
  cases n with
  | ofNat n => exact String.toList_ofList
  | negSucc n =>
    rw [if_pos (decide_eq_true (Int.negSucc_lt_zero n))]
    change ("-" ++ (n + 1).repr).toList = '-' :: numeral (n + 1)
    rw [String.toList_append]
    exact congrArg ('-' :: ·) String.toList_ofList

private theorem signed_natAbs (n : Int) : signed (decide (n < 0)) n.natAbs = n := by
  cases n with
  | ofNat n => rfl
  | negSucc n => exact if_pos (decide_eq_true (Int.negSucc_lt_zero n))

theorem takeValue?_toString (fuel : Nat) (n : Int) {rest : List Char} (hrest : Ends rest) :
    takeValue? (fuel + 1) ((toString n).toList ++ rest) = some (.int n, rest) := by
  have hdigits : ∀ c ∈ numeral n.natAbs, c.isDigit = true := fun _ => isDigit_of_mem_numeral
  have hne := numeral_ne_nil n.natAbs
  rw [toList_toString, List.append_assoc, takeValue?_signed fuel _ hne hdigits,
    takeUnsigned?_digits _ hne hdigits hrest, numeralValue_numeral, signed_natAbs]

theorem takeValue?_text (fuel : Nat) (d : Decimal) {rest : List Char} (hrest : Ends rest) :
    takeValue? (fuel + 1) (d.text.toList ++ rest) = some (.float d, rest) := by
  have hdigits : ∀ c ∈ padded (d.places + 1) d.mantissa.natAbs, c.isDigit = true :=
    fun _ => isDigit_of_mem_zeros_append
  have hlength : d.places + 1 ≤ (padded (d.places + 1) d.mantissa.natAbs).length := by
    rw [padded, List.length_append, List.length_replicate]
    omega
  have hvalue : numeralValue (padded (d.places + 1) d.mantissa.natAbs) = d.mantissa.natAbs :=
    numeralValue_zeros_append _ _
  generalize hwritten : padded (d.places + 1) d.mantissa.natAbs = written at hdigits hlength hvalue
  have htext : d.text.toList = (if decide (d.mantissa < 0) then ['-'] else []) ++
      (written.take (written.length - d.places) ++ '.' :: written.drop (written.length - d.places)) := by
    simp [Decimal.text, hwritten]
  have hne : written.take (written.length - d.places) ≠ [] := by
    rw [← List.length_pos_iff, List.length_take]
    omega
  have hplaces : (written.drop (written.length - d.places)).length = d.places := by
    rw [List.length_drop]
    omega
  rw [htext, List.append_assoc, List.append_assoc,
    takeValue?_signed fuel _ hne fun c hc => hdigits c (List.mem_of_mem_take hc), List.cons_append,
    takeUnsigned?_point _ hne (fun c hc => hdigits c (List.mem_of_mem_take hc))
      (fun c hc => hdigits c (List.mem_of_mem_drop hc)) hrest,
    List.take_append_drop, hvalue, hplaces, signed_natAbs]

private theorem toList_newline (level : Nat) : (newline level).toList = '\n' :: List.replicate (2 * level) ' ' :=
  String.toList_ofList

private theorem dropBlanks_newline (level : Nat) (s : List Char) :
    dropBlanks ((newline level).toList ++ s) = dropBlanks s := by
  refine List.dropWhile_append_of_pos fun c hc => ?_
  rw [toList_newline] at hc
  rcases List.mem_cons.1 hc with rfl | hspace
  · rfl
  · rw [List.eq_of_mem_replicate hspace]
    rfl

private theorem takeValue?_newline (fuel level : Nat) (s : List Char) :
    takeValue? fuel ((newline level).toList ++ s) = takeValue? fuel s := by
  cases fuel with
  | zero => rfl
  | succ fuel => simp only [takeValue?, dropBlanks_newline]

private theorem ends_newline (level : Nat) (s : List Char) : Ends ((newline level).toList ++ s) := by
  rw [toList_newline]
  rintro c hc
  cases hc
  exact ⟨rfl, by decide⟩

private theorem ends_comma (s : List Char) : Ends (',' :: s) := by
  rintro c hc
  cases hc
  exact ⟨rfl, by decide⟩

private theorem length_newline (level : Nat) : 0 < (newline level).toList.length := by
  rw [toList_newline]
  exact Nat.succ_pos _

private theorem takeValue?_space (fuel : Nat) (s : List Char) : takeValue? fuel (' ' :: s) = takeValue? fuel s := by
  cases fuel <;> rfl

private theorem takeValue?_quoted (fuel : Nat) (s : String) (rest : List Char) :
    takeValue? (fuel + 1) ((quoted s).toList ++ rest) = some (.str s, rest) := by
  have hquoted : (quoted s).toList ++ rest = '"' :: (s.toList.flatMap escapeChar ++ '"' :: rest) := by simp [quoted]
  have hopen : ∀ t, dropBlanks ('"' :: t) = '"' :: t := fun _ => rfl
  have hnumeric : isNumeric '"' = false := rfl
  simp only [takeValue?, hquoted, hopen, List.head?_cons, Option.any_some, hnumeric, Bool.false_eq_true, ↓reduceIte,
    takeQuoted_quoted, Option.map_some, String.ofList_toList]

private theorem takeItems?_last {fuel : Nat} {s rest : List Char} {item : Json} (level : Nat)
    (h : takeValue? fuel s = some (item, (newline level).toList ++ ']' :: rest)) :
    takeItems? (fuel + 1) s = some ([item], rest) := by
  rw [takeItems?, h]
  simp only [Option.bind_eq_bind, Option.bind_some, dropBlanks_newline]
  rfl

private theorem takeItems?_next {fuel : Nat} {s more rest : List Char} {item : Json} {items : List Json}
    (h : takeValue? fuel s = some (item, ',' :: more)) (hmore : takeItems? fuel more = some (items, rest)) :
    takeItems? (fuel + 1) s = some (item :: items, rest) := by
  rw [takeItems?, h]
  change (takeItems? fuel more).bind _ = _
  rw [hmore]
  rfl

/-- An array is told from the empty one by its first item, which is no closing bracket. -/
private theorem takeValue?_bracket {fuel : Nat} {s rest : List Char} {items : List Json}
    (h : takeItems? fuel s = some (items, rest)) : takeValue? (fuel + 1) ('[' :: s) = some (.arr items, rest) := by
  have hopen : dropBlanks ('[' :: s) = '[' :: s := rfl
  have hfirst : ∀ t, dropBlanks s ≠ ']' :: t := by
    intro t heq
    cases fuel with
    | zero => cases h
    | succ fuel =>
      have hnone : takeValue? fuel s = none := by
        cases fuel with
        | zero => rfl
        | succ fuel =>
          simp only [takeValue?, heq]
          rfl
      rw [takeItems?, hnone] at h
      cases h
  have hnumeric : isNumeric '[' = false := rfl
  simp only [takeValue?, hopen, List.head?_cons, Option.any_some, hnumeric, Bool.false_eq_true, ↓reduceIte]
  rw [h]
  rfl

private theorem takeKey?_quoted (level : Nat) (key : String) (s : List Char) :
    takeKey? ((newline level).toList ++ ((quoted key).toList ++ ':' :: s)) = some (key, s) := by
  have hquoted : (quoted key).toList ++ ':' :: s = '"' :: (key.toList.flatMap escapeChar ++ '"' :: ':' :: s) := by
    simp [quoted]
  have hopen : ∀ t, dropBlanks ('"' :: t) = '"' :: t := fun _ => rfl
  have hcolon : dropBlanks (':' :: s) = ':' :: s := rfl
  simp only [takeKey?, dropBlanks_newline, hquoted, hopen, takeQuoted_quoted, Option.bind_eq_bind, Option.bind_some,
    hcolon, String.ofList_toList]
  rfl

private theorem takeMembers?_last {fuel : Nat} {key : String} {s t rest : List Char} {value : Json} (level : Nat)
    (hkey : takeKey? s = some (key, t))
    (h : takeValue? fuel t = some (value, (newline level).toList ++ '\x7d' :: rest)) :
    takeMembers? (fuel + 1) s = some ([(key, value)], rest) := by
  rw [takeMembers?, hkey]
  simp only [Option.bind_eq_bind, Option.bind_some, h, dropBlanks_newline]
  rfl

private theorem takeMembers?_next {fuel : Nat} {key : String} {s t more rest : List Char} {value : Json}
    {members : List (String × Json)} (hkey : takeKey? s = some (key, t))
    (h : takeValue? fuel t = some (value, ',' :: more)) (hmore : takeMembers? fuel more = some (members, rest)) :
    takeMembers? (fuel + 1) s = some ((key, value) :: members, rest) := by
  rw [takeMembers?, hkey]
  simp only [Option.bind_eq_bind, Option.bind_some, h]
  change (takeMembers? fuel more).bind _ = _
  rw [hmore]
  rfl

/-- An object is told from the empty one by its first key. -/
private theorem takeValue?_brace {fuel : Nat} {s rest : List Char} {members : List (String × Json)}
    (h : takeMembers? fuel s = some (members, rest)) :
    takeValue? (fuel + 1) ('\x7b' :: s) = some (.obj members, rest) := by
  have hopen : dropBlanks ('\x7b' :: s) = '\x7b' :: s := rfl
  have hfirst : ∀ t, dropBlanks s ≠ '\x7d' :: t := by
    intro t heq
    cases fuel with
    | zero => cases h
    | succ fuel =>
      have hnone : takeKey? s = none := by
        simp only [takeKey?, heq]
        rfl
      rw [takeMembers?, hnone] at h
      cases h
  have hnumeric : isNumeric '\x7b' = false := rfl
  simp only [takeValue?, hopen, List.head?_cons, Option.any_some, hnumeric, Bool.false_eq_true, ↓reduceIte]
  rw [h]
  rfl

private theorem toList_prettyAt_arr (level : Nat) (item : Json) (items : List Json) :
    ((Json.arr (item :: items)).prettyAt level).toList =
      '[' :: ((prettyItems (level + 1) (item :: items)).toList ++ ((newline level).toList ++ [']'])) := by
  rw [prettyAt]
  · simp
  · intro h
    cases h

private theorem toList_prettyAt_obj (level : Nat) (member : String × Json) (members : List (String × Json)) :
    ((Json.obj (member :: members)).prettyAt level).toList =
      '\x7b' :: ((prettyMembers (level + 1) (member :: members)).toList ++
        ((newline level).toList ++ ['\x7d'])) := by
  rw [prettyAt]
  · simp
  · intro h
    cases h

private theorem toList_prettyItems_singleton (level : Nat) (item : Json) :
    (prettyItems level [item]).toList = (newline level).toList ++ (item.prettyAt level).toList := by
  simp [prettyItems]

private theorem toList_prettyItems_cons (level : Nat) (item next : Json) (items : List Json) :
    (prettyItems level (item :: next :: items)).toList =
      (newline level).toList ++ ((item.prettyAt level).toList ++ ',' ::
        (prettyItems level (next :: items)).toList) := by
  simp [prettyItems]

private theorem toList_prettyMembers_singleton (level : Nat) (key : String) (value : Json) :
    (prettyMembers level [(key, value)]).toList =
      (newline level).toList ++ ((quoted key).toList ++ ':' :: ' ' :: (value.prettyAt level).toList) := by
  simp [prettyMembers]

private theorem toList_prettyMembers_cons (level : Nat) (key : String) (value : Json) (next : String × Json)
    (members : List (String × Json)) :
    (prettyMembers level ((key, value) :: next :: members)).toList =
      (newline level).toList ++ ((quoted key).toList ++ ':' :: ' ' :: ((value.prettyAt level).toList ++
        ',' :: (prettyMembers level (next :: members)).toList)) := by
  simp [prettyMembers]

/-- The value is read back from its indented form at any level. -/
def ReadsValue (value : Json) : Prop :=
  ∀ (level fuel : Nat) (rest : List Char), (value.prettyAt level).toList.length ≤ fuel → Ends rest →
    takeValue? (fuel + 1) ((value.prettyAt level).toList ++ rest) = some (value, rest)

def ReadsItems (items : List Json) : Prop :=
  ∀ (outer level fuel : Nat) (rest : List Char), (prettyItems level items).toList.length ≤ fuel →
    takeItems? (fuel + 1) ((prettyItems level items).toList ++ ((newline outer).toList ++ ']' :: rest)) =
      some (items, rest)

def ReadsMembers (members : List (String × Json)) : Prop :=
  ∀ (outer level fuel : Nat) (rest : List Char), (prettyMembers level members).toList.length ≤ fuel →
    takeMembers? (fuel + 1) ((prettyMembers level members).toList ++ ((newline outer).toList ++ '\x7d' :: rest)) =
      some (members, rest)

private theorem readsItems_singleton {item : Json} (hitem : ReadsValue item) : ReadsItems [item] := by
  intro outer level fuel rest hfuel
  have hline := length_newline level
  rw [toList_prettyItems_singleton] at hfuel ⊢
  rw [List.length_append] at hfuel
  obtain ⟨fuel, rfl⟩ := Nat.exists_eq_succ_of_ne_zero (show fuel ≠ 0 by omega)
  have hread := hitem level fuel _ (by omega) (ends_newline outer (']' :: rest))
  rw [List.append_assoc]
  exact takeItems?_last outer ((takeValue?_newline _ level _).trans hread)

private theorem readsItems_cons {item next : Json} {items : List Json} (hitem : ReadsValue item)
    (hitems : ReadsItems (next :: items)) : ReadsItems (item :: next :: items) := by
  intro outer level fuel rest hfuel
  have hline := length_newline level
  rw [toList_prettyItems_cons] at hfuel ⊢
  simp only [List.length_append, List.length_cons] at hfuel
  obtain ⟨fuel, rfl⟩ := Nat.exists_eq_succ_of_ne_zero (show fuel ≠ 0 by omega)
  have hmore := hitems outer level fuel rest (by omega)
  have hread := hitem level fuel _ (by omega)
    (ends_comma ((prettyItems level (next :: items)).toList ++ ((newline outer).toList ++ ']' :: rest)))
  simp only [List.append_assoc, List.cons_append]
  exact takeItems?_next ((takeValue?_newline _ level _).trans hread) hmore

private theorem readsMembers_singleton {key : String} {value : Json} (hvalue : ReadsValue value) :
    ReadsMembers [(key, value)] := by
  intro outer level fuel rest hfuel
  rw [toList_prettyMembers_singleton] at hfuel ⊢
  simp only [List.length_append, List.length_cons] at hfuel
  obtain ⟨fuel, rfl⟩ := Nat.exists_eq_succ_of_ne_zero (show fuel ≠ 0 by omega)
  have hread := hvalue level fuel _ (by omega) (ends_newline outer ('\x7d' :: rest))
  simp only [List.append_assoc, List.cons_append]
  exact takeMembers?_last outer (takeKey?_quoted level key _) ((takeValue?_space _ _).trans hread)

private theorem readsMembers_cons {key : String} {value : Json} {next : String × Json}
    {members : List (String × Json)} (hvalue : ReadsValue value) (hmembers : ReadsMembers (next :: members)) :
    ReadsMembers ((key, value) :: next :: members) := by
  intro outer level fuel rest hfuel
  rw [toList_prettyMembers_cons] at hfuel ⊢
  simp only [List.length_append, List.length_cons] at hfuel
  obtain ⟨fuel, rfl⟩ := Nat.exists_eq_succ_of_ne_zero (show fuel ≠ 0 by omega)
  have hmore := hmembers outer level fuel rest (by omega)
  have hread := hvalue level fuel _ (by omega)
    (ends_comma ((prettyMembers level (next :: members)).toList ++ ((newline outer).toList ++ '\x7d' :: rest)))
  simp only [List.append_assoc, List.cons_append]
  exact takeMembers?_next (takeKey?_quoted level key _) ((takeValue?_space _ _).trans hread) hmore

private theorem readsValue_arr {item : Json} {items : List Json} (h : ReadsItems (item :: items)) :
    ReadsValue (.arr (item :: items)) := by
  intro level fuel rest hfuel _
  rw [toList_prettyAt_arr] at hfuel ⊢
  simp only [List.length_cons, List.length_append] at hfuel
  obtain ⟨fuel, rfl⟩ := Nat.exists_eq_succ_of_ne_zero (show fuel ≠ 0 by omega)
  have hitems := h level (level + 1) fuel rest (by omega)
  simp only [List.cons_append, List.append_assoc, List.nil_append]
  exact takeValue?_bracket hitems

private theorem readsValue_obj {member : String × Json} {members : List (String × Json)}
    (h : ReadsMembers (member :: members)) : ReadsValue (.obj (member :: members)) := by
  intro level fuel rest hfuel _
  rw [toList_prettyAt_obj] at hfuel ⊢
  simp only [List.length_cons, List.length_append] at hfuel
  obtain ⟨fuel, rfl⟩ := Nat.exists_eq_succ_of_ne_zero (show fuel ≠ 0 by omega)
  have hmembers := h level (level + 1) fuel rest (by omega)
  simp only [List.cons_append, List.append_assoc, List.nil_append]
  exact takeValue?_brace hmembers

/-- A value without contents is one token. -/
private theorem readsValue_token {value : Json} {text : String} (hprinted : ∀ level, value.prettyAt level = text)
    (hread : ∀ fuel rest, Ends rest → takeValue? (fuel + 1) (text.toList ++ rest) = some (value, rest)) :
    ReadsValue value := by
  intro level fuel rest _ hrest
  rw [hprinted]
  exact hread fuel rest hrest

mutual
theorem readsValue : ∀ value : Json, ReadsValue value
  | .null => readsValue_token (fun _ => by rw [prettyAt]) fun _ _ _ => rfl
  | .bool true => readsValue_token (fun _ => by rw [prettyAt]) fun _ _ _ => rfl
  | .bool false => readsValue_token (fun _ => by rw [prettyAt]) fun _ _ _ => rfl
  | .int n => readsValue_token (fun _ => by rw [prettyAt]) fun fuel _ => takeValue?_toString fuel n
  | .float d => readsValue_token (fun _ => by rw [prettyAt]) fun fuel _ => takeValue?_text fuel d
  | .str s => readsValue_token (fun _ => by rw [prettyAt]) fun fuel rest _ => takeValue?_quoted fuel s rest
  | .arr [] => readsValue_token (fun _ => by rw [prettyAt]) fun _ _ _ => rfl
  | .arr (item :: items) => readsValue_arr (readsItems (item :: items) (List.cons_ne_nil _ _))
  | .obj [] => readsValue_token (fun _ => by rw [prettyAt]) fun _ _ _ => rfl
  | .obj (member :: members) => readsValue_obj (readsMembers (member :: members) (List.cons_ne_nil _ _))

theorem readsItems : ∀ items : List Json, items ≠ [] → ReadsItems items
  | [], h => absurd rfl h
  | [item], _ => readsItems_singleton (readsValue item)
  | item :: next :: items, _ => readsItems_cons (readsValue item)
      (readsItems (next :: items) (List.cons_ne_nil _ _))

theorem readsMembers : ∀ members : List (String × Json), members ≠ [] → ReadsMembers members
  | [], h => absurd rfl h
  | [(_, value)], _ => readsMembers_singleton (readsValue value)
  | (_, value) :: next :: members, _ =>
    readsMembers_cons (readsValue value) (readsMembers (next :: members) (List.cons_ne_nil _ _))
end

theorem read?_pretty (value : Json) : read? value.pretty = some value := by
  have hvalue := readsValue value 0 value.pretty.length [] (Nat.le_refl _) (by rintro _ ⟨⟩)
  rw [List.append_nil, ← pretty] at hvalue
  rw [read?, hvalue]
  rfl

end Preflight.Json
