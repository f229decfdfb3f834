import Preflight.Proofs.TrimmedText
import Preflight.Proofs.VersionText

/-! # Which texts a version is read from
Strict reading accepts the text of a version and no other, so a version has one text. Lenient reading also accepts
blanks around that text and a letter `v` in front of it, and nothing else: without these it is the text itself. -/
namespace Preflight

namespace Version

open Text

variable {s rest : List Char} {v : Version}

theorem eq_of_takeNumber? {n : UInt64} (h : takeNumber? s = some (n, rest)) : s = numeral n.toNat ++ rest := by
  unfold takeNumber? at h
  dsimp only at h
  split at h
  · next hfits =>
    cases h
    rw [UInt64.toNat_ofNat_of_lt' hfits.2, numeral_numeralValue hfits.1]
    exact List.takeWhile_append_dropWhile.symm
  · cases h

theorem eq_of_takeChar? {c : Char} (h : takeChar? c s = some rest) : s = c :: rest := by
  cases s with
  | nil => cases h
  | cons d s =>
    obtain ⟨rfl, rfl⟩ : d = c ∧ s = rest := by simpa [takeChar?] using h
    rfl

private theorem eq_of_takeCore? {major minor patch : UInt64}
    (h : takeCore? s = some ((major, minor, patch), rest)) :
    s = numeral major.toNat ++ '.' :: (numeral minor.toNat ++ '.' :: (numeral patch.toNat ++ rest)) := by
  obtain ⟨⟨major', s₁⟩, hmajor, h⟩ := Option.bind_eq_some_iff.1 h
  obtain ⟨s₂, hdot, h⟩ := Option.bind_eq_some_iff.1 h
  obtain ⟨⟨minor', s₃⟩, hminor, h⟩ := Option.bind_eq_some_iff.1 h
  obtain ⟨s₄, hdot', h⟩ := Option.bind_eq_some_iff.1 h
  obtain ⟨⟨patch', s₅⟩, hpatch, h⟩ := Option.bind_eq_some_iff.1 h
  cases h
  rw [eq_of_takeNumber? hmajor, eq_of_takeChar? hdot, eq_of_takeNumber? hminor, eq_of_takeChar? hdot',
    eq_of_takeNumber? hpatch]

theorem identifiersOf_ne_nil (s : List Char) : identifiersOf s ≠ [] :=
  fun hnil => splitAt_ne_nil '.' s (List.map_eq_nil_iff.1 hnil)

theorem dotted_identifiersOf (s : List Char) : dotted (identifiersOf s) = s := by
  rw [dotted, identifiersOf, map_toList_map_ofList, join_splitAt]

private theorem prePart_takePre (s : List Char) : prePart (takePre s).1 ++ (takePre s).2 = s := by
  unfold takePre
  split
  · next s =>
    rw [prePart, if_neg (identifiersOf_ne_nil _), dotted_identifiersOf, List.cons_append,
      List.takeWhile_append_dropWhile]
  · rfl

private theorem buildPart_of_readBuild? {build : List String} (h : readBuild? s = some build) :
    buildPart build = s := by
  unfold readBuild? at h
  split at h
  · cases h
    rfl
  · next s =>
    cases h
    rw [buildPart, if_neg (identifiersOf_ne_nil _), dotted_identifiersOf]
  · cases h

private theorem chars_of_parseChars? (h : parseChars? s = some v) : v.chars = s := by
  obtain ⟨⟨⟨major, minor, patch⟩, rest⟩, hcore, h⟩ := Option.bind_eq_some_iff.1 h
  obtain ⟨build, hbuild, h⟩ := Option.bind_eq_some_iff.1 h
  split at h
  · cases h
    have hrest : prePart (takePre rest).1 ++ buildPart build = rest := by
      rw [buildPart_of_readBuild? hbuild, prePart_takePre]
    refine Eq.trans ?_ (eq_of_takeCore? hcore).symm
    exact congrArg (fun parts =>
      numeral major.toNat ++ '.' :: (numeral minor.toNat ++ '.' :: (numeral patch.toNat ++
      parts))) hrest
  · cases h

private theorem parseChars?_eq_some_iff : parseChars? s = some v ↔ s = v.chars := by
  refine ⟨fun h => (chars_of_parseChars? h).symm, ?_⟩
  rintro rfl
  have htext := parse?_text v
  rwa [parse?, text, String.toList_ofList] at htext

theorem parse?_eq_some_iff {s : String} : parse? s = some v ↔ s = v.text := by
  rw [parse?, parseChars?_eq_some_iff, text]
  exact ⟨fun h => String.toList_injective (h.trans String.toList_ofList.symm), fun h => h ▸ String.toList_ofList⟩

private theorem isBlank_of_isIdentifierChar {c : Char} (h : isIdentifierChar c = true) : isBlank c = false := by
  have hranges : isIdentifierChar c = (decide ('A'.val ≤ c.val ∧ c.val ≤ 'Z'.val) ||
      (decide ('a'.val ≤ c.val) && decide (c.val ≤ 'z'.val)) || c.isDigit || decide (c = '-')) := rfl
  have hcases : (65 ≤ c.toNat ∧ c.toNat ≤ 90) ∨ (97 ≤ c.toNat ∧ c.toNat ≤ 122) ∨ c.isDigit = true ∨ c = '-' := by
    simpa [UInt32.le_iff_toNat_le, or_assoc] using hranges.symm.trans h
  rcases hcases with hupper | hlower | hdigit | rfl
  · exact isBlank_of_visible (by omega) (by omega)
  · exact isBlank_of_visible (by omega) (by omega)
  · exact isBlank_of_isDigit hdigit
  · rfl

theorem not_blank_of_mem_part {mark : Char} (hmark : isBlank mark = false) {identifiers : List String}
    (h : ∀ identifier ∈ identifiers, isBuildIdentifier identifier = true) :
    ∀ c ∈ if identifiers = [] then [] else mark :: dotted identifiers, isBlank c = false := by
  intro c hc
  split at hc
  · cases hc
  rcases List.mem_cons.1 hc with rfl | hc
  · exact hmark
  rcases mem_join hc with rfl | ⟨part, hpart, hc⟩
  · rfl
  · obtain ⟨identifier, hidentifier, rfl⟩ := List.mem_map.1 hpart
    exact isBlank_of_isIdentifierChar (isIdentifierChar_of_mem (h identifier hidentifier) hc)

theorem not_blank_of_mem_chars (v : Version) : ∀ c ∈ v.chars, isBlank c = false := by
  have hnumeral (n : Nat) : ∀ c ∈ numeral n, isBlank c = false := fun c hc =>
    isBlank_of_isDigit (isDigit_of_mem_numeral hc)
  have hpre := not_blank_of_mem_part (show isBlank '-' = false from rfl) fun identifier h =>
    isBuildIdentifier_of_isPreIdentifier (List.all_eq_true.1 v.pre_valid identifier h)
  have hbuild := not_blank_of_mem_part (show isBlank '+' = false from rfl) (List.all_eq_true.1 v.build_valid)
  have hdot : isBlank '.' = false := rfl
  simp only [chars, List.forall_mem_append, List.forall_mem_cons]
  exact ⟨hnumeral _, hdot, hnumeral _, hdot, hnumeral _, hpre, hbuild⟩

private theorem isTrimmed_chars (v : Version) : IsTrimmed v.chars := .of_no_blank (not_blank_of_mem_chars v)

private theorem isTrimmed_lettered (v : Version) : IsTrimmed ('v' :: v.chars) :=
  .of_no_blank (List.forall_mem_cons.2 ⟨rfl, not_blank_of_mem_chars v⟩)

private theorem exists_chars_eq_cons (v : Version) : ∃ c rest, v.chars = c :: rest ∧ c.isDigit = true := by
  obtain ⟨c, digits, hcons⟩ := List.exists_cons_of_ne_nil (numeral_ne_nil v.major.toNat)
  refine ⟨c, _, by rw [chars, hcons, List.cons_append], ?_⟩
  exact isDigit_of_mem_numeral (hcons ▸ List.mem_cons_self)

private theorem dropLetter_eq_chars_iff : dropLetter s = v.chars ↔ s = v.chars ∨ s = 'v' :: v.chars := by
  obtain ⟨digit, rest, hcons, hdigit⟩ := exists_chars_eq_cons v
  rw [hcons]
  exact dropLetter_eq_iff hdigit

/-- What is left of a text without the blanks around it, and then without one letter `v` in front. -/
def core (raw : String) : String := String.ofList (dropLetter (trim raw.toList))

private theorem parseLenient?_eq (raw : String) : parseLenient? raw = parse? (core raw) := by
  rw [parse?, core, String.toList_ofList]
  rfl

theorem parseLenient?_eq_some_iff {raw : String} : parseLenient? raw = some v ↔ core raw = v.text := by
  rw [parseLenient?_eq, parse?_eq_some_iff]

private theorem core_eq_text_iff {raw : String} :
    core raw = v.text ↔ ∃ before after : String, AllBlank before.toList ∧ AllBlank after.toList ∧
      (raw = before ++ v.text ++ after ∨ raw = before ++ "v" ++ v.text ++ after) := by
  have htext : v.text.toList = v.chars := String.toList_ofList
  have hlettered : ("v" ++ v.text).toList = 'v' :: v.chars := by simp [htext]
  have hcore : core raw = v.text ↔ trim raw.toList = v.text.toList ∨ trim raw.toList = ("v" ++ v.text).toList := by
    rw [hlettered, htext, ← dropLetter_eq_chars_iff, core, text, String.ofList_inj]
  rw [hcore, trim_toList_eq_iff (htext ▸ isTrimmed_chars v), trim_toList_eq_iff (hlettered ▸ isTrimmed_lettered v)]
  simp only [← String.append_assoc, and_or_left, exists_or]

/-- A version is read from the texts that are its own text when the blanks around them and then one letter `v` in
front are taken away: from its own text between any blanks, with or without the letter, and from nothing else. -/
theorem lenient_reading_of_text (v : Version) (raw : String) :
    (parseLenient? raw = some v ↔ core raw = v.text) ∧
      (parseLenient? raw = some v ↔ ∃ before after : String, AllBlank before.toList ∧ AllBlank after.toList ∧
        (raw = before ++ v.text ++ after ∨ raw = before ++ "v" ++ v.text ++ after)) :=
  ⟨parseLenient?_eq_some_iff, parseLenient?_eq_some_iff.trans core_eq_text_iff⟩

/-- A no-break space is a blank, and what begins with a second letter is no version. -/
example : (parseLenient? "\u00a0v3.0.0-ea.1+01\n").map text = some "3.0.0-ea.1+01" ∧
    parseLenient? "vv3.0.0" = none ∧ parseLenient? "v 3.0.0" = none := by decide

end Version

end Preflight
