import Preflight.Settings.Basic
import Preflight.Text.Split

/-! # What skip patterns match
A pattern matches an id if each star in it can stand for some stretch of the id, which may be empty, and each other
character for itself. A check is left out only for a pattern that matches its id, and for such a pattern always as
long as the pattern has one star at most. What a pattern asks for before and behind its star never overlaps. -/
namespace Preflight

namespace SkipPattern

/-- The pattern matches the whole text. -/
inductive Matches : List Char → List Char → Prop
  | nil : Matches [] []
  | star {pattern text : List Char} (stretch : List Char) (h : Matches pattern text) :
    Matches ('*' :: pattern) (stretch ++ text)
  | char {c : Char} {pattern text : List Char} (hc : c ≠ '*') (h : Matches pattern text) :
    Matches (c :: pattern) (c :: text)

def Globs (pattern checkId : String) : Prop := Matches pattern.toList checkId.toList

variable {pattern pattern' text text' front back : List Char}

theorem Matches.append (h : Matches pattern text) (h' : Matches pattern' text') :
    Matches (pattern ++ pattern') (text ++ text') := by
  induction h with
  | nil => exact h'
  | star stretch _ ih =>
    rw [List.append_assoc]
    exact .star stretch ih
  | char hc _ ih => exact .char hc ih

/-- A pattern matches its own text, in which its stars stand for themselves. -/
theorem Matches.refl (text : List Char) : Matches text text := by
  induction text with
  | nil => exact .nil
  | cons c text ih =>
    by_cases hc : c = '*'
    · rw [hc]
      exact .star ['*'] ih
    · exact .char hc ih

theorem matches_iff_of_not_mem (h : '*' ∉ pattern) : Matches pattern text ↔ text = pattern := by
  constructor
  · intro hmatches
    induction hmatches with
    | nil => rfl
    | star => exact absurd List.mem_cons_self h
    | char _ _ ih => rw [ih fun hmem => h (List.mem_cons_of_mem _ hmem)]
  · rintro rfl
    exact .refl text

private theorem matches_append_star_iff (hfront : '*' ∉ front) (hback : '*' ∉ back) :
    Matches (front ++ '*' :: back) text ↔ ∃ stretch, text = front ++ stretch ++ back := by
  constructor
  · intro h
    induction front generalizing text with
    | nil =>
      cases h with
      | star stretch h => exact ⟨stretch, by rw [(matches_iff_of_not_mem hback).1 h]; rfl⟩
      | char hc => exact absurd rfl hc
    | cons c front ih =>
      cases h with
      | star => exact absurd List.mem_cons_self hfront
      | char _ h =>
        obtain ⟨stretch, rfl⟩ := ih (fun hmem => hfront (List.mem_cons_of_mem _ hmem)) h
        exact ⟨stretch, rfl⟩
  · rintro ⟨stretch, rfl⟩
    rw [List.append_assoc]
    exact (Matches.refl front).append (.star stretch (.refl back))

/-- A front and a back that both fit, and fit in beside each other, leave a stretch between them. -/
theorem fits_iff {id : List Char} :
    front.length + back.length ≤ id.length ∧ front <+: id ∧ back <:+ id ↔
      ∃ stretch, id = front ++ stretch ++ back := by
  constructor
  · rintro ⟨hlength, ⟨rest, rfl⟩, hback⟩
    have hle : back.length ≤ rest.length := by
      rw [List.length_append] at hlength
      omega
    obtain ⟨stretch, rfl⟩ := List.suffix_of_suffix_length_le hback (List.suffix_append front rest) hle
    exact ⟨stretch, (List.append_assoc _ _ _).symm⟩
  · rintro ⟨stretch, rfl⟩
    refine ⟨?_, ⟨stretch ++ back, (List.append_assoc _ _ _).symm⟩, List.suffix_append _ _⟩
    simp only [List.length_append]
    omega

theorem matchesChars_iff_of_not_mem (h : '*' ∉ pattern) : matchesChars pattern text = true ↔ text = pattern := by
  rw [matchesChars, if_neg (by simpa using h), decide_eq_true_iff, eq_comm]

/-- Only the first star of a pattern is a wildcard, unless the pattern is two stars alone. -/
theorem matchesChars_append_star_iff (hfront : '*' ∉ front) (hpattern : front ++ '*' :: back ≠ ['*', '*']) :
    matchesChars (front ++ '*' :: back) text = true ↔ ∃ stretch, text = front ++ stretch ++ back := by
  have hplain : ∀ c ∈ front, decide (c ≠ '*') = true := by
    intro c hc
    exact decide_eq_true fun heq => hfront (heq ▸ hc)
  have hstar : ∀ c ∈ ('*' :: back).head?, decide (c ≠ '*') = false := by simp
  by_cases hsingle : front ++ '*' :: back = ['*']
  · obtain ⟨rfl, rfl⟩ : front = [] ∧ back = [] := by simpa [List.append_eq_singleton_iff] using hsingle
    exact iff_of_true rfl ⟨text, (List.append_nil text).symm⟩
  · rw [matchesChars, if_pos (by simp), if_neg (by simpa using ⟨hsingle, hpattern⟩)]
    dsimp only
    rw [Text.takeWhile_append hplain hstar, Text.dropWhile_append hplain hstar]
    simp only [List.drop_succ_cons, List.drop_zero, Bool.and_eq_true, decide_eq_true_eq, List.isPrefixOf_iff_prefix,
      List.isSuffixOf_iff_suffix, and_assoc]
    exact fits_iff

private theorem globs_of_covers {pattern checkId : String} (h : covers pattern checkId = true) :
    Globs pattern checkId := by
  unfold covers at h
  unfold Globs
  by_cases hstar : '*' ∈ pattern.toList
  · obtain ⟨front, back, hpattern, hfront⟩ := List.eq_append_cons_of_mem hstar
    rw [hpattern] at h ⊢
    by_cases htwo : front ++ '*' :: back = ['*', '*']
    · rw [htwo]
      have hmatches : Matches ['*', '*'] (checkId.toList ++ ([] ++ [])) := .star _ (.star [] .nil)
      simpa using hmatches
    · -- What stands behind the first star is found as it is, so each star in it stands for itself.
      obtain ⟨stretch, hid⟩ := (matchesChars_append_star_iff hfront htwo).1 h
      rw [hid, List.append_assoc]
      exact (Matches.refl front).append (.star stretch (.refl back))
  · rw [(matchesChars_iff_of_not_mem hstar).1 h]
    exact .refl _

private theorem covers_of_globs {pattern checkId : String} (hstars : pattern.toList.count '*' ≤ 1 ∨ pattern = "**")
    (h : Globs pattern checkId) : covers pattern checkId = true := by
  rcases hstars with hcount | rfl
  · unfold Globs at h
    unfold covers
    by_cases hstar : '*' ∈ pattern.toList
    · obtain ⟨front, back, hpattern, hfront⟩ := List.eq_append_cons_of_mem hstar
      rw [hpattern] at h hcount ⊢
      have hback : '*' ∉ back := by
        rw [List.count_append, List.count_cons_self] at hcount
        exact List.count_eq_zero.1 (by omega)
      have htwo : front ++ '*' :: back ≠ ['*', '*'] := by
        intro htwo
        rw [htwo] at hcount
        exact absurd hcount (by decide)
      exact (matchesChars_append_star_iff hfront htwo).2 ((matches_append_star_iff hfront hback).1 h)
    · exact (matchesChars_iff_of_not_mem hstar).2 ((matches_iff_of_not_mem hstar).1 h)
  · rfl

section firstStar

variable {front back checkId : String}

theorem covers_append_star_iff (hfront : '*' ∉ front.toList) (hpattern : front ++ "*" ++ back ≠ "**") :
    covers (front ++ "*" ++ back) checkId = true ↔ ∃ stretch, checkId = front ++ stretch ++ back := by
  have hchars : (front ++ "*" ++ back).toList = front.toList ++ '*' :: back.toList := by simp
  have htwo : front.toList ++ '*' :: back.toList ≠ ['*', '*'] :=
    fun heq => hpattern (String.toList_injective (hchars.trans heq))
  rw [covers, hchars, matchesChars_append_star_iff hfront htwo]
  constructor
  · rintro ⟨stretch, h⟩
    exact ⟨String.ofList stretch, String.toList_injective (by simpa using h)⟩
  · rintro ⟨stretch, rfl⟩
    exact ⟨stretch.toList, by simp⟩

private theorem covers_of_one_star_iff (hfront : '*' ∉ front.toList) (hback : '*' ∉ back.toList) :
    covers (front ++ "*" ++ back) checkId = true ↔ ∃ stretch, checkId = front ++ stretch ++ back := by
  refine covers_append_star_iff hfront fun htwo => ?_
  have hcount := congrArg (fun s : String => s.toList.count '*') htwo
  simp [List.count_append, List.count_eq_zero.2 hfront, List.count_eq_zero.2 hback] at hcount

/-- Whether it is characters or bytes that are counted makes no difference to what fits in. -/
theorem covers_iff_utf8ByteSize (hfront : '*' ∉ front.toList) (hpattern : front ++ "*" ++ back ≠ "**") :
    covers (front ++ "*" ++ back) checkId = true ↔
      front.utf8ByteSize + back.utf8ByteSize ≤ checkId.utf8ByteSize ∧ front.toList <+: checkId.toList ∧
        back.toList <:+ checkId.toList := by
  rw [covers_append_star_iff hfront hpattern]
  constructor
  · rintro ⟨stretch, rfl⟩
    refine ⟨?_, ⟨(stretch ++ back).toList, by simp⟩, ⟨(front ++ stretch).toList, by simp⟩⟩
    simp only [String.utf8ByteSize_append]
    omega
  · rintro ⟨hsize, ⟨rest, hrest⟩, hback⟩
    obtain rfl : checkId = front ++ String.ofList rest := String.toList_injective (by simpa using hrest.symm)
    rcases List.suffix_or_suffix_of_suffix hback ⟨front.toList, hrest⟩ with
      ⟨stretch, hstretch⟩ | ⟨overlap, hoverlap⟩
    · exact ⟨String.ofList stretch, String.toList_injective (by simp [← hstretch])⟩
    · -- A back that reaches into the front has no room to be longer than what is behind the front.
      obtain rfl : back = String.ofList overlap ++ String.ofList rest :=
        String.toList_injective (by simpa using hoverlap.symm)
      simp only [String.utf8ByteSize_append] at hsize
      have hempty : String.ofList overlap = "" := String.utf8ByteSize_eq_zero_iff.1 (by omega)
      exact ⟨"", by simp [hempty]⟩

end firstStar

end SkipPattern

namespace Settings

open SkipPattern

/-- A check is left out only if a pattern matches its whole id. If such a pattern has one star at most, or is two
stars alone, the check is left out; the id then holds what stands before the star and what stands behind it side by
side. -/
theorem isSkipped_by_globs (s : Settings) (checkId : String) :
    (s.isSkipped checkId = true → ∃ pattern ∈ s.skip, Globs pattern checkId) ∧
      (∀ pattern ∈ s.skip, pattern.toList.count '*' ≤ 1 ∨ pattern = "**" → Globs pattern checkId →
        s.isSkipped checkId = true) ∧
      ∀ front back : String, '*' ∉ front.toList → '*' ∉ back.toList →
        (covers (front ++ "*" ++ back) checkId = true ↔ ∃ stretch, checkId = front ++ stretch ++ back) := by
  refine ⟨fun h => ?_, fun pattern hpattern hstars h => ?_, fun front back => covers_of_one_star_iff⟩
  · obtain ⟨pattern, hpattern, hcovers⟩ := List.any_eq_true.1 h
    exact ⟨pattern, hpattern, globs_of_covers hcovers⟩
  · exact List.any_eq_true.2 ⟨pattern, hpattern, covers_of_globs hstars h⟩

def mirrored : Settings := { skip := ["ab*ba", "straße*ße"] }

/-- The text that is asked for at both ends has to be there twice. -/
theorem mirrored_isSkipped :
    mirrored.isSkipped "abba" = true ∧ mirrored.isSkipped "straßenstraße" = true ∧
      (∃ pattern ∈ mirrored.skip, Globs pattern "abba") ∧ covers ("ab" ++ "*" ++ "ba") "aba" = false := by
  have habba : mirrored.isSkipped "abba" = true :=
    (isSkipped_by_globs mirrored "abba").2.1 "ab*ba" (.head _) (.inl (by decide))
      (.char (by decide) (.char (by decide) (.star [] (.refl ['b', 'a']))))
  refine ⟨habba, ?_, (isSkipped_by_globs mirrored "abba").1 habba, ?_⟩
  · exact (isSkipped_by_globs mirrored "straßenstraße").2.1 "straße*ße" (.tail _ (.head _)) (.inl (by decide))
      ((Matches.refl "straße".toList).append (.star "nstra".toList (.refl "ße".toList)))
  · rw [Bool.eq_false_iff, Ne, (isSkipped_by_globs mirrored "aba").2.2 "ab" "ba" (by decide) (by decide)]
    rintro ⟨stretch, h⟩
    have hlength := congrArg String.length h
    simp only [String.length_append] at hlength
    have htexts : "aba".length = 3 ∧ "ab".length = 2 ∧ "ba".length = 2 := by decide
    omega

end Settings

end Preflight
