import Preflight.Proofs.SkipPatterns

/-! # Stars behind the first one
A pattern has one wildcard, its first star. A star behind it stands for itself, unless the pattern is two stars and
nothing else. So a pattern that names the middle of an id between two stars matches the id, but does not cover it,
and among ids without a star patterns with several stars cover none. -/
namespace Preflight

namespace SkipPattern

/-- The pattern matches the whole text if its first star stands for some stretch of it, and each other character,
any further star included, for itself. -/
inductive MatchesAtFirst : List Char → List Char → Prop
  | star {back : List Char} (stretch : List Char) : MatchesAtFirst ('*' :: back) (stretch ++ back)
  | char {c : Char} {pattern text : List Char} (hc : c ≠ '*') (h : MatchesAtFirst pattern text) :
    MatchesAtFirst (c :: pattern) (c :: text)

def GlobsAtFirst (pattern checkId : String) : Prop := MatchesAtFirst pattern.toList checkId.toList

variable {pattern text front back : List Char}

theorem MatchesAtFirst.matches (h : MatchesAtFirst pattern text) : Matches pattern text := by
  induction h with
  | star stretch => exact .star stretch (.refl _)
  | char hc _ ih => exact .char hc ih

/-- All stars but the first are found in the text. -/
theorem MatchesAtFirst.count_le (h : MatchesAtFirst pattern text) : pattern.count '*' ≤ text.count '*' + 1 := by
  induction h with
  | star stretch =>
    rw [List.count_cons_self, List.count_append]
    omega
  | char hc _ ih => simpa [List.count_cons_of_ne hc] using ih

private theorem matchesAtFirst_append_star_iff (hfront : '*' ∉ front) :
    MatchesAtFirst (front ++ '*' :: back) text ↔ ∃ stretch, text = front ++ stretch ++ back := by
  constructor
  · intro h
    induction front generalizing text with
    | nil =>
      cases h with
      | star stretch => exact ⟨stretch, rfl⟩
      | char hc => exact absurd rfl hc
    | cons c front ih =>
      cases h with
      | star => exact absurd List.mem_cons_self hfront
      | char _ h =>
        obtain ⟨stretch, rfl⟩ := ih (fun hmem => hfront (List.mem_cons_of_mem _ hmem)) h
        exact ⟨stretch, rfl⟩
  · rintro ⟨stretch, rfl⟩
    induction front with
    | nil => exact .star stretch
    | cons c front ih =>
      simp only [List.mem_cons, not_or] at hfront
      exact .char (Ne.symm hfront.1) (ih hfront.2)

/-- The pattern has two or more stars and is not two stars alone. -/
def HasFurtherStars (pattern : String) : Prop := 2 ≤ pattern.toList.count '*' ∧ pattern ≠ "**"

instance : DecidablePred HasFurtherStars := fun pattern =>
  inferInstanceAs (Decidable (2 ≤ pattern.toList.count '*' ∧ pattern ≠ "**"))

theorem covers_iff_globsAtFirst {pattern checkId : String} (h : HasFurtherStars pattern) :
    covers pattern checkId = true ↔ GlobsAtFirst pattern checkId := by
  have hstar : '*' ∈ pattern.toList := List.count_pos_iff.1 (Nat.lt_of_lt_of_le Nat.zero_lt_two h.1)
  obtain ⟨front, back, hpattern, hfront⟩ := List.eq_append_cons_of_mem hstar
  have htwo : front ++ '*' :: back ≠ ['*', '*'] := fun htwo => h.2 (String.toList_injective (hpattern.trans htwo))
  rw [covers, GlobsAtFirst, hpattern, matchesChars_append_star_iff hfront htwo,
    matchesAtFirst_append_star_iff hfront]

private theorem not_covers_of_star_free {pattern checkId : String} (h : HasFurtherStars pattern)
    (hfree : '*' ∉ checkId.toList) :
    covers pattern checkId = false := by
  rw [Bool.eq_false_iff, Ne, covers_iff_globsAtFirst h]
  intro hglobs
  have hcount := MatchesAtFirst.count_le hglobs
  rw [List.count_eq_zero.2 hfree] at hcount
  exact absurd (Nat.le_trans h.1 hcount) (by decide)

end SkipPattern

namespace Settings

open SkipPattern

/-- A pattern with further stars leaves out the checks whose ids it matches with its first star as the only
wildcard, which are some of those that it matches, and by itself no others. For an id without a star it makes no
difference. -/
theorem isSkipped_by_first_stars (s : Settings) (checkId : String) :
    (∀ pattern ∈ s.skip, HasFurtherStars pattern → GlobsAtFirst pattern checkId →
        Globs pattern checkId ∧ s.isSkipped checkId = true) ∧
      (∀ pattern, HasFurtherStars pattern →
        (({ s with skip := [pattern] } : Settings).isSkipped checkId = true ↔ GlobsAtFirst pattern checkId)) ∧
      ('*' ∉ checkId.toList →
        s.isSkipped checkId =
          ({ s with skip := s.skip.filter (¬ HasFurtherStars ·) } : Settings).isSkipped checkId) := by
  refine ⟨fun pattern hpattern hstars h => ?_, fun pattern hstars => ?_, fun hfree => ?_⟩
  · exact ⟨h.matches, List.any_eq_true.2 ⟨pattern, hpattern, (covers_iff_globsAtFirst hstars).2 h⟩⟩
  · simp [isSkipped, covers_iff_globsAtFirst hstars]
  · rw [Bool.eq_iff_iff]
    simp only [isSkipped, List.any_filter, List.any_eq_true, Bool.and_eq_true, decide_eq_true_eq]
    constructor
    · rintro ⟨pattern, hpattern, hcovers⟩
      refine ⟨pattern, hpattern, fun hstars => ?_, hcovers⟩
      exact Bool.false_ne_true ((not_covers_of_star_free hstars hfree).symm.trans hcovers)
    · rintro ⟨pattern, hpattern, -, hcovers⟩
      exact ⟨pattern, hpattern, hcovers⟩

def starredAround : Settings := { skip := ["*.kserve.*", "ab*b*"] }

theorem starredAround_isSkipped :
    HasFurtherStars "ab*b*" ∧ Globs "ab*b*" "abb*" ∧ starredAround.isSkipped "abb*" = true := by
  have hstars : HasFurtherStars "ab*b*" := by decide
  have hglobs : GlobsAtFirst "ab*b*" "abb*" := .char (by decide) (.char (by decide) (.star []))
  exact ⟨hstars, (isSkipped_by_first_stars starredAround "abb*").1 "ab*b*" (.tail _ (.head _)) hstars hglobs⟩

/-- The id has the middle part that the pattern asks for, but the star behind it is looked for as it is. -/
theorem further_stars_not_wild :
    Globs "*.kserve.*" "components.kserve.serverless-removal" ∧
      starredAround.isSkipped "components.kserve.serverless-removal" = false ∧
      ¬ ∀ (s : Settings) (pattern checkId : String), pattern ∈ s.skip → HasFurtherStars pattern →
        Globs pattern checkId → s.isSkipped checkId = true := by
  have hglobs : Globs "*.kserve.*" "components.kserve.serverless-removal" :=
    .star "components".toList ((Matches.refl ".kserve.".toList).append (.star "serverless-removal".toList .nil))
  have hnot : starredAround.isSkipped "components.kserve.serverless-removal" = false := by decide
  refine ⟨hglobs, hnot, fun hall => ?_⟩
  have hskipped := hall starredAround "*.kserve.*" _ List.mem_cons_self (by decide) hglobs
  exact Bool.false_ne_true (hnot.symm.trans hskipped)

end Settings

end Preflight
