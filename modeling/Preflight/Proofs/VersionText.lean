import Preflight.Proofs.Numerals
import Preflight.Version.Text

/-! # Versions are read back from their texts
A numeral is canonical and ends where no digit follows, and identifiers hold neither the dot that stands between
them nor the plus sign that the build begins with. So each part of the text of a version is read where it was
written. -/
namespace Preflight

namespace Text

theorem mem_join {sep c : Char} {parts : List (List Char)} (h : c ∈ join sep parts) :
    c = sep ∨ ∃ part ∈ parts, c ∈ part := by
  induction parts with
  | nil => cases h
  | cons part parts ih =>
    cases parts with
    | nil => exact .inr ⟨part, List.mem_cons_self, h⟩
    | cons part' parts =>
      rw [join_cons sep part (List.cons_ne_nil _ _)] at h
      rcases List.mem_append.1 h with hfirst | hlater
      · exact .inr ⟨part, List.mem_cons_self, hfirst⟩
      rcases List.mem_cons.1 hlater with hsep | hrest
      · exact .inl hsep
      rcases ih hrest with hsep | ⟨p, hp, hc⟩
      · exact .inl hsep
      · exact .inr ⟨p, List.mem_cons_of_mem _ hp, hc⟩

end Text

namespace Version

open Text

theorem takeNumber?_numeral (n : UInt64) {rest : List Char} (hrest : ∀ c ∈ rest.head?, c.isDigit = false) :
    takeNumber? (numeral n.toNat ++ rest) = some (n, rest) := by
  have htaken := takeWhile_append (fun _ => isDigit_of_mem_numeral (n := n.toNat)) hrest
  have hleft := dropWhile_append (fun _ => isDigit_of_mem_numeral (n := n.toNat)) hrest
  have hfits : isCanonical (numeral n.toNat) = true ∧ n.toNat < UInt64.size := ⟨isCanonical_numeral _, n.toNat_lt⟩
  simp only [takeNumber?, htaken, hleft, numeralValue_numeral, UInt64.ofNat_toNat]
  exact if_pos hfits

theorem isIdentifierChar_of_mem {identifier : String} (h : isBuildIdentifier identifier = true) {c : Char}
    (hc : c ∈ identifier.toList) : isIdentifierChar c = true := by
  unfold isBuildIdentifier at h
  rw [Bool.and_eq_true] at h
  exact List.all_eq_true.1 h.2 c hc

theorem isBuildIdentifier_of_isPreIdentifier {identifier : String} (h : isPreIdentifier identifier = true) :
    isBuildIdentifier identifier = true := by
  unfold isPreIdentifier at h
  rw [Bool.and_eq_true] at h
  exact h.1

section dotted

variable {identifiers : List String} (h : ∀ identifier ∈ identifiers, isBuildIdentifier identifier = true)
include h

private theorem plus_not_mem_dotted : '+' ∉ dotted identifiers := by
  intro hmem
  rcases mem_join hmem with hdot | ⟨part, hpart, hplus⟩
  · cases hdot
  · obtain ⟨identifier, hidentifier, rfl⟩ := List.mem_map.1 hpart
    cases isIdentifierChar_of_mem (h identifier hidentifier) hplus

theorem identifiersOf_dotted (hne : identifiers ≠ []) : identifiersOf (dotted identifiers) = identifiers := by
  have hparts : ∀ part ∈ identifiers.map String.toList, '.' ∉ part := by
    intro part hpart hdot
    obtain ⟨identifier, hidentifier, rfl⟩ := List.mem_map.1 hpart
    cases isIdentifierChar_of_mem (h identifier hidentifier) hdot
  have hsplit : splitAt '.' (dotted identifiers) = identifiers.map String.toList :=
    splitAt_join (fun hnil => hne (List.map_eq_nil_iff.1 hnil)) hparts
  rw [identifiersOf, hsplit, map_ofList_map_toList]

end dotted

def buildPart (build : List String) : List Char := if build = [] then [] else '+' :: dotted build

def prePart (pre : List String) : List Char := if pre = [] then [] else '-' :: dotted pre

private theorem readBuild?_buildPart {build : List String}
    (h : ∀ identifier ∈ build, isBuildIdentifier identifier = true) :
    readBuild? (buildPart build) = some build := by
  unfold buildPart
  by_cases hnone : build = []
  · rw [if_pos hnone, hnone]
    rfl
  · rw [if_neg hnone, readBuild?, identifiersOf_dotted h hnone]

private theorem takePre_prePart {pre : List String} (h : ∀ identifier ∈ pre, isBuildIdentifier identifier = true)
    (build : List String) : takePre (prePart pre ++ buildPart build) = (pre, buildPart build) := by
  have hbuild : ∀ c ∈ (buildPart build).head?, decide (c ≠ '+') = false := by
    intro c hc
    unfold buildPart at hc
    split at hc
    · cases hc
    · cases hc
      rfl
  unfold prePart
  by_cases hnone : pre = []
  · rw [if_pos hnone, List.nil_append, hnone]
    unfold buildPart
    split
    · rfl
    · rfl
  · have hplain : ∀ c ∈ dotted pre, decide (c ≠ '+') = true := by
      intro c hc
      refine decide_eq_true ?_
      rintro rfl
      exact plus_not_mem_dotted h hc
    rw [if_neg hnone, List.cons_append, takePre, takeWhile_append hplain hbuild, dropWhile_append hplain hbuild,
      identifiersOf_dotted h hnone]

theorem head?_parts (pre build : List String) :
    ∀ c ∈ (prePart pre ++ buildPart build).head?, c.isDigit = false := by
  intro c hc
  unfold prePart buildPart at hc
  split at hc <;> split at hc <;> cases hc <;> rfl

theorem parse?_text (v : Version) : parse? v.text = some v := by
  have hpre : ∀ identifier ∈ v.pre, isBuildIdentifier identifier = true := fun identifier h =>
    isBuildIdentifier_of_isPreIdentifier (List.all_eq_true.1 v.pre_valid identifier h)
  have hbuild : ∀ identifier ∈ v.build, isBuildIdentifier identifier = true := List.all_eq_true.1 v.build_valid
  have hdot : ∀ rest, ∀ c ∈ ('.' :: rest : List Char).head?, c.isDigit = false := by
    intro rest c hc
    cases hc
    rfl
  have hcore : takeCore? v.chars = some ((v.major, v.minor, v.patch), prePart v.pre ++ buildPart v.build) := by
    refine Option.bind_eq_some_iff.2 ⟨_, takeNumber?_numeral v.major (hdot _), ?_⟩
    refine Option.bind_eq_some_iff.2 ⟨_, rfl, ?_⟩
    refine Option.bind_eq_some_iff.2 ⟨_, takeNumber?_numeral v.minor (hdot _), ?_⟩
    refine Option.bind_eq_some_iff.2 ⟨_, rfl, ?_⟩
    exact Option.bind_eq_some_iff.2 ⟨_, takeNumber?_numeral v.patch (head?_parts v.pre v.build), rfl⟩
  unfold parse? text
  rw [String.toList_ofList]
  refine Option.bind_eq_some_iff.2 ⟨_, hcore, ?_⟩
  simp only [takePre_prePart hpre, readBuild?_buildPart hbuild, Option.bind_eq_bind, Option.bind_some]
  exact dif_pos ⟨v.pre_valid, v.build_valid⟩

end Version

end Preflight
