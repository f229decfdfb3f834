import Mathlib.Data.List.DropRight
import Preflight.Text.Blank
import Preflight.Text.Split

/-! # What trimming leaves
A text is blanks, then what trimming leaves of it, then blanks again. No other part of it that neither begins nor
ends with a blank has nothing but blanks around it. -/
namespace Preflight.Text

def AllBlank (s : List Char) : Prop := ∀ c ∈ s, isBlank c = true

instance (s : List Char) : Decidable (AllBlank s) := decidable_of_iff (s.all isBlank = true) List.all_eq_true

structure IsTrimmed (s : List Char) : Prop where
  head_not_blank : ∀ c ∈ s.head?, isBlank c = false
  last_not_blank : ∀ c ∈ s.getLast?, isBlank c = false

theorem isTrimmed_iff {s : List Char} :
    IsTrimmed s ↔ s.head?.any isBlank = false ∧ s.getLast?.any isBlank = false := by
  rw [Option.any_eq_false, Option.any_eq_false]
  exact ⟨fun h => ⟨h.head_not_blank, h.last_not_blank⟩, fun h => ⟨h.1, h.2⟩⟩

instance (s : List Char) : Decidable (IsTrimmed s) := decidable_of_iff _ isTrimmed_iff.symm

variable {s t blanks before after : List Char}

theorem AllBlank.append (hs : AllBlank s) (ht : AllBlank t) : AllBlank (s ++ t) :=
  List.forall_mem_append.2 ⟨hs, ht⟩

theorem AllBlank.not_mem {c : Char} (h : AllBlank s) (hc : isBlank c = false) : c ∉ s :=
  fun hmem => Bool.false_ne_true (hc.symm.trans (h c hmem))

theorem IsTrimmed.of_no_blank (h : ∀ c ∈ s, isBlank c = false) : IsTrimmed s :=
  ⟨fun c hc => h c (List.mem_of_head? hc), fun c hc => h c (List.mem_of_getLast? hc)⟩

theorem exists_eq_append_trimStart (s : List Char) : ∃ blanks, AllBlank blanks ∧ s = blanks ++ trimStart s :=
  ⟨s.takeWhile isBlank, fun _ => List.mem_takeWhile_imp, List.takeWhile_append_dropWhile.symm⟩

theorem exists_eq_trimEnd_append (s : List Char) : ∃ blanks, AllBlank blanks ∧ s = trimEnd s ++ blanks :=
  ⟨s.rtakeWhile isBlank, fun _ => List.mem_rtakeWhile_imp, List.rdropWhile_append_rtakeWhile.symm⟩

theorem head?_dropWhile_isBlank (s : List Char) : ∀ c ∈ (s.dropWhile isBlank).head?, isBlank c = false := by
  intro c hc
  have hhead := List.head?_dropWhile_not isBlank s
  rw [Option.mem_def.1 hc] at hhead
  simpa using hhead

theorem isTrimmed_trim (s : List Char) : IsTrimmed (trim s) := by
  refine ⟨fun c hc => ?_, fun c hc => ?_⟩
  · -- The first character that is left at the end was the first one before.
    obtain ⟨rest, hrest⟩ : trim s <+: trimStart s := List.rdropWhile_prefix isBlank _
    refine head?_dropWhile_isBlank s c ?_
    rw [show s.dropWhile isBlank = trim s ++ rest from hrest.symm, List.head?_append, Option.mem_def.1 hc]
    rfl
  · rw [trim, trimEnd, List.getLast?_reverse] at hc
    exact head?_dropWhile_isBlank _ c hc

theorem trim_of_allBlank (h : AllBlank blanks) : trim blanks = [] := by
  rw [trim, trimStart, List.dropWhile_eq_nil_iff.2 h]
  rfl

/-- What trimming leaves of a text is the one part of it with blanks around it, but none at its ends. -/
theorem trim_eq_iff :
    trim s = t ↔ IsTrimmed t ∧ ∃ before after, AllBlank before ∧ AllBlank after ∧ s = before ++ t ++ after := by
  constructor
  · rintro rfl
    obtain ⟨before, hbefore, hs⟩ := exists_eq_append_trimStart s
    obtain ⟨after, hafter, hend⟩ := exists_eq_trimEnd_append (trimStart s)
    refine ⟨isTrimmed_trim s, before, after, hbefore, hafter, ?_⟩
    rw [List.append_assoc]
    exact hs.trans (congrArg (before ++ ·) hend)
  · rintro ⟨ht, before, after, hbefore, hafter, rfl⟩
    cases t with
    | nil => exact trim_of_allBlank (by simpa using hbefore.append hafter)
    | cons c t =>
      have hstart : trimStart (before ++ (c :: t ++ after)) = c :: t ++ after :=
        dropWhile_append hbefore ht.head_not_blank
      have hend : ((c :: t ++ after).reverse.dropWhile isBlank) = (c :: t).reverse := by
        rw [List.reverse_append]
        refine dropWhile_append (fun d hd => hafter d (List.mem_reverse.1 hd)) ?_
        rw [List.head?_reverse]
        exact ht.last_not_blank
      rw [List.append_assoc, trim, hstart, trimEnd, hend, List.reverse_reverse]

theorem trim_toList_eq_iff {text raw : String} (htrimmed : IsTrimmed text.toList) :
    trim raw.toList = text.toList ↔
      ∃ before after : String, AllBlank before.toList ∧ AllBlank after.toList ∧ raw = before ++ text ++ after := by
  rw [trim_eq_iff, and_iff_right htrimmed]
  constructor
  · rintro ⟨before, after, hbefore, hafter, hraw⟩
    refine ⟨String.ofList before, String.ofList after, by simpa using hbefore, by simpa using hafter, ?_⟩
    exact String.toList_injective (by simpa using hraw)
  · rintro ⟨before, after, hbefore, hafter, rfl⟩
    exact ⟨before.toList, after.toList, hbefore, hafter, by simp⟩

theorem trim_blanks_append (h : AllBlank blanks) (s : List Char) : trim (blanks ++ s) = trim s := by
  obtain ⟨htrimmed, before, after, hbefore, hafter, hs⟩ := trim_eq_iff.1 (rfl : trim s = trim s)
  refine trim_eq_iff.2 ⟨htrimmed, blanks ++ before, after, h.append hbefore, hafter, ?_⟩
  rw [List.append_assoc, List.append_assoc, ← List.append_assoc before, ← hs]

theorem trim_append_blanks (h : AllBlank blanks) (s : List Char) : trim (s ++ blanks) = trim s := by
  obtain ⟨htrimmed, before, after, hbefore, hafter, hs⟩ := trim_eq_iff.1 (rfl : trim s = trim s)
  refine trim_eq_iff.2 ⟨htrimmed, before, after ++ blanks, hbefore, hafter.append h, ?_⟩
  rw [← List.append_assoc, ← hs]

theorem trim_trimStart (s : List Char) : trim (trimStart s) = trim s := by
  obtain ⟨blanks, hblanks, hs⟩ := exists_eq_append_trimStart s
  rw [← trim_blanks_append hblanks (trimStart s), ← hs]

theorem trim_trimEnd (s : List Char) : trim (trimEnd s) = trim s := by
  obtain ⟨blanks, hblanks, hs⟩ := exists_eq_trimEnd_append s
  rw [← trim_append_blanks hblanks (trimEnd s), ← hs]

section notBlank

variable {c : Char} (hc : isBlank c = false)
include hc

theorem trimStart_append_cons (s t : List Char) : trimStart (s ++ c :: t) = trimStart s ++ c :: t := by
  unfold trimStart
  rw [List.dropWhile_append, List.dropWhile_cons_of_neg (Bool.eq_false_iff.1 hc)]
  split
  · next hempty => rw [List.isEmpty_iff.1 hempty, List.nil_append]
  · rfl

theorem trimEnd_append_cons (s t : List Char) : trimEnd (s ++ c :: t) = s ++ c :: trimEnd t := by
  have hreverse : (s ++ c :: t).reverse = t.reverse ++ c :: s.reverse := by simp
  have htrimEnd (u : List Char) : trimEnd u = (trimStart u.reverse).reverse := rfl
  rw [htrimEnd, hreverse, trimStart_append_cons hc, htrimEnd]
  simp

theorem trim_append_cons (s t : List Char) : trim (s ++ c :: t) = trimStart s ++ c :: trimEnd t := by
  rw [trim, trimStart_append_cons hc, trimEnd_append_cons hc]

end notBlank

end Preflight.Text
