import Preflight.Cluster.Selector
import Preflight.Proofs.TrimmedText

/-! # A selector asks for all of its terms
Requirements are written as terms with commas between them, in any order and as often as one likes, with any blanks
around keys, values and terms, and with blank terms among them. The selector selects just the items that meet all of
the requirements. Two selectors with a comma between them select what both select. -/
namespace Preflight

open Text

namespace Requirement

/-- The requirement can be written as a term. No comma and no blanks at either end can be a part of what it names,
nor an equals sign a part of its key, and a key that stands alone cannot be empty. -/
def IsWritable : Requirement → Prop
  | labelled key => key ≠ "" ∧ ',' ∉ key.toList ∧ '=' ∉ key.toList ∧ IsTrimmed key.toList
  | labelledWith key value =>
    ',' ∉ key.toList ∧ '=' ∉ key.toList ∧ IsTrimmed key.toList ∧ ',' ∉ value.toList ∧ IsTrimmed value.toList

instance : DecidablePred IsWritable
  | labelled key =>
    inferInstanceAs (Decidable (key ≠ "" ∧ ',' ∉ key.toList ∧ '=' ∉ key.toList ∧ IsTrimmed key.toList))
  | labelledWith key value => inferInstanceAs (Decidable
      (',' ∉ key.toList ∧ '=' ∉ key.toList ∧ IsTrimmed key.toList ∧ ',' ∉ value.toList ∧ IsTrimmed value.toList))

def IsMetBy {α : Type} [Item α] (item : α) : Requirement → Prop
  | labelled key => ∃ value, Item.labelOf item key = some value
  | labelledWith key value => Item.labelOf item key = some value

/-- The terms of a requirement, with blanks where they may stand. -/
inductive WrittenAs : Requirement → String → Prop
  | labelled {key before after : String} (hbefore : AllBlank before.toList) (hafter : AllBlank after.toList) :
    WrittenAs (.labelled key) (before ++ key ++ after)
  | labelledWith {key value before after before' after' : String} (hbefore : AllBlank before.toList)
    (hafter : AllBlank after.toList) (hbefore' : AllBlank before'.toList) (hafter' : AllBlank after'.toList) :
    WrittenAs (.labelledWith key value) (before ++ key ++ after ++ "=" ++ before' ++ value ++ after')

private theorem holds_iff {α : Type} [Item α] {item : α} {r : Requirement} :
    r.holds item = true ↔ r.IsMetBy item := by
  cases r with
  | labelled key => simp [holds, IsMetBy, Option.isSome_iff_exists]
  | labelledWith key value => simp [holds, IsMetBy]

private theorem ofTerm_of_not_mem {term : List Char} (h : '=' ∉ term) :
    ofTerm term = .labelled (String.ofList term) := by
  rw [ofTerm, splitOnce_of_not_mem h]

private theorem ofTerm_append {front : List Char} (h : '=' ∉ front) (back : List Char) :
    ofTerm (front ++ '=' :: back) = .labelledWith (String.ofList (trim front)) (String.ofList (trim back)) := by
  rw [ofTerm, splitOnce_append h]

variable {r : Requirement} {term : String}

private theorem WrittenAs.comma_not_mem (h : r.WrittenAs term) (hr : r.IsWritable) : ',' ∉ term.toList := by
  have hblanks {blanks : String} (h : AllBlank blanks.toList) : ',' ∉ blanks.toList := h.not_mem rfl
  cases h with
  | labelled hbefore hafter => simp [hblanks hbefore, hblanks hafter, hr.2.1]
  | labelledWith hbefore hafter hbefore' hafter' =>
    simp [hblanks hbefore, hblanks hafter, hblanks hbefore', hblanks hafter', hr.1, hr.2.2.2.1]

/-- A term is read as the requirement that it was written for. -/
theorem WrittenAs.ofTerm_trim (h : r.WrittenAs term) (hr : r.IsWritable) :
    trim term.toList ≠ [] ∧ ofTerm (trim term.toList) = r := by
  cases h with
  | @labelled key before after hbefore hafter =>
    obtain ⟨hne, -, hequals, htrimmed⟩ := hr
    have hkey : trim (before ++ key ++ after).toList = key.toList :=
      (trim_toList_eq_iff htrimmed).2 ⟨before, after, hbefore, hafter, rfl⟩
    rw [hkey, ofTerm_of_not_mem hequals, String.ofList_toList]
    exact ⟨fun hnil => hne (String.toList_eq_nil_iff.1 hnil), rfl⟩
  | @labelledWith key value before after before' after' hbefore hafter hbefore' hafter' =>
    obtain ⟨-, hequals, hkey, -, hvalue⟩ := hr
    have hfront : trim (before ++ key ++ after).toList = key.toList :=
      (trim_toList_eq_iff hkey).2 ⟨before, after, hbefore, hafter, rfl⟩
    have hback : trim (before' ++ value ++ after').toList = value.toList :=
      (trim_toList_eq_iff hvalue).2 ⟨before', after', hbefore', hafter', rfl⟩
    have hterm : (before ++ key ++ after ++ "=" ++ before' ++ value ++ after').toList =
        (before ++ key ++ after).toList ++ '=' :: (before' ++ value ++ after').toList := by simp
    have hfree : '=' ∉ trimStart (before ++ key ++ after).toList := by
      intro hmem
      have hbeforeFree : '=' ∉ before.toList := hbefore.not_mem rfl
      have hafterFree : '=' ∉ after.toList := hafter.not_mem rfl
      have hwhole := (List.dropWhile_sublist _).subset hmem
      simp [hequals, hbeforeFree, hafterFree] at hwhole
    rw [hterm, trim_append_cons rfl, ofTerm_append hfree, trim_trimStart, trim_trimEnd, hfront, hback,
      String.ofList_toList, String.ofList_toList]
    exact ⟨List.append_ne_nil_of_right_ne_nil _ (List.cons_ne_nil _ _), rfl⟩

end Requirement

namespace Selector

/-- The texts between the commas of a selector, with the requirements written there. -/
inductive Spells : List String → List Requirement → Prop
  | nil : Spells [] []
  | blank {term : String} {terms : List String} {rs : List Requirement} (hblank : AllBlank term.toList)
    (h : Spells terms rs) : Spells (term :: terms) rs
  | term {term : String} {terms : List String} {r : Requirement} {rs : List Requirement} (hterm : r.WrittenAs term)
    (h : Spells terms rs) : Spells (term :: terms) (r :: rs)

def joined (terms : List String) : String := String.ofList (join ',' (terms.map String.toList))

theorem requirementsOf_append_cons (s t : List Char) :
    requirementsOf (s ++ ',' :: t) = requirementsOf s ++ requirementsOf t := by
  simp only [requirementsOf, splitAt_append_cons, List.map_append, List.filter_append]

theorem requirementsOf_of_blank {s : List Char} (h : AllBlank s) : requirementsOf s = [] := by
  have hcomma : ',' ∉ s := h.not_mem rfl
  simp [requirementsOf, splitAt_of_not_mem hcomma, trim_of_allBlank h]

private theorem requirementsOf_of_writtenAs {r : Requirement} {term : String} (h : r.WrittenAs term)
    (hr : r.IsWritable) :
    requirementsOf term.toList = [r] := by
  obtain ⟨hne, hterm⟩ := h.ofTerm_trim hr
  simp [requirementsOf, splitAt_of_not_mem (h.comma_not_mem hr), hne, hterm]

private theorem toList_joined_cons (term : String) {terms : List String} (h : terms ≠ []) :
    (joined (term :: terms)).toList = term.toList ++ ',' :: (joined terms).toList := by
  have hterms : terms.map String.toList ≠ [] := fun hnil => h (List.map_eq_nil_iff.1 hnil)
  simp only [joined, String.toList_ofList, List.map_cons, join_cons ',' term.toList hterms]

/-- The requirements of joined selectors are those of each of them, in turn. -/
theorem requirementsOf_joined (terms : List String) :
    requirementsOf (joined terms).toList = terms.flatMap fun term => requirementsOf term.toList := by
  induction terms with
  | nil => rfl
  | cons term terms ih =>
    by_cases hnil : terms = []
    · simp [hnil, joined, join]
    · rw [toList_joined_cons term hnil, requirementsOf_append_cons, ih, List.flatMap_cons]

theorem Spells.requirementsOf_joined {terms : List String} {rs : List Requirement} (h : Spells terms rs)
    (hrs : ∀ r ∈ rs, r.IsWritable) : requirementsOf (joined terms).toList = rs := by
  rw [Selector.requirementsOf_joined]
  induction h with
  | nil => rfl
  | blank hblank _ ih => rw [List.flatMap_cons, requirementsOf_of_blank hblank, ih hrs, List.nil_append]
  | term hterm _ ih =>
    obtain ⟨hr, hrs⟩ := List.forall_mem_cons.1 hrs
    rw [List.flatMap_cons, requirementsOf_of_writtenAs hterm hr, ih hrs, List.singleton_append]

section selects

variable {α : Type} [Item α] (item : α)

theorem selects_iff {selector : String} :
    selects selector item = true ↔ ∀ r ∈ requirementsOf selector.toList, r.IsMetBy item := by
  simp only [selects, List.all_eq_true, Requirement.holds_iff]

private theorem selects_append (a b : String) :
    selects (a ++ "," ++ b) item = (selects a item && selects b item) := by
  have hchars : (a ++ "," ++ b).toList = a.toList ++ ',' :: b.toList := by simp
  rw [selects, hchars, requirementsOf_append_cons, List.all_append]
  rfl

theorem selects_joined_iff {selectors : List String} :
    selects (joined selectors) item = true ↔ ∀ selector ∈ selectors, selects selector item = true := by
  simp only [selects_iff, requirementsOf_joined, List.mem_flatMap]
  exact ⟨fun h selector hs r hr => h r ⟨selector, hs, hr⟩, fun h r ⟨selector, hs, hr⟩ => h selector hs r hr⟩

/-- An item is selected just if it meets all requirements that are written in the selector, whatever their order,
however often each of them is written and wherever blanks stand. Selectors can be joined: what is selected then
meets each of them, so that neither their order nor their repetition counts, and a blank selector selects
everything. -/
theorem selects_by_requirements :
    (∀ (asked written : List Requirement) (terms : List String), (∀ r ∈ asked, r.IsWritable) →
      (∀ r, r ∈ written ↔ r ∈ asked) → Spells terms written →
        (selects (joined terms) item = true ↔ ∀ r ∈ asked, r.IsMetBy item)) ∧
    (∀ a b, selects (a ++ "," ++ b) item = (selects a item && selects b item)) ∧
    (∀ selectors selectors' : List String, (∀ s, s ∈ selectors ↔ s ∈ selectors') →
      selects (joined selectors) item = selects (joined selectors') item) ∧
    ∀ blanks : String, AllBlank blanks.toList → selects blanks item = true := by
  refine ⟨fun asked written terms hasked hmem hspells => ?_, selects_append item,
    fun selectors selectors' hmem => ?_,
    fun blanks hblanks => ?_⟩
  · have hwritable : ∀ r ∈ written, r.IsWritable := fun r hr => hasked r ((hmem r).1 hr)
    rw [selects_iff, hspells.requirementsOf_joined hwritable]
    simp only [hmem]
  · rw [Bool.eq_iff_iff, selects_joined_iff, selects_joined_iff]
    simp only [hmem]
  · rw [selects_iff, requirementsOf_of_blank hblanks]
    exact List.forall_mem_nil _

end selects

def labelledObject : Object :=
  ((Object.new .notebook (some "team-a") "study").withLabel "app" "nb").withLabel "query" "a=b"

/-- Both shapes of the object are selected by terms that ask for one of its labels twice. -/
theorem labelledObject_selected :
    (∀ r ∈ [.labelledWith "query" "a=b", .labelled "app"], Requirement.IsWritable r) ∧
      Spells [" app\t", "", "query= a=b ", "app"] [.labelled "app", .labelledWith "query" "a=b", .labelled "app"] ∧
      selects (joined [" app\t", "", "query= a=b ", "app"]) labelledObject = true ∧
      selects (joined [" app\t", "", "query= a=b ", "app"]) (labelledObject.toPartial .notebook) = true := by
  have hblank : AllBlank " ".toList ∧ AllBlank "".toList ∧ AllBlank "\t".toList := by decide
  obtain ⟨hspace, hnothing, htab⟩ := hblank
  have hwritable : ∀ r ∈ [.labelledWith "query" "a=b", .labelled "app"], Requirement.IsWritable r :=
    List.forall_mem_cons.2 ⟨by decide, List.forall_mem_singleton.2 (by decide)⟩
  have hspells : Spells [" " ++ "app" ++ "\t", "", "" ++ "query" ++ "" ++ "=" ++ " " ++ "a=b" ++ " ",
    "" ++ "app" ++ ""]
      [.labelled "app", .labelledWith "query" "a=b", .labelled "app"] :=
    .term (.labelled hspace htab) <| .blank hnothing <|
      .term (.labelledWith hnothing hnothing hspace hspace) <| .term (.labelled hnothing hnothing) .nil
  have hmem : ∀ r, r ∈ [.labelled "app", .labelledWith "query" "a=b", .labelled "app"] ↔
      r ∈ [Requirement.labelledWith "query" "a=b", .labelled "app"] := by
    intro r
    simp only [List.mem_cons, List.not_mem_nil, or_false]
    exact ⟨fun h => h.elim .inr id, .inr⟩
  have hmet {α : Type} [Item α] {item : α} (happ : Item.labelOf item "app" = some "nb")
      (hquery : Item.labelOf item "query" = some "a=b") :
      ∀ r ∈ [.labelledWith "query" "a=b", .labelled "app"], Requirement.IsMetBy item r :=
    List.forall_mem_cons.2 ⟨hquery, List.forall_mem_singleton.2 ⟨"nb", happ⟩⟩
  refine ⟨hwritable, hspells, ?_, ?_⟩
  · exact ((selects_by_requirements labelledObject).1 _ _ _ hwritable hmem hspells).2 (hmet rfl rfl)
  · exact ((selects_by_requirements (labelledObject.toPartial .notebook)).1 _ _ _ hwritable hmem hspells).2
      (hmet rfl rfl)

end Selector

end Preflight
