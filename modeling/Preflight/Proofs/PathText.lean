import Preflight.Cluster.FieldPath

/-! # The text of a path
A path is written as the dot alone, or as names with a dot before each of them. Reading accepts just these texts and
gives the names that stand in them. Any other text is refused for its leftmost defect: a missing dot in front, or
the first of the segments between its dots that is no name. -/
namespace Preflight

namespace FieldPath

def InName (c : Char) : Prop :=
  ('A' ≤ c ∧ c ≤ 'Z') ∨ ('a' ≤ c ∧ c ≤ 'z') ∨ ('0' ≤ c ∧ c ≤ '9') ∨ c = '_' ∨ c = '-'

def IsName (s : String) : Prop := s ≠ "" ∧ ∀ c ∈ s.toList, InName c

inductive Dotted : List String → String → Prop
  | one {name : String} (hname : IsName name) : Dotted [name] ("." ++ name)
  | more {name rest : String} {names : List String} (hname : IsName name) (hrest : Dotted names rest) :
    Dotted (name :: names) ("." ++ name ++ rest)

/-- The texts of paths, with the names that they hold. -/
inductive Spells : List String → String → Prop
  | root : Spells [] "."
  | dotted {names : List String} {s : String} (hs : Dotted names s) : Spells names s

def withDots (segments : List String) : String := String.join (segments.map ("." ++ ·))

def textOf (segments : List String) : String := if segments = [] then "." else withDots segments

/-- The text begins with a dot, and these segments stand between its dots and behind the last one. -/
structure CutInto (s : String) (segments : List String) : Prop where
  ne_nil : segments ≠ []
  undotted : ∀ segment ∈ segments, '.' ∉ segment.toList
  eq_withDots : s = withDots segments

/-- What a segment is refused for: that it is empty, or else for the first character in it that no name holds. -/
inductive Blames (path : String) (position : Nat) : String → FieldPathError → Prop
  | empty : Blames path position "" (.emptySegment path position)
  | foreign {segment : String} {front back : List Char} {ch : Char}
      (hsegment : segment.toList = front ++ ch :: back)
    (hfront : ∀ c ∈ front, InName c) (hch : ¬ InName ch) : Blames path position segment (.invalidCharacter path ch)

/-- What a text is refused for. -/
inductive Defect (s : String) : FieldPathError → Prop
  | undotted (hhead : s.toList.head? ≠ some '.') : Defect s (.missingLeadingDot s)
  | segment {names rest : List String} {segment : String} {e : FieldPathError} (hroot : s ≠ ".")
    (hcut : CutInto s (names ++ segment :: rest)) (hnames : ∀ name ∈ names, IsName name)
    (hsegment : Blames s names.length segment e) : Defect s e

theorem isSegmentChar_iff {c : Char} : isSegmentChar c = true ↔ InName c := by
  have hranges : isSegmentChar c =
      (decide ('A'.val ≤ c.val ∧ c.val ≤ 'Z'.val) || (decide ('a'.val ≤ c.val) && decide (c.val ≤ 'z'.val)) ||
        (decide ('0'.val ≤ c.val) && decide (c.val ≤ '9'.val)) || decide (c = '_') || decide (c = '-')) := rfl
  simp only [hranges, InName, Char.le_def, Bool.or_eq_true, Bool.and_eq_true, decide_eq_true_eq, or_assoc]

theorem isSegment_iff {s : String} : isSegment s = true ↔ IsName s := by
  simp [isSegment, IsName, isSegmentChar_iff]

instance : DecidablePred IsName := fun _ => decidable_of_iff _ isSegment_iff

private theorem dot_not_inName : ¬ InName '.' := by
  rw [← isSegmentChar_iff]
  decide

theorem IsName.dot_not_mem {s : String} (h : IsName s) : '.' ∉ s.toList := fun hdot => dot_not_inName (h.2 _ hdot)

theorem isName_of_mem (p : FieldPath) {name : String} (h : name ∈ p.segments) : IsName name :=
  isSegment_iff.1 (List.all_eq_true.1 p.valid name h)

private theorem blames_name {path name : String} {position : Nat} {e : FieldPathError} (h : IsName name) :
    ¬ Blames path position name e := by
  rintro (_ | ⟨hsegment, -, hch⟩)
  · exact h.1 rfl
  · exact hch (h.2 _ (hsegment ▸ by simp))

@[simp] theorem withDots_cons (segment : String) (segments : List String) :
    withDots (segment :: segments) = "." ++ segment ++ withDots segments := by
  simp [withDots]

theorem toList_withDots {segments : List String} (h : segments ≠ []) :
    (withDots segments).toList = '.' :: Text.join '.' (segments.map String.toList) := by
  induction segments with
  | nil => exact absurd rfl h
  | cons segment segments ih =>
    cases segments with
    | nil => simp [withDots, Text.join]
    | cons next segments =>
      have hjoin : Text.join '.' ((segment :: next :: segments).map String.toList) =
          segment.toList ++ '.' :: Text.join '.' ((next :: segments).map String.toList) :=
        Text.join_cons '.' segment.toList (List.cons_ne_nil _ _)
      rw [withDots_cons, String.toList_append, ih (List.cons_ne_nil _ _), hjoin, String.toList_append]
      rfl

theorem dotted_iff {names : List String} {s : String} :
    Dotted names s ↔ names ≠ [] ∧ (∀ name ∈ names, IsName name) ∧ s = withDots names := by
  constructor
  · intro h
    induction h with
    | one hname => exact ⟨by simp, by simpa using hname, by simp [withDots]⟩
    | more hname hrest ih =>
      obtain ⟨-, hnames, rfl⟩ := ih
      exact ⟨by simp, by simpa using ⟨hname, hnames⟩, (withDots_cons _ _).symm⟩
  · rintro ⟨hne, hnames, rfl⟩
    induction names with
    | nil => exact absurd rfl hne
    | cons name names ih =>
      obtain ⟨hname, hrest⟩ := List.forall_mem_cons.1 hnames
      cases names with
      | nil => simpa [withDots] using Dotted.one hname
      | cons next names =>
        rw [withDots_cons]
        exact .more hname (ih (List.cons_ne_nil _ _) hrest)

private theorem spells_iff {names : List String} {s : String} :
    Spells names s ↔ (∀ name ∈ names, IsName name) ∧ s = textOf names := by
  constructor
  · rintro (_ | hs)
    · exact ⟨nofun, rfl⟩
    · obtain ⟨hne, hnames, rfl⟩ := dotted_iff.1 hs
      exact ⟨hnames, (if_neg hne).symm⟩
  · rintro ⟨hnames, rfl⟩
    by_cases hne : names = []
    · subst hne
      exact .root
    · exact .dotted (dotted_iff.2 ⟨hne, hnames, if_neg hne⟩)

section firstDefect

variable {path segment : String} {position : Nat} {names segments : List String} {e : FieldPathError}

private theorem isName_or_blames (path : String) (position : Nat) (segment : String) :
    IsName segment ∨ ∃ e, Blames path position segment e := by
  by_cases hempty : segment = ""
  · exact .inr ⟨.emptySegment path position, hempty ▸ Blames.empty⟩
  cases hfind : segment.toList.find? (!isSegmentChar ·) with
  | none =>
    refine .inl ⟨hempty, fun c hc => isSegmentChar_iff.1 ?_⟩
    simpa using List.find?_eq_none.1 hfind c hc
  | some ch =>
    obtain ⟨hch, front, back, hsegment, hfront⟩ := List.find?_eq_some_iff_append.1 hfind
    refine .inr ⟨_, .foreign hsegment (fun c hc => isSegmentChar_iff.1 ?_) fun hname => ?_⟩
    · simpa using hfront c hc
    · rw [isSegmentChar_iff.2 hname] at hch
      cases hch

theorem firstDefect_cons_of_isName (h : IsName segment) :
    firstDefect path position (segment :: segments) = firstDefect path (position + 1) segments := by
  have hne : segment.toList ≠ [] := mt String.toList_eq_nil_iff.1 h.1
  have hfind : segment.toList.find? (!isSegmentChar ·) = none := by
    refine List.find?_eq_none.2 fun c hc => ?_
    simpa using isSegmentChar_iff.2 (h.2 c hc)
  rw [firstDefect, if_neg hne, hfind]

theorem firstDefect_cons_of_blames (h : Blames path position segment e) :
    firstDefect path position (segment :: segments) = some e := by
  cases h with
  | empty => rfl
  | @foreign _ front back ch hsegment hfront hch =>
    have hne : segment.toList ≠ [] := by simp [hsegment]
    have hfind : segment.toList.find? (!isSegmentChar ·) = some ch := by
      refine List.find?_eq_some_iff_append.2 ⟨?_, front, back, hsegment, fun c hc => ?_⟩
      · simpa using mt isSegmentChar_iff.1 hch
      · simpa using isSegmentChar_iff.2 (hfront c hc)
    rw [firstDefect, if_neg hne, hfind]

private theorem firstDefect_append_of_isName (h : ∀ name ∈ names, IsName name) :
    firstDefect path position (names ++ segments) = firstDefect path (position + names.length) segments := by
  induction names generalizing position with
  | nil => rfl
  | cons name names ih =>
    obtain ⟨hname, hnames⟩ := List.forall_mem_cons.1 h
    rw [List.cons_append, firstDefect_cons_of_isName hname, ih hnames, List.length_cons, Nat.add_assoc,
      Nat.add_comm 1]

/-- The search stops at the first segment that is no name and counts the names in front of it. -/
theorem firstDefect_eq_some_iff :
    firstDefect path position segments = some e ↔ ∃ names segment rest, segments = names ++ segment :: rest ∧
      (∀ name ∈ names, IsName name) ∧ Blames path (position + names.length) segment e := by
  constructor
  · intro h
    induction segments generalizing position with
    | nil => cases h
    | cons segment segments ih =>
      rcases isName_or_blames path position segment with hname | ⟨e', hblames⟩
      · rw [firstDefect_cons_of_isName hname] at h
        obtain ⟨names, found, rest, rfl, hnames, hfound⟩ := ih h
        refine ⟨segment :: names, found, rest, rfl, List.forall_mem_cons.2 ⟨hname, hnames⟩, ?_⟩
        rwa [List.length_cons, Nat.add_comm _ 1, ← Nat.add_assoc]
      · rw [firstDefect_cons_of_blames hblames] at h
        cases h
        exact ⟨[], segment, segments, rfl, nofun, hblames⟩
  · rintro ⟨names, segment, rest, rfl, hnames, hblames⟩
    rw [firstDefect_append_of_isName hnames, firstDefect_cons_of_blames hblames]

private theorem ofSegments_eq_ok_iff {p : FieldPath} :
    ofSegments path segments = .ok p ↔ p.segments = segments := by
  unfold ofSegments
  split
  · next e he =>
    refine iff_of_false nofun ?_
    rintro rfl
    obtain ⟨names, segment, rest, hsegments, -, hblames⟩ := firstDefect_eq_some_iff.1 he
    exact blames_name (p.isName_of_mem (hsegments ▸ by simp)) hblames
  · next hnone =>
    constructor
    · intro h
      cases h
      rfl
    · rintro rfl
      rfl

private theorem ofSegments_eq_error_iff :
    ofSegments path segments = .error e ↔ firstDefect path 0 segments = some e := by
  unfold ofSegments
  split
  · next e' he =>
    rw [he]
    exact ⟨fun h => congrArg some (Except.error.inj h), fun h => congrArg Except.error (Option.some.inj h)⟩
  · next hnone => exact iff_of_false nofun fun h => nomatch hnone.symm.trans h

end firstDefect

theorem cutInto_iff {s : String} {rest : List Char} (hs : s.toList = '.' :: rest) {segments : List String} :
    CutInto s segments ↔ segments = (Text.splitAt '.' rest).map String.ofList := by
  constructor
  · rintro ⟨hne, hundotted, rfl⟩
    rw [toList_withDots hne] at hs
    have hparts : ∀ part ∈ segments.map String.toList, '.' ∉ part := List.forall_mem_map.2 hundotted
    rw [← (List.cons.inj hs).2, Text.splitAt_join (mt List.map_eq_nil_iff.1 hne) hparts,
      Text.map_ofList_map_toList]
  · rintro rfl
    have hne : (Text.splitAt '.' rest).map String.ofList ≠ [] := mt List.map_eq_nil_iff.1 (Text.splitAt_ne_nil _ _)
    refine ⟨hne, fun segment hsegment => ?_, String.toList_injective ?_⟩
    · obtain ⟨part, hpart, rfl⟩ := List.mem_map.1 hsegment
      rw [String.toList_ofList]
      exact Text.not_mem_of_mem_splitAt hpart
    · rw [hs, toList_withDots hne, Text.map_toList_map_ofList, Text.join_splitAt]

theorem CutInto.head? {s : String} {segments : List String} (h : CutInto s segments) :
    s.toList.head? = some '.' := by
  rw [h.eq_withDots, toList_withDots h.ne_nil]
  rfl

theorem CutInto.unique {s : String} {segments segments' : List String} (h : CutInto s segments)
    (h' : CutInto s segments') : segments = segments' := by
  obtain ⟨rest, hs⟩ := List.head?_eq_some_iff.1 h.head?
  rw [(cutInto_iff hs).1 h, (cutInto_iff hs).1 h']

/-- How a text is read: the dot alone is the root, segments between dots are looked at one by one, and nothing else
is read at all. -/
theorem parse_cases (s : String) :
    s = "." ∧ parse s = .ok root ∨
      s ≠ "." ∧ (∃ segments, CutInto s segments ∧ parse s = ofSegments s segments) ∨
        s.toList.head? ≠ some '.' ∧ parse s = .error (.missingLeadingDot s) := by
  unfold parse
  split
  · next hs => exact .inl ⟨String.toList_injective hs, rfl⟩
  · next rest hrest hs =>
    refine .inr (.inl ⟨?_, _, (cutInto_iff hs).2 rfl, rfl⟩)
    rintro rfl
    exact hrest (List.cons.inj hs).2.symm
  · next hroot hdot =>
    refine .inr (.inr ⟨fun hhead => ?_, rfl⟩)
    obtain ⟨rest, hs⟩ := List.head?_eq_some_iff.1 hhead
    exact hdot rest hs

theorem text_eq (p : FieldPath) : p.text = textOf p.segments := rfl

theorem text_of_nil {p : FieldPath} (h : p.segments = []) : p.text = "." := if_pos h

theorem text_of_ne_nil {p : FieldPath} (h : p.segments ≠ []) : p.text = withDots p.segments := if_neg h

theorem cutInto_text {p : FieldPath} (h : p.segments ≠ []) : CutInto p.text p.segments where
  ne_nil := h
  undotted _ hname := (p.isName_of_mem hname).dot_not_mem
  eq_withDots := text_of_ne_nil h

theorem text_eq_dot_iff {p : FieldPath} : p.text = "." ↔ p = root := by
  constructor
  · intro h
    by_cases hp : p.segments = []
    · cases p
      cases hp
      rfl
    · -- The text of the root is cut into one empty segment, and that is no name.
      have hsegments := (cutInto_iff rfl).1 (h ▸ cutInto_text hp)
      exact absurd rfl (p.isName_of_mem (hsegments ▸ List.mem_cons_self)).1
  · rintro rfl
    rfl

theorem parse_eq_ok_iff {s : String} {p : FieldPath} : parse s = .ok p ↔ p.text = s := by
  obtain ⟨rfl, hparse⟩ | ⟨hs, segments, hcut, hparse⟩ | ⟨hhead, hparse⟩ := parse_cases s
  · rw [hparse, text_eq_dot_iff]
    exact ⟨fun h => (Except.ok.inj h).symm, fun h => congrArg Except.ok h.symm⟩
  · rw [hparse, ofSegments_eq_ok_iff]
    constructor
    · rintro rfl
      rw [text_of_ne_nil hcut.ne_nil, hcut.eq_withDots]
    · rintro rfl
      have hp : p.segments ≠ [] := fun hnil => hs (text_of_nil hnil)
      exact (cutInto_text hp).unique hcut
  · rw [hparse]
    refine iff_of_false nofun ?_
    rintro rfl
    by_cases hp : p.segments = []
    · exact hhead (text_of_nil hp ▸ rfl)
    · exact hhead (cutInto_text hp).head?

private theorem parse_eq_error_iff {s : String} {e : FieldPathError} : parse s = .error e ↔ Defect s e := by
  obtain ⟨rfl, hparse⟩ | ⟨hs, segments, hcut, hparse⟩ | ⟨hhead, hparse⟩ := parse_cases s
  · rw [hparse]
    refine iff_of_false nofun ?_
    rintro (hhead | ⟨hroot, -, -, -⟩)
    · exact hhead rfl
    · exact hroot rfl
  · rw [hparse, ofSegments_eq_error_iff, firstDefect_eq_some_iff]
    simp only [Nat.zero_add]
    constructor
    · rintro ⟨names, segment, rest, rfl, hnames, hblames⟩
      exact .segment hs hcut hnames hblames
    · rintro (hhead | ⟨-, hcut', hnames, hblames⟩)
      · exact absurd hcut.head? hhead
      · exact ⟨_, _, _, hcut.unique hcut', hnames, hblames⟩
  · rw [hparse]
    constructor
    · intro h
      cases h
      exact .undotted hhead
    · rintro (- | ⟨-, hcut, -, -⟩)
      · rfl
      · exact absurd hcut.head? hhead

theorem join_eq (names : List String) : join names = parse (textOf names) := by
  by_cases hnames : names = []
  · rw [hnames]
    rfl
  · have hne : (withDots names).toList ≠ [] := by simp [toList_withDots hnames]
    rw [textOf, if_neg hnames]
    exact congrArg parse (if_neg hne)

theorem join_segments (p : FieldPath) : join p.segments = .ok p := by
  rw [join_eq, ← text_eq, parse_eq_ok_iff]

/-- A text is read just if it is in the grammar, as the names that it is made of. What is read has the text for its
own and is what these names give when they are joined, and any other text is refused for its leftmost defect. -/
theorem parse_by_grammar (s : String) :
    (∀ names, (∃ p, parse s = .ok p ∧ p.segments = names) ↔ Spells names s) ∧
      (∀ p, parse s = .ok p ↔ p.text = s ∧ join p.segments = .ok p) ∧ ∀ e, parse s = .error e ↔ Defect s e := by
  refine ⟨fun names => ?_, fun p => ?_, fun e => parse_eq_error_iff⟩
  · rw [spells_iff]
    constructor
    · rintro ⟨p, hparse, rfl⟩
      exact ⟨fun name => p.isName_of_mem, p.text_eq ▸ (parse_eq_ok_iff.1 hparse).symm⟩
    · rintro ⟨hnames, rfl⟩
      let p : FieldPath := ⟨names, List.all_eq_true.2 fun name hname => isSegment_iff.2 (hnames name hname)⟩
      exact ⟨p, parse_eq_ok_iff.2 p.text_eq, rfl⟩
  · rw [parse_eq_ok_iff]
    exact ⟨fun h => ⟨h, p.join_segments⟩, And.left⟩

end FieldPath

end Preflight
