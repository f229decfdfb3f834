import Preflight.Cluster.Subscription

/-! # The version in the name of a release
The version of a subscription is read behind the first dot of the name of its release that a digit follows, perhaps
with a letter `v` before it. So it ends the name, and a package whose own dots lead to no version never hides the
version that is written behind it: no dot of the package leads to one because of the dot with which the package
ends. -/
namespace Preflight

namespace Subscription

/-- What follows a dot shows a version: it begins with a digit, or with a letter `v` in front of one. -/
inductive Shows : List Char → List Char → Prop
  | bare {digit : Char} {rest : List Char} (h : digit.isDigit = true) : Shows (digit :: rest) (digit :: rest)
  | lettered {digit : Char} {rest : List Char} (h : digit.isDigit = true) :
    Shows ('v' :: digit :: rest) (digit :: rest)

def ShowsNone (s : List Char) : Prop := ∀ front after, s = front ++ '.' :: after → ∀ version, ¬ Shows after version

/-- The version follows a dot of the text, and none follows any dot before that one. -/
def ShowsFirst (s version : List Char) : Prop :=
  ∃ front after, s = front ++ '.' :: after ∧ Shows after version ∧
    ∀ front' after', front = front' ++ '.' :: after' → ∀ other, ¬ Shows (after' ++ '.' :: after) other

variable {s after version front : List Char} {c : Char}

private theorem Shows.exists_digit (h : Shows after version) :
    ∃ digit rest, version = digit :: rest ∧ digit.isDigit = true := by
  cases h with
  | bare h => exact ⟨_, _, rfl, h⟩
  | lettered h => exact ⟨_, _, rfl, h⟩

theorem Shows.suffix (h : Shows after version) : version <:+ after := by
  cases h with
  | bare => exact List.suffix_rfl
  | lettered => exact List.suffix_cons _ _

private theorem startsWithDigit_iff :
    startsWithDigit s = true ↔ ∃ digit rest, s = digit :: rest ∧ digit.isDigit = true := by
  cases s with
  | nil => simp [startsWithDigit]
  | cons c s => simp [startsWithDigit]

theorem shows_iff : Shows after version ↔
    startsWithDigit (Version.dropLetter after) = true ∧ version = Version.dropLetter after := by
  constructor
  · intro h
    cases h with
    | bare h =>
      rw [(Version.dropLetter_eq_iff h).2 (.inl rfl)]
      exact ⟨h, rfl⟩
    | lettered h => exact ⟨h, rfl⟩
  · rintro ⟨hdigit, rfl⟩
    obtain ⟨digit, rest, hrest, h⟩ := startsWithDigit_iff.1 hdigit
    rw [hrest]
    rcases (Version.dropLetter_eq_iff h).1 hrest with rfl | rfl
    · exact .bare h
    · exact .lettered h

private theorem exists_shows_iff :
    (∃ version, Shows after version) ↔ startsWithDigit (Version.dropLetter after) = true :=
  ⟨fun ⟨_, h⟩ => (shows_iff.1 h).1, fun h => ⟨_, shows_iff.2 ⟨h, rfl⟩⟩⟩

theorem Shows.unique {version' : List Char} (h : Shows after version) (h' : Shows after version') :
    version = version' :=
  (shows_iff.1 h).2.trans (shows_iff.1 h').2.symm

/-- The dot behind a text and what follows it are no part of what shows a version. -/
theorem Shows.of_append_dot (h : Shows (front ++ '.' :: after) version) : ∃ other, Shows front other := by
  generalize htext : front ++ '.' :: after = text at h
  cases h with
  | bare h =>
    cases front with
    | nil =>
      cases htext
      cases h
    | cons c front =>
      cases htext
      exact ⟨_, .bare h⟩
  | lettered h =>
    cases front with
    | nil => cases htext
    | cons c front =>
      cases front with
      | nil =>
        cases htext
        cases h
      | cons d front =>
        cases htext
        exact ⟨_, .lettered h⟩

private theorem showsNone_cons_iff :
    ShowsNone (c :: s) ↔ (c = '.' → ∀ version, ¬ Shows s version) ∧ ShowsNone s := by
  constructor
  · intro h
    refine ⟨?_, fun front after hs => h (c :: front) after (congrArg (c :: ·) hs)⟩
    rintro rfl
    exact h [] s rfl
  · rintro ⟨hhere, hlater⟩ front after hs
    cases front with
    | nil =>
      cases hs
      exact hhere rfl
    | cons d front =>
      cases hs
      exact hlater front after rfl

private theorem showsFirst_cons_iff : ShowsFirst (c :: s) version ↔
    c = '.' ∧ Shows s version ∨ (c = '.' → ∀ other, ¬ Shows s other) ∧ ShowsFirst s version := by
  constructor
  · rintro ⟨front, after, hs, hshows, hbefore⟩
    cases front with
    | nil =>
      cases hs
      exact .inl ⟨rfl, hshows⟩
    | cons d front =>
      cases hs
      refine .inr ⟨?_, front, after, rfl, hshows, fun front' after' hfront => ?_⟩
      · rintro rfl
        exact hbefore [] front rfl
      · exact hbefore (c :: front') after' (congrArg (c :: ·) hfront)
  · rintro (⟨rfl, hshows⟩ | ⟨hhere, front, after, rfl, hshows, hbefore⟩)
    · exact ⟨[], s, rfl, hshows, fun front' after' hfront => absurd hfront (by simp)⟩
    · refine ⟨c :: front, after, rfl, hshows, fun front' after' hfront => ?_⟩
      cases front' with
      | nil =>
        cases hfront
        exact hhere rfl
      | cons d front' =>
        cases hfront
        exact hbefore front' after' rfl

theorem versionSuffix?_cons_of_shows (h : Shows s version) : versionSuffix? ('.' :: s) = some version := by
  obtain ⟨hdigit, rfl⟩ := shows_iff.1 h
  exact if_pos ⟨rfl, hdigit⟩

theorem versionSuffix?_cons_of_not_shows (h : c = '.' → ∀ version, ¬ Shows s version) :
    versionSuffix? (c :: s) = versionSuffix? s := by
  refine if_neg ?_
  rintro ⟨hdot, hdigit⟩
  obtain ⟨version, hshows⟩ := exists_shows_iff.2 hdigit
  exact h hdot version hshows

theorem versionSuffix?_eq_some_iff : versionSuffix? s = some version ↔ ShowsFirst s version := by
  induction s with
  | nil => exact iff_of_false nofun fun ⟨_, _, hs, _⟩ => List.append_ne_nil_of_right_ne_nil _ (by simp) hs.symm
  | cons c s ih =>
    rw [showsFirst_cons_iff]
    by_cases hhere : c = '.' ∧ ∃ other, Shows s other
    · obtain ⟨rfl, other, hother⟩ := hhere
      rw [versionSuffix?_cons_of_shows hother, Option.some.injEq]
      constructor
      · rintro rfl
        exact .inl ⟨rfl, hother⟩
      · rintro (⟨-, hversion⟩ | ⟨hnone, -⟩)
        · exact hother.unique hversion
        · exact absurd hother (hnone rfl other)
    · have hnone : c = '.' → ∀ other, ¬ Shows s other := fun hdot other h => hhere ⟨hdot, other, h⟩
      rw [versionSuffix?_cons_of_not_shows hnone, ih, and_iff_right hnone]
      exact (or_iff_right fun h => hnone h.1 version h.2).symm

theorem versionSuffix?_eq_none_iff : versionSuffix? s = none ↔ ShowsNone s := by
  induction s with
  | nil => exact iff_of_true rfl fun _ _ hs => absurd hs.symm (List.append_ne_nil_of_right_ne_nil _ (by simp))
  | cons c s ih =>
    rw [showsNone_cons_iff]
    by_cases hhere : c = '.' ∧ ∃ version, Shows s version
    · obtain ⟨rfl, version, hversion⟩ := hhere
      rw [versionSuffix?_cons_of_shows hversion]
      exact iff_of_false nofun fun h => h.1 rfl version hversion
    · have hnone : c = '.' → ∀ version, ¬ Shows s version := fun hdot version h => hhere ⟨hdot, version, h⟩
      rw [versionSuffix?_cons_of_not_shows hnone, ih, and_iff_right hnone]

theorem ShowsFirst.suffix (h : ShowsFirst s version) : version <:+ s := by
  obtain ⟨front, after, rfl, hshows, -⟩ := h
  exact hshows.suffix.trans ((List.suffix_cons '.' after).trans (List.suffix_append front _))

theorem ShowsFirst.ne_nil (h : ShowsFirst s version) : version ≠ [] := by
  obtain ⟨front, after, -, hshows, -⟩ := h
  obtain ⟨digit, rest, rfl, -⟩ := hshows.exists_digit
  exact List.cons_ne_nil digit rest

/-- A version behind a package is the first one shown if the dots of the package show none by themselves. -/
theorem ShowsNone.showsFirst_append (hfront : ShowsNone front) (h : Shows after version) :
    ShowsFirst (front ++ '.' :: after) version := by
  refine ⟨front, after, rfl, h, fun front' after' hsplit other hother => ?_⟩
  obtain ⟨other', hother'⟩ := hother.of_append_dot
  exact hfront front' after' hsplit other' hother'

section release

variable {sub : Subscription} {release : String} (hrelease : sub.installedRelease = some release)
include hrelease

theorem installedVersion_of_showsFirst {version : String} (h : ShowsFirst release.toList version.toList) :
    sub.installedVersion = version := by
  rw [installedVersion, hrelease]
  simp [versionSuffix?_eq_some_iff.2 h]

theorem installedVersion_of_showsNone (h : ShowsNone release.toList) : sub.installedVersion = release := by
  rw [installedVersion, hrelease]
  simp [versionSuffix?_eq_none_iff.2 h]

theorem installedVersion_eq_iff {version : String} : sub.installedVersion = version ↔
    ShowsFirst release.toList version.toList ∨ ShowsNone release.toList ∧ version = release := by
  constructor
  · rintro rfl
    cases hsuffix : versionSuffix? release.toList with
    | some version =>
      have hfirst : ShowsFirst release.toList (String.ofList version).toList := by
        rw [String.toList_ofList]
        exact versionSuffix?_eq_some_iff.1 hsuffix
      rw [installedVersion_of_showsFirst hrelease hfirst]
      exact .inl hfirst
    | none =>
      have hnone := versionSuffix?_eq_none_iff.1 hsuffix
      exact .inr ⟨hnone, installedVersion_of_showsNone hrelease hnone⟩
  · rintro (hfirst | ⟨hnone, rfl⟩)
    · exact installedVersion_of_showsFirst hrelease hfirst
    · exact installedVersion_of_showsNone hrelease hnone

theorem installedVersion_suffix : sub.installedVersion.toList <:+ release.toList := by
  rcases (installedVersion_eq_iff hrelease).1 rfl with hfirst | ⟨-, hversion⟩
  · exact hfirst.suffix
  · exact hversion ▸ List.suffix_rfl

private theorem installedVersion_eq_empty_iff : sub.installedVersion = "" ↔ release = "" := by
  constructor
  · intro hempty
    rcases (installedVersion_eq_iff hrelease).1 hempty with hfirst | ⟨-, hversion⟩
    · exact absurd rfl hfirst.ne_nil
    · exact hversion.symm
  · rintro rfl
    exact String.toList_eq_nil_iff.1 (List.suffix_nil.1 (installedVersion_suffix hrelease))

/-- The version is the text that the first of the dots shows which shows any, and the name of the release itself if
none does. So the name ends with it, and it is empty only with the name. What is written behind a package whose dots
show no version is read back as it was written, with or without the letter, if it begins with a digit. -/
theorem installedVersion_by_dots :
    (∀ version : String, sub.installedVersion = version ↔
      ShowsFirst release.toList version.toList ∨ ShowsNone release.toList ∧ version = release) ∧
    sub.installedVersion.toList <:+ release.toList ∧ (sub.installedVersion = "" ↔ release = "") ∧
    ∀ package version : String, ShowsNone package.toList →
      (∃ digit rest, version.toList = digit :: rest ∧ digit.isDigit = true) →
      release = package ++ ".v" ++ version ∨ release = package ++ "." ++ version →
        sub.installedVersion = version := by
  refine ⟨fun version => installedVersion_eq_iff hrelease, installedVersion_suffix hrelease,
    installedVersion_eq_empty_iff hrelease, fun package version hpackage hversion hname => ?_⟩
  obtain ⟨digit, rest, hcons, hdigit⟩ := hversion
  apply installedVersion_of_showsFirst hrelease
  rcases hname with rfl | rfl
  · have hshown : Shows ('v' :: version.toList) version.toList := hcons ▸ .lettered hdigit
    simpa using hpackage.showsFirst_append hshown
  · have hshown : Shows version.toList version.toList := hcons ▸ .bare hdigit
    simpa using hpackage.showsFirst_append hshown

end release

def ofLetteredPackage : Subscription :=
  { name := "mesh", namespaceName := "operators", installedRelease := some "vertical.mesh.v.v2.6.v3.0" }

theorem ofLetteredPackage_installedVersion :
    ofLetteredPackage.installedRelease = some "vertical.mesh.v.v2.6.v3.0" ∧
      ShowsNone "vertical.mesh.v".toList ∧ ofLetteredPackage.installedVersion = "2.6.v3.0" := by
  have hpackage : ShowsNone "vertical.mesh.v".toList := versionSuffix?_eq_none_iff.1 (by decide)
  exact ⟨rfl, hpackage, (installedVersion_by_dots rfl).2.2.2 "vertical.mesh.v" "2.6.v3.0" hpackage
    ⟨'2', ".6.v3.0".toList, rfl, rfl⟩ (.inl (by decide))⟩

end Subscription

end Preflight
