import Preflight.Version.Basic

/-! # Versions that reach a threshold
A threshold is a release `major.minor.0`. What a version has behind its first two numbers counts only where these
are the ones of the threshold, and there nothing but a pre-release of that very release falls short. -/
namespace Preflight.Version

variable {v w : Version} {major minor : UInt64}

/-- The first two numbers of the version come behind those of the threshold, the first one before the second. -/
def StandsAbove (v : Version) (major minor : UInt64) : Prop :=
  major < v.major ∨ v.major = major ∧ minor < v.minor

def StandsAt (v : Version) (major minor : UInt64) : Prop := v.major = major ∧ v.minor = minor

private theorem isLE_order_iff : (order v w).isLE = true ↔ v.major < w.major ∨ v.major = w.major ∧
    (v.minor < w.minor ∨ v.minor = w.minor ∧ (v.patch < w.patch ∨ v.patch = w.patch ∧
      ((comparePre v.pre w.pre).then (compareBuild v.build w.build)).isLE = true)) := by
  simp only [order, Ordering.isLE_then_iff_or, Std.compare_eq_lt, Std.compare_eq_iff_eq]

private theorem order_eq_lt_iff : order v w = .lt ↔ v.major < w.major ∨ v.major = w.major ∧
    (v.minor < w.minor ∨ v.minor = w.minor ∧ (v.patch < w.patch ∨ v.patch = w.patch ∧
      (comparePre v.pre w.pre).then (compareBuild v.build w.build) = .lt)) := by
  simp only [order, Ordering.then_eq_lt, Std.compare_eq_lt, Std.compare_eq_iff_eq]

/-- Against a bare release the pre-release decides, and build metadata never puts a version below. -/
theorem comparePre_then_compareBuild_nil_eq_lt_iff (pre build : List String) :
    (comparePre pre []).then (compareBuild build []) = .lt ↔ pre ≠ [] := by
  cases pre with
  | nil => cases build <;> simp [comparePre, compareBuild, compareLists]
  | cons identifier rest => simp [comparePre]

/-- Nothing with a pre-release comes behind what has none. -/
theorem eq_nil_of_isLE_comparePre {pre : List String} {build build' : List String}
    (h : ((comparePre [] pre).then (compareBuild build build')).isLE = true) : pre = [] := by
  cases pre with
  | nil => rfl
  | cons identifier rest => cases h

theorem atLeast_some_iff : atLeast (some v) major minor = true ↔
    v.StandsAbove major minor ∨ v.StandsAt major minor ∧ (0 < v.patch ∨ v.pre = []) := by
  have hbelow : order v (ofMinor major minor) = .lt ↔ v.major < major ∨ v.major = major ∧
      (v.minor < minor ∨ v.minor = minor ∧ (v.patch < 0 ∨ v.patch = 0 ∧ v.pre ≠ [])) :=
    order_eq_lt_iff.trans (by rw [← comparePre_then_compareBuild_nil_eq_lt_iff v.pre v.build]; rfl)
  rw [atLeast, bne_iff_ne, ne_eq, hbelow]
  unfold StandsAbove StandsAt
  grind

/-- What lies behind a version reaches what the version reaches: it has no pre-release where the version has
none. -/
theorem atLeast_of_isLE (hle : (order v w).isLE = true) (h : atLeast (some v) major minor = true) :
    atLeast (some w) major minor = true := by
  rw [atLeast_some_iff] at h ⊢
  unfold StandsAbove StandsAt at h ⊢
  rcases isLE_order_iff.1 hle with hmajor | ⟨hmajor, hminor | ⟨hminor, hpatch | ⟨hpatch, hrest⟩⟩⟩
  · have hle : major ≤ v.major := by grind
    exact .inl (.inl (UInt64.lt_of_le_of_lt hle hmajor))
  · rw [← hmajor]
    rcases h with (h | ⟨heq, h⟩) | ⟨⟨heq, rfl⟩, -⟩
    · exact .inl (.inl h)
    · exact .inl (.inr ⟨heq, UInt64.lt_trans h hminor⟩)
    · exact .inl (.inr ⟨heq, hminor⟩)
  · rw [← hmajor, ← hminor]
    exact h.imp_right fun ⟨hat, _⟩ => ⟨hat, .inl (UInt64.lt_of_le_of_lt UInt64.zero_le hpatch)⟩
  · rw [← hmajor, ← hminor, ← hpatch]
    refine h.imp_right fun ⟨hat, hreleased⟩ => ⟨hat, hreleased.imp_right fun hpre => ?_⟩
    rw [hpre] at hrest
    exact eq_nil_of_isLE_comparePre hrest

private theorem atLeast_of_lower {major' minor' : UInt64}
    (hlower : major' < major ∨ major' = major ∧ minor' ≤ minor)
    (h : atLeast (some v) major minor = true) : atLeast (some v) major' minor' = true := by
  rw [atLeast_some_iff] at h ⊢
  unfold StandsAbove StandsAt at h ⊢
  rcases hlower with hmajor | ⟨rfl, hminor⟩
  · have hle : major ≤ v.major := by grind
    exact .inl (.inl (UInt64.lt_of_lt_of_le hmajor hle))
  · rcases h with (h | ⟨heq, h⟩) | ⟨⟨heq, rfl⟩, hreleased⟩
    · exact .inl (.inl h)
    · exact .inl (.inr ⟨heq, UInt64.lt_of_le_of_lt hminor h⟩)
    · rcases UInt64.le_iff_lt_or_eq.1 hminor with hlt | rfl
      · exact .inl (.inr ⟨heq, hlt⟩)
      · exact .inr ⟨⟨heq, rfl⟩, hreleased⟩

private theorem upgradeBetween_eq_true_iff {source destination : Option Version}
    {sourceMajor destinationMajor : UInt64} :
    upgradeBetween source destination sourceMajor destinationMajor = true ↔ ∃ v w,
      source = some v ∧ destination = some w ∧ v.major = sourceMajor ∧ w.major = destinationMajor := by
  unfold upgradeBetween
  cases source with
  | none => simp
  | some v =>
    cases destination with
    | none => simp
    | some w => simp

/-- A version reaches a threshold if its first two numbers come behind those of the threshold, or are the same ones
and it is not a pre-release of the threshold itself; its build metadata has no part in that. So what lies behind it
in the order of versions reaches the threshold too, and it reaches every lower threshold. An unknown version reaches
none. In an upgrade from version 2 to version 3 the source does not reach 3.0 and the destination reaches every 2.x,
be it a pre-release of 3.0.0. -/
theorem atLeast_by_numbers (v : Version) (major minor : UInt64) :
    (atLeast (some v) major minor = true ↔
      v.StandsAbove major minor ∨ v.StandsAt major minor ∧ (0 < v.patch ∨ v.pre = [])) ∧
    (∀ w, (order v w).isLE = true → atLeast (some v) major minor = true → atLeast (some w) major minor = true) ∧
    (∀ major' minor', major' < major ∨ major' = major ∧ minor' ≤ minor →
      atLeast (some v) major minor = true → atLeast (some v) major' minor' = true) ∧
    atLeast none major minor = false ∧
    ∀ source destination, upgrade2To3 source destination = true →
      atLeast source 3 0 = false ∧ ∀ minor', atLeast destination 2 minor' = true := by
  refine ⟨atLeast_some_iff, fun w => atLeast_of_isLE, fun major' minor' => atLeast_of_lower, rfl, ?_⟩
  intro source destination hupgrade
  obtain ⟨a, b, rfl, rfl, ha, hb⟩ := upgradeBetween_eq_true_iff.1 hupgrade
  constructor
  · have hbelow : ¬ (a.StandsAbove 3 0 ∨ a.StandsAt 3 0 ∧ (0 < a.patch ∨ a.pre = [])) := by
      unfold StandsAbove StandsAt
      rw [ha]
      rintro ((h | ⟨h, -⟩) | ⟨⟨h, -⟩, -⟩) <;> exact absurd h (by decide)
    exact Bool.eq_false_iff.2 (mt atLeast_some_iff.1 hbelow)
  · intro minor'
    exact atLeast_some_iff.2 (.inl (.inl (hb ▸ by decide)))

def earlyAccess : Version := { major := 3, minor := 0, patch := 0, pre := ["ea", "2"], build := ["01"] }

/-- The release of which it is a pre-release lies behind it. -/
theorem earlyAccess_thresholds :
    atLeast (some earlyAccess) 3 0 = false ∧ (order earlyAccess (ofMinor 3 0)).isLE = true ∧
      atLeast (some earlyAccess) 2 16 = true ∧ atLeast (some (ofMinor 3 0)) 2 16 = true ∧
      atLeast (some earlyAccess) 2 9 = true ∧ upgrade2To3 (some (ofMinor 2 17)) (some earlyAccess) = true ∧
      atLeast (some (ofMinor 2 17)) 3 0 = false ∧ ∀ minor, atLeast (some earlyAccess) 2 minor = true := by
  have hbefore : (order earlyAccess (ofMinor 3 0)).isLE = true := by decide
  have hreached : atLeast (some earlyAccess) 2 16 = true := by decide
  have hupgrade : upgrade2To3 (some (ofMinor 2 17)) (some earlyAccess) = true := rfl
  obtain ⟨-, hmono, hlower, -, hgate⟩ := atLeast_by_numbers earlyAccess 2 16
  obtain ⟨hsource, hdestination⟩ := hgate _ _ hupgrade
  exact ⟨by decide, hbefore, hreached, hmono _ hbefore hreached,
    hlower 2 9 (.inr ⟨rfl, by decide⟩) hreached, hupgrade,
    hsource, hdestination⟩

end Preflight.Version
