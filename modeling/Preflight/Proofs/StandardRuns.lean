import Preflight.Proofs.Answers
import Preflight.Proofs.Evaluations
import Preflight.Standard.Catalog

/-! # Runs of the standard catalog
With the settings left as they are, a run leaves no check out and changes no impact, so an outcome is that of the
gate, or else the dated answer of the evaluation. -/
namespace Preflight

theorem Upgrade.is2To3_iff {u : Upgrade} :
    u.is2To3 = true ↔ ∃ a b, u.current = some a ∧ u.target = some b ∧ a.major = 2 ∧ b.major = 3 := by
  unfold is2To3 Version.upgrade2To3 Version.upgradeBetween
  cases u.current with
  | none => simp
  | some a =>
    cases u.target with
    | none => simp
    | some b => simp

namespace Inspection

/-- The run of the standard catalog on a cluster with the settings left as they are. -/
def standard (cluster : Cluster) (u : Upgrade) (t : Timestamp) : Inspection :=
  { catalog := Standard.catalog, settings := {}, cluster, upgrade := u, timestamp := t }

private theorem byProtocol_of_mem_standard {c : Check} (hc : c ∈ Standard.checks) : c.ByProtocol := by
  simp only [Standard.checks, List.mem_cons, List.not_mem_nil, or_false] at hc
  rcases hc with rfl | rfl | rfl | rfl | rfl | rfl
  · refine .component _ fun view finding => ?_
    change (ServingModes.policy view finding).NeverCancels
    unfold ServingModes.policy
    split <;> trivial
  · exact .component _ fun _ _ => trivial
  · exact .workload _ fun _ _ => trivial
  · exact .workload _ fun _ _ => trivial
  · exact .operator _
  · exact .operator _

/-- The gates of the standard checks do not fail. -/
theorem exists_applies_of_mem_standard {c : Check} (hc : c ∈ Standard.checks) (u : Upgrade) :
    ∃ applies, c.applies u = .ok applies := by
  simp only [Standard.checks, List.mem_cons, List.not_mem_nil, or_false] at hc
  rcases hc with rfl | rfl | rfl | rfl | rfl | rfl <;> exact ⟨_, rfl⟩

theorem neverCancels_of_mem_standard : ∀ c ∈ Standard.catalog.checks, c.NeverCancels :=
  fun _ hc => (byProtocol_of_mem_standard hc).neverCancels

variable {cluster : Cluster} {u : Upgrade} {t : Timestamp} {c : Check}

theorem standard_outcomeAlone_of_refused (happlies : c.applies u = .ok false) :
    (standard cluster u t).outcomeAlone c = .skipped notApplicable :=
  outcomeAlone_of_refused rfl happlies

private theorem standard_outcomeAlone_of_applies (hc : c ∈ Standard.checks) (happlies : c.applies u = .ok true) :
    (standard cluster u t).outcomeAlone c =
      (standard cluster u t).outcomeOf c.about.id (some <$> (c.evaluate u).answer cluster) :=
  outcomeAlone_of_applies (sparedBy_of_neverCancels (standard cluster u t) (neverCancels_of_mem_standard c hc)) rfl
    happlies

theorem standard_outcomeAlone_of_ok (hc : c ∈ Standard.checks) (happlies : c.applies u = .ok true) {f : Finding}
    (hanswer : (c.evaluate u).answer cluster = .ok f) :
    (standard cluster u t).outcomeAlone c = .completed (f.dated t) := by
  rw [standard_outcomeAlone_of_applies hc happlies, hanswer]
  rfl

theorem standard_outcomeAlone_of_error (hc : c ∈ Standard.checks) (happlies : c.applies u = .ok true) {e : Fault}
    (hanswer : (c.evaluate u).answer cluster = .error e) :
    (standard cluster u t).outcomeAlone c = .errored e.message := by
  rw [standard_outcomeAlone_of_applies hc happlies, hanswer]
  rfl

theorem standard_outcome? (hc : c ∈ Standard.checks) :
    ((standard cluster u t).report none).outcome? c.about.id =
      some ⟨c.about.id, (standard cluster u t).outcomeAlone c⟩ :=
  outcome?_report_none (uncancelled_of_neverCancels neverCancels_of_mem_standard) hc

end Inspection

end Preflight
