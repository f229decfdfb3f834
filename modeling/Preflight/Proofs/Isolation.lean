import Preflight.Proofs.Scope
import Preflight.Proofs.SequentialRuns
import Preflight.Proofs.StandardRuns

/-! # Isolation of checks
In a run that nothing cancels the outcome of a check is a matter of what the check looks at. Two clusters that agree
there give it one outcome up to its dates, whatever else they hold, however the other checks end on them, and
however many workers take the checks. -/
namespace Preflight

namespace Check

/-- Whatever the upgrade, the check asks for nothing outside the scope. -/
def ReadsWithin (c : Check) (s : Scope) : Prop := ∀ u, (c.evaluate u).ReadsWithin s

def SeesVersionsOnly (c : Check) : Prop :=
  ∀ u v : Upgrade, u.current = v.current → u.target = v.target →
    c.applies u = c.applies v ∧ c.evaluate u = c.evaluate v

theorem ReadsWithin.attempt {c : Check} {s : Scope} (h : c.ReadsWithin s) (u : Upgrade) :
    (c.attempt u).ReadsWithin s := by
  change (Program.ofExcept (c.applies u) >>= fun applies =>
    if applies = true then some <$> c.evaluate u else Program.done none).ReadsWithin s
  refine (Program.readsWithin_ofExcept _).bind fun applies => ?_
  split
  · exact (h u).bind fun _ => trivial
  · trivial

end Check

namespace Inspection

variable {i j : Inspection} {c : Check} {s : Scope}

/-- Two runs between the same versions and with the same settings. Their clusters, the number of their workers and
their dates are their own. -/
structure Alike (i j : Inspection) : Prop where
  current : i.upgrade.current = j.upgrade.current
  target : i.upgrade.target = j.upgrade.target
  targetVersion : i.settings.targetVersion = j.settings.targetVersion
  skip : i.settings.skip = j.settings.skip
  overrides : i.settings.overrides = j.settings.overrides

theorem Alike.isSkipped_eq (h : i.Alike j) (checkId : String) :
    i.settings.isSkipped checkId = j.settings.isSkipped checkId := by
  unfold Settings.isSkipped
  rw [h.skip]

private theorem Alike.attempt_eq (h : i.Alike j) (hc : c.SeesVersionsOnly) :
    c.attempt i.effectiveUpgrade = c.attempt j.effectiveUpgrade := by
  have htarget : i.effectiveUpgrade.target = j.effectiveUpgrade.target := by
    change i.settings.targetVersion.or i.upgrade.target = j.settings.targetVersion.or j.upgrade.target
    rw [h.targetVersion, h.target]
  obtain ⟨happlies, hevaluate⟩ := hc i.effectiveUpgrade j.effectiveUpgrade h.current htarget
  unfold Check.attempt
  rw [happlies, hevaluate]

/-- Of the settings an outcome depends on the overrides, and on nothing else but its date. -/
theorem Alike.outcomeOf_dated (h : i.Alike j) (checkId : String) (r : Except Fault (Option Finding))
    (t : Timestamp) :
    (i.outcomeOf checkId r).dated t = (j.outcomeOf checkId r).dated t := by
  rw [← Inspection.outcomeOf_dated i t, ← Inspection.outcomeOf_dated j t]
  unfold outcomeOf Settings.override?
  dsimp only
  rw [h.overrides]

private theorem Alike.outcomeAlone_dated (h : i.Alike j) (hc : c.NeverCancels) (hversions : c.SeesVersionsOnly)
    (hreads : c.ReadsWithin s) (hcluster : i.cluster.AgreesWithin j.cluster s) (t : Timestamp) :
    (i.outcomeAlone c).dated t = (j.outcomeAlone c).dated t := by
  cases hskipped : i.settings.isSkipped c.about.id with
  | true =>
    have hskipped' := (h.isSkipped_eq c.about.id).symm.trans hskipped
    rw [outcomeAlone_of_skipped hskipped, outcomeAlone_of_skipped hskipped']
  | false =>
    have hskipped' := (h.isSkipped_eq c.about.id).symm.trans hskipped
    have hanswer := Program.answer_congr (hreads.attempt i.effectiveUpgrade) hcluster
    rw [outcomeAlone_of_not_skipped (i.sparedBy_of_neverCancels hc) hskipped,
      outcomeAlone_of_not_skipped (j.sparedBy_of_neverCancels hc) hskipped', hanswer, h.attempt_eq hversions]
    exact h.outcomeOf_dated _ _ t

end Inspection

namespace Standard

/-- What each of the standard checks is entitled to look at. -/
def scopes : List (Check × Scope) :=
  [(servingModes.toCheck, { types := [.dataScienceCluster, .initialization] }),
    (codeFlare.toCheck, { types := [.dataScienceCluster] }),
    (modelMeshServices.toCheck, { types := [.inferenceService] }),
    (notebooks.toCheck, { types := [.notebook] }),
    (serviceMesh.toCheck, { operators := true }),
    (authorino.toCheck, { operators := true })]

private theorem checks_eq_map_scopes : scopes.map Prod.fst = catalog.checks := rfl

private theorem readsWithin_of_mem_scopes {c : Check} {s : Scope} (h : (c, s) ∈ scopes) : c.ReadsWithin s := by
  simp only [scopes, List.mem_cons, Prod.mk.injEq, List.not_mem_nil, or_false] at h
  rcases h with ⟨rfl, rfl⟩ | ⟨rfl, rfl⟩ | ⟨rfl, rfl⟩ | ⟨rfl, rfl⟩ | ⟨rfl, rfl⟩ | ⟨rfl, rfl⟩
  · refine servingModes.readsWithin_evaluate (fun _ => by decide) (fun view finding => ?_) (by decide)
    change (ServingModes.policy view finding).ReadsWithin _
    unfold ServingModes.policy
    split <;> trivial
  · exact codeFlare.readsWithin_evaluate (fun hneeds => nomatch hneeds) (fun _ _ => trivial) (by decide)
  · exact modelMeshServices.readsWithin_evaluate (by decide) fun _ _ => trivial
  · exact notebooks.readsWithin_evaluate (by decide) fun _ _ => trivial
  · exact serviceMesh.readsWithin_evaluate rfl
  · exact authorino.readsWithin_evaluate rfl

private theorem seesVersionsOnly_of_mem_checks {c : Check} (hc : c ∈ checks) : c.SeesVersionsOnly := by
  rintro ⟨current, target, debug⟩ ⟨_, _, debug'⟩ rfl rfl
  simp only [checks, List.mem_cons, List.not_mem_nil, or_false] at hc
  rcases hc with rfl | rfl | rfl | rfl | rfl | rfl <;> exact ⟨rfl, rfl⟩

end Standard

namespace Inspection

/-- A run of the standard catalog that nothing cancels has an outcome for each check, and another such run between
the same versions and with the same settings has the same one up to its dates, as long as the clusters agree on what
the check is entitled to look at. -/
theorem standard_isolation {i j : Inspection} (hi : i.catalog = Standard.catalog)
    (hj : j.catalog = Standard.catalog) (h : i.Alike j) :
    ∀ c s, (c, s) ∈ Standard.scopes → i.cluster.AgreesWithin j.cluster s → ∃ o o' : Outcome,
      (i.report none).outcome? c.about.id = some ⟨c.about.id, o⟩ ∧
      (j.report none).outcome? c.about.id = some ⟨c.about.id, o'⟩ ∧ ∀ t, o.dated t = o'.dated t := by
  intro c s hscope hcluster
  have hc : c ∈ Standard.catalog.checks := Standard.checks_eq_map_scopes ▸ List.mem_map_of_mem hscope
  have hreport (k : Inspection) (hk : k.catalog = Standard.catalog) :
      (k.report none).outcome? c.about.id = some ⟨c.about.id, k.outcomeAlone c⟩ :=
    outcome?_report_none (uncancelled_of_neverCancels (hk ▸ neverCancels_of_mem_standard)) (hk ▸ hc)
  have hdated := h.outcomeAlone_dated (neverCancels_of_mem_standard c hc)
    (Standard.seesVersionsOnly_of_mem_checks hc) (Standard.readsWithin_of_mem_scopes hscope) hcluster
  exact ⟨i.outcomeAlone c, j.outcomeAlone c, hreport i hi, hreport j hj, hdated⟩

def oneNotebook : Inspection where
  catalog := Standard.catalog
  settings := {}
  cluster :=
    { inventory := { objects := [(.notebook, .new .notebook (some "lab") "study")], installed := [.notebook] } }
  upgrade := { current := some (.ofMinor 2 17), target := some (.ofMinor 3 0) }

/-- The same notebook on a slow cluster of which nothing else can be read, with one worker. -/
def onlyNotebooksReadable : Inspection :=
  { oneNotebook with
    settings := { concurrency := 1 }
    cluster :=
      { inventory :=
          { oneNotebook.cluster.inventory with
            failures := [(.dataScienceCluster, .transport "down"), (.inferenceService, .forbidden "no")] }
        subscriptionFailure := some (.transport "down")
        latency := 30 }
    upgrade := { oneNotebook.upgrade with debug := true } }

/-- Five checks fail on the second cluster, and the inventory of the notebooks is the same as on the first. -/
theorem notebooks_isolated :
    (onlyNotebooksReadable.report none).summary.errored = 5 ∧ ∃ o o' : Outcome,
      (oneNotebook.report none).outcome? "workloads.notebook.inventory" =
        some ⟨"workloads.notebook.inventory", o⟩ ∧
      (onlyNotebooksReadable.report none).outcome? "workloads.notebook.inventory" =
        some ⟨"workloads.notebook.inventory", o'⟩ ∧ ∀ t, o.dated t = o'.dated t := by
  have hnotebooks : oneNotebook.cluster.AgreesOn onlyNotebooksReadable.cluster .notebook := ⟨rfl, rfl, rfl⟩
  have hcluster : oneNotebook.cluster.AgreesWithin onlyNotebooksReadable.cluster { types := [.notebook] } :=
    { types := fun type htype => List.mem_singleton.1 htype ▸ hnotebooks
      operators := fun h => nomatch h }
  have halike : oneNotebook.Alike onlyNotebooksReadable := ⟨rfl, rfl, rfl, rfl, rfl⟩
  have hscope : (Standard.notebooks.toCheck, { types := [.notebook] }) ∈ Standard.scopes :=
    .tail _ (.tail _ (.tail _ (.head _)))
  exact ⟨rfl, standard_isolation rfl rfl halike _ _ hscope hcluster⟩

end Inspection

end Preflight
