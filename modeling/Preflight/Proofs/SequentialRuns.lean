import Preflight.Proofs.Evaluations
import Preflight.Standard.Catalog

/-! # Runs that nothing cancels
However many checks are in flight at once and in whatever order they finish, a run that nothing cancels is the list
of its checks, each evaluated alone. The number of workers shows in nothing but the dates. -/
namespace Preflight.Inspection

variable {i : Inspection} {c : Check}

theorem outcomeOf_dated (i : Inspection) (t : Timestamp) (checkId : String) (r : Except Fault (Option Finding)) :
    { i with timestamp := t }.outcomeOf checkId r = (i.outcomeOf checkId r).dated t := by
  match r with
  | .ok (some finding) =>
    simp only [outcomeOf, Outcome.dated]
    cases i.settings.override? checkId with
    | none => simp only [Finding.dated_dated]
    | some impact => simp only [Finding.withImpact_dated, Finding.dated_dated]
  | .ok none => rfl
  | .error e => rfl

def alone (i : Inspection) (c : Check) : Inspection := { i with catalog := ⟨[c], List.nodup_singleton _⟩ }

def reconfigured (i : Inspection) (concurrency : UInt64) (t : Timestamp) : Inspection :=
  { i with settings := { i.settings with concurrency }, timestamp := t }

private theorem outcomeAlone_reconfigured (i : Inspection) (concurrency : UInt64) (t : Timestamp) (c : Check) :
    (i.reconfigured concurrency t).outcomeAlone c = (i.outcomeAlone c).dated t := by
  cases hs : i.settings.isSkipped c.about.id with
  | true =>
    have hs' : (i.reconfigured concurrency t).settings.isSkipped c.about.id = true := hs
    rw [outcomeAlone_of_skipped hs, outcomeAlone_of_skipped hs']
    rfl
  | false =>
    have hs' : (i.reconfigured concurrency t).settings.isSkipped c.about.id = false := hs
    unfold outcomeAlone
    rw [evaluate_of_not_skipped hs, evaluate_of_not_skipped hs']
    exact outcomeOf_dated i t c.about.id _

theorem report_none (h : i.Uncancelled) :
    i.report none =
      (Report.ofOutcomes i.timestamp.offsetText
        (i.catalog.checks.map fun c => ⟨c.about.id, i.outcomeAlone c⟩)).withVersions
        i.effectiveUpgrade.current i.effectiveUpgrade.target := by
  rw [report_eq, outcomes_of_uncancelled h]

theorem report_reconfigured (h : i.Uncancelled) (concurrency : UInt64) (t : Timestamp) :
    (i.reconfigured concurrency t).report none = (i.report none).dated t := by
  have h' : (i.reconfigured concurrency t).Uncancelled := h
  have houtcomes : ((i.reconfigured concurrency t).catalog.checks.map fun c =>
      (⟨c.about.id, (i.reconfigured concurrency t).outcomeAlone c⟩ : CheckOutcome)) =
      (i.catalog.checks.map fun c => (⟨c.about.id, i.outcomeAlone c⟩ : CheckOutcome)).map fun o =>
        ⟨o.checkId, o.outcome.dated t⟩ := by
    rw [List.map_map]
    exact List.map_congr_left fun c _ => congrArg (CheckOutcome.mk c.about.id) (outcomeAlone_reconfigured i _ t c)
  rw [report_none h, report_none h', houtcomes]
  exact congrArg (Report.withVersions · _ _) (Report.ofOutcomes_dated i.timestamp.offsetText _ t)

/-- A run that nothing cancels has one outcome for each check, in the order of the catalog, and that outcome is the
one which the check has in a run of its own. With any other number of workers the report is the same up to its
dates. -/
theorem report_refines_checks_alone (i : Inspection) (hchecks : ∀ c ∈ i.catalog.checks, c.ByProtocol) :
    (i.report none).outcomes.map CheckOutcome.checkId = i.catalog.ids ∧
      (∀ (k : Nat) (c : Check), i.catalog.checks[k]? = some c →
        (i.report none).outcomes[k]? = some ⟨c.about.id, i.outcomeAlone c⟩ ∧
          ((i.alone c).report none).outcomes = [⟨c.about.id, i.outcomeAlone c⟩]) ∧
      ∀ concurrency t, (i.reconfigured concurrency t).report none = (i.report none).dated t := by
  have hnever : ∀ c ∈ i.catalog.checks, c.NeverCancels := fun c hc => (hchecks c hc).neverCancels
  have houtcomes := report_none_outcomes hnever
  refine ⟨?_, ?_, report_reconfigured (uncancelled_of_neverCancels hnever)⟩
  · rw [houtcomes, List.map_map]
    rfl
  · intro k c hc
    have halone : ∀ c' ∈ (i.alone c).catalog.checks, c'.NeverCancels := by
      intro c' hc'
      rw [List.mem_singleton.1 hc']
      exact hnever c (List.mem_of_getElem? hc)
    constructor
    · rw [houtcomes, List.getElem?_map, hc]
      rfl
    · rw [report_none_outcomes halone]
      rfl

/-- One worker takes two checks that read for ten milliseconds each, one that is left out, and one that reads
again. -/
def oneWorker : Inspection where
  catalog :=
    { checks := [Standard.codeFlare.toCheck, Standard.notebooks.toCheck, Standard.serviceMesh.toCheck,
        Standard.authorino.toCheck]
      distinct := by decide }
  settings := { concurrency := 1, skip := ["dependencies.s*"] }
  cluster := { latency := 10 }
  upgrade := { current := some (.ofMinor 2 17), target := some (.ofMinor 3 0) }

theorem byProtocol_of_mem_oneWorker : ∀ c ∈ oneWorker.catalog.checks, c.ByProtocol := by
  intro c hc
  simp only [oneWorker, List.mem_cons, List.not_mem_nil, or_false] at hc
  rcases hc with rfl | rfl | rfl | rfl
  · exact .component _ fun _ _ => trivial
  · exact .workload _ fun _ _ => trivial
  · exact .operator _
  · exact .operator _

/-- Four checks in their order, one of them left out, as if each had a run of its own. -/
theorem oneWorker_report_refines :
    (∀ c ∈ oneWorker.catalog.checks, c.ByProtocol) ∧
      (oneWorker.report none).outcomes.map CheckOutcome.checkId =
        ["components.codeflare.removal", "workloads.notebook.inventory", "dependencies.servicemesh.v2",
          "dependencies.authorino.presence"] ∧
      ((oneWorker.report none).outcomes[2]? =
          some ⟨"dependencies.servicemesh.v2", oneWorker.outcomeAlone Standard.serviceMesh.toCheck⟩ ∧
        ((oneWorker.alone Standard.serviceMesh.toCheck).report none).outcomes =
          [⟨"dependencies.servicemesh.v2", oneWorker.outcomeAlone Standard.serviceMesh.toCheck⟩]) ∧
      (oneWorker.reconfigured 0 .epoch).report none = (oneWorker.report none).dated .epoch := by
  obtain ⟨hids, halone, hworkers⟩ := report_refines_checks_alone oneWorker byProtocol_of_mem_oneWorker
  refine ⟨byProtocol_of_mem_oneWorker, hids, ?_, hworkers 0 .epoch⟩
  exact halone 2 Standard.serviceMesh.toCheck rfl

end Preflight.Inspection
