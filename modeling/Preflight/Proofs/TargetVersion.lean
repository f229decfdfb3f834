import Preflight.Proofs.ProtocolChecks
import Preflight.Proofs.SequentialRuns
import Preflight.Proofs.StandardRuns

/-! # The version that a run aims at
The target version in the settings goes before that of the upgrade. The one of the two that counts decides every
gate, goes into every evaluation, onto the findings of the protocols and into the header of the report, so that the
other one shows nowhere. -/
namespace Preflight

namespace Check

variable {c : Check} {u : Upgrade} {cluster : Cluster}

theorem answer_attempt (c : Check) (u : Upgrade) (cluster : Cluster) :
    (c.attempt u).answer cluster = (do
      if ← c.applies u then some <$> (c.evaluate u).answer cluster else return none) := by
  change (Program.ofExcept (c.applies u) >>= fun applies =>
    if applies = true then some <$> c.evaluate u else Program.done none).answer cluster = _
  rw [Program.answer_bind, Program.answer_ofExcept]
  congr 1
  funext applies
  cases applies with
  | false => rfl
  | true => exact Program.answer_map _ _ _

/-- An attempt gives a finding only if the check applies, and it is that of the evaluation. -/
theorem answer_of_attempt {f : Finding} (h : (c.attempt u).answer cluster = .ok (some f)) :
    (c.evaluate u).answer cluster = .ok f := by
  rw [answer_attempt] at h
  obtain ⟨applies, -, h⟩ := exists_of_bind_eq_ok h
  cases applies with
  | false => cases h
  | true =>
    obtain ⟨g, hanswer, h⟩ := exists_of_bind_eq_ok ((bind_pure_comp some _).trans h)
    cases h
    exact hanswer

end Check

namespace ProtocolCheck

variable {p : ProtocolCheck}

/-- The policy leaves the target version on its finding as it is. -/
def KeepsTarget (p : ProtocolCheck) : Prop :=
  p.PolicyIs fun finding program => program.Ensures fun f =>
    f.annotationOf Annotation.targetVersion = finding.annotationOf Annotation.targetVersion

private theorem targetVersion_of_answer (h : p.KeepsTarget) {cluster : Cluster} {u : Upgrade} {f : Finding}
    (hf : (p.toCheck.evaluate u).answer cluster = .ok f) :
    f.annotationOf Annotation.targetVersion = some u.targetLabel := by
  refine holds_of_answer (P := fun f => f.annotationOf Annotation.targetVersion = some u.targetLabel)
    ?policy ?state ?annotate ?affect ?start hf
  case policy => exact PolicyIs.mono h fun finding program hkeeps hstart => hkeeps.mono fun f hf => hf.trans hstart
  case state => exact fun f c hf => hf
  case annotate =>
    intro f key value hkey hf
    rw [Finding.annotationOf_annotate, if_neg hkey.symm]
    exact hf
  case affect => exact fun f type objects hf => hf
  case start => exact (Finding.annotationOf_annotate _ _ _ _).trans (if_pos rfl)

end ProtocolCheck

namespace Inspection

variable {i : Inspection} {v : Version} {target : Option Version}

/-- A completed outcome has a finding, which the dates and the overrides have no part in but for its conditions. -/
theorem exists_of_outcomeOf {checkId : String} {r : Except Fault (Option Finding)} {f : Finding}
    (h : i.outcomeOf checkId r = .completed f) : ∃ g, r = .ok (some g) ∧ f.annotations = g.annotations := by
  match r, h with
  | .ok (some g), h =>
    refine ⟨g, rfl, ?_⟩
    rw [← Outcome.completed.inj h]
    cases i.settings.override? checkId <;> rfl

def retargeted (i : Inspection) (target : Option Version) (t : Timestamp) : Inspection :=
  { i with upgrade := { i.upgrade with target }, timestamp := t }

/-- The report names the version, all gates are decided and all evaluations made for it, and completed findings of
the protocols bear it. -/
structure AimsAt (i : Inspection) (target : Option Version) : Prop where
  header : (i.report none).targetVersion = target.map Version.text
  decided : ∀ (k : Nat) (c : Check), i.catalog.checks[k]? = some c → i.settings.isSkipped c.about.id = false →
    (i.report none).outcomes[k]? = some ⟨c.about.id, i.outcomeOf c.about.id (do
      if ← c.applies { i.upgrade with target } then
        some <$> (c.evaluate { i.upgrade with target }).answer i.cluster
      else return none)⟩
  borne : ∀ p : ProtocolCheck, p.toCheck ∈ i.catalog.checks → p.KeepsTarget →
    ∀ f, (⟨p.about.id, .completed f⟩ : CheckOutcome) ∈ (i.report none).outcomes →
      f.annotationOf Annotation.targetVersion = some ((target.map Version.text).getD "unknown")

private theorem aimsAt_effective (h : i.Uncancelled) : i.AimsAt i.effectiveUpgrade.target where
  header := rfl
  decided k c hc hs := by
    have hanswer := outcomeAlone_of_not_skipped (h c (List.mem_of_getElem? hc)) hs
    rw [Check.answer_attempt] at hanswer
    rw [outcomes_of_uncancelled h, List.getElem?_map, hc, Option.map_some, hanswer]
    rfl
  borne p hp hkeeps f hf := by
    have halone : .completed f = i.outcomeAlone p.toCheck :=
      congrArg CheckOutcome.outcome (eq_of_mem_report_none h hp hf rfl)
    cases hs : i.settings.isSkipped p.toCheck.about.id with
    | true => cases halone.trans (outcomeAlone_of_skipped hs)
    | false =>
      rw [outcomeAlone_of_not_skipped (h _ hp) hs] at halone
      obtain ⟨g, hattempt, hannotations⟩ := exists_of_outcomeOf halone.symm
      have hborne := p.targetVersion_of_answer hkeeps (Check.answer_of_attempt hattempt)
      exact (congrArg (Dictionary.find? · Annotation.targetVersion) hannotations).trans hborne

theorem effectiveUpgrade_retargeted (hv : i.settings.targetVersion = some v) (target : Option Version)
    (t : Timestamp) :
    (i.retargeted target t).effectiveUpgrade = i.effectiveUpgrade := by
  simp only [effectiveUpgrade, retargeted, hv, Option.some_or]

private theorem report_retargeted (h : i.Uncancelled) (hv : i.settings.targetVersion = some v)
    (target : Option Version) (t : Timestamp) :
    (i.retargeted target t).Uncancelled ∧ (i.retargeted target t).report none = (i.report none).dated t := by
  have hupgrade := effectiveUpgrade_retargeted hv target t
  have huncancelled : (i.retargeted target t).Uncancelled := by
    intro c hc hs
    rw [hupgrade]
    exact h c hc hs
  refine ⟨huncancelled, ?_⟩
  rw [← report_reconfigured h i.settings.concurrency t]
  have hevaluate : (i.retargeted target t).evaluate none =
      (i.reconfigured i.settings.concurrency t).evaluate none := by
    funext position start c
    unfold evaluate
    rw [hupgrade]
    rfl
  have houtcomes : ((i.retargeted target t).report none).outcomes =
      ((i.reconfigured i.settings.concurrency t).report none).outcomes := by
    rw [outcomes_of_uncancelled huncancelled, outcomes_of_uncancelled (i := i.reconfigured _ t) h]
    unfold outcomeAlone
    rw [hevaluate]
    rfl
  rw [report_eq, report_eq (i.reconfigured _ t), houtcomes, hupgrade]
  rfl

/-- The target version of the settings wins. A run that nothing cancels aims at it, and with another target of the
upgrade, at another date, the report is the same up to its dates. Without one in the settings the run aims at the
target of the upgrade. -/
theorem report_aims_at_target (i : Inspection) (h : i.Uncancelled) :
    (∀ v, i.settings.targetVersion = some v → i.AimsAt (some v) ∧ ∀ target t,
      (i.retargeted target t).Uncancelled ∧ (i.retargeted target t).report none = (i.report none).dated t) ∧
    (i.settings.targetVersion = none → i.AimsAt i.upgrade.target) := by
  have haims := aimsAt_effective h
  constructor
  · intro v hv
    have htarget : i.effectiveUpgrade.target = some v := by simp only [effectiveUpgrade, hv, Option.some_or]
    exact ⟨htarget ▸ haims, report_retargeted h hv⟩
  · intro hnone
    have htarget : i.effectiveUpgrade.target = i.upgrade.target := by
      simp only [effectiveUpgrade, hnone, Option.none_or]
    exact htarget ▸ haims

def aimedFurther : Inspection where
  catalog := Standard.catalog
  settings := { targetVersion := some (.ofMinor 3 1) }
  cluster := {}
  upgrade := { current := some (.ofMinor 2 17), target := some (.ofMinor 2 18) }

/-- All checks apply, as they would not within version 2, and none of it depends on the target of the upgrade. -/
theorem aimedFurther_aims :
    aimedFurther.Uncancelled ∧ aimedFurther.settings.targetVersion = some (.ofMinor 3 1) ∧
      (aimedFurther.report none).targetVersion = some "3.1.0" ∧ (aimedFurther.report none).summary.skipped = 0 ∧
      (aimedFurther.retargeted none .epoch).report none = (aimedFurther.report none).dated .epoch ∧
      (ProtocolCheck.workload Standard.notebooks).KeepsTarget ∧
      ∃ f : Finding,
        (⟨"workloads.notebook.inventory", .completed f⟩ : CheckOutcome) ∈ (aimedFurther.report none).outcomes ∧
        f.annotationOf Annotation.targetVersion = some "3.1.0" := by
  have huncancelled : aimedFurther.Uncancelled := uncancelled_of_neverCancels neverCancels_of_mem_standard
  obtain ⟨haims, hretargeted⟩ := (report_aims_at_target aimedFurther huncancelled).1 (.ofMinor 3 1) rfl
  have hkeeps : (ProtocolCheck.workload Standard.notebooks).KeepsTarget :=
    fun view finding => Finding.annotationOf_state finding _ _
  have hnotebooks : Standard.notebooks.toCheck ∈ aimedFurther.catalog.checks := by
    simp [aimedFurther, Standard.catalog, Standard.checks]
  have hcompleted := List.mem_of_getElem? (haims.decided 3 Standard.notebooks.toCheck rfl rfl)
  refine ⟨huncancelled, rfl, haims.header, rfl, (hretargeted none .epoch).2, hkeeps, _, hcompleted, ?_⟩
  exact haims.borne (.workload Standard.notebooks) hnotebooks hkeeps _ hcompleted

def relabelling : WorkloadCheck PartialObject :=
  { Standard.notebooks with
    policy := fun _ finding => .done (finding.annotate Annotation.targetVersion "elsewhere") }

def relabelled : Inspection :=
  { aimedFurther with catalog := { checks := [relabelling.toCheck], distinct := List.nodup_singleton _ } }

/-- A policy may write over the target version on its finding. -/
theorem relabelled_overwritten :
    relabelled.Uncancelled ∧ relabelled.settings.targetVersion = some (.ofMinor 3 1) ∧
      (ProtocolCheck.workload relabelling).toCheck ∈ relabelled.catalog.checks ∧
      ∃ f : Finding,
        (⟨"workloads.notebook.inventory", .completed f⟩ : CheckOutcome) ∈ (relabelled.report none).outcomes ∧
        f.annotationOf Annotation.targetVersion ≠ some (Version.ofMinor 3 1).text := by
  have hprotocol : relabelling.toCheck.ByProtocol := .workload _ fun _ _ => trivial
  refine ⟨uncancelled_of_neverCancels ?_, rfl, List.mem_singleton_self _, _, List.mem_singleton_self _, ?_⟩
  · exact List.forall_mem_singleton.2 hprotocol.neverCancels
  · decide

end Inspection

end Preflight
