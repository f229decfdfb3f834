import Preflight.Check.Catalog
import Preflight.Report
import Preflight.Run.Cancellation
import Preflight.Run.Pool
import Preflight.Settings.Basic

/-! # Inspections
An inspection evaluates the checks of a catalog for one upgrade of one cluster, as many at once as the settings
allow, and reports their outcomes in the order of the catalog. -/
namespace Preflight

/-- Looks whether the run is cancelled and whether the check applies before it evaluates the check. -/
def Check.attempt (c : Check) (u : Upgrade) : Program (Option Finding) :=
  .wait 0 do
    if ← Program.ofExcept (c.applies u) then some <$> c.evaluate u else return none

def Finding.withImpact (f : Finding) (impact : Impact) : Finding :=
  { f with conditions := f.conditions.map ({ · with impact }) }

def Finding.dated (f : Finding) (t : Timestamp) : Finding :=
  { f with conditions := f.conditions.map ({ · with lastTransition := t }) }

structure Inspection where
  catalog : Catalog
  settings : Settings
  cluster : Cluster
  upgrade : Upgrade
  /-- The date that conditions and report bear. -/
  timestamp : Timestamp := .epoch

/-- One check in a run: from when to when it was evaluated, and how that ended. -/
structure Evaluation where
  checkId : String
  start : Nat
  finish : Nat
  reads : Nat
  outcome : Outcome
  cancelledAt : Option Nat

namespace Inspection

def skippedBySettings : String := "skipped by configuration"

def notApplicable : String := "not applicable"

/-- The target version of the settings goes before the one of the upgrade. -/
def effectiveUpgrade (i : Inspection) : Upgrade :=
  { i.upgrade with target := i.settings.targetVersion.or i.upgrade.target }

def outcomeOf (i : Inspection) (checkId : String) : Except Fault (Option Finding) → Outcome
  | .ok (some finding) =>
    let finding := finding.dated i.timestamp
    .completed (match i.settings.override? checkId with
      | some impact => finding.withImpact impact
      | none => finding)
  | .ok none => .skipped notApplicable
  | .error e => .errored e.message

/-- Evaluates the check at a position from an instant on. A check that the settings leave out takes no time and
makes no reads, even after the run is cancelled. -/
def evaluate (i : Inspection) (stop : Option Stop) (position start : Nat) (check : Check) : Evaluation :=
  let checkId := check.about.id
  if i.settings.isSkipped checkId then
    { checkId, start, finish := start, reads := 0, outcome := .skipped skippedBySettings, cancelledAt := none }
  else
    let ending := (check.attempt i.effectiveUpgrade).run i.cluster position stop start
    { checkId, start, finish := ending.finish, reads := ending.reads,
      outcome := i.outcomeOf checkId ending.result, cancelledAt := ending.cancelledAt }

/-- The evaluations of all checks when the run is cancelled at a stop and by nothing else. -/
def evaluationsUntil (i : Inspection) (stop : Option Stop) : List Evaluation :=
  Pool.run i.settings.workers (i.evaluate stop) Evaluation.finish i.catalog.checks

/-- The first cancellation by the checks themselves, which the checks behind the one that made it see at once. -/
def ownStop? : (position : Nat) → List Evaluation → Option Stop
  | _, [] => none
  | position, e :: es =>
    match e.cancelledAt, ownStop? (position + 1) es with
    | none, later => later
    | some time, none => some ⟨time, position + 1⟩
    | some time, some later => some (Stop.earlier ⟨time, position + 1⟩ later)

/-- The evaluations of all checks. Up to the first cancellation by a check they are those in which none of them
cancels, and from there on those in which the run is cancelled at that stop. -/
def evaluations (i : Inspection) (stop : Option Stop) : List Evaluation :=
  let undisturbed := i.evaluationsUntil stop
  match ownStop? 0 undisturbed with
  | none => undisturbed
  | some own => i.evaluationsUntil (some own)

def reportOf (i : Inspection) (evaluations : List Evaluation) : Report :=
  (Report.ofOutcomes i.timestamp.offsetText (evaluations.map fun e => ⟨e.checkId, e.outcome⟩)).withVersions
    i.effectiveUpgrade.current i.effectiveUpgrade.target

def report (i : Inspection) (stop : Option Stop) : Report := i.reportOf (i.evaluations stop)

/-- The reads that were begun in all of the run. -/
def reads (i : Inspection) (stop : Option Stop) : Nat :=
  ((i.evaluations stop).map Evaluation.reads).foldr (· + ·) 0

end Inspection

end Preflight
