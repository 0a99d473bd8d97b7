import ScenarioAudit.Anchor.Drift
import ScenarioAudit.Record.Store

/-!
# Verdicts

The three channels of tamper evidence are folded into one verdict by a table whose first matching row
wins. Coverage and quality are gates laid over a verdict: they can only make it worse.
-/

namespace ScenarioAudit

/-- The overall status of a gate or a verdict. -/
inductive GateStatus where
  | pass
  | warn
  | degraded
  | blocked
  deriving DecidableEq, Repr

namespace GateStatus

def toString : GateStatus → String
  | pass => "PASS"
  | warn => "WARN"
  | degraded => "DEGRADED"
  | blocked => "BLOCKED"

instance : ToString GateStatus := ⟨toString⟩

def all : List GateStatus :=
  [pass, warn, degraded, blocked]

def ofString? (s : String) : Option GateStatus :=
  all.find? fun k => k.toString = s

def exitCode : GateStatus → Nat
  | blocked => 1
  | _ => 0

end GateStatus

/-- Whether a workflow asks for verification. -/
inductive Policy where
  | mandatory
  | optional
  | forbidden
  deriving DecidableEq, Repr

namespace Policy

def toString : Policy → String
  | mandatory => "mandatory"
  | optional => "optional"
  | forbidden => "forbidden"

instance : ToString Policy := ⟨toString⟩

def all : List Policy :=
  [mandatory, optional, forbidden]

def ofString? (s : String) : Option Policy :=
  all.find? fun k => k.toString = s

end Policy

/-- The channels behind a verdict. -/
structure VerdictChecks where
  integrity : CheckStatus
  anchor : CheckStatus
  drift : DriftStatus
  coverage : Option GateStatus := none
  quality : Option GateStatus := none
  deriving DecidableEq, Repr

/-- A verdict with its reason and all issues found. -/
structure Verdict where
  status : GateStatus
  reason : String
  policy : Policy
  checks : VerdictChecks
  issues : List String
  deriving DecidableEq, Repr

def reasonModified : String :=
  "Assertions were modified since verification"

def reasonDrift : String :=
  "Uncommitted changes to assertions detected"

def reasonMandatory : String :=
  "Verification is mandatory but unverifiable: no valid integrity record or anchor"

def reasonOptional : String :=
  "Unverifiable, verification optional: no valid integrity record or anchor"

def judge (integrity anchor : CheckStatus) (drift : DriftStatus) (policy : Policy) :
    GateStatus × String :=
  if integrity = .invalid ∨ anchor = .invalid then (.blocked, reasonModified)
  else if drift = .modified then (.blocked, reasonDrift)
  else if integrity = .valid ∨ anchor = .valid then (.pass, "")
  else if policy = .mandatory then (.blocked, reasonMandatory)
  else (.warn, reasonOptional)

def aggregate (integrity anchor : CheckStatus) (drift : DriftStatus) (policy : Policy) : Verdict :=
  let (status, reason) := judge integrity anchor drift policy
  { status := status
    reason := reason
    policy := policy
    checks := { integrity := integrity, anchor := anchor, drift := drift }
    issues := if reason.isEmpty then [] else [reason] }

structure CoverageGate where
  status : GateStatus
  undefinedSteps : Int := 0
  pendingSteps : Int := 0
  message : String := ""
  deriving DecidableEq, Repr

structure QualityGate where
  status : GateStatus
  failed : Int := 0
  total : Int := 0
  deriving DecidableEq, Repr

namespace Verdict

def exitCode (v : Verdict) : Nat :=
  v.status.exitCode

/-- A blocking issue: it becomes the reason unless the verdict was blocked before. -/
def block (message : String) (v : Verdict) : Verdict :=
  if v.status = .blocked then { v with issues := v.issues ++ [message] }
  else { v with status := .blocked, reason := message, issues := v.issues ++ [message] }

/-- A check that could not run: it turns a pass into a warning. -/
def degrade (message : String) (v : Verdict) : Verdict :=
  if v.status = .pass then { v with status := .warn, reason := message, issues := v.issues ++ [message] }
  else { v with issues := v.issues ++ [message] }

def applyCoverage (gate : CoverageGate) (v : Verdict) : Verdict :=
  let v := { v with checks := { v.checks with coverage := some gate.status } }
  match gate.status with
  | .blocked =>
    v.block ("Step coverage incomplete: " ++ toString gate.undefinedSteps ++ " undefined, "
      ++ toString gate.pendingSteps ++ " pending")
  | .degraded => v.degrade ("Step coverage unverifiable: " ++ gate.message)
  | _ => v

def applyQuality (gate : QualityGate) (v : Verdict) : Verdict :=
  let v := { v with checks := { v.checks with quality := some gate.status } }
  match gate.status with
  | .blocked =>
    v.block ("Step quality failures: " ++ toString gate.failed ++ " of " ++ toString gate.total ++ " steps")
  | _ => v

def applyGates (v : Verdict) (coverage : Option CoverageGate) (quality : Option QualityGate) : Verdict :=
  let v := match coverage with
    | some gate => v.applyCoverage gate
    | none => v
  match quality with
  | some gate => v.applyQuality gate
  | none => v

end Verdict

end ScenarioAudit
