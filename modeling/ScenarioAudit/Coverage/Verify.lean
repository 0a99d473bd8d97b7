import ScenarioAudit.Framework.Detection
import ScenarioAudit.Framework.Transcript
import ScenarioAudit.Corpus.Source
import ScenarioAudit.Verdict.Basic
import ScenarioAudit.Settings.Basic
import ScenarioAudit.Host

/-!
# Step coverage

The steps of the feature files are reconciled with what a framework's dry run reports, run at most once. A
check that cannot be made is degraded; one that finds undefined or pending steps is blocked. A dry run whose
time is up still counts with what it had written.
-/

namespace ScenarioAudit

open ScenarioAudit.Text ScenarioAudit.Number

/-- The outcome of a coverage check. -/
structure CoverageResult where
  status : GateStatus
  framework : Option String := none
  totalSteps : Int := 0
  matched : Int := 0
  undefinedSteps : Int := 0
  pendingSteps : Int := 0
  details : List UndefinedStep := []
  message : String := ""
  exitCode : Option Int := none
  timedOut : Bool := false
  deriving Repr

namespace CoverageResult

def degraded (message : String) (framework : Option String := none) : CoverageResult :=
  { status := .degraded, framework := framework, message := message }

def toGate (r : CoverageResult) : CoverageGate :=
  { status := r.status, undefinedSteps := r.undefinedSteps, pendingSteps := r.pendingSteps,
    message := r.message }

end CoverageResult

def countFeatureSteps (t : Tree) (files : List Path) : Except Trouble Nat := do
  let counts ← files.mapM fun f =>
    (t.readText f).map fun text => ((splitLines text).filter isGherkinStep).length
  return counts.foldl (· + ·) 0

/-- What a dry run left behind. -/
structure DryRun where
  output : List Char
  exitCode : Option Int
  timedOut : Bool
  deriving Repr

/-- What a child process left behind; none if it could not be started. -/
def DryRun.ofReply : Reply → Except Trouble (Option DryRun)
  | .exited code output _ => .ok (some ⟨output.toList, some code, false⟩)
  | .ended code output _ => .ok (some ⟨Tree.lossyText output, some code, false⟩)
  | .missing | .denied => .ok none
  | .timedOut .nothing => .ok (some ⟨[], none, true⟩)
  | .timedOut (.text s) => .ok (some ⟨s.toList, none, true⟩)
  | .timedOut (.bytes b) => .ok (some ⟨decodeUtf8Lossy b, none, true⟩)
  | .refused fault => .error fault.trouble

/-- The first items of a list; a negative number leaves that many out at the end. -/
def takeUpTo {α : Type} (n : Int) (xs : List α) : List α :=
  if n < 0 then xs.take (xs.length - n.natAbs) else xs.take n.toNat

/-- The note about a dry run whose time was up. -/
def timeoutNote (settings : CoverageSettings) : String :=
  "timed out after " ++ settings.dryRunTimeout.displayWhole ++ "s"

def countText (i : Int) : Except Trouble String :=
  (textOfWhole i).mapError .numeral

def countsMessage (totalSteps : Nat) (counts : DryRunCounts) : Except Trouble String := do
  if counts.undefinedSteps + counts.pendingSteps > 0 then
    let undefinedSteps ← countText counts.undefinedSteps
    let pendingSteps ← countText counts.pendingSteps
    return undefinedSteps ++ " undefined and " ++ pendingSteps ++ " pending of " ++ toString totalSteps ++ " steps"
  else
    return "All " ++ toString totalSteps ++ " steps have bindings"

def reconcile (settings : CoverageSettings) (framework : String) (totalSteps : Nat) (run : DryRun)
    (counts : DryRunCounts) : Except Trouble CoverageResult := do
  let message ← countsMessage totalSteps counts
  return {
    status := if counts.undefinedSteps + counts.pendingSteps > 0 then .blocked else .pass
    framework := some framework
    totalSteps := totalSteps
    matched := max 0 (totalSteps - counts.undefinedSteps - counts.pendingSteps)
    undefinedSteps := counts.undefinedSteps
    pendingSteps := counts.pendingSteps
    details := takeUpTo settings.maxDetailLines counts.details
    message := if run.timedOut then message ++ " (dry run " ++ timeoutNote settings ++ ")" else message
    exitCode := run.exitCode
    timedOut := run.timedOut }

def dryRunCall (settings : CoverageSettings) (projectRoot : Option Path) (profile : FrameworkProfile) : Call :=
  { argv := profile.dryRun
    cwd := projectRoot.map Path.toString
    timeout := settings.dryRunTimeout }

def runCoverage (settings : CoverageSettings) (projectRoot : Option Path) (files : List Path)
    (profile : FrameworkProfile) (program : String) (grammar : Grammar) : Job CoverageResult := do
  let totalSteps ← Job.reading fun t => countFeatureSteps t files
  let reply ← Host.startTool (dryRunCall settings projectRoot profile)
  match ← Job.settle (DryRun.ofReply reply) with
  | none =>
    return .degraded ("Could not launch " ++ program ++ "; step coverage cannot be verified.")
      (some profile.name)
  | some run =>
    if run.timedOut && isAllBlank run.output then
      return .degraded (program ++ " dry run " ++ timeoutNote settings
        ++ " with no output; step coverage cannot be verified.") (some profile.name)
    else
      Job.settle do reconcile settings profile.name totalSteps run (← grammar.read run.output)

/-- Checks the coverage of the feature files in a directory. -/
def verifyCoverage (settings : CoverageSettings) (projectRoot : Option Path) (features : Path)
    (profile : Option FrameworkProfile) : Job CoverageResult := do
  if !(← Job.reading (·.isDir features)) then
    return .degraded ("Features directory not found: " ++ features.toString)
  let files ← Job.reading fun t => featureFiles t features
  if files.isEmpty then
    return .degraded ("No .feature files found in " ++ features.toString)
  match profile with
  | none => return .degraded "No BDD framework detected. Step coverage cannot be verified."
  | some profile =>
    let program ← Job.reading fun _ => profile.executable
    if !(← get).programs.contains program then
      return .degraded ("Framework tool not found: " ++ program
        ++ ". Install it to enable step verification.") (some profile.name)
    match Grammar.named? profile.grammar with
    | none =>
      return .degraded ("No output grammar registered for " ++ quoteString profile.grammar)
        (some profile.name)
    | some grammar => runCoverage settings projectRoot files profile program grammar

end ScenarioAudit
