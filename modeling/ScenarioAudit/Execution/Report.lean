import ScenarioAudit.Execution.Summary
import ScenarioAudit.Corpus.Source

/-!
# Execution reports

A captured test run is compared with the scenarios of the corpus: whether tests ran at all, whether any
failed, and whether as many ran as there are scenarios.
-/

namespace ScenarioAudit

open ScenarioAudit.Text Pattern

/-- The outcome of a test run. -/
inductive ExecutionStatus where
  | pass
  | noTestsRun
  | testsFailing
  | incomplete
  | unknown
  deriving DecidableEq, Repr

namespace ExecutionStatus

def toString : ExecutionStatus → String
  | pass => "PASS"
  | noTestsRun => "NO_TESTS_RUN"
  | testsFailing => "TESTS_FAILING"
  | incomplete => "INCOMPLETE"
  | unknown => "UNKNOWN"

instance : ToString ExecutionStatus := ⟨toString⟩

/-- Passing runs and runs that say nothing succeed. -/
def exitCode : ExecutionStatus → Nat
  | pass | unknown => 0
  | _ => 1

end ExecutionStatus

/-- A test run compared with the corpus. -/
structure ExecutionReport where
  status : ExecutionStatus
  message : String
  expected : Nat
  actual : RunCounts
  deriving Repr

def scenarioLine : Pattern :=
  blanks ++ oneOf ["Scenario:", "Scenario Outline:"]

def caseLine : Pattern :=
  word "###" ++ blanks1 ++ word "TS-" ++ digits

def countStarts (t : Tree) (p : Pattern) (file : Path) : Except Trouble Nat :=
  (t.readText file).map fun text => ((splitLines text).filter p.startsAt).length

/-- The number of scenarios that a full run has to cover; none where there is nothing. -/
def expectedScenarios (t : Tree) (p : Path) : Except Trouble Nat := do
  if ← t.isDir p then
    let counts ← (← featureFiles t p).mapM (countStarts t scenarioLine)
    return counts.foldl (· + ·) 0
  else if !(← t.isFile p) then
    return 0
  else
    countStarts t (if isFeatureName p.name then scenarioLine else caseLine) p

def judgeRun (expected : Nat) (actual : RunCounts) : ExecutionStatus × String :=
  if actual.total = 0 then (.noTestsRun, "Could not detect any test execution in output")
  else if actual.failed > 0 then
    (.testsFailing, toString actual.failed ++ " tests failing - fix code before proceeding")
  else if expected > 0 ∧ actual.total < expected then
    (.incomplete, "Only " ++ toString actual.total ++ " tests run, expected " ++ toString expected
      ++ " from the scenario corpus")
  else if actual.passed > 0 then (.pass, "All " ++ toString actual.passed ++ " tests passing")
  else (.unknown, "Test output did not report passing or failing tests")

/-- Compares a captured run with the corpus at a path. -/
def verifyExecution (t : Tree) (p : Path) (output : List Char) : Except Trouble ExecutionReport := do
  let expected ← expectedScenarios t p
  let actual ← RunCounts.ofOutput output
  let (status, message) := judgeRun expected actual
  return ⟨status, message, expected, actual⟩

end ScenarioAudit
