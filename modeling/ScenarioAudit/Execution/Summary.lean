import ScenarioAudit.Framework.Transcript

/-!
# Test run summaries

Each test runner ends its output with a summary of its own shape. The runners are tried in a fixed order, and
the first one whose summary appears tells the numbers of passed and failed tests.
-/

namespace ScenarioAudit

open ScenarioAudit.Text Pattern

structure RunCounts where
  passed : Int := 0
  failed : Int := 0
  total : Int := 0
  runner : Option String := none
  deriving DecidableEq, Repr

/-- How to recognise the summary of one runner; `none` if it does not appear. -/
structure Runner where
  name : String
  read : List Char → Except Trouble (Option RunCounts)

namespace Runner

/-- A number in front of a label, with a single space. -/
def counted (label : String) : Pattern :=
  capture 1 digits ++ char ' ' ++ word label

/-- The last number in front of a label, zero if there is none. -/
def lastCount (label : String) (text : List Char) : Except Trouble Int :=
  match ((counted label).findAll text).getLast? with
  | some m => Grammar.numberOf (m.captured 1)
  | none => .ok 0

def summed (passed failed : Int) : RunCounts :=
  { passed := passed, failed := failed, total := passed + failed }

def summedLast (passed failed : String) (text : List Char) : Except Trouble (Option RunCounts) := do
  return some (summed (← lastCount passed text) (← lastCount failed text))

def behave : List Char → Except Trouble (Option RunCounts) := fun output =>
  let p := lineStart ++ blanks ++ capture 1 digits ++ word " scenario" ++ opt (word "s") ++ word " passed, "
    ++ capture 2 digits ++ word " failed"
  match p.find output with
  | none => .ok none
  | some m => do
    return some (summed (← Grammar.numberOf (m.captured 1)) (← Grammar.numberOf (m.captured 2)))

def cucumberJs : List Char → Except Trouble (Option RunCounts) := fun output =>
  let p := lineStart ++ blanks ++ capture 1 digits ++ word " scenario" ++ opt (word "s") ++ word " ("
    ++ capture 2 (many true (· != ')')) ++ char ')'
  match p.find output with
  | none => .ok none
  | some m => do
    let breakdown := m.captured 2
    return some
      { passed := ← lastCount "passed" breakdown
        failed := ← lastCount "failed" breakdown
        total := ← Grammar.numberOf (m.captured 1) }

def jest : List Char → Except Trouble (Option RunCounts) := fun output =>
  let p := lineStart ++ blanks ++ word "Tests" ++ opt (char ':') ++ blanks1
    ++ capture 1 (inLine ++ edge ++ word "passed" ++ edge ++ inLine) ++ lineEnd
  match p.find output with
  | none => .ok none
  | some m => summedLast "passed" "failed" (m.captured 1)

def pytest : List Char → Except Trouble (Option RunCounts) := fun output =>
  let p := lineStart ++ many1 (· == '=') ++ char ' '
    ++ capture 1 (inLine ++ edge ++ oneOf ["passed", "failed"] ++ edge ++ inLine) ++ word " in "
    ++ many1 (fun c => isDecimalDigit c || c == '.') ++ char 's'
  match (p.findAll output).getLast? with
  | none => .ok none
  | some m => summedLast "passed" "failed" (m.captured 1)

def goTest : List Char → Except Trouble (Option RunCounts) := fun output =>
  let p := firstOf
    [lineStart ++ oneOf ["ok", "FAIL"] ++ one isBlank, word "--- " ++ oneOf ["PASS", "FAIL"] ++ char ':']
  if p.occurs output then
    .ok (some (summed ((word "--- PASS:").findAll output).length ((word "--- FAIL:").findAll output).length))
  else
    .ok none

def playwright : List Char → Except Trouble (Option RunCounts) := fun output =>
  if (digits ++ char ' ' ++ oneOf ["passed", "failed"]).occurs output then
    summedLast "passed" "failed" output
  else .ok none

def mocha : List Char → Except Trouble (Option RunCounts) := fun output =>
  if (digits ++ word " passing").occurs output then summedLast "passing" "failing" output
  else .ok none

def table : List Runner :=
  [⟨"behave", behave⟩, ⟨"cucumber-js", cucumberJs⟩, ⟨"jest", jest⟩, ⟨"pytest", pytest⟩, ⟨"go", goTest⟩,
    ⟨"playwright", playwright⟩, ⟨"mocha", mocha⟩]

def readFirst : List Runner → List Char → Except Trouble RunCounts
  | [], _ => .ok {}
  | r :: rs, output => do
    match ← r.read output with
    | some counts => return { counts with runner := some r.name }
    | none => readFirst rs output

end Runner

def RunCounts.ofOutput (output : List Char) : Except Trouble RunCounts :=
  Runner.readFirst Runner.table output

end ScenarioAudit
