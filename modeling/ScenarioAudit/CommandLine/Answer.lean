import ScenarioAudit.Coverage.Verify
import ScenarioAudit.Execution.Report
import ScenarioAudit.Json.Writer
import ScenarioAudit.Quality.Report
import ScenarioAudit.Record.Basic
import ScenarioAudit.Text.CodePoints

/-!
# Answers

The answer to a command is a JSON document, the same as text for a reader, and an exit code. Only a blocked gate
and a test run that is not complete exit with 1.
-/

namespace ScenarioAudit.CommandLine

open ScenarioAudit.Text

structure Answer where
  /-- None if something in it cannot be written. -/
  document : Option Json
  text : CodePoints
  exitCode : Nat := 0
  deriving Repr

/-! ## Documents -/

def textOrNull : Option String → Json
  | some s => .str s
  | none => .null

def nameOf {α : Type} [ToString α] (a : α) : Json :=
  .str (toString a)

def nameOrNull {α : Type} [ToString α] : Option α → Json
  | some a => nameOf a
  | none => .null

def recordMembers (r : IntegrityRecord) : Json.Members :=
  [("digest", .str r.digest), ("generated_at", .str r.generatedAt), ("source_kind", .str r.sourceKind.toString),
    ("source_directory", textOrNull r.sourceDirectory), ("source_document", textOrNull r.sourceDocument),
    ("unit_count", .int r.unitCount)]

def verdictDocument (v : Verdict) : Json :=
  .obj [("overall_status", nameOf v.status), ("reason", .str v.reason), ("policy", nameOf v.policy),
    ("checks", .obj [("integrity", nameOf v.checks.integrity), ("anchor", nameOf v.checks.anchor),
      ("drift", nameOf v.checks.drift), ("coverage", nameOrNull v.checks.coverage),
      ("quality", nameOrNull v.checks.quality)]),
    ("issues", .arr (v.issues.map .str))]

def undefinedStepDocument (d : UndefinedStep) : Json :=
  .obj [("step", .str d.step), ("file", .str d.file), ("line", .int d.line)]

def coverageDocument (r : CoverageResult) (manifest : Option Path) : Json :=
  .obj [("status", nameOf r.status), ("framework", textOrNull r.framework), ("total_steps", .int r.totalSteps),
    ("matched", .int r.matched), ("undefined", .int r.undefinedSteps), ("pending", .int r.pendingSteps),
    ("details", .arr (r.details.map undefinedStepDocument)), ("message", .str r.message),
    ("exit_code", (r.exitCode.map Json.int).getD .null), ("timed_out", .bool r.timedOut),
    ("dependency_manifest", nameOrNull manifest)]

def findingDocument? (f : Finding) : Option Json :=
  f.step.toChars?.map fun step =>
    .obj [("step", .str (String.ofList step)), ("file", .str f.file), ("line", .int f.line),
      ("issue", nameOf f.defect), ("severity", nameOf f.severity), ("message", .str f.message)]

def qualityDocument? (r : QualityReport) : Option Json :=
  (r.details.mapM findingDocument?).map fun details =>
    .obj [("status", nameOf r.status), ("language", .str r.language), ("parser", nameOf r.parser),
      ("parser_note", textOrNull r.note), ("total_steps", .int r.total), ("quality_pass", .int r.passed),
      ("quality_fail", .int r.failed), ("details", .arr details)]

def executionDocument (r : ExecutionReport) : Json :=
  .obj [("status", nameOf r.status), ("message", .str r.message), ("expected", .int r.expected),
    ("actual", .obj [("passed", .int r.actual.passed), ("failed", .int r.actual.failed),
      ("total", .int r.actual.total), ("runner", textOrNull r.actual.runner)])]

/-! ## Texts -/

def lines (ls : List String) : CodePoints :=
  codePoints ("\n".intercalate ls).toList

def verdictText (v : Verdict) : CodePoints :=
  let gate (name : String) (s : Option GateStatus) : String :=
    match s with
    | some s => " " ++ name ++ "=" ++ s.toString
    | none => ""
  let head := v.status.toString ++ if v.reason.isEmpty then "" else ": " ++ v.reason
  let channels := "  integrity=" ++ toString v.checks.integrity ++ " anchor=" ++ toString v.checks.anchor
    ++ " drift=" ++ toString v.checks.drift ++ gate "coverage" v.checks.coverage
    ++ gate "quality" v.checks.quality
  lines (head :: channels :: v.issues.map ("  - " ++ ·))

def coverageText (r : CoverageResult) (manifest : Option Path) : CodePoints :=
  let framework := match r.framework with
    | some name =>
      if name.isEmpty then []
      else ("  framework: " ++ name) ::
        match manifest with
        | some p => ["  declared in: " ++ p.toString]
        | none => []
    | none => []
  let steps :=
    if r.totalSteps = 0 then []
    else ["  steps: " ++ toString r.totalSteps ++ " total, " ++ toString r.matched ++ " matched, "
      ++ toString r.undefinedSteps ++ " undefined, " ++ toString r.pendingSteps ++ " pending"]
  lines ((r.status.toString ++ ": " ++ r.message) :: framework ++ steps
    ++ r.details.map fun d => "  - " ++ d.step ++ " (" ++ d.file ++ ":" ++ toString d.line ++ ")")

/-- The line about a finding, after a line break. -/
def findingText (f : Finding) : CodePoints :=
  codePoints ("\n  - [" ++ toString f.severity ++ "] " ++ toString f.defect ++ " " ++ f.file ++ ":"
    ++ toString f.line ++ " ").toList ++ f.step ++ codePoints (": " ++ f.message).toList

def qualityText (r : QualityReport) : CodePoints :=
  let head := r.status.toString ++ ": " ++ toString r.failed ++ " of " ++ toString r.total ++ " steps failed ("
    ++ r.language ++ ", " ++ toString r.parser ++ " parser)"
  let note := match r.note with
    | some n => if n.isEmpty then [] else ["  " ++ n]
    | none => []
  lines (head :: note) ++ r.details.flatMap findingText

def executionText (r : ExecutionReport) : Except Trouble CodePoints := do
  let runner := match r.actual.runner with
    | some name => if name.isEmpty then "unknown runner" else name
    | none => "unknown runner"
  let passed ← countText r.actual.passed
  let failed ← countText r.actual.failed
  let total ← countText r.actual.total
  return lines [toString r.status ++ ": " ++ r.message,
    "  " ++ runner ++ ": " ++ passed ++ " passed, " ++ failed ++ " failed, " ++ total ++ " total; "
      ++ toString r.expected ++ " scenarios expected"]

/-! ## Answers -/

namespace Answer

def aboutPath (p : Path) (key value : String) (more : Json.Members := []) : Answer where
  document := some (.obj ([("path", .str p.toString), (key, .str value)] ++ more))
  text := lines [value]

def ofCorpus (p : Path) (c : Corpus) : Answer where
  document := some (.obj [("path", .str p.toString), ("source_kind", .str c.source.kind.toString),
    ("lines", .arr (c.lines.map fun l => .str (String.ofList l)))])
  text := codePoints c.joined

def ofRecord (recordFile : Path) (r : IntegrityRecord) : Answer where
  document := some (.obj (("record_file", .str recordFile.toString) :: recordMembers r))
  text := lines [r.digest]

def ofVerdict (v : Verdict) : Answer where
  document := some (verdictDocument v)
  text := verdictText v
  exitCode := v.exitCode

def ofCoverage (r : CoverageResult) (manifest : Option Path) : Answer where
  document := some (coverageDocument r manifest)
  text := coverageText r manifest
  exitCode := r.status.exitCode

def ofQuality (r : QualityReport) : Answer where
  document := qualityDocument? r
  text := qualityText r
  exitCode := r.status.exitCode

/-- The answer about a test run. Its text is made even if only the document is written. -/
def ofExecution (r : ExecutionReport) : Except Trouble Answer := do
  let text ← executionText r
  return { document := some (executionDocument r), text := text, exitCode := r.status.exitCode }

/-- What is written: the document or the text, with a line break after it. -/
def output (a : Answer) (json : Bool) : Except Trouble CodePoints :=
  if json then
    match a.document.bind Json.render? with
    | some s => .ok (codePoints (s ++ ['\n']))
    | none => .error .wrongType
  else .ok (a.text ++ codePoints ['\n'])

end Answer

end ScenarioAudit.CommandLine
