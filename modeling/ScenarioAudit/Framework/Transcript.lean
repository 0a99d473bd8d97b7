import ScenarioAudit.Pattern.Build
import ScenarioAudit.Text.Lines
import ScenarioAudit.Number.Numeral
import ScenarioAudit.Trouble

/-!
# Dry-run transcripts

Each framework reports undefined and pending steps in its own way. A grammar reads one transcript: the
numbers of a step summary are trusted if there is one, and otherwise the lines with a marker are counted. A
grammar is data, so that a further framework is one more entry of the table.
-/

namespace ScenarioAudit

open ScenarioAudit.Text ScenarioAudit.Number Pattern

/-- A step that the dry run complains about. -/
structure UndefinedStep where
  step : String
  file : String := "unknown"
  line : Nat := 0
  deriving DecidableEq, Repr

/-- What a grammar recovers from a transcript. -/
structure DryRunCounts where
  undefinedSteps : Int := 0
  pendingSteps : Int := 0
  details : List UndefinedStep := []
  deriving DecidableEq, Repr

/-- A step summary: the pattern captures the breakdown under 1; the numbers of the labels are added up. -/
structure SummaryRule where
  pattern : Pattern
  undefinedLabels : List String
  pendingLabels : List String

/-- Which lines are reported as details. -/
inductive DetailRule where
  /-- The lines with the marker of undefined steps, if any step is undefined. -/
  | marked
  /-- The step on the line above each marker, or on the same line, if any step is undefined. -/
  | stepAbove
  /-- The lines that the second pattern occurs in, if the first one occurs anywhere. -/
  | whenever (gate shown : Pattern)

/-- How to read the transcript of one framework. -/
structure Grammar where
  name : String
  undefinedMark : Pattern
  pendingMark : Option Pattern := none
  summary : Option SummaryRule := none
  details : DetailRule := .marked

namespace Grammar

def detailLimit : Nat := 20

def labelled (label : String) : Pattern :=
  capture 1 digits ++ blanks1 ++ caseless label

def numberOf (ds : List Char) : Except Trouble Int :=
  (wholeOfText (String.ofList ds)).mapError .numeral

def labelNumber (breakdown : List Char) (label : String) : Except Trouble Int :=
  match (labelled label).find breakdown with
  | some m => numberOf (m.captured 1)
  | none => .ok 0

def labelSum (breakdown : List Char) (labels : List String) : Except Trouble Int :=
  labels.foldlM (fun sum label => (labelNumber breakdown label).map (sum + ·)) 0

def countLines (p : Pattern) (lines : List (List Char)) : Int :=
  (lines.filter p.occurs).length

/-- A step keyword after indentation and possibly a symbol. -/
def stepStart : Pattern :=
  blanks ++ opt (one (fun c => !isWordChar c && !isBlank c) ++ blanks)
    ++ oneOf ["Given", "When", "Then", "And", "But"] ++ edge

/-- For each line with a marker, the step on the line above or on the same line. -/
def stepsAbove (mark : Pattern) : List Char → List (List Char) → List (List Char)
  | _, [] => []
  | above, line :: lines =>
    let hits :=
      if !mark.occurs line then []
      else if stepStart.startsAt above then [above]
      else if stepStart.startsAt line then [line]
      else []
    hits ++ stepsAbove mark line lines

def detailsOf (lines : List (List Char)) : List UndefinedStep :=
  (lines.take detailLimit).map fun l => { step := String.ofList (strip l) }

/-- The numbers of undefined and pending steps. -/
def counts (g : Grammar) (output : List Char) (lines : List (List Char)) : Except Trouble (Int × Int) := do
  let found := g.summary.bind fun rule => (rule.pattern.find output).map fun m => (rule, m.captured 1)
  match found with
  | some (rule, breakdown) =>
    return (← labelSum breakdown rule.undefinedLabels, ← labelSum breakdown rule.pendingLabels)
  | none =>
    return (countLines g.undefinedMark lines,
      match g.pendingMark with
      | some p => countLines p lines
      | none => 0)

def read (g : Grammar) (output : List Char) : Except Trouble DryRunCounts := do
  let lines := splitLines output
  let (undefinedSteps, pendingSteps) ← g.counts output lines
  let shown := match g.details with
    | .marked => if undefinedSteps = 0 then [] else lines.filter g.undefinedMark.occurs
    | .stepAbove => if undefinedSteps = 0 then [] else stepsAbove g.undefinedMark [] lines
    | .whenever gate shown => if gate.occurs output then lines.filter shown.occurs else []
  return { undefinedSteps := undefinedSteps, pendingSteps := pendingSteps, details := detailsOf shown }

def bracketSummary : Pattern :=
  lineStart ++ blanks ++ digits ++ blanks1 ++ caseless "step" ++ opt (caseless "s") ++ blanks ++ char '('
    ++ capture 1 (many true (· != ')')) ++ char ')'

def passedSummary : Pattern :=
  lineStart ++ blanks ++ digits ++ blanks1 ++ caseless "step" ++ opt (caseless "s") ++ blanks1
    ++ caseless "passed," ++ capture 1 inLine ++ lineEnd

def table : List Grammar :=
  [{ name := "pytest-bdd"
     undefinedMark := oneOf ["StepDefNotFound", "StepDefinitionNotFoundError", "ERRORS", "no tests ran"]
     details := .whenever
      (firstOf [caseless "stepdefnotfound", caseless "stepdefinitionnotfounderror", caseless "no tests ran"])
      (oneOf ["StepDefNotFound", "StepDefinitionNotFoundError", "ERRORS"]) },
   { name := "behave"
     undefinedMark := word "undefined"
     pendingMark := some (oneOf ["pending", "skipped"])
     summary := some ⟨passedSummary, ["undefined"], []⟩ },
   { name := "@cucumber/cucumber"
     undefinedMark := word "Undefined"
     pendingMark := some (word "Pending")
     summary := some ⟨bracketSummary, ["undefined"], ["pending"]⟩
     details := .stepAbove },
   { name := "godog"
     undefinedMark := word "undefined"
     pendingMark := some (word "pending")
     summary := some ⟨bracketSummary, ["undefined"], ["pending"]⟩ },
   { name := "cucumber-jvm"
     undefinedMark := word "Undefined"
     pendingMark := some (word "Pending")
     summary := some ⟨bracketSummary, ["undefined"], ["pending"]⟩ },
   { name := "cucumber-rs"
     undefinedMark := oneOf ["skipped", "undefined"]
     summary := some ⟨bracketSummary, ["skipped", "undefined"], []⟩ },
   { name := "reqnroll"
     undefinedMark := oneOf ["Binding", "StepDefinitionMissing", "undefined"] }]

def named? (name : String) : Option Grammar :=
  table.find? (·.name = name)

end Grammar

end ScenarioAudit
