import ScenarioAudit.Quality.Binding

/-!
# Defects

A binding has at most one defect, the first row of a table that applies: an empty body, then assertions that
cannot fail, then a `then` step that neither asserts nor reports an error.
-/

namespace ScenarioAudit

open ScenarioAudit.Text

/-- What can be wrong with a step definition, or with the file that holds it. -/
inductive Defect where
  | emptyBody
  | tautology
  | noAssertion
  | unreadable
  deriving DecidableEq, Repr

namespace Defect

def toString : Defect → String
  | emptyBody => "EMPTY_BODY"
  | tautology => "TAUTOLOGY"
  | noAssertion => "NO_ASSERTION"
  | unreadable => "PARSE_ERROR"

instance : ToString Defect := ⟨toString⟩

def message : Defect → String
  | emptyBody => "Step body has no executable statements"
  | tautology => "Every assertion in the step tests a literal truth and can never fail"
  | noAssertion => "Then step neither asserts nor raises"
  | unreadable => ""

end Defect

/-- How much a finding weighs. -/
inductive Severity where
  | fail
  | warn
  deriving DecidableEq, Repr

def Severity.toString : Severity → String
  | .fail => "FAIL"
  | .warn => "WARN"

instance : ToString Severity := ⟨Severity.toString⟩

/-- A defect and where it was found. -/
structure Finding where
  step : CodePoints
  file : String
  line : Int := 0
  defect : Defect
  severity : Severity
  message : String := ""
  deriving DecidableEq, Repr

def StepBinding.defect (b : StepBinding) : Option Defect :=
  if b.body.statements = 0 then some .emptyBody
  else if 0 < b.body.assertions ∧ b.body.assertions ≤ b.body.tautologies then some .tautology
  else if b.kind = .outcome ∧ b.body.assertions = 0 ∧ b.body.raises = false then some .noAssertion
  else none

namespace Finding

def ofBinding (b : StepBinding) : Option Finding :=
  b.defect.map fun d =>
    { step := b.label, file := b.file, line := b.line, defect := d, severity := .fail, message := d.message }

/-- The warning about a file that cannot be read as source code. -/
def unreadable (file message : String) : Finding :=
  { step := codePoints "(parse error)".toList, file := file, defect := .unreadable, severity := .warn,
    message := message }

end Finding

end ScenarioAudit
