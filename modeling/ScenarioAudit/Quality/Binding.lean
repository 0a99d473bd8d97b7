import ScenarioAudit.Text.Case
import ScenarioAudit.Text.Blank
import ScenarioAudit.Text.CodePoints

/-!
# Step bindings

A binding ties the text of a step to the code that carries it out. What is known of that code is its
`BodyFacts`: how many statements it has, how many of them are assertions, how many of these cannot fail, and
whether it can end in an error.
-/

namespace ScenarioAudit

open ScenarioAudit.Text

/-- The kind of step that a binding serves. -/
inductive StepKind where
  /-- What holds before: `given`. -/
  | context
  /-- What happens: `when`. -/
  | event
  /-- What must hold after: `then`. -/
  | outcome
  /-- Any kind of step. -/
  | any
  deriving DecidableEq, Repr

namespace StepKind

def toString : StepKind → String
  | context => "given"
  | event => "when"
  | outcome => "then"
  | any => "step"

instance : ToString StepKind := ⟨toString⟩

/-- The kind that a keyword names, in any mixture of cases and between blanks. -/
def ofKeyword (keyword : List Char) : StepKind :=
  let w := String.ofList (lower (strip keyword))
  if w = "given" then context else if w = "when" then event else if w = "then" then outcome else any

end StepKind

/-- What the reachable code of a binding does. -/
structure BodyFacts where
  /-- Statements that are no placeholders. -/
  statements : Int := 0
  assertions : Int := 0
  /-- Assertions that test a literal truth. -/
  tautologies : Int := 0
  /-- Whether an error can be reported. -/
  raises : Bool := false
  deriving DecidableEq, Repr

/-- The facts of two pieces of code, one after the other. -/
def BodyFacts.add (a b : BodyFacts) : BodyFacts :=
  { statements := a.statements + b.statements
    assertions := a.assertions + b.assertions
    tautologies := a.tautologies + b.tautologies
    raises := a.raises || b.raises }

instance : Add BodyFacts := ⟨BodyFacts.add⟩

/-- A step definition found in a source file. -/
structure StepBinding where
  kind : StepKind
  text : CodePoints := []
  function : List Char := []
  file : String
  line : Int
  body : BodyFacts := {}
  deriving DecidableEq, Repr

namespace StepBinding

/-- What a binding is called in a report: its text, else its function, else its kind. -/
def label (b : StepBinding) : CodePoints :=
  if !b.text.isEmpty then b.text
  else if !b.function.isEmpty then codePoints b.function
  else codePoints ("(" ++ b.kind.toString ++ " step)").toList

end StepBinding

end ScenarioAudit
