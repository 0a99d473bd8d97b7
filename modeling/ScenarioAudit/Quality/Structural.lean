import ScenarioAudit.Quality.Binding
import ScenarioAudit.Syntax.Statement
import ScenarioAudit.Syntax.Visit
import ScenarioAudit.Text.Lines

/-!
# Step bindings of a syntax tree

A function with a step decorator is a binding. Its facts are counted on the statements that can be reached: those
up to the first `return` or `raise` at the top level of its body.
-/

namespace ScenarioAudit

open ScenarioAudit.Text ScenarioAudit.Syntax

namespace Syntax

/-! ## Literal truths -/

def Expr.constant? : Expr → Option Constant
  | .constant c => some c
  | _ => none

def Expr.isFalseLiteral (e : Expr) : Bool :=
  e.constant?.any fun c => !c.isTrue

/-- A literal that is true whenever it is evaluated: a true constant, the negation of a false one, or a chain of
constants that are all equal and compared as such. -/
def Expr.isTrueLiteral : Expr → Bool
  | .constant c => c.isTrue
  | .negation e => e.isFalseLiteral
  | .comparison (.constant c) links others =>
    links.all (fun l => l = .equal ∨ l = .same) && others.all fun e => e.constant?.any (·.equal c)
  | _ => false

/-- The last part of the name that is called; empty for anything that has no name. -/
def Expr.calledName : Expr → List Char
  | .name id => id
  | .attribute _ id => id
  | _ => []

/-- Parts of a name that speak against a lone argument being tested for truth. -/
def contraryWords : List String :=
  ["false", "not", "none", "raises"]

/-- Whether an assertion by call cannot fail, as far as its name and its arguments tell. -/
def isTautologicalCall (name : List Char) (arguments : List Expr) : Bool :=
  let lowered := lower name
  match arguments with
  | [] => false
  | first :: others =>
    if "true".toList.isSuffixOf lowered then first.isTrueLiteral
    else if "false".toList.isSuffixOf lowered then first.isFalseLiteral
    else
      match isInside "equal".toList lowered, others with
      | true, second :: _ =>
        match first.constant?, second.constant? with
        | some a, some b => a.equal b
        | _, _ => false
      | _, [] => !contraryWords.any (fun w => isInside w.toList lowered) && first.isTrueLiteral
      | _, _ => false

/-! ## Facts -/

def Check.facts (keywords : List (List Char)) : Check → BodyFacts
  | .assertion test => { assertions := 1, tautologies := if test.isTrueLiteral then 1 else 0 }
  | .call f arguments =>
    let name := f.calledName
    if !name.isEmpty && keywords.any (fun k => isInside k (lower name)) then
      { assertions := 1, tautologies := if isTautologicalCall name arguments then 1 else 0 }
    else {}
  | .raising => { raises := true }

/-- A statement that does nothing: `pass`, a constant alone, or a return without a value. -/
def Stmt.isPlaceholder : Stmt → Bool
  | .pass => true
  | .expression e => e.constant?.isSome
  | .returned none => true
  | .returned (some e) => e.constant? = some .nothing
  | _ => false

def Stmt.isTerminal : Stmt → Bool
  | .returned _ | .raised _ => true
  | _ => false

def reachable : List Stmt → List Stmt
  | [] => []
  | s :: ss => if s.isTerminal then [s] else s :: reachable ss

def bodyFacts (keywords : List (List Char)) (body : List Stmt) : BodyFacts :=
  let statements := reachable body
  { ((Stmt.allChecks statements).map (Check.facts keywords)).foldr BodyFacts.add {} with
    statements := statements.countP fun s => !s.isPlaceholder }

/-! ## Decorators -/

def stepDecorators : List String :=
  ["given", "when", "then", "step"]

/-- The function that a decorator names and its arguments by position. -/
def Expr.decoration : Expr → List Char × List Expr
  | .call f arguments _ => (f.calledName, arguments)
  | e => (e.calledName, [])

def stepArgument : List Expr → Option Constant
  | .call _ (first :: _) _ :: _ => first.constant?
  | first :: _ => first.constant?
  | [] => none

def Expr.isStepDecorator (e : Expr) : Bool :=
  stepDecorators.contains (String.ofList (lower e.decoration.1))

def FunctionDef.step (f : FunctionDef) : Except Trouble (Option (StepKind × CodePoints)) :=
  match f.decorators.find? Expr.isStepDecorator with
  | none => .ok none
  | some e => do
    let (name, arguments) := e.decoration
    let text ← match stepArgument arguments with
      | some c => c.display
      | none => .ok []
    return some (StepKind.ofKeyword name, text)

end Syntax

def StepBinding.ofFunction (file : String) (keywords : List (List Char)) (f : FunctionDef) :
    Except Trouble (Option StepBinding) := do
  return (← f.step).map fun (kind, text) =>
    { kind := kind, text := text, function := f.name, file := file, line := f.line,
      body := bodyFacts keywords f.body }

def StepBinding.ofModule (file : String) (keywords : List String) (module : List Stmt) (room : Nat := usualRoom) :
    Except Trouble (List StepBinding) := do
  let lowered := keywords.map fun k => lower k.toList
  let found ← Module.visit (StepBinding.ofFunction file lowered) room module
  return found.reduceOption.mergeSort fun a b => decide (a.line ≤ b.line)

def StepBinding.ofSource (file : String) (keywords : List String) (source : List Char) (room : Nat := usualRoom) :
    Except Trouble (List StepBinding) :=
  if source.contains '\x00' then .error .nulInSource
  else
    match Module.ofSource? source with
    | some module => StepBinding.ofModule file keywords module room
    | none => .error .badSyntax

end ScenarioAudit
