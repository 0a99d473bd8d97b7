import ScenarioAudit.Syntax.Tree

/-!
# Checks and functions of a tree

`checks` lists everything in a tree that asserts, calls or raises an error, wherever it stands: in nested
functions, decorators, default values and formatted literals too. `functions` lists the functions of a tree, each
before those inside it.
-/

namespace ScenarioAudit.Syntax

open ScenarioAudit.Text

/-- A place where the program can find a fault or call for something. -/
inductive Check where
  | assertion (test : Expr)
  | call (function : Expr) (arguments : List Expr)
  | raising
  deriving Repr

mutual

def Expr.checks : Expr → List Check
| .constant _ | .name _ => []
| .attribute e _ | .negation e | .starred e => e.checks
| .subscript e i => e.checks ++ i.checks
| .call f args keywords => .call f args :: (f.checks ++ Expr.allChecks args ++ Expr.allChecks keywords)
| .comparison e _ es => e.checks ++ Expr.allChecks es
| .tuple es | .list es | .formatted es | .compound _ es => Expr.allChecks es

def Expr.allChecks : List Expr → List Check
| [] => []
| e :: es => e.checks ++ Expr.allChecks es

end

mutual

def Stmt.checks : Stmt → List Check
| .function _ _ decorators parameters result body =>
  Expr.allChecks decorators ++ parameters.checks ++ Expr.allChecks result.toList ++ Stmt.allChecks body
| .classDef _ decorators bases body =>
  Expr.allChecks decorators ++ Expr.allChecks bases ++ Stmt.allChecks body
| .returned e => Expr.allChecks e.toList
| .raised es => .raising :: Expr.allChecks es
| .assertion test message => .assertion test :: (test.checks ++ Expr.allChecks message.toList)
| .expression e => e.checks
| .pass => []
| .plain es => Expr.allChecks es
| .compound _ es blocks => Expr.allChecks es ++ Stmt.blockChecks blocks

def Stmt.allChecks : List Stmt → List Check
| [] => []
| s :: ss => s.checks ++ Stmt.allChecks ss

def Stmt.blockChecks : List (List Stmt) → List Check
| [] => []
| b :: bs => Stmt.allChecks b ++ Stmt.blockChecks bs

end

/-- A function of a source file. -/
structure FunctionDef where
  line : Nat
  name : List Char
  decorators : List Expr
  body : List Stmt
  deriving Repr

mutual

/-- The functions in a statement, the statement itself included. -/
def Stmt.functions : Stmt → List FunctionDef
| .function line name decorators _ _ body => ⟨line, name, decorators, body⟩ :: Stmt.allFunctions body
| .classDef _ _ _ body => Stmt.allFunctions body
| .compound _ _ blocks => Stmt.blockFunctions blocks
| _ => []

def Stmt.allFunctions : List Stmt → List FunctionDef
| [] => []
| s :: ss => s.functions ++ Stmt.allFunctions ss

def Stmt.blockFunctions : List (List Stmt) → List FunctionDef
| [] => []
| b :: bs => Stmt.allFunctions b ++ Stmt.blockFunctions bs

end

end ScenarioAudit.Syntax
