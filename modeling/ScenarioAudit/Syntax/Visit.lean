import ScenarioAudit.Syntax.Checks
import ScenarioAudit.Trouble

/-!
# Going through a tree

A tree is gone through from its root to its leaves by calls inside calls, so there has to be room for as many of them as
are open at one time. `Module.visit` looks at each function before what is in it, and fails where the room ends.
-/

namespace ScenarioAudit.Syntax

/-- How many calls can be open inside those of a program that starts to go through a tree. -/
def usualRoom : Nat := 990

/-! ## Room -/

mutual

/-- The most calls that are open at one time in an expression. One call selects how it is gone through, and one goes
through its parts; a constant is selected twice. A name, a tuple and a list have a part that tells how they are used. -/
def Expr.frames : Expr → Nat
| .constant _ => 3
| .name _ => 4
| .attribute e _ | .negation e | .starred e => e.frames + 2
| .subscript e i => max e.frames i.frames + 2
| .call f args keywords => max f.frames (max (Expr.mostFrames args) (Expr.mostFrames keywords)) + 2
| .comparison e _ es => max e.frames (Expr.mostFrames es) + 2
| .tuple es | .list es => max 2 (Expr.mostFrames es) + 2
| .formatted es | .compound _ es => Expr.mostFrames es + 2

def Expr.mostFrames : List Expr → Nat
| [] => 0
| e :: es => max e.frames (Expr.mostFrames es)

end

mutual

/-- The most calls that are open at one time in a statement. A function is selected twice. -/
def Stmt.frames : Stmt → Nat
| .function _ _ decorators parameters result body =>
  max (max parameters.frames (Expr.mostFrames (decorators ++ result.toList))) (Stmt.mostFrames body) + 3
| .classDef _ decorators bases body =>
  max (max (Expr.mostFrames bases) (Expr.mostFrames decorators)) (Stmt.mostFrames body) + 2
| .returned e => Expr.mostFrames e.toList + 2
| .raised es | .plain es => Expr.mostFrames es + 2
| .assertion test message => max test.frames (Expr.mostFrames message.toList) + 2
| .expression e => e.frames + 2
| .pass => 2
| .compound _ es blocks => max (Expr.mostFrames es) (Stmt.blockFrames blocks) + 2

def Stmt.mostFrames : List Stmt → Nat
| [] => 0
| s :: ss => max s.frames (Stmt.mostFrames ss)

def Stmt.blockFrames : List (List Stmt) → Nat
| [] => 0
| b :: bs => max (Stmt.mostFrames b) (Stmt.blockFrames bs)

end

/-- The most calls that are open at one time in a module. -/
def Module.frames (module : List Stmt) : Nat :=
  Stmt.mostFrames module + 2

/-! ## Visits -/

/-- Goes through a part that has no functions in it. -/
def enter (needed room : Nat) : Except Trouble Unit :=
  if needed ≤ room then .ok () else .error .tooDeep

section Visit

variable {β : Type}

/-- Goes through the parts before some blocks, through the blocks, and through the parts after them. -/
def around (before after room : Nat) (blocks : Except Trouble (List β)) : Except Trouble (List β) := do
  enter before room
  let seen ← blocks
  enter after room
  return seen

variable (look : FunctionDef → Except Trouble β)

mutual

def Stmt.visit (room : Nat) : Stmt → Except Trouble (List β)
| .function line name decorators parameters result body => do
  let seen ← look ⟨line, name, decorators, body⟩
  return seen :: (← around (parameters.frames + 3) (Expr.mostFrames (decorators ++ result.toList) + 3) room
    (Stmt.visitAll (room - 3) body))
| .classDef _ decorators bases body =>
  around (Expr.mostFrames bases + 2) (Expr.mostFrames decorators + 2) room (Stmt.visitAll (room - 2) body)
| .compound _ es blocks => around (Expr.mostFrames es + 2) 0 room (Stmt.visitBlocks (room - 2) blocks)
| s => around s.frames 0 room (.ok [])

def Stmt.visitAll (room : Nat) : List Stmt → Except Trouble (List β)
| [] => return []
| s :: ss => return (← s.visit room) ++ (← Stmt.visitAll room ss)

def Stmt.visitBlocks (room : Nat) : List (List Stmt) → Except Trouble (List β)
| [] => return []
| b :: bs => return (← Stmt.visitAll room b) ++ (← Stmt.visitBlocks room bs)

end

def Module.visit (room : Nat) (module : List Stmt) : Except Trouble (List β) :=
  around 2 0 room (Stmt.visitAll look (room - 2) module)

end Visit

end ScenarioAudit.Syntax
