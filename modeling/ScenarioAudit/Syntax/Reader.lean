import ScenarioAudit.Syntax.Token
import ScenarioAudit.Syntax.Tree

/-!
# Readers

A reader takes lexemes from the front of a list and gives a value, or fails and takes nothing. Alternatives are
tried in order, each from the same place. A reader that has to repeat itself is bounded by the number of
lexemes left.
-/

namespace ScenarioAudit.Syntax

open ScenarioAudit.Text

abbrev Reader (α : Type) := StateT (List Lexeme) Option α

namespace Reader

def peek : Reader (Option Token) := do
  return (← get).head?.map Lexeme.token

def peekSecond : Reader (Option Token) := do
  return ((← get).drop 1).head?.map Lexeme.token

def line : Reader Nat := do
  return ((← get).head?.map Lexeme.line).getD 0

def take : Reader Token := do
  match ← get with
  | l :: ls => set ls; return l.token
  | [] => failure

def isMark (m : String) : Token → Bool
  | .mark t => t == m
  | _ => false

def isKeyword (w : String) : Token → Bool
  | .keyword t => t == w
  | _ => false

def isSoftKeyword (w : String) : Token → Bool
  | .name t asWritten => asWritten && t == w.toList
  | _ => false

def isNewline : Token → Bool
  | .newline => true
  | _ => false

def sees (p : Token → Bool) : Reader Bool := do
  return (← peek).any p

def seesMark (m : String) : Reader Bool :=
  sees (isMark m)

def seesKeyword (w : String) : Reader Bool :=
  sees (isKeyword w)

/-- Takes the next token if it is of some kind, and tells whether it was. -/
def takes (p : Token → Bool) : Reader Bool := do
  if ← sees p then
    let _ ← take
    return true
  else
    return false

def takesMark (m : String) : Reader Bool :=
  takes (isMark m)

def takesKeyword (w : String) : Reader Bool :=
  takes (isKeyword w)

def expect (p : Token → Bool) : Reader Unit := do
  if ← takes p then return () else failure

def mark (m : String) : Reader Unit :=
  expect (isMark m)

def keyword (w : String) : Reader Unit :=
  expect (isKeyword w)

def name : Reader (List Char) := do
  match ← take with
  | .name id _ => return id
  | _ => failure

/-- A value if there is one; else nothing is taken. -/
def maybe {α : Type} (r : Reader α) : Reader (Option α) := fun ls =>
  match r ls with
  | some (a, rest) => some (some a, rest)
  | none => some (none, ls)

def upTo {α : Type} (r : Reader α) : List Lexeme → Reader (List α)
  | [] => return []
  | _ :: ls => do
    match ← maybe r with
    | none => return []
    | some a => return a :: (← upTo r ls)

def many {α : Type} (r : Reader α) : Reader (List α) := do
  upTo r (← get)

def some1 {α : Type} (r : Reader α) : Reader (List α) := do
  let a ← r
  return a :: (← many r)

/-- At least one value, with a delimiter between each and the next. A delimiter that no value follows is not
taken. -/
def separated {α : Type} (delimiter : String) (r : Reader α) : Reader (List α) := do
  let a ← r
  return a :: (← many (do mark delimiter; r))

/-- Values with commas between them; tells whether a comma follows the last one, which is taken. -/
def commaList {α : Type} (r : Reader α) : Reader (List α × Bool) := do
  let items ← separated "," r
  return (items, ← takesMark ",")

def joined {α : Type} (operator : Token → Option String) (r : Reader α) : Reader (α × List (String × α)) := do
  let a ← r
  let step : Reader (String × α) := do
    match (← peek).bind operator with
    | some m =>
      let _ ← take
      return (m, ← r)
    | none => failure
  return (a, ← many step)

end Reader

end ScenarioAudit.Syntax
