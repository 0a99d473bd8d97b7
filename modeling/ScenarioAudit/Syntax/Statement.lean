import ScenarioAudit.Syntax.Choice
import ScenarioAudit.Syntax.Lexeme

/-!
# Reading statements

Statements on one line, statements with blocks, and whole modules. A block is read by a reader of a lower depth,
as expressions are. `Module.ofSource?` is the reader of a source text: `none` if the text does not follow the
grammar.
-/

namespace ScenarioAudit.Syntax

open ScenarioAudit.Text Reader

/-! ## Statements on one line -/

/-- The operators that change the place on their left. -/
def changingMarks : List String :=
  ["+=", "-=", "*=", "@=", "/=", "%=", "&=", "|=", "^=", "<<=", ">>=", "**=", "//="]

/-- What can be assigned: expressions in a row, or one that hands out values. -/
def assignedValue (expr : Inner) : Reader Expr := do
  if ← seesKeyword "yield" then yielded expr else row expr

def assignment (expr : Inner) : Reader Stmt := do
  let e ← assignedValue expr
  if ← takesMark ":" then
    if e.isPlace then
      let type ← expr .expression
      let value ← if ← takesMark "=" then some <$> assignedValue expr else pure none
      return .plain (e :: type :: value.toList)
    else failure
  else if ← sees (fun t => changingMarks.any (isMark · t)) then
    if e.isPlace then
      let _ ← take
      return .plain [e, ← assignedValue expr]
    else failure
  else
    match ← many (do mark "="; assignedValue expr) with
    | [] => return .expression e
    | values => if (e :: values.dropLast).all Expr.isTarget then return .plain (e :: values) else failure

/-- What is imported, perhaps under another name. -/
def imported {α : Type} (source : Reader α) : Reader Expr := do
  let _ ← source
  if ← takesKeyword "as" then
    let _ ← name
  return .compound .imported []

def importedNames : Reader (List Expr) := do
  if ← takesMark "*" then return [.compound .imported []]
  if ← takesMark "(" then
    let (es, _) ← commaList (imported name)
    mark ")"
    return es
  else
    let es ← separated "," (imported name)
    if ← seesMark "," then failure else return es

def importFrom : Reader Stmt := do
  keyword "from"
  let dots ← many (expect fun t => isMark "." t || isMark "..." t)
  if dots.isEmpty || !(← seesKeyword "import") then
    let _ ← dottedName
  keyword "import"
  return .plain (← importedNames)

def simpleStatement (expr : Inner) : Reader Stmt := do
  match ← peek with
  | some (.keyword "pass") =>
    keyword "pass"
    return .pass
  | some (.keyword "break") | some (.keyword "continue") =>
    let _ ← take
    return .plain []
  | some (.keyword "return") =>
    keyword "return"
    return .returned (← maybe (row expr))
  | some (.keyword "raise") =>
    keyword "raise"
    match ← maybe (expr .expression) with
    | none => return .raised []
    | some e =>
      if ← takesKeyword "from" then return .raised [e, ← expr .expression] else return .raised [e]
  | some (.keyword "assert") =>
    keyword "assert"
    let test ← expr .expression
    let message ← if ← takesMark "," then some <$> expr .expression else pure none
    return .assertion test message
  | some (.keyword "del") =>
    keyword "del"
    let (es, _) ← commaList (passing Expr.isDeletable (expr .primary))
    return .plain es
  | some (.keyword "global") | some (.keyword "nonlocal") =>
    let _ ← take
    let _ ← separated "," name
    return .plain []
  | some (.keyword "import") =>
    keyword "import"
    return .plain (← separated "," (imported dottedName))
  | some (.keyword "from") => importFrom
  | _ => assignment expr

def simpleStatements (expr : Inner) : Reader (List Stmt) := do
  let ss ← separated ";" (simpleStatement expr)
  let _ ← takesMark ";"
  expect isNewline
  return ss

/-! ## Statements with blocks -/

def isIndent : Token → Bool
  | .indent => true
  | _ => false

def isDedent : Token → Bool
  | .dedent => true
  | _ => false

def blockAfter (word : String) (block : Reader (List Stmt)) : Reader (List (List Stmt)) := do
  if ← takesKeyword word then
    mark ":"
    return [← block]
  else return []

def tested (expr : Inner) (block : Reader (List Stmt)) : Reader (Expr × List Stmt) := do
  let test ← named expr
  mark ":"
  return (test, ← block)

/-- A branch, with each further case as a branch in the last block of the one before it. -/
def nestedBranch (last : List (List Stmt)) : Expr × List Stmt → List (Expr × List Stmt) → Stmt
  | (test, body), [] => .compound .branch [test] (body :: last)
  | (test, body), next :: others => .compound .branch [test] [body, [nestedBranch last next others]]

def branch (expr : Inner) (block : Reader (List Stmt)) : Reader Stmt := do
  keyword "if"
  let first ← tested expr block
  let others ← many (do keyword "elif"; tested expr block)
  let last ← blockAfter "else" block
  return nestedBranch last first others

def conditionLoop (expr : Inner) (block : Reader (List Stmt)) : Reader Stmt := do
  keyword "while"
  let (test, body) ← tested expr block
  return .compound .loop [test] (body :: (← blockAfter "else" block))

def itemLoop (expr : Inner) (block : Reader (List Stmt)) : Reader Stmt := do
  keyword "for"
  let target ← targets expr
  keyword "in"
  let source ← row expr
  mark ":"
  let body ← block
  return .compound .loop [target, source] (body :: (← blockAfter "else" block))

def resource (expr : Inner) : Reader Expr := do
  let e ← expr .expression
  if ← takesKeyword "as" then
    let starred ← takesMark "*"
    let target ← passing Expr.isTarget (expr .primary)
    return .compound .resource [e, if starred then .starred target else target]
  else return .compound .resource [e]

def resources (expr : Inner) : Reader (List Expr) := do
  let enclosed : Reader (List Expr) := do
    mark "("
    let (items, _) ← commaList (resource expr)
    mark ")"
    mark ":"
    return items
  match ← maybe enclosed with
  | some items => return items
  | none =>
    let items ← separated "," (resource expr)
    mark ":"
    return items

def contextBlock (expr : Inner) (block : Reader (List Stmt)) : Reader Stmt := do
  keyword "with"
  let items ← resources expr
  return .compound .context items [← block]

def handler (expr : Inner) (block : Reader (List Stmt)) : Reader (Bool × Stmt) := do
  keyword "except"
  let grouped ← takesMark "*"
  if !grouped then
    if ← takesMark ":" then return (false, .compound .handler [] [← block])
  let e ← expr .expression
  if ← takesKeyword "as" then
    let _ ← name
  mark ":"
  return (grouped, .compound .handler [e] [← block])

def attempt (expr : Inner) (block : Reader (List Stmt)) : Reader Stmt := do
  keyword "try"
  mark ":"
  let body ← block
  match ← many (handler expr block) with
  | [] =>
    keyword "finally"
    mark ":"
    return .compound .attempt [] [body, ← block]
  | (grouped, first) :: others =>
    if others.any (·.1 != grouped) then failure
    let last ← blockAfter "else" block
    let final ← blockAfter "finally" block
    return .compound .attempt [] (body :: (first :: others.map Prod.snd) :: (last ++ final))

def functionDefinition (expr : Inner) (block : Reader (List Stmt)) (decorators : List Expr) (start : Nat) :
    Reader Stmt := do
  keyword "def"
  let id ← name
  mark "("
  let ps ← parameters expr true ")"
  mark ")"
  let result ← if ← takesMark "->" then some <$> expr .expression else pure none
  mark ":"
  return .function start id decorators ps result (← block)

def classDefinition (expr : Inner) (block : Reader (List Stmt)) (decorators : List Expr) : Reader Stmt := do
  keyword "class"
  let id ← name
  let (bases, keywords) ← if ← seesMark "(" then arguments expr false else pure ([], [])
  mark ":"
  return .classDef id decorators (bases ++ keywords) (← block)

/-- A function or class with decorators in front of it. -/
def decorated (expr : Inner) (block : Reader (List Stmt)) : Reader Stmt := do
  let decorators ← some1 do
    mark "@"
    let e ← named expr
    expect isNewline
    return e
  let start ← line
  if ← seesKeyword "class" then classDefinition expr block decorators
  else
    let _ ← takesKeyword "async"
    functionDefinition expr block decorators start

def asyncStatement (expr : Inner) (block : Reader (List Stmt)) : Reader Stmt := do
  let start ← line
  keyword "async"
  if ← seesKeyword "for" then itemLoop expr block
  else if ← seesKeyword "with" then contextBlock expr block
  else functionDefinition expr block [] start

def choice (expr : Inner) (depth : Nat) (block : Reader (List Stmt)) : Reader Stmt := do
  expect (isSoftKeyword "case")
  let pattern ← casePattern expr depth
  let guard ← if ← takesKeyword "if" then some <$> named expr else pure none
  mark ":"
  return .compound .choice (pattern :: guard.toList) [← block]

/-- A selection. Its first word is a keyword only if everything after it fits. -/
def selection (expr : Inner) (depth : Nat) (block : Reader (List Stmt)) : Reader Stmt := do
  expect (isSoftKeyword "match")
  let subject ← rowOf <$> commaList (starredOrNamed expr)
  unstarred subject
  mark ":"
  expect isNewline
  expect isIndent
  let cases ← some1 (choice expr depth block)
  expect isDedent
  return .compound .selection [subject] [cases]

def statement (expr : Inner) (depth : Nat) (block : Reader (List Stmt)) : Reader (List Stmt) := do
  let single (r : Reader Stmt) : Reader (List Stmt) := do return [← r]
  match ← peek with
  | some (.keyword "if") => single (branch expr block)
  | some (.keyword "while") => single (conditionLoop expr block)
  | some (.keyword "for") => single (itemLoop expr block)
  | some (.keyword "with") => single (contextBlock expr block)
  | some (.keyword "try") => single (attempt expr block)
  | some (.keyword "def") =>
    let start ← line
    single (functionDefinition expr block [] start)
  | some (.keyword "class") => single (classDefinition expr block [])
  | some (.keyword "async") => single (asyncStatement expr block)
  | some (.mark "@") => single (decorated expr block)
  | _ =>
    match ← maybe (selection expr depth block) with
    | some s => return [s]
    | none => simpleStatements expr

def readBlock (expr : Inner) (width : Nat) : Nat → Reader (List Stmt)
  | 0 => failure
  | depth + 1 => do
    if ← takes isNewline then
      expect isIndent
      let ss ← some1 (statement expr width (readBlock expr width depth))
      expect isDedent
      return ss.flatten
    else simpleStatements expr

/-- The statements of a source text; `none` if it does not follow the grammar. -/
def Module.ofSource? (source : List Char) : Option (List Stmt) := do
  let lexemes ← lexemes? source
  let depth := source.length + 8
  let expr := Expr.read depth
  match (many (statement expr depth (readBlock expr depth (blockLimit + 1)))).run lexemes with
  | some (ss, []) => some ss.flatten
  | _ => none

end ScenarioAudit.Syntax
