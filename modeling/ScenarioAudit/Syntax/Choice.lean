import ScenarioAudit.Syntax.Expression

/-!
# Reading the patterns of a selection

The patterns after `case`. A pattern is kept by the expressions and patterns in it; whether its names may be bound
again is not looked at.
-/

namespace ScenarioAudit.Syntax

open ScenarioAudit.Text Reader

abbrev InnerPattern := Reader Expr

def Expr.pattern (parts : List Expr) : Expr :=
  .compound .pattern parts

def isUnderscore (t : Token) : Bool :=
  isSoftKeyword "_" t

/-- Whether a name here is part of something longer. -/
def seesNameEnd : Reader Bool :=
  sees fun t => isMark "." t || isMark "(" t || isMark "=" t

def capturedName : Reader Unit := do
  if ← sees isUnderscore then failure
  let _ ← name
  if ← seesNameEnd then failure

def isImaginary : Constant → Bool
  | .imaginary _ => true
  | _ => false

def unsignedNumber : Reader Constant := do
  match ← take with
  | .number value => return value
  | _ => failure

/-- A number with an optional sign, or the sum of a real and an imaginary one. -/
def signedNumber : Reader Expr := do
  let negative ← takesMark "-"
  let value ← unsignedNumber
  let first : Expr := if negative then .compound (.operator "-") [.constant value] else .constant value
  match (← peek).bind (operatorOf ["+", "-"]) with
  | some m =>
    let _ ← take
    let other ← unsignedNumber
    if isImaginary other && !isImaginary value then
      return .compound (.operator m) [first, .constant other]
    else failure
  | none => return first

def comparedLiteral (inner : Inner) : Reader Expr := do
  match ← peek with
  | some (.keyword "None") | some (.keyword "True") | some (.keyword "False") => atom inner
  | some (.number _) | some (.mark "-") => signedNumber
  | _ => literals inner

/-- A literal as a pattern. A word that stands for a value is no expression there. -/
def literalPattern (inner : Inner) : Reader Expr := do
  let isWord ← sees fun t => isKeyword "None" t || isKeyword "True" t || isKeyword "False" t
  let e ← comparedLiteral inner
  return .pattern (if isWord then [] else [e])

def dottedName : Reader (List Char × List (List Char)) := do
  let first ← name
  return (first, ← many (do mark "."; name))

def dottedExpr : List Char × List (List Char) → Expr
  | (first, others) => others.foldl .attribute (.name first)

def attributePattern : Reader Expr := do
  match ← dottedName with
  | (_, []) => failure
  | id => return dottedExpr id

def classPattern (inner : InnerPattern) : Reader Expr := do
  let id ← dottedName
  mark "("
  if ← takesMark ")" then return .pattern [dottedExpr id]
  let member : Reader (Bool × Expr) := do
    match ← peek, ← peekSecond with
    | some (.name _ _), some (.mark "=") =>
      let _ ← name
      mark "="
      return (true, ← inner)
    | _, _ => return (false, ← inner)
  let (members, _) ← commaList member
  mark ")"
  let byName := members.dropWhile fun m => !m.1
  if byName.all (·.1) then return .pattern (dottedExpr id :: members.map (·.2)) else failure

def sequenceItem (inner : InnerPattern) : Reader (Bool × Expr) := do
  if ← takesMark "*" then
    if ← takes isUnderscore then return (true, .pattern [])
    capturedName
    return (true, .pattern [])
  else return (false, ← inner)

/-- A lone item without a comma after it, else the sequence of the items. -/
def sequenceOf : List (Bool × Expr) × Bool → Reader Expr
  | ([(several, p)], false) => if several then failure else return p
  | (items, _) => return .pattern (items.map (·.2))

def mappingItem (expr : Inner) (inner : InnerPattern) : Reader (Bool × List Expr) := do
  if ← takesMark "**" then
    capturedName
    return (true, [])
  else
    let key ← match ← maybe (comparedLiteral expr) with
      | some key => pure key
      | none => attributePattern
    mark ":"
    return (false, [key, ← inner])

def closedPattern (expr : Inner) (inner : InnerPattern) : Reader Expr := do
  if ← takes isUnderscore then return .pattern []
  match ← maybe capturedName with
  | some _ => return .pattern []
  | none =>
  match ← peek with
  | some (.name _ _) =>
    let valued : Reader Expr := do
      let e ← attributePattern
      if ← seesNameEnd then failure else return .pattern [e]
    match ← maybe valued with
    | some p => return p
    | none => classPattern inner
  | some (.mark "(") =>
    mark "("
    if ← takesMark ")" then return .pattern []
    let items ← commaList (sequenceItem inner)
    mark ")"
    sequenceOf items
  | some (.mark "[") =>
    mark "["
    if ← takesMark "]" then return .pattern []
    let (items, _) ← commaList (sequenceItem inner)
    mark "]"
    return .pattern (items.map (·.2))
  | some (.mark "\x7b") =>
    mark "\x7b"
    if ← takesMark "\x7d" then return .pattern []
    let (items, _) ← commaList (mappingItem expr inner)
    mark "\x7d"
    if items.dropLast.any (·.1) then failure else return .pattern (items.flatMap (·.2))
  | _ => literalPattern expr

def readPattern (expr : Inner) : Nat → Reader Expr
  | 0 => failure
  | depth + 1 => do
    let p ← match ← separated "|" (closedPattern expr (readPattern expr depth)) with
      | [p] => pure p
      | choices => pure (.pattern choices)
    if ← takesKeyword "as" then
      capturedName
      return .pattern [p]
    else return p

def casePattern (expr : Inner) (depth : Nat) : Reader Expr := do
  sequenceOf (← commaList (sequenceItem (readPattern expr depth)))

end ScenarioAudit.Syntax
