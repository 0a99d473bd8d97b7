import ScenarioAudit.Syntax.Reader

/-!
# Reading expressions

One reader for each kind of expression. A reader that has to read an expression inside another one is given the
readers of a lower depth, so the grammar is a list of plain definitions and the recursion is in one place,
`Expr.read`, by depth.
-/

namespace ScenarioAudit.Syntax

open ScenarioAudit.Text Reader

/-- The kinds of expressions that occur inside others. -/
inductive Goal where
  | expression
  /-- An expression without a condition and without `lambda`. -/
  | disjunction
  /-- An expression without comparisons. -/
  | sum
  | factor
  | primary
  /-- One expression or several with commas, some of them starred. -/
  | row

abbrev Inner := Goal → Reader Expr

/-! ## Targets -/

mutual

def Expr.isTarget : Expr → Bool
| .name _ | .attribute _ _ | .subscript _ _ => true
| .starred e => e.isTarget
| .tuple es | .list es => Expr.areTargets es
| _ => false

def Expr.areTargets : List Expr → Bool
| [] => true
| e :: es => e.isTarget && Expr.areTargets es

end

mutual

def Expr.isDeletable : Expr → Bool
| .name _ | .attribute _ _ | .subscript _ _ => true
| .tuple es | .list es => Expr.areDeletable es
| _ => false

def Expr.areDeletable : List Expr → Bool
| [] => true
| e :: es => e.isDeletable && Expr.areDeletable es

end

def Expr.isPlace : Expr → Bool
  | .name _ | .attribute _ _ | .subscript _ _ => true
  | _ => false

def passing {α : Type} (test : α → Bool) (r : Reader α) : Reader α := do
  let a ← r
  if test a then return a else failure

/-- The only item of a list without a comma at its end, else the tuple of its items. -/
def rowOf : List Expr × Bool → Expr
  | ([e], false) => e
  | (es, _) => .tuple es

def targets (inner : Inner) : Reader Expr :=
  let target : Reader Expr := do
    if ← takesMark "*" then return .starred (← inner .primary) else inner .primary
  passing Expr.isTarget (rowOf <$> commaList target)

/-! ## Expressions in a row -/

/-- Whether a name is assigned to inside an expression here. -/
def seesAssigned : Reader Bool := do
  match ← peek, ← peekSecond with
  | some (.name _ _), some t => return isMark ":=" t
  | _, _ => return false

/-- An expression, or one whose value is given a name. -/
def named (inner : Inner) : Reader Expr := do
  if ← seesAssigned then
    let id ← name
    mark ":="
    return .compound .assigned [.name id, ← inner .expression]
  else
    let e ← inner .expression
    if ← seesMark ":=" then failure else return e

def starredOrNamed (inner : Inner) : Reader Expr := do
  if ← takesMark "*" then return .starred (← inner .sum) else named inner

def starredOrPlain (inner : Inner) : Reader Expr := do
  if ← takesMark "*" then return .starred (← inner .sum) else inner .expression

def row (inner : Inner) : Reader Expr :=
  rowOf <$> commaList (starredOrPlain inner)

def yielded (inner : Inner) : Reader Expr := do
  keyword "yield"
  if ← takesKeyword "from" then return .compound .yielded [← inner .expression]
  else return .compound .yielded (← maybe (row inner)).toList

def clause (inner : Inner) : Reader Expr := do
  let _ ← takesKeyword "async"
  keyword "for"
  let target ← targets inner
  keyword "in"
  let source ← inner .disjunction
  let tests ← many (do keyword "if"; inner .disjunction)
  return .compound .clause (target :: source :: tests)

def clauses (inner : Inner) : Reader (List Expr) :=
  some1 (clause inner)

def seesClauses : Reader Bool :=
  sees fun t => isKeyword "for" t || isKeyword "async" t

def moreItems (item : Reader Expr) (closing : String) : Reader (List Expr) := do
  let items ← match ← maybe (commaList item) with
    | some (items, _) => pure items
    | none => pure []
  mark closing
  return items

def unstarred : Expr → Reader Unit
  | .starred _ => failure
  | _ => return ()

def parenthesised (inner : Inner) : Reader Expr := do
  mark "("
  if ← takesMark ")" then return .tuple []
  if ← seesKeyword "yield" then
    let e ← yielded inner
    mark ")"
    return e
  let first ← starredOrNamed inner
  if ← takesMark "," then return .tuple (first :: (← moreItems (starredOrNamed inner) ")"))
  unstarred first
  if ← seesClauses then
    let parts ← clauses inner
    mark ")"
    return .compound .comprehension (first :: parts)
  mark ")"
  return first

def bracketed (inner : Inner) : Reader Expr := do
  mark "["
  if ← takesMark "]" then return .list []
  let first ← starredOrNamed inner
  if ← takesMark "," then return .list (first :: (← moreItems (starredOrNamed inner) "]"))
  if ← takesMark "]" then return .list [first]
  unstarred first
  let parts ← clauses inner
  mark "]"
  return .compound .comprehension (first :: parts)

def entry (inner : Inner) : Reader (List Expr) := do
  if ← takesMark "**" then return [← inner .sum]
  let key ← inner .expression
  mark ":"
  return [key, ← inner .expression]

def moreEntries (inner : Inner) (first : List Expr) : Reader Expr := do
  let others ← if ← takesMark "," then
      match ← maybe (commaList (entry inner)) with
      | some (entries, _) => pure entries.flatten
      | none => pure []
    else pure []
  mark "\x7d"
  return .compound .dictionary (first ++ others)

def braced (inner : Inner) : Reader Expr := do
  mark "\x7b"
  if ← takesMark "\x7d" then return .compound .dictionary []
  if ← takesMark "**" then
    let first ← inner .sum
    moreEntries inner [first]
  else
    let assigned ← seesAssigned
    let first ← starredOrNamed inner
    if ← takesMark ":" then
      unstarred first
      if assigned then failure
      let value ← inner .expression
      if ← seesClauses then
        let parts ← clauses inner
        mark "\x7d"
        return .compound .comprehension (first :: value :: parts)
      moreEntries inner [first, value]
    else if ← takesMark "," then
      return .compound .set (first :: (← moreItems (starredOrNamed inner) "\x7d"))
    else if ← takesMark "\x7d" then
      return .compound .set [first]
    else
      unstarred first
      let parts ← clauses inner
      mark "\x7d"
      return .compound .comprehension (first :: parts)

/-! ## Calls and subscripts -/

inductive Argument where
  | positional (value : Expr)
  | starred (value : Expr)
  | keyword (value : Expr)
  | doubleStarred (value : Expr)

/-- Which arguments may still come: any, all but positional ones, or those with keywords. -/
inductive ArgumentPhase where
  | positional
  | keyword
  | doubleStarred

def argumentsOrdered : ArgumentPhase → List Argument → Bool
  | _, [] => true
  | .positional, .positional _ :: as | .positional, .starred _ :: as => argumentsOrdered .positional as
  | .positional, .keyword _ :: as | .keyword, .keyword _ :: as | .keyword, .starred _ :: as =>
    argumentsOrdered .keyword as
  | _, .doubleStarred _ :: as | .doubleStarred, .keyword _ :: as => argumentsOrdered .doubleStarred as
  | .keyword, .positional _ :: _ | .doubleStarred, .positional _ :: _ | .doubleStarred, .starred _ :: _ => false

def argument (inner : Inner) : Reader Argument := do
  if ← takesMark "*" then return .starred (← inner .expression)
  if ← takesMark "**" then return .doubleStarred (← inner .expression)
  match ← peek, ← peekSecond with
  | some (.name _ _), some (.mark "=") =>
    let _ ← name
    mark "="
    return .keyword (← inner .expression)
  | _, _ =>
    let e ← named inner
    if ← seesMark "=" then failure else return .positional e

/-- The arguments of a call by position, stars included, and those by keyword. -/
def splitArguments (as : List Argument) : List Expr × List Expr :=
  (as.filterMap fun
    | .positional e => some e
    | .starred e => some (.starred e)
    | _ => none,
   as.filterMap fun
    | .keyword e | .doubleStarred e => some (.compound .keyword [e])
    | _ => none)

/-- The arguments between parentheses; `lone` admits a single comprehension without parentheses of its own. -/
def arguments (inner : Inner) (lone : Bool) : Reader (List Expr × List Expr) := do
  mark "("
  if ← takesMark ")" then return ([], [])
  let first ← argument inner
  match first, lone && (← seesClauses) with
  | .positional e, true =>
    let parts ← clauses inner
    mark ")"
    return ([.compound .comprehension (e :: parts)], [])
  | _, _ =>
    let others ← many (do mark ","; argument inner)
    let _ ← takesMark ","
    mark ")"
    if argumentsOrdered .positional (first :: others) then return splitArguments (first :: others)
    else failure

def subscriptItem (inner : Inner) : Reader Expr := do
  if ← takesMark "*" then return .starred (← inner .expression)
  let assigned ← seesAssigned
  let start ← if ← seesMark ":" then pure [] else (fun e => [e]) <$> named inner
  let sliced ← if assigned then pure false else takesMark ":"
  if sliced then
    let stop ← maybe (inner .expression)
    let step ← if ← takesMark ":" then maybe (inner .expression) else pure none
    return .compound .slice (start ++ stop.toList ++ step.toList)
  else
    match start with
    | [e] => return e
    | _ => failure

/-- The items of a subscript between square brackets. -/
def subscripted (inner : Inner) : Reader Expr := do
  mark "["
  let items ← commaList (subscriptItem inner)
  mark "]"
  match items with
  | ([.starred e], false) => return .tuple [.starred e]
  | items => return rowOf items

/-- What follows an expression to make a larger one. -/
def trailer (inner : Inner) : Reader (Expr → Expr) := do
  if ← takesMark "." then
    let id ← name
    return fun e => .attribute e id
  else if ← seesMark "(" then
    let (args, keywords) ← arguments inner true
    return fun e => .call e args keywords
  else
    let index ← subscripted inner
    return fun e => .subscript e index

/-! ## Atoms -/

def literalTokens : Reader (List Token) :=
  some1 do
    match ← take with
    | .text s => return .text s
    | .bytes s => return .bytes s
    | .formatted es => return .formatted es
    | _ => failure

def isBytes : Token → Bool
  | .bytes _ => true
  | _ => false

def isFormatted : Token → Bool
  | .formatted _ => true
  | _ => false

def literalCodes : Token → List Nat
  | .text s | .bytes s => s
  | _ => []

def literalPieces : Token → List (Piece (List Token))
  | .text s => [.text s]
  | .formatted pieces => pieces
  | _ => []

section Pieces

variable (inner : Inner)

def fieldValue (tokens : List Token) : Option Expr :=
  (StateT.run (inner .row) (tokens.map (⟨0, ·⟩))).map Prod.fst

mutual

/-- The part of a formatted literal that a piece stands for. -/
def pieceExpr : Piece (List Token) → Option Expr
| .text codes => some (.constant (.text codes))
| .field tokens => return .compound .field [← fieldValue inner tokens]
| .describedField tokens description => do
  return .compound .field [← fieldValue inner tokens, .formatted (← pieceExprs description)]

def pieceExprs : List (Piece (List Token)) → Option (List Expr)
| [] => some []
| p :: ps => return (← pieceExpr p) :: (← pieceExprs ps)

end

end Pieces

/-- Adjacent literals are one: a row of bytes, a formatted literal if one of them is, or a text. -/
def literals (inner : Inner) : Reader Expr := do
  let ts ← literalTokens
  if ts.any isBytes then
    if ts.all isBytes then return .constant (.bytes (ts.flatMap literalCodes)) else failure
  else if ts.any isFormatted then
    return .formatted (← pieceExprs inner (Piece.merge (ts.flatMap literalPieces)))
  else
    return .constant (.text (ts.flatMap literalCodes))

/-- An expression that is no part of a larger one to its left. -/
def atom (inner : Inner) : Reader Expr := do
  match ← peek with
  | some (.name _ _) => return .name (← name)
  | some (.number value) =>
    let _ ← take
    return .constant value
  | some (.keyword w) =>
    let _ ← take
    match w with
    | "True" => return .constant (.truth true)
    | "False" => return .constant (.truth false)
    | "None" => return .constant .nothing
    | _ => failure
  | some (.mark m) =>
    match m with
    | "(" => parenthesised inner
    | "[" => bracketed inner
    | "..." =>
      let _ ← take
      return .constant .ellipsis
    | _ => braced inner
  | _ => literals inner

/-! ## Operators -/

def primary (inner : Inner) : Reader Expr := do
  let first ← atom inner
  return (← many (trailer inner)).foldl (fun e f => f e) first

def power (inner : Inner) : Reader Expr := do
  let base ← if ← takesKeyword "await" then (fun e => .compound .awaited [e]) <$> primary inner
    else primary inner
  if ← takesMark "**" then return .compound (.operator "**") [base, ← inner .factor] else return base

def operatorOf (ops : List String) : Token → Option String
  | .mark m => if ops.contains m then some m else none
  | _ => none

def factor (inner : Inner) : Reader Expr := do
  let signs ← many do
    match (← peek).bind (operatorOf ["+", "-", "~"]) with
    | some m =>
      let _ ← take
      return m
    | none => failure
  let e ← power inner
  return signs.foldr (fun m e => .compound (.operator m) [e]) e

def leftOperators : List (List String) :=
  [["|"], ["^"], ["&"], ["<<", ">>"], ["+", "-"], ["*", "/", "//", "%", "@"]]

def leftGrouped (operand : Reader Expr) : List (List String) → Reader Expr
  | [] => operand
  | ops :: tighter => do
    let (first, others) ← joined (operatorOf ops) (leftGrouped operand tighter)
    return others.foldl (fun e (m, f) => .compound (.operator m) [e, f]) first

def sum (inner : Inner) : Reader Expr :=
  leftGrouped (factor inner) leftOperators

def comparisonMark? : String → Option Comparison
  | "==" => some .equal
  | "!=" => some .notEqual
  | "<" => some .less
  | "<=" => some .lessOrEqual
  | ">" => some .greater
  | ">=" => some .greaterOrEqual
  | _ => none

def comparator : Reader Comparison := do
  match ← take with
  | .mark m => match comparisonMark? m with
    | some c => return c
    | none => failure
  | .keyword "in" => return .member
  | .keyword "not" =>
    keyword "in"
    return .notMember
  | .keyword "is" => if ← takesKeyword "not" then return .notSame else return .same
  | _ => failure

def comparison (inner : Inner) : Reader Expr := do
  let first ← sum inner
  match ← many (do return (← comparator, ← sum inner)) with
  | [] => return first
  | links => return .comparison first (links.map Prod.fst) (links.map Prod.snd)

/-- A comparison, negated any number of times. -/
def inversion (inner : Inner) : Reader Expr := do
  let nots ← many (keyword "not")
  let e ← comparison inner
  return nots.foldr (fun _ e => .negation e) e

def joinedBy (word : String) (operand : Reader Expr) : Reader Expr := do
  let first ← operand
  match ← many (do keyword word; operand) with
  | [] => return first
  | others => return .compound (.operator word) (first :: others)

def disjunction (inner : Inner) : Reader Expr :=
  joinedBy "or" (joinedBy "and" (inversion inner))

/-! ## Functions without a name -/

/-- A parameter, as far as the order of parameters is concerned. -/
inductive Parameter where
  | plain (defaulted : Bool)
  /-- The end of the parameters that are given by position only. -/
  | slash
  | star (named : Bool)
  | doubleStar

/-- How far a list of parameters has come. -/
inductive ParameterPhase where
  | before (some_ defaulted slash : Bool)
  | afterStar (needsName : Bool)
  | complete

def parametersOrdered : ParameterPhase → List Parameter → Bool
  | .afterStar needsName, [] => !needsName
  | _, [] => true
  | .before _ defaulted slash, .plain d :: ps =>
    (d || !defaulted) && parametersOrdered (.before true (defaulted || d) slash) ps
  | .before any defaulted slash, .slash :: ps =>
    any && !slash && parametersOrdered (.before any defaulted true) ps
  | .before _ _ _, .star named :: ps => parametersOrdered (.afterStar !named) ps
  | .before _ _ _, .doubleStar :: ps => parametersOrdered .complete ps
  | .afterStar _, .plain _ :: ps => parametersOrdered (.afterStar false) ps
  | .afterStar needsName, .doubleStar :: ps => !needsName && parametersOrdered .complete ps
  | .afterStar _, .slash :: _ | .afterStar _, .star _ :: _ | .complete, _ :: _ => false

def parameter (inner : Inner) (annotated : Bool) : Reader (Parameter × List Expr) := do
  let annotation (r : Reader Expr) : Reader Expr := do
    if annotated then
      if ← takesMark ":" then return .compound .parameter [← r]
    return .compound .parameter []
  if ← takesMark "/" then return (.slash, [])
  if ← takesMark "**" then
    let _ ← name
    return (.doubleStar, [← annotation (inner .expression)])
  if ← takesMark "*" then
    match ← maybe name with
    | none => return (.star false, [])
    | some _ => return (.star true, [← annotation (starredOrPlain inner)])
  let _ ← name
  let p ← annotation (inner .expression)
  if ← takesMark "=" then return (.plain true, [p, ← inner .expression])
  else return (.plain false, [p])

/-- A list of parameters, which ends in front of a given delimiter. -/
def parameters (inner : Inner) (annotated : Bool) (closing : String) : Reader Expr := do
  if ← seesMark closing then return .compound .parameters []
  let (ps, _) ← commaList (parameter inner annotated)
  if parametersOrdered (.before false false false) (ps.map Prod.fst) then
    return .compound .parameters (ps.flatMap Prod.snd)
  else failure

def lambda (inner : Inner) : Reader Expr := do
  keyword "lambda"
  let ps ← parameters inner false ":"
  mark ":"
  return .compound .lambda [ps, ← inner .expression]

def expression (inner : Inner) : Reader Expr := do
  if ← seesKeyword "lambda" then lambda inner
  else
    let e ← disjunction inner
    let condition : Reader (List Expr) := do
      keyword "if"
      let test ← disjunction inner
      keyword "else"
      return [test, ← inner .expression]
    match ← maybe condition with
    | some parts => return .compound .conditional (e :: parts)
    | none => return e

/-- Reads an expression of some kind that is nested no deeper than a given depth. -/
def Expr.read : Nat → Goal → Reader Expr
  | 0, _ => failure
  | depth + 1, goal => do
    match goal with
    | .expression => expression (Expr.read depth)
    | .disjunction => disjunction (Expr.read depth)
    | .sum => sum (Expr.read depth)
    | .factor => factor (Expr.read depth)
    | .primary => primary (Expr.read depth)
    | .row => row (Expr.read depth)

end ScenarioAudit.Syntax
