import ScenarioAudit.Syntax.Quoted

/-!
# Formatted literals

A formatted literal mixes text with expressions between braces. `pieces?` cuts one up; it is `none` for a malformed
literal. Expressions may stand in a format description, but not again inside that one's own description.
-/

namespace ScenarioAudit.Syntax

open ScenarioAudit.Text

/-- A piece of a formatted literal: a text, or an expression, alone or with a format description. -/
inductive Piece (α : Type) where
  | text (codes : CodePoints)
  | field (expression : α)
  | describedField (expression : α) (description : List (Piece α))
  deriving Repr

/-- Pieces with texts side by side as one text, and without empty texts. -/
def Piece.merge {α : Type} : List (Piece α) → List (Piece α)
  | [] => []
  | .text codes :: ps =>
    match codes, merge ps with
    | [], ps => ps
    | codes, .text more :: ps => .text (codes ++ more) :: ps
    | codes, ps => .text codes :: ps
  | p :: ps => p :: merge ps

/-- Where a piece of text in a formatted literal stops. -/
inductive TextStop where
  /-- At the end of the literal. -/
  | done
  /-- At a closing brace; the rest starts after it. -/
  | closed (rest : List Char)
  /-- At an opening brace; the rest starts after it. -/
  | opened (rest : List Char)

/-- The name of a character with its closing brace, and the rest. -/
def takeName (s : List Char) : List Char × List Char :=
  let name := s.takeWhile (· != '\x7d')
  (name ++ (s.drop name.length).take 1, s.drop (name.length + 1))

/-- A piece of text up to the next expression or the end. At the outermost level a brace is written twice; in a
format description it is not. Fuel bounds the number of characters. -/
def textPiece? (raw outermost : Bool) : Nat → List Char → Option (List Char × TextStop)
  | 0, _ => none
  | _, [] => some ([], .done)
  | n + 1, c :: s =>
    let brace (before : List Char) (c : Char) (s : List Char) : Option (List Char × TextStop) :=
      if outermost && s.head? == some c then
        (textPiece? raw outermost n (s.drop 1)).map fun (t, stop) => (before ++ c :: t, stop)
      else if c = '\x7b' then some (before, .opened s)
      else if outermost then none
      else some (before, .closed s)
    if c = '\x7b' ∨ c = '\x7d' then brace [] c s
    else if c = '\\' ∧ !raw then
      match s with
      | [] => some ([c], .done)
      | 'N' :: '\x7b' :: t =>
        let (name, rest) := takeName t
        (textPiece? raw outermost n rest).map fun (t, stop) => (c :: 'N' :: '\x7b' :: name ++ t, stop)
      | d :: t =>
        if d = '\x7b' ∨ d = '\x7d' then brace [c] d t
        else (textPiece? raw outermost n t).map fun (t, stop) => (c :: d :: t, stop)
    else (textPiece? raw outermost n s).map fun (t, stop) => (c :: t, stop)

/-- Where a scan through an expression is: in a string, or between brackets (innermost first). -/
inductive ExprPlace where
  | inString (quote : Char) (triple : Bool) (opened : List Char)
  | between (opened : List Char)

def closingOf (c : Char) : Char :=
  if c = '(' then ')' else if c = '[' then ']' else '\x7d'

def endsExpression (c : Char) : Bool :=
  c == '!' || c == ':' || c == '\x7d' || c == '='

/-- The text of an expression and what follows, from the character that ends it on. Backslashes and comments
may not stand in it. -/
def expressionText? : ExprPlace → List Char → Option (List Char × List Char)
  | _, [] => none
  | .inString q triple opened, c :: s =>
    if c = '\\' then none
    else if c = q then
      if triple then
        match s with
        | a :: b :: t =>
          if a = q ∧ b = q then
            (expressionText? (.between opened) t).map fun (e, rest) => (c :: a :: b :: e, rest)
          else (expressionText? (.inString q triple opened) (a :: b :: t)).map fun (e, rest) => (c :: e, rest)
        | s => (expressionText? (.inString q triple opened) s).map fun (e, rest) => (c :: e, rest)
      else (expressionText? (.between opened) s).map fun (e, rest) => (c :: e, rest)
    else (expressionText? (.inString q triple opened) s).map fun (e, rest) => (c :: e, rest)
  | .between opened, c :: s =>
    if c = '\\' ∨ c = '#' then none
    else if isQuote c then
      match s with
      | a :: b :: t =>
        if a = c ∧ b = c then
          (expressionText? (.inString c true opened) t).map fun (e, rest) => (c :: a :: b :: e, rest)
        else (expressionText? (.inString c false opened) (a :: b :: t)).map fun (e, rest) => (c :: e, rest)
      | s => (expressionText? (.inString c false opened) s).map fun (e, rest) => (c :: e, rest)
    else if c = '(' ∨ c = '[' ∨ c = '\x7b' then
      (expressionText? (.between (c :: opened)) s).map fun (e, rest) => (c :: e, rest)
    else
      match opened with
      | [] =>
        if endsExpression c ∨ c = '<' ∨ c = '>' then
          match s with
          | '=' :: t =>
            if c = ':' ∨ c = '\x7d' then some ([], c :: '=' :: t)
            else (expressionText? (.between []) t).map fun (e, rest) => (c :: '=' :: e, rest)
          | s =>
            if endsExpression c then some ([], c :: s)
            else (expressionText? (.between []) s).map fun (e, rest) => (c :: e, rest)
        else if c = ')' ∨ c = ']' then none
        else (expressionText? (.between []) s).map fun (e, rest) => (c :: e, rest)
      | o :: outer =>
        if c = ')' ∨ c = ']' ∨ c = '\x7d' then
          if c = closingOf o then
            (expressionText? (.between outer) s).map fun (e, rest) => (c :: e, rest)
          else none
        else (expressionText? (.between (o :: outer)) s).map fun (e, rest) => (c :: e, rest)

def isTokenBlank (c : Char) : Bool :=
  c == ' ' || c == '\t' || c == '\n' || c == '\x0c'

/-- The rest after an equals sign that asks for the text of an expression, and the blanks after it. -/
def dropShown : List Char → List Char
  | '=' :: s => s.dropWhile fun c => isTokenBlank c || c == '\r' || c == '\x0b'
  | s => s

/-- The text that stands for an expression when an equals sign after it asks for its text, with the equals sign. -/
def shownText (expr after : List Char) : List Char :=
  if after.head? = some '=' then expr ++ after.take (after.length - (dropShown after).length) else []

def dropConversion? : List Char → Option (List Char)
  | '!' :: c :: s => if c == 's' || c == 'r' || c == 'a' then some s else none
  | ['!'] => none
  | s => some s

section Pieces

variable {α : Type} (named? : List Char → Option Nat) (read? : List Char → Option α) (raw : Bool)

/-- The pieces of a formatted literal, or of a format description at a level above 0, and what follows the brace that
closes it. The expressions are read by `read?`. Fuel bounds their number. -/
def piecesFrom? : Nat → Nat → List Char → Option (List (Piece α) × List Char)
  | 0, _, _ => none
  | n + 1, level, s => do
    let (text, stop) ← textPiece? raw (level == 0) (s.length + 1) s
    let codes ← decodeInside named? { raw := raw } text
    match stop with
    | .done => if level = 0 then some ([.text codes], []) else none
    | .closed rest => some ([.text codes], rest)
    | .opened rest =>
      if 2 ≤ level then none
      else
        let (expr, after) ← expressionText? (.between []) rest
        if expr.all isTokenBlank then none
        else
          let value ← read? expr
          let before : List (Piece α) := [.text codes, .text (codePoints (shownText expr after))]
          let after ← dropConversion? (dropShown after)
          match after with
          | '\x7d' :: rest =>
            let (more, rest) ← piecesFrom? n level rest
            some (before ++ .field value :: more, rest)
          | ':' :: described =>
            let (description, rest) ← piecesFrom? n (level + 1) described
            let (more, rest) ← piecesFrom? n level rest
            some (before ++ .describedField value (Piece.merge description) :: more, rest)
          | _ => none

def pieces? (inside : List Char) : Option (List (Piece α)) :=
  (piecesFrom? named? read? raw (inside.length + 1) 0 inside).map Prod.fst

end Pieces

end ScenarioAudit.Syntax
