import ScenarioAudit.Syntax.Token
import ScenarioAudit.Text.NormalForm
import ScenarioAudit.Text.Property.Identifier
import ScenarioAudit.Text.CharacterName

/-!
# Reading tokens

A source text is read line by line. At the start of a line the columns of its text are measured twice, with
tabs to every eighth column and with tabs as single blanks, and both measures have to agree about what is
deeper. Inside brackets neither line ends nor columns count. `lexemes?` is `none` for a text that is no row of
tokens.
-/

namespace ScenarioAudit.Syntax

open ScenarioAudit.Text

/-- The depth of a line: with tabs to every eighth column, and with tabs as single blanks. -/
structure Columns where
  wide : Nat
  narrow : Nat
  deriving DecidableEq, Repr

/-- What has been opened and not closed yet. -/
structure Nesting where
  /-- The line that is read. -/
  line : Nat := 1
  /-- The open brackets, innermost first. -/
  brackets : List Char := []
  /-- The blocks that the line stands in, innermost first, without the outermost one. -/
  blocks : List Columns := []

/-- The most blocks and brackets that may be open. -/
def blockLimit : Nat := 99
def bracketLimit : Nat := 200

def Nesting.columns (n : Nesting) : Columns :=
  n.blocks.head?.getD ⟨0, 0⟩

/-- The text of a line after its indentation. -/
structure LineStart where
  columns : Columns
  rest : List Char
  /-- How many line ends were hidden by backslashes. -/
  joined : Nat := 0

/-- Measures the indentation of a line. A backslash at its end joins the next line to it, and the column of the
first such backslash counts unless it is the first column. -/
def lineStart? (kept : Nat) (joined : Nat) : Columns → List Char → Option LineStart
  | columns, [] => some ⟨if kept = 0 then columns else ⟨kept, kept⟩, [], joined⟩
  | columns, c :: s =>
    if c = ' ' then lineStart? kept joined ⟨columns.wide + 1, columns.narrow + 1⟩ s
    else if c = '\t' then lineStart? kept joined ⟨(columns.wide / 8 + 1) * 8, columns.narrow + 1⟩ s
    else if c = '\x0c' then lineStart? kept joined ⟨0, 0⟩ s
    else if c = '\\' then
      match s with
      | '\n' :: d :: t => lineStart? (if kept = 0 then columns.wide else kept) (joined + 1) columns (d :: t)
      | _ => none
    else some ⟨if kept = 0 then columns else ⟨kept, kept⟩, c :: s, joined⟩

/-- The block tokens in front of a line, and the blocks it stands in; `none` if its columns fit no block. -/
def reblock? (columns : Columns) : List Columns → Option (List Token × List Columns)
  | [] =>
    if columns = ⟨0, 0⟩ then some ([], [])
    else if 0 < columns.wide ∧ 0 < columns.narrow then some ([.indent], [columns])
    else none
  | b :: bs =>
    if columns = b then some ([], b :: bs)
    else if b.wide < columns.wide then
      if b.narrow < columns.narrow ∧ (b :: bs).length < blockLimit then
        some ([.indent], columns :: b :: bs)
      else none
    else if columns.wide < b.wide then
      let outer := bs.head?.getD ⟨0, 0⟩
      if outer.wide < columns.wide then none
      else (reblock? columns bs).map fun (ts, bs) => (.dedent :: ts, bs)
    else none

/-- A name or keyword; `none` if its characters form no identifier. -/
def nameToken? (letters : List Char) : Option Token :=
  if letters.all (fun c => c.toNat < 128) then
    let w := String.ofList letters
    some (if keywords.contains w then .keyword w else .name letters true)
  else
    match letters with
    | c :: s =>
      if identifierStartSet.contains c && s.all identifierPartSet.contains then
        let form := compatibilityForm letters
        some (.name form (form = letters))
      else none
    | [] => none

def Nesting.turn? (n : Nesting) (m : String) : Option Nesting :=
  match m.toList with
  | [c] =>
    if c = '(' ∨ c = '[' ∨ c = '\x7b' then
      if n.brackets.length < bracketLimit then some { n with brackets := c :: n.brackets } else none
    else if c = ')' ∨ c = ']' ∨ c = '\x7d' then
      match n.brackets with
      | o :: outer => if c = closingOf o then some { n with brackets := outer } else none
      | [] => none
    else some n
  | _ => some n

/-- The string literal at the start of a text from its quote on, and the rest. The tokens of expressions are
read by `inner?`. -/
def literalToken? (inner? : List Char → Option (List Token)) (marks : Marks) (s : List Char) :
    Option (Token × List Char × Nat) := do
  let (inside, rest) ← inside? s
  let lineEnds := inside.count '\n'
  if marks.formatted then
    return (.formatted (← pieces? characterNamed? inner? marks.raw inside), rest, lineEnds)
  else
    let codes ← decodeInside characterNamed? marks inside
    return (if marks.bytes then .bytes codes else .text codes, rest, lineEnds)

/-- Reads the tokens of a text from the start of a line, or from within one. Fuel bounds the number of steps. -/
def lexemesFrom? : Nat → Bool → Nesting → List Char → Option (List Lexeme)
  | 0, _, _, _ => none
  | fuel + 1, true, n, s =>
    match lineStart? 0 0 ⟨0, 0⟩ s with
    | none => none
    | some start =>
      let n := { n with line := n.line + start.joined }
      match start.rest with
      | [] => if n.brackets.isEmpty then some (n.blocks.map fun _ => ⟨n.line, .dedent⟩) else none
      | c :: rest =>
        if c = '\n' then lexemesFrom? fuel true { n with line := n.line + 1 } rest
        else if c = '#' then
          lexemesFrom? fuel true { n with line := n.line + 1 } ((rest.dropWhile (· != '\n')).drop 1)
        else if !n.brackets.isEmpty then lexemesFrom? fuel false n (c :: rest)
        else
          match reblock? start.columns n.blocks with
          | none => none
          | some (tokens, blocks) =>
            (lexemesFrom? fuel false { n with blocks := blocks } (c :: rest)).map fun ls =>
              tokens.map (⟨n.line, ·⟩) ++ ls
  | fuel + 1, false, n, s =>
    let next (t : Token) (n' : Nesting) (rest : List Char) : Option (List Lexeme) :=
      (lexemesFrom? fuel false n' rest).map (⟨n.line, t⟩ :: ·)
    match s with
    | [] => none
    | c :: rest =>
      if c = ' ' ∨ c = '\t' ∨ c = '\x0c' then lexemesFrom? fuel false n rest
      else if c = '#' then lexemesFrom? fuel false n (rest.dropWhile (· != '\n'))
      else if c = '\n' then
        let below := { n with line := n.line + 1 }
        if n.brackets.isEmpty then (lexemesFrom? fuel true below rest).map (⟨n.line, .newline⟩ :: ·)
        else lexemesFrom? fuel true below rest
      else if c = '\\' then
        match rest with
        | '\n' :: d :: t => lexemesFrom? fuel false { n with line := n.line + 1 } (d :: t)
        | _ => none
      else
        match literalStart? s with
        | some (marks, quoted) =>
          let inner? (e : List Char) : Option (List Token) :=
            (lexemesFrom? fuel true {} ('(' :: e ++ [')', '\n'])).map fun ls => ls.map Lexeme.token
          match literalToken? inner? marks quoted with
          | none => none
          | some (t, rest, lineEnds) => next t { n with line := n.line + lineEnds } rest
        | none =>
          if c.isDigit ∨ (c = '.' ∧ rest.head?.any Char.isDigit) then
            match numberLiteral? s with
            | none => none
            | some (value, rest) => next (.number value) n rest
          else if isNameChar c then
            let letters := s.takeWhile isNameChar
            match nameToken? letters with
            | none => none
            | some t => next t n (s.drop letters.length)
          else
            match markAt? s with
            | none => none
            | some m =>
              match n.turn? m with
              | none => none
              | some n' => next (.mark m) n' (s.drop m.length)

/-- The text with a line end after its last line. -/
def completed (s : List Char) : List Char :=
  if s.getLast? = some '\n' then s else s ++ ['\n']

def lexemes? (source : List Char) : Option (List Lexeme) :=
  let s := completed source
  lexemesFrom? (4 * s.length + 8) true {} s

end ScenarioAudit.Syntax
