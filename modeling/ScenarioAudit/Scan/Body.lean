import ScenarioAudit.Scan.Code
import ScenarioAudit.Scan.Languages
import ScenarioAudit.Text.Lines

/-!
# Bodies of step definitions

The lines that belong to a registration. In languages with braces they stand between a brace and the one that
matches it; in Python they are the lines indented deeper than the function. If no body can be found, the text
up to the next registration takes its place.
-/

namespace ScenarioAudit.Scan

open ScenarioAudit.Text Pattern

/-- The piece of a text between two positions. -/
def slice (text : List Char) (start stop : Nat) : List Char :=
  (text.drop start).take (stop - start)

/-- The position of the first line feed at or after a position, else the end of the text. -/
def endOfLine (text : List Char) (start : Nat) : Nat :=
  start + ((text.drop start).takeWhile (· != '\n')).length

/-- How many characters a number of lines have at the start of a text. -/
def linesLength : Nat → List Char → Nat
  | 0, _ => 0
  | _, [] => 0
  | n + 1, c :: s => linesLength (if c = '\n' then n else n + 1) s + 1

/-- The position after a number of lines, else the end of the text. -/
def afterLines (text : List Char) (start count : Nat) : Nat :=
  start + linesLength count (text.drop start)

/-- The position of the first opening brace of the code between two positions. -/
def openBraceIn? (r : ScanRules) (text : List Char) (start stop : Nat) : Option Nat :=
  (openBrace? r.quotes (slice text start stop)).map (start + ·)

/-! ## Braces -/

/-- The lines of a body, each with the nesting in front of it; a closing brace belongs one level further out. -/
def levelled (quotes : List Char) : Nat → List (List Char) → List BodyLine
  | _, [] => []
  | depth, l :: ls =>
    let line := strip l
    { level := if line.head? = some '\x7d' then depth - 1 else depth, text := line }
      :: levelled quotes ((depth + nestingOf quotes line).toNat) ls

def braceLines (quotes body : List Char) : List BodyLine :=
  levelled quotes 0 (splitLines (withoutComments quotes body))

/-- The last argument of a registration: a function named on the same line. -/
def handlerArgument : Pattern :=
  charBlanks ',' ++ star (wordChars1 ++ char '.') ++ capture 1 wordChars1 ++ blanks ++ charBlanks ')'
    ++ opt (char ';') ++ blanks ++ textEnd

def functionHead (name : List Char) : Pattern :=
  edge ++ word "func" ++ blanks1 ++ opt (plainList ++ blanks) ++ word (String.ofList name) ++ blanks ++ char '('

/-- The brace of a function written in a registration or named by it, and the name. -/
def handlerBrace? (r : ScanRules) (text : List Char) (stop windowEnd : Nat) : Option Nat × List Char :=
  let restEnd := endOfLine text stop
  let rest := slice text stop restEnd
  match (wholeWord "func").find rest with
  | some m => (openBraceIn? r text (stop + m.start.position) windowEnd, [])
  | none =>
    match handlerArgument.find rest with
    | none => (openBraceIn? r text restEnd windowEnd, [])
    | some m =>
      let name := m.captured 1
      match (functionHead name).find text with
      | none => (none, name)
      | some d => (openBraceIn? r text d.stop.position text.length, name)

/-- The body of a registration that stops at a position, in a language with braces, and the function that it
names. `limit` is where the next registration starts. -/
def braceBody (r : ScanRules) (lookahead : Nat) (text : List Char) (stop limit : Nat) :
    List BodyLine × List Char :=
  let windowEnd := afterLines text stop lookahead
  let (opening, name) :=
    match r.style with
    | .atRegistration => (some (stop - 1), [])
    | .inlineOrNamed => handlerBrace? r text stop windowEnd
    | _ => (openBraceIn? r text (endOfLine text stop) (min windowEnd limit), [])
  match opening with
  | none => (braceLines r.quotes (slice text stop limit), name)
  | some i =>
    let closing := (matchingBrace? r.quotes (text.drop i)).map (i + ·)
    (braceLines r.quotes (slice text (i + 1) (closing.getD limit)), name)

/-! ## Indentation -/

/-- The column after blanks that start at a column; a tab goes to the next multiple of eight. -/
def columnAfter : Nat → List Char → Nat
  | n, [] => n
  | n, c :: s => columnAfter (if c = '\t' then n + (8 - n % 8) else n + 1) s

def indentOf (line : List Char) : Nat :=
  columnAfter 0 (line.takeWhile isBlank)

/-- The head of a function: its indentation is captured under 1, its name under 2. -/
def definitionHead : Pattern :=
  textStart ++ capture 1 (many true fun c => c == ' ' || c == '\t') ++ opt (word "async" ++ blanks1)
    ++ word "def" ++ blanks1 ++ capture 2 wordChars1

def inlineBody : Pattern :=
  charBlanks ')' ++ opt (word "->" ++ blanks ++ many1 (· != ':')) ++ charBlanks ':'
    ++ capture 1 (one (fun c => !isBlank c) ++ inLine) ++ textEnd

/-- A text in triple quotes at the start of a body. -/
def docText : Pattern :=
  textStart ++ blanks ++ many true isStringMark ++ capture 1 (oneOf ["\"\"\"", "'''"])
    ++ many false (fun _ => true) ++ same 1

/-- The lines below the head of a function that are indented deeper; blank lines are kept as empty ones. -/
def deeperLines (column : Nat) : List (List Char) → List (List Char)
  | [] => []
  | l :: ls =>
    if isAllBlank l then [] :: deeperLines column ls
    else if (l.takeWhile isBlank).length ≤ column then []
    else l :: deeperLines column ls

def withoutDoc (text : List Char) : List Char :=
  match docText.matchAt (Spot.start text) with
  | some m => m.stop.after
  | none => text

/-- A line that is neither blank nor a comment. -/
def isCodeLine (line : List Char) : Bool :=
  match stripLeft line with
  | [] => false
  | c :: _ => c != '#'

/-- The code lines of a body, the deeper ones one level down. -/
def codeLines (body : List (List Char)) : List BodyLine :=
  match (splitLines (withoutDoc (joinLines body))).filter isCodeLine with
  | [] => []
  | l :: ls => (l :: ls).map fun c => ⟨if indentOf c ≤ indentOf l then 0 else 1, strip c⟩

inductive HeadEnd where
  /-- With a body on the same line. -/
  | inline (body : List Char)
  /-- The lines below it follow. -/
  | below (rest : List (List Char))

/-- Looks for the end of a head in at most `count` lines: a line that ends in a colon, or holds the body. -/
def headEnd : Nat → List (List Char) → HeadEnd
  | 0, ls => .below (ls.drop 1)
  | _, [] => .below []
  | n + 1, l :: ls =>
    if (stripRight l).getLast? = some ':' then .below ls
    else
      match inlineBody.find l with
      | some m => .inline (strip (m.captured 1))
      | none => headEnd n ls

/-- The first head of a function among lines, with the lines that start there. -/
def findDefinition : List (List Char) → Option (Pattern.Match × List (List Char))
  | [] => none
  | l :: ls =>
    match definitionHead.matchAt (Spot.start l) with
    | some m => some (m, l :: ls)
    | none => findDefinition ls

/-- The body of the function after a registration on the first of some lines, and its name. -/
def indentBody (lookahead : Nat) (lines : List (List Char)) : List BodyLine × List Char :=
  let near := lines.take lookahead
  match findDefinition near with
  | none => ([], [])
  | some (m, fromHead) =>
    let rest := lines.drop (near.length - fromHead.length)
    match headEnd fromHead.length rest with
    | .inline body => ([⟨0, body⟩], m.captured 2)
    | .below ls => (codeLines (deeperLines (columnAfter 0 (m.captured 1)) ls), m.captured 2)

end ScenarioAudit.Scan
