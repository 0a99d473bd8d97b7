import ScenarioAudit.Pattern.Build
import ScenarioAudit.Quality.Binding
import ScenarioAudit.Text.Lines

/-!
# Scanner rules

What the scanner knows about a language is a value of `ScanRules`: how a step registration looks, how the body
that belongs to it is found, and which lines are placeholders, assertions, tautologies or reports of an error.
The facts of a body are counted line by line.
-/

namespace ScenarioAudit.Scan

open ScenarioAudit.Text Pattern

/-- How the body of a registration is found. -/
inductive BodyStyle where
  /-- The registration ends with the brace that opens the body. -/
  | atRegistration
  /-- A function written in the registration, or one that the registration names. -/
  | inlineOrNamed
  /-- The first block after the line of the registration. -/
  | nextBlock
  /-- The lines that are indented deeper than the function after the registration. -/
  | indented
  deriving DecidableEq, Repr

/-- What the scanner knows about a language. A registration captures the kind of step under 1, and the text of
the step under 3 if it is part of the pattern. -/
structure ScanRules where
  language : String
  /-- The endings of source files; none admits every file. -/
  suffixes : List String
  registration : Pattern
  style : BodyStyle
  /-- The characters that open a string. -/
  quotes : List Char := ['"', '\'']
  placeholders : List Pattern := []
  assertions : List Pattern := []
  tautologies : List Pattern := []
  raises : List Pattern := []
  /-- What ends a body if it stands at the top level. -/
  terminator : Pattern := textStart ++ oneOf ["return", "throw"] ++ edge

/-- A line of a body without the blanks around it, and how deep it is nested. -/
structure BodyLine where
  level : Nat
  text : List Char
  deriving DecidableEq, Repr

/-- A name in front of an opening parenthesis, perhaps with an exclamation mark; the name is captured. -/
def callName : Pattern :=
  capture 1 (one (fun c => ('A' ≤ c && c ≤ 'Z') || ('a' ≤ c && c ≤ 'z') || c == '_') ++ wordChars)
    ++ blanks ++ opt (char '!') ++ blanks ++ char '('

/-- Whether a character can stand in a line of brackets and separators. -/
def isSeparator (c : Char) : Bool :=
  ['\x7b', '\x7d', '(', ')', '[', ']', ';', ','].contains c || isBlank c

/-- Whether some name contains a keyword; both are compared in lower case. -/
def namesKeyword (keywords : List String) (names : List (List Char)) : Bool :=
  names.any fun n => keywords.any fun k => isInside (lower k.toList) (lower n)

namespace ScanRules

def anyOccurs (ps : List Pattern) (line : List Char) : Bool :=
  ps.any fun p => p.occurs line

/-- Whether a line asserts: it looks like an assertion, or calls a function whose name holds a keyword. -/
def isAssertion (r : ScanRules) (keywords : List String) (line : List Char) : Bool :=
  anyOccurs r.assertions line ||
    namesKeyword keywords ((callName.findAll line).map fun m => m.captured 1)

/-- Whether a line does nothing but open and close brackets. -/
def isBare (line : List Char) : Bool :=
  line.all isSeparator

def lineFacts (r : ScanRules) (keywords : List String) (line : List Char) : BodyFacts :=
  if isBare line || anyOccurs r.placeholders line then {}
  else
    let asserts := r.isAssertion keywords line
    { statements := 1
      assertions := if asserts then 1 else 0
      tautologies := if asserts && anyOccurs r.tautologies line then 1 else 0
      raises := anyOccurs r.raises line }

/-- Whether a line ends the body: nothing after it is reached. -/
def isTerminal (r : ScanRules) (line : BodyLine) : Bool :=
  line.level = 0 && !isBare line.text && r.terminator.startsAt line.text

def facts (r : ScanRules) (keywords : List String) : List BodyLine → BodyFacts
  | [] => {}
  | l :: ls =>
    if r.isTerminal l then r.lineFacts keywords l.text
    else r.lineFacts keywords l.text + r.facts keywords ls

end ScanRules

end ScenarioAudit.Scan
