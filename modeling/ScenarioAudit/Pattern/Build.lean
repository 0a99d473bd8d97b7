import ScenarioAudit.Pattern.Basic

/-!
# Building patterns

The usual pieces: words, classes, blanks, digits, optional parts, and places such as the start of a line or
the edge of a word. Patterns are put together in sequence with `++`, and in order of preference with `|||`.
-/

namespace ScenarioAudit.Pattern

open ScenarioAudit.Text

instance : Append Pattern := ⟨Pattern.seq⟩

instance : HOr Pattern Pattern Pattern := ⟨Pattern.alt⟩

def char (c : Char) : Pattern :=
  one (· == c)

def word (s : String) : Pattern :=
  s.toList.foldr (fun c p => seq (char c) p) nothing

/-- A given lower-case text in any mixture of cases. -/
def caseless (s : String) : Pattern :=
  s.toList.foldr (fun c p => seq (one (isCaseless c)) p) nothing

def firstOf : List Pattern → Pattern
  | [] => one fun _ => false
  | [p] => p
  | p :: ps => alt p (firstOf ps)

def oneOf (words : List String) : Pattern :=
  firstOf (words.map word)

def opt (p : Pattern) : Pattern :=
  alt p nothing

/-- At least one character of a class, as many as possible. -/
def many1 (p : Char → Bool) : Pattern :=
  seq (one p) (many true p)

def blanks : Pattern :=
  many true isBlank

def blanks1 : Pattern :=
  many1 isBlank

def wordChars : Pattern :=
  many true isWordChar

def wordChars1 : Pattern :=
  many1 isWordChar

def digits : Pattern :=
  many1 isDecimalDigit

def notNewline (c : Char) : Bool :=
  c != '\n'

def inLine : Pattern :=
  many true notNewline

def edge : Pattern :=
  look fun before after => (before.any isWordChar) != (after.head?.any isWordChar)

def textStart : Pattern :=
  look fun before _ => before.isNone

def lineStart : Pattern :=
  look fun before _ => before.all (· == '\n')

def textEnd : Pattern :=
  look fun _ after => after.isEmpty || after == ['\n']

def lineEnd : Pattern :=
  look fun _ after => after.head?.all (· == '\n')

def whole (p : Pattern) : Pattern :=
  textStart ++ p ++ textEnd

/-- Texts in a row, with any blanks between them. -/
def spaced : List String → Pattern
  | [] => nothing
  | [w] => word w
  | w :: ws => word w ++ blanks ++ spaced ws

/-- Texts in a row with blanks between them, the first one at the edge of a word. -/
def spacedWord (ws : List String) : Pattern :=
  edge ++ spaced ws

def wholeWord (w : String) : Pattern :=
  edge ++ word w ++ edge

def charBlanks (c : Char) : Pattern :=
  char c ++ blanks

end ScenarioAudit.Pattern
