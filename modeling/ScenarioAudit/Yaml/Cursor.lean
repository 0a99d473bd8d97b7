import ScenarioAudit.Trouble

/-!
# A place in a YAML text

A cursor is the text that is left together with how far it is from the start, and in which line and column. The
byte-order mark takes no column.
-/

namespace ScenarioAudit.Yaml

open ScenarioAudit.Text

/-- Why a text gives no value. -/
inductive Fault where
  /-- It is not well formed. -/
  | malformed
  /-- It is, but one of its scalars has no value. -/
  | cause (trouble : Trouble)
  deriving Repr

/-- A place in a text. -/
structure Cursor where
  rest : List Char
  index : Nat := 0
  line : Nat := 0
  column : Nat := 0
  deriving Repr

def isBreak (c : Char) : Bool :=
  c == '\n' || c == '\r' || c == '\x85' || c == '\u2028' || c == '\u2029'

/-- A space, a tab, the end of a line or of the text. -/
def isGap : Option Char → Bool
  | none => true
  | some c => c == ' ' || c == '\t' || isBreak c

def isSpaceOrEnd : Option Char → Bool
  | none => true
  | some c => c == ' ' || isBreak c

def isLineEnd : Option Char → Bool
  | none => true
  | some c => isBreak c

namespace Cursor

def peek (c : Cursor) : Option Char :=
  c.rest.head?

/-- The character after a number of others. -/
def peekAt (c : Cursor) (n : Nat) : Option Char :=
  c.rest[n]?

def next (c : Cursor) : Cursor :=
  match c.rest with
  | [] => c
  | d :: s =>
    if isBreak d ∧ ¬(d = '\r' ∧ s.head? = some '\n') then ⟨s, c.index + 1, c.line + 1, 0⟩
    else ⟨s, c.index + 1, c.line, if d = '\uFEFF' then c.column else c.column + 1⟩

/-- The place after a number of characters. -/
def skip (c : Cursor) : Nat → Cursor
  | 0 => c
  | n + 1 => c.next.skip n

/-- The place after all characters of a kind. -/
def skipWhile (c : Cursor) (p : Char → Bool) : Cursor :=
  c.skip (c.rest.takeWhile p).length

def skipSpaces (c : Cursor) : Cursor :=
  c.skipWhile (· == ' ')

/-- The place after a comment, if one stands here. -/
def skipComment (c : Cursor) : Cursor :=
  if c.peek = some '#' then c.skipWhile (!isBreak ·) else c

/-- A line break as it counts in a text, and the place after it. Nothing if there is none. -/
def takeBreak (c : Cursor) : List Char × Cursor :=
  match c.rest with
  | '\r' :: '\n' :: _ => (['\n'], c.skip 2)
  | d :: _ =>
    if d = '\u2028' ∨ d = '\u2029' then ([d], c.next)
    else if isBreak d then (['\n'], c.next)
    else ([], c)
  | [] => ([], c)

/-- Whether three given characters stand here in front of a gap. -/
def seesMarker (c : Cursor) (m : List Char) : Bool :=
  m.isPrefixOf c.rest && isGap (c.peekAt 3)

/-- Whether a document starts or ends here, provided that this is the start of a line. -/
def seesDocumentMarker (c : Cursor) : Bool :=
  c.seesMarker ['-', '-', '-'] || c.seesMarker ['.', '.', '.']

end Cursor

end ScenarioAudit.Yaml
