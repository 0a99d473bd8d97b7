import ScenarioAudit.Text.CodeSet

/-!
# Lines and pieces

A text is cut into lines at every line-break character; a carriage return followed by a line feed is one
break, and a break at the very end opens no further line. Text files are read with every carriage return,
alone or before a line feed, turned into a line feed. `isInside` looks for one text in another.
-/

namespace ScenarioAudit.Text

def isLineBreak (c : Char) : Bool :=
  let n := c.toNat
  (10 ≤ n && n ≤ 13) || (28 ≤ n && n ≤ 30) || n == 133 || n == 8232 || n == 8233

def splitLines : List Char → List (List Char)
  | [] => []
  | '\r' :: '\n' :: s => [] :: splitLines s
  | c :: s =>
    if isLineBreak c then
      [] :: splitLines s
    else
      match splitLines s with
      | [] => [[c]]
      | l :: ls => (c :: l) :: ls

/-- Carriage returns, alone or before a line feed, become line feeds. -/
def universalNewlines : List Char → List Char
  | [] => []
  | '\r' :: '\n' :: s => '\n' :: universalNewlines s
  | '\r' :: s => '\n' :: universalNewlines s
  | c :: s => c :: universalNewlines s

/-- The pieces of a text between line feeds; there is always at least one. -/
def splitNewlines : List Char → List (List Char)
  | [] => [[]]
  | c :: s =>
    if c = '\n' then
      [] :: splitNewlines s
    else
      match splitNewlines s with
      | [] => [[c]]
      | l :: ls => (c :: l) :: ls

def joinWith (sep : List Char) : List (List Char) → List Char
  | [] => []
  | [l] => l
  | l :: ls => l ++ sep ++ joinWith sep ls

/-- The lines joined by line feeds, with none at the end. -/
def joinLines (ls : List (List Char)) : List Char :=
  joinWith ['\n'] ls

def countNewlines (s : List Char) : Nat :=
  s.count '\n'

/-! ## Pieces -/

/-- Whether a text stands somewhere in another one. -/
def isInside (needle : List Char) : List Char → Bool
  | [] => needle.isEmpty
  | c :: s => needle.isPrefixOf (c :: s) || isInside needle s

def isInsideString (needle hay : String) : Bool :=
  isInside needle.toList hay.toList

end ScenarioAudit.Text
