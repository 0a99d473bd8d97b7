/-!
# Code, strings and comments

Source text is read once, from the left: every character belongs to code, to a quoted string or to a comment.
Braces are counted in code only. A string ends at its quote or at the end of the line, except between
backquotes; a backslash hides the character after it. Comments are `//` to the end of the line and `/* */`.

What the scanner asks about the braces of source text (which of them match, how deep a line is nested) is a
question about the list of marked characters. Comments are left out by a reader of its own, which goes over whole
strings and comments at a time.
-/

namespace ScenarioAudit.Scan

/-- What a character of source text belongs to. -/
inductive Part where
  | code
  | quoted
  | comment
  deriving DecidableEq, Repr

/-- A character and what it belongs to. -/
structure Marked where
  char : Char
  part : Part
  deriving DecidableEq, Repr

/-- Where in the source text a reader is. -/
inductive Mode where
  | code
  /-- In a string opened by a quote. -/
  | quoted (quote : Char)
  | lineComment
  | blockComment
  deriving DecidableEq, Repr

/-- The quote between which lines may end and backslashes mean nothing. -/
def backquote : Char :=
  '\x60'

/-- What a line feed belongs to that ends a string or a comment: it is read like any other character of code. -/
def feedPart (quotes : List Char) : Part :=
  if quotes.contains '\n' then .quoted else .code

/-- Where a reader is behind a line feed that ended a string or a comment. -/
def feedMode (quotes : List Char) : Mode :=
  if quotes.contains '\n' then .quoted '\n' else .code

/-- Marks every character of a source text; `quotes` are the characters that open a string. -/
def markFrom (quotes : List Char) : Mode → List Char → List Marked
  | _, [] => []
  | .code, c :: s =>
    if quotes.contains c then
      ⟨c, .quoted⟩ :: markFrom quotes (.quoted c) s
    else
      match c, s with
      | '/', '/' :: t => ⟨'/', .comment⟩ :: ⟨'/', .comment⟩ :: markFrom quotes .lineComment t
      | '/', '*' :: t => ⟨'/', .comment⟩ :: ⟨'*', .comment⟩ :: markFrom quotes .blockComment t
      | c, s => ⟨c, .code⟩ :: markFrom quotes .code s
  | .quoted q, c :: s =>
    if c = '\\' ∧ q ≠ backquote then
      match s with
      | [] => [⟨c, .quoted⟩]
      | d :: t => ⟨c, .quoted⟩ :: ⟨d, .quoted⟩ :: markFrom quotes (.quoted q) t
    else if c = q then
      ⟨c, .quoted⟩ :: markFrom quotes .code s
    else if c = '\n' ∧ q ≠ backquote then
      ⟨c, feedPart quotes⟩ :: markFrom quotes (feedMode quotes) s
    else
      ⟨c, .quoted⟩ :: markFrom quotes (.quoted q) s
  | .lineComment, c :: s =>
    if c = '\n' then ⟨c, feedPart quotes⟩ :: markFrom quotes (feedMode quotes) s
    else ⟨c, .comment⟩ :: markFrom quotes .lineComment s
  | .blockComment, c :: s =>
    match c, s with
    | '*', '/' :: t => ⟨'*', .comment⟩ :: ⟨'/', .comment⟩ :: markFrom quotes .code t
    | c, s => ⟨c, .comment⟩ :: markFrom quotes .blockComment s

/-- Marks every character of a source text that starts outside strings and comments. -/
def mark (quotes : List Char) (text : List Char) : List Marked :=
  markFrom quotes .code text

def Marked.isCode (m : Marked) (c : Char) : Bool :=
  m.part = .code && m.char = c

def Marked.nesting (m : Marked) : Int :=
  if m.isCode '\x7b' then 1 else if m.isCode '\x7d' then -1 else 0

def nestingOf (quotes text : List Char) : Int :=
  (mark quotes text).foldr (fun m n => m.nesting + n) 0

/-! ## Leaving comments out -/

/-- A string behind its opening quote, with the quote that ends it, and what comes after it. -/
def skipString (quote : Char) : List Char → List Char × List Char
  | [] => ([], [])
  | c :: s =>
    if c = '\\' ∧ quote ≠ backquote then
      match s with
      | [] => ([c], [])
      | d :: t => (c :: d :: (skipString quote t).1, (skipString quote t).2)
    else if c = quote then ([c], s)
    else if c = '\n' ∧ quote ≠ backquote then ([], c :: s)
    else (c :: (skipString quote s).1, (skipString quote s).2)

/-- What comes after a line comment: the line feed that ends it, and all behind it. -/
def skipLineComment (s : List Char) : List Char :=
  s.dropWhile (· != '\n')

/-- The line feeds of a block comment behind its start, and what comes after it. -/
def skipBlockComment : List Char → List Char × List Char
  | [] => ([], [])
  | '*' :: '/' :: s => ([], s)
  | c :: s =>
    (if c = '\n' then c :: (skipBlockComment s).1 else (skipBlockComment s).1, (skipBlockComment s).2)

theorem length_skipString (quote : Char) (s : List Char) : (skipString quote s).2.length ≤ s.length := by
  fun_induction skipString quote s with
  | case1 => exact Nat.le_refl 0
  | case2 c => exact Nat.zero_le _
  | case3 c h d t ih => exact Nat.le_succ_of_le (Nat.le_succ_of_le ih)
  | case4 s => exact Nat.le_succ _
  | case5 c s => exact Nat.le_refl _
  | case6 c s _ _ _ ih => exact Nat.le_succ_of_le ih

theorem length_skipLineComment (s : List Char) : (skipLineComment s).length ≤ s.length :=
  (List.dropWhile_sublist _).length_le

theorem length_skipBlockComment (s : List Char) : (skipBlockComment s).2.length ≤ s.length := by
  fun_induction skipBlockComment s with
  | case1 => exact Nat.le_refl 0
  | case2 s => exact Nat.le_succ_of_le (Nat.le_succ _)
  | case3 c s _ ih => exact Nat.le_succ_of_le ih

/-- The text without comments; the line feeds of a comment stay. -/
def withoutComments (quotes : List Char) : List Char → List Char
  | [] => []
  | c :: s =>
    if quotes.contains c then c :: ((skipString c s).1 ++ withoutComments quotes (skipString c s).2)
    else if c = '/' ∧ s.head? = some '/' then
      withoutComments quotes (skipLineComment s.tail)
    else if c = '/' ∧ s.head? = some '*' then
      (skipBlockComment s.tail).1 ++ withoutComments quotes (skipBlockComment s.tail).2
    else c :: withoutComments quotes s
termination_by text => text.length
decreasing_by
  · exact Nat.lt_succ_of_le (length_skipString c s)
  · exact Nat.lt_succ_of_le (Nat.le_trans (length_skipLineComment _) (List.tail_sublist s).length_le)
  · exact Nat.lt_succ_of_le (Nat.le_trans (length_skipBlockComment _) (List.tail_sublist s).length_le)
  · exact Nat.lt_succ_self _

/-! ## Braces -/

/-- The number of characters in front of the first opening brace of the code. -/
def openBrace? (quotes text : List Char) : Option Nat :=
  (mark quotes text).findIdx? fun m => m.isCode '\x7b'

/-- The number of marked characters in front of the closing brace that takes the nesting down to zero. -/
def closing? : Int → List Marked → Option Nat
  | _, [] => none
  | depth, m :: ms =>
    if m.isCode '\x7d' ∧ depth = 1 then some 0
    else (closing? (depth + m.nesting) ms).map (· + 1)

/-- The number of characters in front of the brace that matches the one the text starts with. -/
def matchingBrace? (quotes text : List Char) : Option Nat :=
  closing? 0 (mark quotes text)

end ScenarioAudit.Scan
