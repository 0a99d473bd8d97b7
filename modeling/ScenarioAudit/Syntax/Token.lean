import ScenarioAudit.Syntax.Formatted

/-!
# Tokens

The words of Python source code. A formatted literal carries its pieces, with the tokens of its expressions; all
other literals carry their value.
-/

namespace ScenarioAudit.Syntax

open ScenarioAudit.Text

inductive Token where
  /-- A name in its compatibility form, and whether it is written so. -/
  | name (id : List Char) (asWritten : Bool)
  | keyword (word : String)
  /-- An operator or a delimiter. -/
  | mark (text : String)
  | number (value : Constant)
  | text (value : CodePoints)
  | bytes (value : List Nat)
  | formatted (pieces : List (Piece (List Token)))
  /-- The end of a logical line. -/
  | newline
  /-- The start of a deeper block. -/
  | indent
  /-- The end of a block. -/
  | dedent
  deriving Repr

/-- A token and the line it starts on. -/
structure Lexeme where
  line : Nat
  token : Token
  deriving Repr

def keywords : List String :=
  ["False", "None", "True", "and", "as", "assert", "async", "await", "break", "class", "continue", "def",
    "del", "elif", "else", "except", "finally", "for", "from", "global", "if", "import", "in", "is", "lambda",
    "nonlocal", "not", "or", "pass", "raise", "return", "try", "while", "with", "yield"]

/-- The operators and delimiters of three characters. -/
def longMarks : List String :=
  ["...", "**=", "//=", ">>=", "<<="]

/-- The operators and delimiters of two characters. -/
def doubleMarks : List String :=
  ["!=", "%=", "&=", "**", "*=", "+=", "-=", "->", "//", "/=", ":=", "<<", "<=", "==", ">=", ">>", "@=",
    "^=", "|="]

def singleMarks : List Char :=
  "%&()*+,-./:;<=>@[]^\x7b|\x7d~".toList

/-- The operator or delimiter that a text starts with: the longest one. -/
def markAt? (s : List Char) : Option String :=
  let long := String.ofList (s.take 3)
  let double := String.ofList (s.take 2)
  if longMarks.contains long then some long
  else if doubleMarks.contains double then some double
  else (s.head?.filter singleMarks.contains).map String.singleton

end ScenarioAudit.Syntax
