import ScenarioAudit.Proofs.Text.Lines
import ScenarioAudit.Quality.Structural

/-! # Plain step definitions

The statements that plain step definitions are made of, each as a line of source code (`PlainStatement.line`) and as a
tree (`PlainStatement.tree`), and what a body of such statements does (`plainFacts`). A plain step definition is written
with one statement on each line (`PlainStep.source`), and it is a tree as well (`PlainStep.tree`).
-/

namespace ScenarioAudit

open ScenarioAudit.Text ScenarioAudit.Syntax

/-- A letter, a digit or the underscore, all of them ASCII. -/
def isNameLetter (c : Char) : Bool :=
  c.isAlphanum || c == '_'

theorem nameLetter_ascii {c : Char} (h : isNameLetter c = true) : c.toNat < 128 := by
  rw [isNameLetter, Bool.or_eq_true, beq_iff_eq] at h
  rcases h with h | rfl
  · change (decide ('A'.val ≤ c.val ∧ c.val ≤ 'Z'.val) || (decide ('a'.val ≤ c.val) && decide (c.val ≤ 'z'.val)) ||
      (decide ('0'.val ≤ c.val) && decide (c.val ≤ '9'.val))) = true at h
    simp only [Bool.or_eq_true, Bool.and_eq_true, decide_eq_true_eq, UInt32.le_iff_toNat_le] at h
    have hc : c.toNat = c.val.toNat := rfl
    have hz : 'z'.val.toNat = 122 := rfl
    have hZ : 'Z'.val.toNat = 90 := rfl
    have h9 : '9'.val.toNat = 57 := rfl
    omega
  · decide

/-- An ASCII name that is no keyword. -/
structure PlainName where
  chars : List Char
  start : ∃ c rest, chars = c :: rest ∧ c.isDigit = false
  letters : ∀ c ∈ chars, isNameLetter c = true
  free : String.ofList chars ∉ Syntax.keywords

/-- A text that can stand between quotes as it is. -/
structure PlainText where
  chars : List Char
  clean : ∀ c ∈ chars, c ≠ '"' ∧ c ≠ '\'' ∧ c ≠ '\\' ∧ isLineBreak c = false

/-- The literal truths of plain statements. -/
inductive TrueLiteral where
  | true
  | one
  | notFalse
  | notZero

namespace TrueLiteral

def text : TrueLiteral → String
  | true => "True"
  | one => "1"
  | notFalse => "not False"
  | notZero => "not 0"

def tree : TrueLiteral → Expr
  | true => .constant (.truth Bool.true)
  | one => .constant (.whole 1)
  | notFalse => .negation (.constant (.truth false))
  | notZero => .negation (.constant (.whole 0))

end TrueLiteral

inductive PlainStatement where
  | pass
  | ellipsis
  | text (s : PlainText)
  | returnBare
  | returnNone
  | returnName (x : PlainName)
  | assertLiteral (l : TrueLiteral)
  | assertName (x : PlainName)
  | assign (x y : PlainName)
  | call (f x : PlainName)
  | raised (e : PlainName)

namespace PlainStatement

def line : PlainStatement → List Char
  | pass => "pass".toList
  | ellipsis => "...".toList
  | text s => '"' :: (s.chars ++ ['"'])
  | returnBare => "return".toList
  | returnNone => "return None".toList
  | returnName x => "return ".toList ++ x.chars
  | assertLiteral l => "assert ".toList ++ l.text.toList
  | assertName x => "assert ".toList ++ x.chars
  | assign x y => x.chars ++ (" = ".toList ++ y.chars)
  | call f x => f.chars ++ ('(' :: (x.chars ++ [')']))
  | raised e => "raise ".toList ++ e.chars

def tree : PlainStatement → Stmt
  | pass => .pass
  | ellipsis => .expression (.constant .ellipsis)
  | text s => .expression (.constant (.text (codePoints s.chars)))
  | returnBare => .returned none
  | returnNone => .returned (some (.constant .nothing))
  | returnName x => .returned (some (.name x.chars))
  | assertLiteral l => .assertion l.tree none
  | assertName x => .assertion (.name x.chars) none
  | assign x y => .plain [.name x.chars, .name y.chars]
  | call f x => .expression (.call (.name f.chars) [.name x.chars] [])
  | raised e => .raised [.name e.chars]

/-- Whether nothing after the statement is reached. -/
def isFinal : PlainStatement → Bool
  | returnBare | returnNone | returnName _ | raised _ => true
  | _ => false

/-- What the statement does. A call asserts if the name that is called holds one of the keywords. -/
def facts (keywords : List (List Char)) : PlainStatement → BodyFacts
  | pass | ellipsis | text _ | returnBare | returnNone => {}
  | returnName _ | assign _ _ => { statements := 1 }
  | assertLiteral _ => { statements := 1, assertions := 1, tautologies := 1 }
  | assertName _ => { statements := 1, assertions := 1 }
  | call f _ => { statements := 1, assertions := if keywords.any (isInside · (lower f.chars)) then 1 else 0 }
  | raised _ => { statements := 1, raises := true }

end PlainStatement

def plainFacts (keywords : List (List Char)) : List PlainStatement → BodyFacts
  | [] => {}
  | s :: ss => if s.isFinal then s.facts keywords else s.facts keywords + plainFacts keywords ss

/-! ## Step definitions -/

/-- A function that is decorated as a step and has a body of plain statements. -/
structure PlainStep where
  /-- The decorator. -/
  word : String
  isStep : word ∈ Syntax.stepDecorators
  text : PlainText
  name : PlainName
  parameter : PlainName
  indent : List Char
  indent_ne_nil : indent ≠ []
  indent_blank : ∀ c ∈ indent, c = ' ' ∨ c = '\t'
  body : List PlainStatement
  body_ne_nil : body ≠ []
  /-- Whether the last line is ended. -/
  ended : Bool

namespace PlainStep

def decoratorLine (f : PlainStep) : List Char :=
  '@' :: (f.word.toList ++ ('(' :: '"' :: (f.text.chars ++ ['"', ')'])))

def headLine (f : PlainStep) : List Char :=
  "def ".toList ++ (f.name.chars ++ ('(' :: (f.parameter.chars ++ [')', ':'])))

def bodyLines (f : PlainStep) : List (List Char) :=
  f.body.map fun s => f.indent ++ s.line

def lines (f : PlainStep) : List (List Char) :=
  f.decoratorLine :: f.headLine :: f.bodyLines

def source (f : PlainStep) : List Char :=
  joinLines f.lines ++ if f.ended then ['\n'] else []

def decorator (f : PlainStep) : Expr :=
  .call (.name f.word.toList) [.constant (.text (codePoints f.text.chars))] []

def tree (f : PlainStep) : Stmt :=
  .function 2 f.name.chars [f.decorator] (.compound .parameters [.compound .parameter []]) none
    (f.body.map PlainStatement.tree)

end PlainStep

end ScenarioAudit
