import ScenarioAudit.Number.Numeral
import ScenarioAudit.Number.Shortest
import ScenarioAudit.Text.CodePoints
import ScenarioAudit.Text.Quoted
import ScenarioAudit.Trouble

/-!
# Constants of source code

The literals of Python: what they are worth as a condition, when two of them are equal, and how they are shown.
Numbers of different kinds are equal if their values are, without rounding either side; a truth value counts as
the number 0 or 1.
-/

namespace ScenarioAudit.Syntax

open ScenarioAudit.Number ScenarioAudit.Text

/-- The value of a literal. -/
inductive Constant where
  /-- `None`. -/
  | nothing
  /-- `...`. -/
  | ellipsis
  | truth (value : Bool)
  | whole (value : Nat)
  | real (value : Binary64)
  /-- A multiple of the imaginary unit. -/
  | imaginary (value : Binary64)
  | text (value : CodePoints)
  /-- A row of bytes. -/
  | bytes (value : List Nat)
  deriving DecidableEq, Repr

namespace Constant

def isTrue : Constant → Bool
  | nothing => false
  | ellipsis => true
  | truth b => b
  | whole n => n != 0
  | real x | imaginary x => !x.isZero
  | text s => !s.isEmpty
  | bytes s => !s.isEmpty

def whole? : Constant → Option Nat
  | truth b => some (if b then 1 else 0)
  | whole n => some n
  | _ => none

def equal (a b : Constant) : Bool :=
  match a.whole?, b.whole? with
  | some m, some n => m == n
  | some m, none =>
    match b with
    | real y => y.equalInt m
    | imaginary y => m == 0 && y.isZero
    | _ => false
  | none, some n =>
    match a with
    | real x => x.equalInt n
    | imaginary x => n == 0 && x.isZero
    | _ => false
  | none, none =>
    match a, b with
    | nothing, nothing | ellipsis, ellipsis => true
    | real x, real y | imaginary x, imaginary y => x.equal y
    | real x, imaginary y | imaginary x, real y => x.isZero && y.isZero
    | text s, text t => s == t
    | bytes s, bytes t => s == t
    | _, _ => false

def escapeByte (quote : Char) (n : Nat) : List Char :=
  if n < 127 then escapeCode quote n else '\\' :: 'x' :: hexPadded 2 n

def quoteBytes (s : List Nat) : List Char :=
  let q := quoteFor (s.map Char.ofNat)
  'b' :: q :: s.flatMap (escapeByte q) ++ [q]

def dropZeroFraction (s : String) : String :=
  if s.endsWith ".0" then (s.dropEnd 2).toString else s

/-- How a constant is shown. A whole number with too many digits is not. -/
def display : Constant → Except Trouble CodePoints
  | nothing => .ok (codePoints "None".toList)
  | ellipsis => .ok (codePoints "Ellipsis".toList)
  | truth b => .ok (codePoints (if b then "True" else "False").toList)
  | whole n =>
    let digits := Nat.toDigits 10 n
    if digitLimit < digits.length then .error (.numeral .tooLarge) else .ok (codePoints digits)
  | real x => .ok (codePoints x.display.toList)
  | imaginary x => .ok (codePoints ((dropZeroFraction x.display) ++ "j").toList)
  | text s => .ok s
  | bytes s => .ok (codePoints (quoteBytes s))

end Constant

end ScenarioAudit.Syntax
