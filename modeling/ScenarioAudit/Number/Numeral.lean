import ScenarioAudit.Number.Binary64
import ScenarioAudit.Text.Case
import ScenarioAudit.Text.Quoted
import ScenarioAudit.Text.Blank

/-!
# Numerals in text

Whole numbers and decimals as people type them: surrounded by blanks, with a sign, with single underscores
between digits, in the decimal digits of any script.
-/

namespace ScenarioAudit.Number

open ScenarioAudit.Text

/-- Why a text is no numeral. -/
inductive NumeralError where
  | notWhole (radix : Nat) (text : String)
  | tooLong (digits : Nat)
  | notDecimal (text : String)
  /-- A whole number has too many digits to be written. -/
  | tooLarge
  deriving DecidableEq, Repr

/-- The longest whole number that is read from text. -/
def digitLimit : Nat := 4300

def NumeralError.message : NumeralError → String
  | .notWhole radix text =>
    "invalid literal for int() with base " ++ toString radix ++ ": "
      ++ String.ofList ((quote text.toList).take 200)
  | .tooLong digits =>
    "Exceeds the limit (4300 digits) for integer string conversion: value has " ++ toString digits
      ++ " digits; use sys.set_int_max_str_digits() to increase the limit"
  | .tooLarge =>
    "Exceeds the limit (4300 digits) for integer string conversion; "
      ++ "use sys.set_int_max_str_digits() to increase the limit"
  | .notDecimal text => "could not convert string to float: " ++ quoteString text

/-- Digits of any script become ASCII digits, and blanks beyond ASCII become spaces. -/
def plainNumeral (s : List Char) : List Char :=
  s.map fun c =>
    if c.toNat < 127 then c
    else if isBlank c then ' '
    else if isDecimalDigit c then Char.ofNat ('0'.toNat + digitValue c)
    else '?'

def isNumeralBlank (c : Char) : Bool :=
  c == ' ' || (9 ≤ c.toNat && c.toNat ≤ 13)

def trimNumeral (s : List Char) : List Char :=
  ((s.dropWhile isNumeralBlank).reverse.dropWhile isNumeralBlank).reverse

def takeSign : List Char → Bool × List Char
  | '-' :: s => (true, s)
  | '+' :: s => (false, s)
  | s => (false, s)

def digitsValue (ds : List Char) : Nat :=
  ds.foldl (fun n c => n * 10 + (c.toNat - '0'.toNat)) 0

/-- What stands before a character of a run of digits. -/
inductive DigitPlace where
  | start
  | afterDigit
  | afterUnderscore
  deriving DecidableEq

/-- Digits with single underscores between them: the digits, and what follows. `none` if an underscore is
not between two digits. -/
def takeDigits : DigitPlace → List Char → Option (List Char × List Char)
  | place, [] => if place = .afterUnderscore then none else some ([], [])
  | place, c :: s =>
    if c.isDigit then (takeDigits .afterDigit s).map fun (ds, t) => (c :: ds, t)
    else if c = '_' then
      if place = .afterDigit then takeDigits .afterUnderscore s else none
    else if place = .afterUnderscore then none
    else some ([], c :: s)

def wholeOfText (text : String) : Except NumeralError Int :=
  let (neg, body) := takeSign (trimNumeral (plainNumeral text.toList))
  match takeDigits .start body with
  | none => .error (.notWhole 10 text)
  | some (ds, rest) =>
    if digitLimit < ds.length then .error (.tooLong ds.length)
    else if ds.isEmpty || !rest.isEmpty then .error (.notWhole 10 text)
    else .ok (if neg then -(digitsValue ds : Int) else digitsValue ds)

/-- A whole number as text. One with more digits than are read from text is not written either. -/
def textOfWhole (i : Int) : Except NumeralError String :=
  if Nat.pow 10 digitLimit ≤ i.natAbs then .error .tooLarge else .ok (toString i)

/-- Removes the single underscores between digits; `none` if one stands elsewhere. -/
def dropUnderscores : Bool → List Char → Option (List Char)
  | _, [] => some []
  | afterDigit, '_' :: s =>
    match s with
    | d :: _ => if afterDigit && d.isDigit then dropUnderscores false s else none
    | [] => none
  | _, c :: s => (dropUnderscores c.isDigit s).map (c :: ·)

def exponentOf? : List Char → Option Int
  | [] => some 0
  | c :: s =>
    if c == 'e' || c == 'E' then
      let (neg, ds) := takeSign s
      if ds.isEmpty || !ds.all Char.isDigit then none
      else some (if neg then -(digitsValue ds : Int) else digitsValue ds)
    else
      none

/-- An unsigned decimal: digits, a point, digits, an exponent; some digit has to be there. -/
def decimalOf? (neg : Bool) (s : List Char) : Option Binary64 :=
  let whole := s.takeWhile Char.isDigit
  let afterWhole := s.dropWhile Char.isDigit
  let (fraction, rest) :=
    match afterWhole with
    | '.' :: t => (t.takeWhile Char.isDigit, t.dropWhile Char.isDigit)
    | t => ([], t)
  if whole.isEmpty && fraction.isEmpty then none
  else (exponentOf? rest).map fun e =>
    Binary64.ofDecimal neg (digitsValue (whole ++ fraction)) (e - fraction.length)

/-- A decimal, an infinity or no number, written in text. -/
def binaryOfText (text : String) : Except NumeralError Binary64 :=
  let result := do
    let plain ← dropUnderscores false (trimNumeral (plainNumeral text.toList))
    let (neg, body) := takeSign plain
    let folded := body.map Char.toLower
    if folded = "inf".toList ∨ folded = "infinity".toList then some (.infinite neg)
    else if folded = "nan".toList then some .nan
    else decimalOf? neg body
  match result with
  | some x => .ok x
  | none => .error (.notDecimal text)

end ScenarioAudit.Number
