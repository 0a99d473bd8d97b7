import ScenarioAudit.Syntax.Constant

/-!
# Number literals

Whole numbers in four radices, decimals with a point or an exponent, and imaginary numbers. Single underscores
may stand between digits. A literal ends where no identifier character follows, or where one of a few words
does that can follow a number in an expression.
-/

namespace ScenarioAudit.Syntax

open ScenarioAudit.Number ScenarioAudit.Text

/-- A character that can be part of an identifier, as far as finding its end is concerned. -/
def isNameChar (c : Char) : Bool :=
  c.isAlphanum || c == '_' || 128 ≤ c.toNat

/-- The words that may follow a number without a blank. -/
def wordsAfterNumber : List String :=
  ["and", "else", "for", "if", "in", "is", "or", "not"]

def canEndNumber (rest : List Char) : Bool :=
  let w := rest.takeWhile isNameChar
  w.isEmpty || wordsAfterNumber.contains (String.ofList w)

/-- Digits with single underscores in front of some of them, and the rest; `none` if an underscore is in front
of no digit. -/
def digitRun (isDigit : Char → Bool) : List Char → Option (List Char × List Char)
  | [] => some ([], [])
  | '_' :: s =>
    match s with
    | d :: _ => if isDigit d then digitRun isDigit s else none
    | [] => none
  | c :: s =>
    if isDigit c then (digitRun isDigit s).map fun (ds, rest) => (c :: ds, rest)
    else some ([], c :: s)

def hexDigit? (c : Char) : Option Nat :=
  if c.isDigit then some (c.toNat - '0'.toNat)
  else if 'a' ≤ c ∧ c ≤ 'f' then some (c.toNat - 'a'.toNat + 10)
  else if 'A' ≤ c ∧ c ≤ 'F' then some (c.toNat - 'A'.toNat + 10)
  else none

def radixValue (radix : Nat) (ds : List Char) : Nat :=
  ds.foldl (fun n d => n * radix + (hexDigit? d).getD 0) 0

def radixLiteral? (radix : Nat) (s : List Char) : Option (Constant × List Char) := do
  let (ds, rest) ← digitRun (fun c => (hexDigit? c).any (· < radix)) s
  if ds.isEmpty || (rest.head?.any Char.isDigit) || !canEndNumber rest then none
  else some (.whole (radixValue radix ds), rest)

/-- The digits at the start of a text if it starts with one. -/
def decimalRun? (s : List Char) : Option (List Char × List Char) :=
  if s.head?.any Char.isDigit then digitRun Char.isDigit s else some ([], s)

def fraction? : List Char → Option (List Char × List Char)
  | '.' :: s => (decimalRun? s).map fun (ds, rest) => ('.' :: ds, rest)
  | s => some ([], s)

def exponent? : List Char → Option (List Char × List Char)
  | [] => some ([], [])
  | c :: s =>
    if c == 'e' || c == 'E' then
      match s with
      | sign :: t =>
        if sign == '+' || sign == '-' then
          if t.head?.any Char.isDigit then
            (digitRun Char.isDigit t).map fun (ds, rest) => ('e' :: sign :: ds, rest)
          else none
        else if sign.isDigit then
          (digitRun Char.isDigit s).map fun (ds, rest) => ('e' :: ds, rest)
        else some ([], c :: s)
      | [] => some ([], [c])
    else some ([], c :: s)

/-- A whole number without exponent: it has no leading zeros and not too many digits. -/
def wholeLiteral? (ds rest : List Char) : Option Constant :=
  if ds.head? = some '0' then
    if ds.all (· == '0') then some (.whole 0)
    else if rest.head?.any (fun c => c == 'e' || c == 'E') then (decimalOf? false ds).map .real
    else none
  else if digitLimit < ds.length then none
  else some (.whole (digitsValue ds))

def decimalLiteral? (s : List Char) : Option (Constant × List Char) := do
  let (whole, afterWhole) ← decimalRun? s
  let (frac, afterFrac) ← fraction? afterWhole
  let (exp, rest) ← exponent? afterFrac
  let value := decimalOf? false (whole ++ frac ++ exp)
  match rest with
  | c :: t =>
    if c == 'j' || c == 'J' then
      if canEndNumber t then return (.imaginary (← value), t) else none
    else if !canEndNumber rest then none
    else if frac.isEmpty && exp.isEmpty then return (← wholeLiteral? whole rest, rest)
    else return (.real (← value), rest)
  | [] =>
    if frac.isEmpty && exp.isEmpty then return (← wholeLiteral? whole rest, rest)
    else return (.real (← value), rest)

/-- The number literal at the start of a text that starts with a digit, or with a point and a digit. -/
def numberLiteral? (s : List Char) : Option (Constant × List Char) :=
  match s with
  | '0' :: c :: t =>
    if c == 'x' || c == 'X' then radixLiteral? 16 t
    else if c == 'o' || c == 'O' then radixLiteral? 8 t
    else if c == 'b' || c == 'B' then radixLiteral? 2 t
    else decimalLiteral? s
  | _ => decimalLiteral? s

end ScenarioAudit.Syntax
