import ScenarioAudit.Yaml.Basic
import ScenarioAudit.Yaml.Cursor
import ScenarioAudit.Yaml.Tag
import ScenarioAudit.Clock
import ScenarioAudit.Syntax.Numeral

/-!
# What scalars of YAML stand for

The value of a text under each tag: whole numbers in four radices and in sixties, fractions, truth values, bytes
in base 64, dates and points in time.
-/

namespace ScenarioAudit.Yaml

open ScenarioAudit.Text ScenarioAudit.Number

def numeralFault {α : Type} (e : NumeralError) : Except Fault α :=
  .error (.cause (.numeral e))

def asNumeral {α : Type} (r : Except NumeralError α) : Except Fault α :=
  match r with
  | .ok a => .ok a
  | .error e => numeralFault e

def withoutLow (s : List Char) : List Char :=
  s.filter (· ≠ '_')

def colonParts (s : List Char) : List (List Char) :=
  s.splitOn ':'

/-! ## Whole numbers -/

/-- A whole number in a radix other than ten; the mark of the radix may stand in front of it. -/
def radixWhole (radix : Nat) (mark : Char) (s : List Char) : Except Fault Int :=
  let (neg, body) := takeSign (trimNumeral (plainNumeral s))
  let digits :=
    match body with
    | '0' :: m :: rest => if m.toLower = mark then rest else body
    | _ => body
  if digits.isEmpty || !digits.all (fun d => (Syntax.hexDigit? d).any (· < radix)) then
    numeralFault (.notWhole radix (String.ofList s))
  else
    let n : Int := Syntax.radixValue radix digits
    .ok (if neg then -n else n)

def decimalWhole (s : List Char) : Except Fault Int :=
  asNumeral (wholeOfText (String.ofList s))

/-- The magnitude of a whole number: in radix 2, 16 or 8 after a mark or a zero, in sixties between colons. -/
def magnitude (s : List Char) : Except Fault Int :=
  match s with
  | [] => .error (.cause .noSuchItem)
  | ['0'] => .ok 0
  | '0' :: 'b' :: ds => radixWhole 2 'b' ds
  | '0' :: 'x' :: ds => radixWhole 16 'x' ds
  | '0' :: _ => radixWhole 8 'o' s
  | _ =>
    if s.contains ':' then do
      let parts ← (colonParts s).mapM decimalWhole
      return parts.foldl (fun n d => n * 60 + d) 0
    else decimalWhole s

def intOfText (s : List Char) : Except Fault Int :=
  let (neg, body) := takeSign (withoutLow s)
  (magnitude body).map fun n => if neg then -n else n

/-! ## Fractions -/

def decimalFraction (s : List Char) : Except Fault Binary64 :=
  asNumeral (binaryOfText (String.ofList s))

def sixtiesFraction (parts : List (List Char)) : Except Fault Binary64 := do
  let digits ← parts.mapM decimalFraction
  let step : Binary64 × Int → Binary64 → Binary64 × Int := fun (sum, base) d =>
    (sum.add (d.mul (Binary64.ofInt base)), base * 60)
  if Binary64.ofInt (Nat.pow 60 (digits.length - 1)) = .infinite false then .error (.cause .overflow)
  else return (digits.reverse.foldl step (Binary64.zero false, 1)).1

def floatOfText (s : List Char) : Except Fault Binary64 := do
  let s := lower (withoutLow s)
  if s.isEmpty then .error (.cause .noSuchItem)
  else
    let (neg, body) := takeSign s
    let x ←
      if body = ".inf".toList then pure (Binary64.infinite false)
      else if body = ".nan".toList then pure Binary64.nan
      else if body.contains ':' then sixtiesFraction (colonParts body)
      else decimalFraction body
    return if neg then x.negate else x

/-! ## Truth values -/

def truthWords : List (String × Bool) :=
  [("yes", true), ("no", false), ("true", true), ("false", false), ("on", true), ("off", false)]

def boolOfText (s : List Char) : Except Fault Bool :=
  let w := String.ofList (lower s)
  match truthWords.lookup w with
  | some b => .ok b
  | none => .error (.cause (.notTruth w))

/-! ## Bytes -/

def sixBits? (c : Char) : Option Nat :=
  if 'A' ≤ c ∧ c ≤ 'Z' then some (c.toNat - 'A'.toNat)
  else if 'a' ≤ c ∧ c ≤ 'z' then some (c.toNat - 'a'.toNat + 26)
  else if c.isDigit then some (c.toNat - '0'.toNat + 52)
  else if c = '+' then some 62
  else if c = '/' then some 63
  else none

/-- The bytes of digits in base 64, four digits for three bytes. `place` counts the digits of the last group,
`carry` holds the bits that are left, `pads` the signs that fill the group up. Other characters do not count. -/
def base64 : (place carry pads : Nat) → List Char → Option (List UInt8)
  | place, _, _, [] => if place = 0 then some [] else none
  | place, carry, pads, c :: s =>
    if c = '=' then
      if 2 ≤ place then
        if 4 ≤ place + pads + 1 then some [] else base64 place carry (pads + 1) s
      else base64 place carry pads s
    else
      match sixBits? c with
      | none => base64 place carry pads s
      | some d =>
        match place with
        | 0 => base64 1 d 0 s
        | 1 => (base64 2 (d % 16) 0 s).map (UInt8.ofNat (carry * 4 + d / 16) :: ·)
        | 2 => (base64 3 (d % 4) 0 s).map (UInt8.ofNat (carry * 16 + d / 4) :: ·)
        | _ => (base64 0 0 0 s).map (UInt8.ofNat (carry * 64 + d) :: ·)

def bytesOfText (s : CodePoints) : Except Fault (List UInt8) :=
  if s.all (· < 128) then
    match base64 0 0 0 (s.map Char.ofNat) with
    | some b => .ok b
    | none => .error .malformed
  else .error .malformed

/-! ## Dates and points in time -/

def momentFault? (m : Pattern.Match) : Option MomentFault :=
  let field (n : Nat) : Int := digitsValue (m.captured n)
  let zone : Int := field 9 * 60 + field 10
  let zone := if m.captured 8 = ['-'] then -zone else zone
  if zone ≤ -1440 ∨ 1440 ≤ zone then some (.zone zone)
  else Moment.fault? (field 1) (field 2) (field 3) (field 4) (field 5) (field 6) 0

def timeOfText (s : List Char) : Except Fault Yaml :=
  match (Pattern.whole (dateForm fewDigits ++ Pattern.opt timeForm)).matchAt (.start s) with
  | none => .error (.cause .notDate)
  | some m =>
    match momentFault? m with
    | some f => .error (.cause (.timestamp f))
    | none => .ok (.time (String.ofList s))

/-! ## Scalars -/

def ofScalar (tag : Tag) (codes : CodePoints) : Except Fault Yaml :=
  let s := codes.map Char.ofNat
  match tag with
  | .null => .ok .null
  | .bool => (boolOfText s).map .bool
  | .int => (intOfText s).map .int
  | .float => (floatOfText s).map .float
  | .binary => (bytesOfText codes).map .bytes
  | .timestamp => timeOfText s
  | .text => .ok (ofCodes codes)
  | _ => .error .malformed

end ScenarioAudit.Yaml
