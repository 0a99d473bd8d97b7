/-!
# Binary floating point of 64 bits

A finite number is a sign, a mantissa and a power of two. The representation is canonical: the mantissa has
exactly 53 bits unless the exponent is the least one. All conversions are exact arithmetic on natural
numbers followed by one rounding to nearest, ties to even.
-/

namespace ScenarioAudit.Number

/-- A number of the 64-bit binary format; `finite neg m e` stands for `± m · 2 ^ e`. -/
inductive Binary64 where
  | nan
  | infinite (negative : Bool)
  | finite (negative : Bool) (mantissa : Nat) (exponent : Int)
  deriving DecidableEq, Repr, Inhabited

namespace Binary64

def leastExponent : Int := -1074

def greatestExponent : Int := 971

def leastNormal : Nat := 4503599627370496

def zero (negative : Bool) : Binary64 :=
  .finite negative 0 leastExponent

/-- The quotient rounded to nearest, a tie to the even neighbour. -/
def roundQuotient (num den : Nat) : Nat :=
  let q := num / den
  let twice := 2 * (num % den)
  if twice < den then q
  else if den < twice then q + 1
  else if q % 2 = 0 then q
  else q + 1

def roundAt (num den : Nat) (e : Int) : Nat :=
  if e < 0 then roundQuotient (num * Nat.pow 2 (-e).toNat) den
  else roundQuotient num (den * Nat.pow 2 e.toNat)

def atLeastPow (num den : Nat) (k : Int) : Bool :=
  if k < 0 then den ≤ num * Nat.pow 2 (-k).toNat
  else den * Nat.pow 2 k.toNat ≤ num

def ofRatio (negative : Bool) (num den : Nat) : Binary64 :=
  if num = 0 then
    zero negative
  else
    let guess : Int := (Nat.log2 num : Int) - (Nat.log2 den : Int) - 52
    let spacing := if atLeastPow num den (guess + 52) then guess else guess - 1
    let e := max spacing leastExponent
    let m := roundAt num den e
    let (m, e) := if m = 2 * leastNormal then (leastNormal, e + 1) else (m, e)
    if greatestExponent < e then .infinite negative else .finite negative m e

def digitCount (n : Nat) : Nat :=
  (Nat.toDigits 10 n).length

def ofDecimal (negative : Bool) (digits : Nat) (exponent : Int) : Binary64 :=
  if digits = 0 then
    zero negative
  else
    let magnitude : Int := digitCount digits + exponent
    if 400 < magnitude then .infinite negative
    else if magnitude < -400 then zero negative
    else if exponent < 0 then ofRatio negative digits (Nat.pow 10 (-exponent).toNat)
    else ofRatio negative (digits * Nat.pow 10 exponent.toNat) 1

def ofInt (i : Int) : Binary64 :=
  ofRatio (i < 0) i.natAbs 1

def ratio (m : Nat) (e : Int) : Nat × Nat :=
  if e < 0 then (m, Nat.pow 2 (-e).toNat) else (m * Nat.pow 2 e.toNat, 1)

/-- The integer part, toward zero; `none` for infinities and for no number. -/
def truncate? : Binary64 → Option Int
  | .finite neg m e =>
    let (num, den) := ratio m e
    let q : Int := (num / den : Nat)
    some (if neg then -q else q)
  | _ => none

def isIntegral : Binary64 → Bool
  | .finite _ m e => let (num, den) := ratio m e; num % den == 0
  | _ => false

/-- Numerical equality: zeros of either sign are equal, and what is no number equals nothing. -/
def equal : Binary64 → Binary64 → Bool
  | .finite n m e, .finite n' m' e' =>
    (m == 0 && m' == 0) || (n == n' && m == m' && e == e')
  | .infinite n, .infinite n' => n == n'
  | _, _ => false

/-- Numerical equality with an integer, without rounding either side. -/
def equalInt (x : Binary64) (i : Int) : Bool :=
  x.isIntegral && x.truncate? == some i

def isZero : Binary64 → Bool
  | .finite _ 0 _ => true
  | _ => false

def negate : Binary64 → Binary64
  | .nan => .nan
  | .infinite n => .infinite !n
  | .finite n m e => .finite (!n) m e

def roundMagnitude (m : Nat) (e : Int) : Nat :=
  let (num, den) := ratio m e
  roundQuotient num den

def add : Binary64 → Binary64 → Binary64
  | .nan, _ => .nan
  | _, .nan => .nan
  | .infinite a, .infinite b => if a == b then .infinite a else .nan
  | .infinite a, _ => .infinite a
  | _, .infinite b => .infinite b
  | .finite a m e, .finite b m' e' =>
    let low := min e e'
    let x : Int := (m * Nat.pow 2 (e - low).toNat : Nat)
    let y : Int := (m' * Nat.pow 2 (e' - low).toNat : Nat)
    let s := (if a then -x else x) + (if b then -y else y)
    if s = 0 then zero (a && b)
    else if low < 0 then ofRatio (s < 0) s.natAbs (Nat.pow 2 (-low).toNat)
    else ofRatio (s < 0) (s.natAbs * Nat.pow 2 low.toNat) 1

def mul : Binary64 → Binary64 → Binary64
  | .nan, _ => .nan
  | _, .nan => .nan
  | .infinite a, .infinite b => .infinite (a != b)
  | .infinite a, .finite b m _ => if m = 0 then .nan else .infinite (a != b)
  | .finite a m _, .infinite b => if m = 0 then .nan else .infinite (a != b)
  | .finite a m e, .finite b m' e' =>
    let low := e + e'
    if low < 0 then ofRatio (a != b) (m * m') (Nat.pow 2 (-low).toNat)
    else ofRatio (a != b) (m * m' * Nat.pow 2 low.toNat) 1

end Binary64

/-! ## Whole numbers of 64 bits -/

/-- The least whole number above those of 64 bits with a sign. -/
def signedLimit : Int := 9223372036854775808

/-- The least whole number above those of 64 bits without a sign. -/
def unsignedLimit : Int := 18446744073709551616

/-- Whether a whole number fits 64 bits, with or without a sign. -/
def isWord (i : Int) : Bool :=
  -signedLimit ≤ i && i < unsignedLimit

end ScenarioAudit.Number
