import ScenarioAudit.Number.Binary64

/-!
# The fewest digits that read back

The decimal digits of a number are the fewest that read back as the same number, and of those the nearest
to it. For one, two, … seventeen digits the two neighbours of the value on that decimal grid are tried in
exact arithmetic; the first grid with a hit wins. `Layout` says how such digits are laid out, so that each
written format is one record.
-/

namespace ScenarioAudit.Number

structure Decimal where
  digits : Nat
  exponent : Int
  deriving DecidableEq, Repr, Inhabited

/-- Trailing zeros of the digits moved into the exponent; at most `fuel` of them. -/
def Decimal.trim : Nat → Decimal → Decimal
  | 0, d => d
  | fuel + 1, d =>
    if d.digits ≠ 0 ∧ d.digits % 10 = 0 then Decimal.trim fuel ⟨d.digits / 10, d.exponent + 1⟩ else d

/-- The least `k` with `num / den < 10 ^ k`, found upward from a lower bound. -/
def decimalMagnitude (num den : Nat) : Nat → Int → Int
  | 0, k => k
  | fuel + 1, k =>
    let below := if k < 0 then num * Nat.pow 10 (-k).toNat < den else num < den * Nat.pow 10 k.toNat
    if below then k else decimalMagnitude num den fuel (k + 1)

/-- The neighbours of `num / den` on the grid of step `10 ^ g`, as the lower one and whether the upper one is
nearer (`lt`), the lower one is nearer (`gt`) or both are equally near. -/
def gridNeighbours (num den : Nat) (g : Int) : Nat × Ordering :=
  let (n, d) := if g < 0 then (num * Nat.pow 10 (-g).toNat, den) else (num, den * Nat.pow 10 g.toNat)
  let q := n / d
  (q, compare (2 * (n % d)) d |>.swap)

/-- The shortest decimal on grids of at least `count` digits that reads back as `x`. -/
def shortestFrom (x : Binary64) (num den : Nat) (k : Int) : Nat → Nat → Decimal
  | 0, count => ⟨(gridNeighbours num den (k - count)).1, k - count⟩
  | fuel + 1, count =>
    let g := k - count
    let (q, side) := gridNeighbours num den g
    let lowHit := Binary64.ofDecimal false q g == x
    let highHit := Binary64.ofDecimal false (q + 1) g == x
    match lowHit, highHit, side with
    | true, true, .lt => ⟨q + 1, g⟩
    | true, true, .eq => if q % 2 = 0 then ⟨q, g⟩ else ⟨q + 1, g⟩
    | true, _, _ => ⟨q, g⟩
    | false, true, _ => ⟨q + 1, g⟩
    | false, false, _ => shortestFrom x num den k fuel (count + 1)

def shortestDecimal (m : Nat) (e : Int) : Decimal :=
  if m = 0 then
    ⟨0, 0⟩
  else
    let (num, den) := Binary64.ratio m e
    let bits : Int := (Nat.log2 num : Int) - (Nat.log2 den : Int)
    let k := decimalMagnitude num den 4 (bits * 30103 / 100000 - 1)
    (shortestFrom (.finite false m e) num den k 17 1).trim 20

/-- How a written format lays out the shortest digits. -/
structure Layout where
  /-- The least power of ten of the first digit that is written positionally. -/
  leastPositional : Int
  /-- The greatest such power. -/
  greatestPositional : Int
  /-- The sign written before a positive exponent. -/
  exponentPlus : String
  /-- The least number of exponent digits. -/
  exponentDigits : Nat
  /-- The texts of what is no number and of infinity. -/
  nanText : String
  infinityText : String

def padZeros (width : Nat) (s : String) : String :=
  String.ofList (List.replicate (width - s.length) '0') ++ s

/-- The text of a decimal: positional with at least one fractional digit, or with an exponent. -/
def Decimal.render (style : Layout) (d : Decimal) : String :=
  let ds := Nat.toDigits 10 d.digits
  let top : Int := if d.digits = 0 then 0 else ds.length + d.exponent - 1
  if style.leastPositional ≤ top ∧ top ≤ style.greatestPositional then
    if d.digits = 0 then "0.0"
    else if top < 0 then
      "0." ++ String.ofList (List.replicate (-top - 1).toNat '0') ++ String.ofList ds
    else
      let whole := top.toNat + 1
      let intPart := ds.take whole ++ List.replicate (whole - ds.length) '0'
      let fraction := ds.drop whole
      String.ofList intPart ++ "." ++ (if fraction.isEmpty then "0" else String.ofList fraction)
  else
    let head := String.ofList (ds.take 1)
    let tail := ds.drop 1
    let mantissa := if tail.isEmpty then head else head ++ "." ++ String.ofList tail
    let sign := if top < 0 then "-" else style.exponentPlus
    mantissa ++ "e" ++ sign ++ padZeros style.exponentDigits (toString top.natAbs)

def Binary64.render (style : Layout) : Binary64 → String
  | .nan => style.nanText
  | .infinite neg => (if neg then "-" else "") ++ style.infinityText
  | .finite neg m e => (if neg then "-" else "") ++ (shortestDecimal m e).render style

/-- The layout of numbers in messages: positional from `10 ^ -4` up to below `10 ^ 16`, exponents of at
least two digits. -/
def displayLayout : Layout where
  leastPositional := -4
  greatestPositional := 15
  exponentPlus := "+"
  exponentDigits := 2
  nanText := "nan"
  infinityText := "inf"

/-- The layout of numbers in a record file: positional from `10 ^ -5` up to below `10 ^ 16`. -/
def documentLayout : Layout where
  leastPositional := -5
  greatestPositional := 15
  exponentPlus := "+"
  exponentDigits := 1
  nanText := "null"
  infinityText := "null"

def Binary64.display (x : Binary64) : String :=
  x.render displayLayout

/-- The text of a number rounded to an integer, ties to even. -/
def Binary64.displayWhole : Binary64 → String
  | .nan => "nan"
  | .infinite neg => if neg then "-inf" else "inf"
  | .finite neg m e => (if neg then "-" else "") ++ toString (roundMagnitude m e)

end ScenarioAudit.Number
