/-!
# Sets and tables of code points

A large set of characters is written as the ascending list of the code points at which membership
changes: the first boundary enters the set, the next leaves it, and so on. `CodeSet.contains` counts
boundaries; an odd count is inside. `CodeRun` describes a case mapping in the same spirit. A large table is
written as one text: numbers in hexadecimal with blanks or line breaks between them, and a semicolon after
each row.
-/

namespace ScenarioAudit.Text

/-- A set of code points by its ascending boundaries. -/
structure CodeSet where
  boundaries : List Nat

/-- Whether an odd number of the (ascending) boundaries lies at or below the code point. -/
def insideBoundaries : List Nat → Nat → Bool
  | [], _ => false
  | b :: bs, n => if n < b then false else !insideBoundaries bs n

def CodeSet.containsCode (s : CodeSet) (n : Nat) : Bool :=
  insideBoundaries s.boundaries n

def CodeSet.contains (s : CodeSet) (c : Char) : Bool :=
  s.containsCode c.toNat

/-- Every `step`-th code point from `first` to `last` is moved by `offset`. -/
structure CodeRun where
  first : Nat
  last : Nat
  step : Nat
  offset : Int

def CodeRun.image? (r : CodeRun) (n : Nat) : Option Nat :=
  if r.first ≤ n ∧ n ≤ r.last ∧ (n - r.first) % r.step = 0 then
    some (Int.toNat (Int.ofNat n + r.offset))
  else
    none

@[simp] theorem insideBoundaries_nil (n : Nat) : insideBoundaries [] n = false := rfl

/-! ## Tables -/

abbrev CodeTable := List (List Nat)

/-- The value of a lower-case hexadecimal digit. -/
def hexDigit (c : Char) : Nat :=
  if c.isDigit then c.toNat - '0'.toNat else c.toNat - 'a'.toNat + 10

def readRows (row : List Nat) (number? : Option Nat) : List Char → CodeTable
  | [] => []
  | c :: s =>
    if c = ';' then (row ++ number?.toList) :: readRows [] none s
    else if c.isWhitespace then readRows (row ++ number?.toList) none s
    else readRows row (some (16 * number?.getD 0 + hexDigit c)) s

def CodeTable.ofText (text : String) : CodeTable :=
  readRows [] none text.toList

example : CodeTable.ofText "a 1f;\n  0;" = [[10, 31], [0]] := by decide +kernel

end ScenarioAudit.Text
