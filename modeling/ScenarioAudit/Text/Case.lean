import ScenarioAudit.Text.Property.Lowercase
import ScenarioAudit.Text.Property.Cased
import ScenarioAudit.Text.Property.Word

/-!
# Letter case and word characters

Lower-casing follows Unicode: each capital by its simple mapping, `U+0130` by two characters, and a
capital sigma by its place in the word. Caseless comparison of single letters also accepts the letters
that share a lower-case form with an ASCII one (long s, Kelvin sign, dotted and dotless i).
-/

namespace ScenarioAudit.Text

def isWordChar (c : Char) : Bool :=
  if c.toNat < 128 then c.isAlphanum || c == '_' else wordSet.contains c

def isDecimalDigit (c : Char) : Bool :=
  decimalSet.contains c

/-- The first code point of the run of digits that contains `n`. -/
def digitZero : List Nat → Nat → Nat
  | lo :: hi :: rest, n => if n < hi then lo else digitZero rest n
  | _, n => n

/-- The value of a decimal digit: digits come in tens that start with their zero. -/
def digitValue (c : Char) : Nat :=
  (c.toNat - digitZero decimalSet.boundaries c.toNat) % 10

/-- The simple lower-case mapping of one character. -/
def lowerChar (c : Char) : Char :=
  match lowercaseRuns.findSome? (·.image? c.toNat) with
  | some n => Char.ofNat n
  | none => c

/-- Whether the nearest character that is not case-ignorable has case. -/
def nearestCased (s : List Char) : Bool :=
  match s.dropWhile caseIgnorableSet.contains with
  | [] => false
  | c :: _ => casedSet.contains c

/-- Lower case of the text after `before` (given last character first). -/
def lowerFrom : List Char → List Char → List Char
  | _, [] => []
  | before, c :: s =>
    if c.toNat < 128 then
      c.toLower :: lowerFrom (c :: before) s
    else if c.toNat = 0x130 then
      'i' :: Char.ofNat 0x307 :: lowerFrom (c :: before) s
    else if c.toNat = 0x3A3 then
      (if nearestCased before && !nearestCased s then Char.ofNat 0x3C2 else Char.ofNat 0x3C3)
        :: lowerFrom (c :: before) s
    else
      lowerChar c :: lowerFrom (c :: before) s

def lower (s : List Char) : List Char :=
  lowerFrom [] s

/-- The letters beyond ASCII whose capitals are ASCII letters: sharp s, dotless i, long s and the ligatures. -/
def asciiCapitals : List (Nat × String) :=
  [(0xDF, "SS"), (0x131, "I"), (0x17F, "S"), (0xFB00, "FF"), (0xFB01, "FI"), (0xFB02, "FL"), (0xFB03, "FFI"),
    (0xFB04, "FFL"), (0xFB05, "ST"), (0xFB06, "ST")]

/-- The text with capitals for all letters whose capitals are ASCII letters. -/
def upperAscii (s : List Char) : List Char :=
  s.flatMap fun c =>
    match asciiCapitals.lookup c.toNat with
    | some cs => cs.toList
    | none => [c.toUpper]

/-- Whether `c` is the ASCII letter `l` (given in lower case) in either case or under a caseless reading. -/
def isCaseless (l c : Char) : Bool :=
  c == l || (l.isLower && c == l.toUpper)
    || (l == 'i' && (c.toNat == 0x130 || c.toNat == 0x131))
    || (l == 's' && c.toNat == 0x17F)
    || (l == 'k' && c.toNat == 0x212A)

end ScenarioAudit.Text
