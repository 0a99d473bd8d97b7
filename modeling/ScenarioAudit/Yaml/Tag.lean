import ScenarioAudit.Pattern.Build

/-!
# Tags of YAML

A tag says what a node stands for. A text that is written plain and without a tag gets its tag from its form:
numbers, truth values, dates, the empty value and two signs are told from texts by patterns.
-/

namespace ScenarioAudit.Yaml

/-- What a node stands for. -/
inductive Tag where
  | null
  | bool
  | int
  | float
  | binary
  | timestamp
  | text
  | sequence
  | mapping
  | set
  | pairs
  /-- The key whose value is merged into the mapping. -/
  | merge
  /-- The key of the default value. -/
  | default
  /-- A tag that stands for nothing here. -/
  | unknown
  deriving DecidableEq, Repr

def tagSpace : List Char :=
  "tag:yaml.org,2002:".toList

def knownTags : List (String × Tag) :=
  [("null", .null), ("bool", .bool), ("int", .int), ("float", .float), ("binary", .binary),
    ("timestamp", .timestamp), ("str", .text), ("seq", .sequence), ("map", .mapping), ("set", .set),
    ("omap", .pairs), ("pairs", .pairs), ("merge", .merge), ("value", .default)]

def Tag.ofName (name : List Char) : Tag :=
  if tagSpace.isPrefixOf name then
    (knownTags.lookup (String.ofList (name.drop tagSpace.length))).getD .unknown
  else .unknown

/-! ## Forms of plain texts -/

open Pattern

def isDigitOrLow (c : Char) : Bool :=
  c.isDigit || c == '_'

def maybeSign : Pattern :=
  opt (one fun c => c == '-' || c == '+')

def digitsForm : Pattern :=
  one Char.isDigit ++ many true isDigitOrLow

def sixtiesForm : Pattern :=
  let group := char ':' ++ opt (one fun c => '0' ≤ c && c ≤ '5') ++ one Char.isDigit
  group ++ star group

def boolForm : Pattern :=
  oneOf ["yes", "Yes", "YES", "no", "No", "NO", "true", "True", "TRUE", "false", "False", "FALSE", "on", "On",
    "ON", "off", "Off", "OFF"]

def floatForm : Pattern :=
  let exponent := opt (one (fun c => c == 'e' || c == 'E') ++ one (fun c => c == '-' || c == '+')
    ++ many1 Char.isDigit)
  firstOf [
    maybeSign ++ digitsForm ++ char '.' ++ many true isDigitOrLow ++ exponent,
    char '.' ++ digitsForm ++ exponent,
    maybeSign ++ digitsForm ++ sixtiesForm ++ char '.' ++ many true isDigitOrLow,
    maybeSign ++ char '.' ++ oneOf ["inf", "Inf", "INF"],
    char '.' ++ oneOf ["nan", "NaN", "NAN"]]

def intForm : Pattern :=
  let counting := one (fun c => '1' ≤ c && c ≤ '9') ++ many true isDigitOrLow
  maybeSign ++ firstOf [
    word "0b" ++ many1 (fun c => c == '0' || c == '1' || c == '_'),
    char '0' ++ many1 (fun c => ('0' ≤ c && c ≤ '7') || c == '_'),
    char '0',
    counting,
    word "0x" ++ many1 (fun c => c.isDigit || ('a' ≤ c && c ≤ 'f') || ('A' ≤ c && c ≤ 'F') || c == '_'),
    counting ++ sixtiesForm]

def twoDigits : Pattern :=
  one Char.isDigit ++ one Char.isDigit

def fewDigits : Pattern :=
  one Char.isDigit ++ opt (one Char.isDigit)

/-- A date, its fields captured under 1 to 3, with a given form of month and day. -/
def dateForm (field : Pattern) : Pattern :=
  capture 1 (twoDigits ++ twoDigits) ++ char '-' ++ capture 2 field ++ char '-' ++ capture 3 field

/-- A time of day after a date: its fields are captured under 4 to 7, the sign, hours and minutes of its zone
under 8 to 10. -/
def timeForm : Pattern :=
  let gap := fun c : Char => c == ' ' || c == '\t'
  (one (fun c => c == 'T' || c == 't') ||| many1 gap) ++ capture 4 fewDigits ++ char ':' ++ capture 5 twoDigits
    ++ char ':' ++ capture 6 twoDigits ++ opt (char '.' ++ capture 7 (many true Char.isDigit))
    ++ opt (many true gap ++ (char 'Z' |||
      (capture 8 (one fun c => c == '-' || c == '+') ++ capture 9 fewDigits
        ++ opt (char ':' ++ capture 10 twoDigits))))

/-- The forms of dates and points in time that need no tag. -/
def timestampForm : Pattern :=
  dateForm twoDigits ||| dateForm fewDigits ++ timeForm

def plainForms : List (Pattern × Tag) :=
  [(boolForm, .bool), (floatForm, .float), (intForm, .int), (word "<<", .merge),
    (oneOf ["~", "null", "Null", "NULL"], .null), (timestampForm, .timestamp), (char '=', .default),
    (oneOf ["!", "&", "*"], .unknown)]

def Tag.ofPlain (text : List Char) : Tag :=
  if text.isEmpty then .null
  else
    match plainForms.find? fun f => (whole f.1).startsAt text with
    | some (_, tag) => tag
    | none => .text

end ScenarioAudit.Yaml
