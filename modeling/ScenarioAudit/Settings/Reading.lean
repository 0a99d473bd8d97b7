import ScenarioAudit.Settings.Basic
import ScenarioAudit.Yaml.Basic
import ScenarioAudit.Text.Case
import ScenarioAudit.Text.Blank
import ScenarioAudit.Text.Utf8
import ScenarioAudit.Trouble

/-!
# Settings from values

Each section of settings is read from a mapping. A field that is absent keeps its default; a field that is
there has to fit its type, where numerals count as numbers, whole fractions as whole numbers, and truth values
as zero and one. Unknown fields mean nothing.
-/

namespace ScenarioAudit

open ScenarioAudit.Number ScenarioAudit.Text

namespace Setting

/-- A text without blanks around it; the four ASCII separators stay. -/
def trimText (s : String) : List Char :=
  let blank := fun c : Char => isBlank c && !(28 ≤ c.toNat && c.toNat ≤ 31)
  ((s.toList.dropWhile blank).reverse.dropWhile blank).reverse

/-- A text without its single underscores; `none` if they stand at an end or in a row. -/
def withoutUnderscores? (s : List Char) : Option (List Char) :=
  let rec doubled : List Char → Bool
    | '_' :: '_' :: _ => true
    | _ :: t => doubled t
    | [] => false
  if s.head? == some '_' || s.getLast? == some '_' || doubled s then none
  else some (s.filter (· ≠ '_'))

/-- What follows a row of zeros and underscores that `last` ends: a text that starts with another digit or a minus
sign. Before a point, or at the end, the last of the row stays. -/
def afterZeros? (last : Char) : List Char → Option (List Char)
  | [] => some [last]
  | c :: s =>
    if c = '0' ∨ c = '_' then afterZeros? c s
    else if c.isDigit ∨ c = '-' then some (c :: s)
    else if c = '.' then some (last :: c :: s)
    else none

/-- A text without the zeros in front of it. It has to start with a digit or a minus sign. -/
def withoutZeros? : List Char → Option (List Char)
  | [] => none
  | c :: s =>
    if c = '0' then afterZeros? c s
    else if c.isDigit ∨ c = '-' then some (c :: s)
    else none

/-- A text without a point and the zeros after it, of which there has to be one at least. -/
def withoutZeroPlaces (s : List Char) : List Char :=
  match s.dropWhile (· ≠ '.') with
  | _ :: z :: zeros => if (z :: zeros).all (· = '0') then s.takeWhile (· ≠ '.') else s
  | _ => s

/-- The digits of a whole number as it can be written with signs, zeros and underscores that mean nothing. -/
def bareWhole? (s : List Char) : Option (List Char) :=
  match s with
  | '+' :: '-' :: _ => none
  | '+' :: t => clean t
  | '-' :: t => (clean t).map ('-' :: ·)
  | t => clean t
where
  clean (t : List Char) : Option (List Char) :=
    (withoutZeros? t).map fun u =>
      let u := withoutZeroPlaces u
      (withoutUnderscores? u).getD u

/-- A row of digits without a zero in front, possibly after a minus sign. -/
def plainWhole? (s : List Char) : Option Int :=
  let (neg, ds) := match s with
    | '-' :: ds => (true, ds)
    | ds => (false, ds)
  if ds.isEmpty || !ds.all Char.isDigit || (ds.head? = some '0' && ds ≠ ['0']) then none
  else some (if neg then -(digitsValue ds : Int) else digitsValue ds)

def wholeOfField (s : String) : Except Trouble Int :=
  match bareWhole? (trimText s) with
  | some ds =>
    if digitLimit < ds.length then .error .rejected
    else
      match plainWhole? ds with
      | some i => .ok i
      | none => .error .rejected
  | none => .error .rejected

def plainFraction? (s : List Char) : Option Binary64 :=
  let (neg, body) := takeSign s
  let folded := body.map Char.toLower
  if folded = "inf".toList ∨ folded = "infinity".toList then some (.infinite neg)
  else if folded = "nan".toList then some .nan
  else decimalOf? neg body

def fractionOfField (s : String) : Except Trouble Binary64 :=
  match (plainFraction? (trimText s)).or ((withoutUnderscores? s.toList).bind plainFraction?) with
  | some x => .ok x
  | none => .error .rejected

def utf8Text (b : List UInt8) : Except Trouble String :=
  match decodeUtf8? b with
  | some s => .ok (String.ofList s)
  | none => .error .rejected

def text : Yaml → Except Trouble String
  | .str s => .ok s
  | .bytes b => utf8Text b
  | _ => .error .rejected

def codes : Yaml → Except Trouble CodePoints
  | .codes s => .ok s
  | v => (text v).map codesOf

def whole : Yaml → Except Trouble Int
  | .int i => .ok i
  | .bool b => .ok (if b then 1 else 0)
  | .float x =>
    match x.truncate? with
    | some i => if x.isIntegral && -signedLimit < i && i < signedLimit then .ok i else .error .rejected
    | none => .error .rejected
  | .str s => wholeOfField s
  | .bytes b => (utf8Text b).bind wholeOfField
  | _ => .error .rejected

/-- A truth value written as a word or a digit, in letters of either case. -/
def truthOfField (s : String) : Except Trouble Bool :=
  let word := String.ofList (s.toList.map Char.toLower)
  if word ∈ ["0", "off", "f", "false", "n", "no"] then .ok false
  else if word ∈ ["1", "on", "t", "true", "y", "yes"] then .ok true
  else .error .rejected

def truth : Yaml → Except Trouble Bool
  | .bool b => .ok b
  | .int 0 => .ok false
  | .int 1 => .ok true
  | .float x =>
    if x.equalInt 0 then .ok false
    else if x.equalInt 1 then .ok true
    else .error .rejected
  | .str s => truthOfField s
  | .bytes b => (utf8Text b).bind truthOfField
  | _ => .error .rejected

def fraction : Yaml → Except Trouble Binary64
  | .float x => .ok x
  | .int i =>
    match Binary64.ofInt i with
    | .infinite _ => .error .rejected
    | x => .ok x
  | .bool b => .ok (Binary64.ofInt (if b then 1 else 0))
  | .str s => fractionOfField s
  | .bytes b => (utf8Text b).bind fractionOfField
  | _ => .error .rejected

def texts : Yaml → Except Trouble (List CodePoints)
  | .seq items => items.mapM codes
  | .set items => items.mapM codes
  | _ => .error .rejected

def field {α : Type} (es : Yaml.Entries) (key : String) (read : Yaml → Except Trouble α) (default : α) :
    Except Trouble α :=
  match Yaml.Entries.field? es key with
  | some v => read v
  | none => .ok default

def mapping {α : Type} (read : Yaml.Entries → Except Trouble α) : Yaml → Except Trouble α
  | .map es => read es
  | _ => .error .rejected

end Setting

open Setting

def LoggingSettings.ofEntries (es : Yaml.Entries) : Except Trouble LoggingSettings := do
  let d : LoggingSettings := {}
  return { level := ← field es "level" codes d.level, format := ← field es "format" codes d.format }

def IntegritySettings.ofEntries (es : Yaml.Entries) : Except Trouble IntegritySettings := do
  let d : IntegritySettings := {}
  return {
    recordFilename := ← field es "record_filename" codes d.recordFilename
    recordKey := ← field es "record_key" codes d.recordKey
    notesRef := ← field es "notes_ref" codes d.notesRef
    emptySentinel := ← field es "empty_sentinel" codes d.emptySentinel
    gitTimeout := ← field es "git_timeout_s" fraction d.gitTimeout }

def CoverageSettings.ofEntries (es : Yaml.Entries) : Except Trouble CoverageSettings := do
  let d : CoverageSettings := {}
  return {
    dryRunTimeout := ← field es "dry_run_timeout_s" fraction d.dryRunTimeout
    maxDetailLines := ← field es "max_detail_lines" whole d.maxDetailLines }

/-- Keywords without blanks around them and in lower case; blank ones are dropped. -/
def cleanKeywords (ks : List CodePoints) : List CodePoints :=
  ks.filterMap fun k =>
    let t := ((k.dropWhile blankSet.containsCode).reverse.dropWhile blankSet.containsCode).reverse
    if t.isEmpty then none else some (CodePoints.mapRuns lower [] t)

def QualitySettings.ofEntries (es : Yaml.Entries) : Except Trouble QualitySettings := do
  let d : QualitySettings := {}
  return {
    assertionKeywords :=
      ← field es "assertion_keywords" (fun v => (texts v).map cleanKeywords) d.assertionKeywords
    lookahead := ← field es "heuristic_lookahead" whole d.lookahead }

end ScenarioAudit
