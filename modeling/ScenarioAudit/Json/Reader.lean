import ScenarioAudit.Json.Basic
import ScenarioAudit.Number.Numeral
import ScenarioAudit.Text.Utf8

/-!
# Reading JSON

One value, nothing after it but JSON white space, no control characters in strings. A key that is repeated keeps
its first place and takes its last value. The `Rule` says what becomes of whole numbers beyond 64 bits, of numbers
beyond the floating range and of lone surrogates.
-/

namespace ScenarioAudit.Json

open ScenarioAudit.Text ScenarioAudit.Number

/-- How strict a reader is. -/
structure Rule where
  /-- Whole numbers beyond 64 bits are kept exactly, as far as their digits can be converted; otherwise they are read
  as fractions. -/
  keepsWide : Bool
  /-- A fraction beyond the floating range is infinite, and there are words for what is not finite; otherwise the
  text is refused. -/
  allowsInfinite : Bool
  /-- A lone surrogate counts as the replacement mark; otherwise the text is refused. -/
  allowsSurrogates : Bool

def recordRule : Rule := ⟨false, false, false⟩

def wideRule : Rule := ⟨true, true, true⟩

def isSpace (c : Char) : Bool :=
  c == ' ' || c == '\n' || c == '\r' || c == '\t'

/-- The text after leading white space. -/
def skipSpace (s : List Char) : List Char :=
  s.dropWhile isSpace

def hexValue? (c : Char) : Option Nat :=
  if '0' ≤ c ∧ c ≤ '9' then some (c.toNat - '0'.toNat)
  else if 'a' ≤ c ∧ c ≤ 'f' then some (c.toNat - 'a'.toNat + 10)
  else if 'A' ≤ c ∧ c ≤ 'F' then some (c.toNat - 'A'.toNat + 10)
  else none

def hex4? : List Char → Option (Nat × List Char)
  | a :: b :: c :: d :: s => do
    let w ← hexValue? a
    let x ← hexValue? b
    let y ← hexValue? c
    let z ← hexValue? d
    some (((w * 16 + x) * 16 + y) * 16 + z, s)
  | _ => none

/-- The second half of a surrogate pair, written as an escape. -/
def lowSurrogate? : List Char → Option (Nat × List Char)
  | '\\' :: 'u' :: s =>
    (hex4? s).filter fun lo => decide (0xDC00 ≤ lo.1 ∧ lo.1 < 0xE000)
  | _ => none

/-- The character of a `\u` escape, a surrogate pair being two of them. -/
def unicodeEscape? (rule : Rule) (s : List Char) : Option (Char × List Char) := do
  let (hi, s) ← hex4? s
  let lone := if rule.allowsSurrogates then some (replacementMark, s) else none
  if 0xD800 ≤ hi ∧ hi < 0xDC00 then
    match lowSurrogate? s with
    | some (lo, s) => some (Char.ofNat (0x10000 + (hi - 0xD800) * 0x400 + (lo - 0xDC00)), s)
    | none => lone
  else if 0xDC00 ≤ hi ∧ hi < 0xE000 then lone
  else some (Char.ofNat hi, s)

def letterEscape? : Char → Option Char
  | '"' => some '"'
  | '\\' => some '\\'
  | '/' => some '/'
  | 'b' => some (Char.ofNat 8)
  | 'f' => some (Char.ofNat 12)
  | 'n' => some '\n'
  | 'r' => some '\r'
  | 't' => some '\t'
  | _ => none

def readString (rule : Rule) : Nat → List Char → Option (List Char × List Char)
  | 0, _ => none
  | fuel + 1, s =>
    match s with
    | [] => none
    | '"' :: rest => some ([], rest)
    | '\\' :: 'u' :: rest => do
      let (c, rest) ← unicodeEscape? rule rest
      let (cs, rest) ← readString rule fuel rest
      some (c :: cs, rest)
    | '\\' :: c :: rest => do
      let e ← letterEscape? c
      let (cs, rest) ← readString rule fuel rest
      some (e :: cs, rest)
    | c :: rest =>
      if c.toNat < 0x20 then none
      else do
        let (cs, rest) ← readString rule fuel rest
        some (c :: cs, rest)

def fractionWithin (rule : Rule) (x : Binary64) : Option Json :=
  match x with
  | .infinite _ => if rule.allowsInfinite then some (.float x) else none
  | _ => some (.float x)

def wholeNumber (rule : Rule) (neg : Bool) (n : Nat) : Option Json :=
  let i : Int := if neg then -(n : Int) else n
  if rule.keepsWide || isWord i then some (.int i)
  else fractionWithin rule (Binary64.ofInt i)

/-- The digits after a point, if there is a point; `none` if they are missing. -/
def readFraction : List Char → Option (List Char × List Char)
  | '.' :: r =>
    if (r.takeWhile Char.isDigit).isEmpty then none
    else some (r.takeWhile Char.isDigit, r.dropWhile Char.isDigit)
  | r => some ([], r)

def readExponent (r : List Char) : Option (Option Int × List Char) :=
  let (neg, r) := takeSign r
  let ds := r.takeWhile Char.isDigit
  if ds.isEmpty then none
  else some (some (if neg then -(digitsValue ds : Int) else digitsValue ds), r.dropWhile Char.isDigit)

def readScale : List Char → Option (Option Int × List Char)
  | 'e' :: r => readExponent r
  | 'E' :: r => readExponent r
  | r => some (none, r)

def readUnsigned (rule : Rule) (neg : Bool) (s : List Char) : Option (Json × List Char) := do
  let whole := s.takeWhile Char.isDigit
  if whole.isEmpty || (whole.length > 1 && whole.head? == some '0') then none
  else
    let (fraction, rest) ← readFraction (s.dropWhile Char.isDigit)
    let (scale, rest) ← readScale rest
    let value ←
      if fraction.isEmpty && scale.isNone then
        if rule.keepsWide && digitLimit < whole.length then none
        else wholeNumber rule neg (digitsValue whole)
      else
        fractionWithin rule
          (Binary64.ofDecimal neg (digitsValue (whole ++ fraction)) (scale.getD 0 - fraction.length))
    some (value, rest)

def readNumber (rule : Rule) : List Char → Option (Json × List Char)
  | '-' :: r => readUnsigned rule true r
  | r => readUnsigned rule false r

def expectWord : List Char → List Char → Option (List Char)
  | [], s => some s
  | w :: ws, c :: s => if w = c then expectWord ws s else none
  | _ :: _, [] => none

def notFinite (rule : Rule) (x : Binary64) (word : String) (s : List Char) : Option (Json × List Char) :=
  if rule.allowsInfinite then (expectWord word.toList s).map (Json.float x, ·) else none

mutual
/-- A value; white space in front is skipped. Fuel bounds the characters that are left. -/
def readValue (rule : Rule) : Nat → List Char → Option (Json × List Char)
  | 0, _ => none
  | fuel + 1, s =>
    match skipSpace s with
    | '{' :: rest =>
      match skipSpace rest with
      | '}' :: rest => some (.obj [], rest)
      | rest => do
        let (ms, rest) ← readMembers rule fuel [] rest
        some (.obj ms, rest)
    | '[' :: rest =>
      match skipSpace rest with
      | ']' :: rest => some (.arr [], rest)
      | rest => do
        let (vs, rest) ← readItems rule fuel rest
        some (.arr vs, rest)
    | '"' :: rest => do
      let (cs, rest) ← readString rule (fuel + 1) rest
      some (.str (String.ofList cs), rest)
    | 't' :: rest => (expectWord "rue".toList rest).map (Json.bool true, ·)
    | 'f' :: rest => (expectWord "alse".toList rest).map (Json.bool false, ·)
    | 'n' :: rest => (expectWord "ull".toList rest).map (Json.null, ·)
    | 'N' :: rest => notFinite rule .nan "aN" rest
    | 'I' :: rest => notFinite rule (.infinite false) "nfinity" rest
    | '-' :: 'I' :: rest => notFinite rule (.infinite true) "nfinity" rest
    | rest => readNumber rule rest
def readItems (rule : Rule) : Nat → List Char → Option (List Json × List Char)
  | 0, _ => none
  | fuel + 1, s => do
    let (v, rest) ← readValue rule fuel s
    match skipSpace rest with
    | ',' :: rest =>
      let (vs, rest) ← readItems rule fuel rest
      some (v :: vs, rest)
    | ']' :: rest => some ([v], rest)
    | _ => none
/-- The members of an object up to its closing brace, set one after the other. -/
def readMembers (rule : Rule) :
    Nat → Members → List Char → Option (Members × List Char)
  | 0, _, _ => none
  | fuel + 1, ms, s =>
    match skipSpace s with
    | '"' :: rest => do
      let (key, rest) ← readString rule (fuel + 1) rest
      match skipSpace rest with
      | ':' :: rest =>
        let (v, rest) ← readValue rule fuel rest
        let ms := ms.set (String.ofList key) v
        match skipSpace rest with
        | ',' :: rest => readMembers rule fuel ms rest
        | '}' :: rest => some (ms, rest)
        | _ => none
      | _ => none
    | _ => none
end

def readDepthLimit : Nat := 1024

def ofText? (rule : Rule) (s : List Char) : Option Json := do
  let (v, rest) ← readValue rule (2 * s.length + 2) s
  if (skipSpace rest).isEmpty && v.depth ≤ readDepthLimit then some v else none

def ofBytes? (bytes : List UInt8) : Option Json :=
  (decodeUtf8? bytes).bind (ofText? recordRule)

end ScenarioAudit.Json
