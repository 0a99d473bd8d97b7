import ScenarioAudit.Syntax.Numeral

/-!
# String literals

A literal has marks in front of its quote (raw, bytes, formatted), and stands between single or triple quotes.
A backslash hides the character after it when the end is looked for, also in raw literals; in other literals it
starts an escape. The escapes are read by one pass over the characters, whose state says what is still to come.
-/

namespace ScenarioAudit.Syntax

open ScenarioAudit.Text

/-- The marks in front of a literal. -/
structure Marks where
  raw : Bool := false
  bytes : Bool := false
  formatted : Bool := false
  deriving DecidableEq, Repr

def isQuote (c : Char) : Bool :=
  c == '\'' || c == '"'

def marksOf? (letters : List Char) : Option Marks :=
  match String.ofList (letters.map Char.toLower) with
  | "" | "u" => some {}
  | "r" => some { raw := true }
  | "b" => some { bytes := true }
  | "f" => some { formatted := true }
  | "br" | "rb" => some { raw := true, bytes := true }
  | "fr" | "rf" => some { raw := true, formatted := true }
  | _ => none

def literalStart? (s : List Char) : Option (Marks × List Char) :=
  let letters := s.takeWhile Char.isAlpha
  let rest := s.drop letters.length
  if rest.head?.any isQuote then (marksOf? letters).map (·, rest) else none

/-- The inside of a literal between single quotes, and the rest. -/
def plainInside? (quote : Char) : List Char → Option (List Char × List Char)
  | [] => none
  | c :: s =>
    if c = quote then some ([], s)
    else if c = '\n' then none
    else if c = '\\' then
      match s with
      | [] => none
      | d :: t => (plainInside? quote t).map fun (body, rest) => (c :: d :: body, rest)
    else (plainInside? quote s).map fun (body, rest) => (c :: body, rest)

/-- The inside of a literal between triple quotes, and the rest. -/
def tripleInside? (quote : Char) : List Char → Option (List Char × List Char)
  | [] => none
  | c :: s =>
    if c = quote ∧ [quote, quote].isPrefixOf s then some ([], s.drop 2)
    else if c = '\\' then
      match s with
      | [] => none
      | d :: t => (tripleInside? quote t).map fun (body, rest) => (c :: d :: body, rest)
    else (tripleInside? quote s).map fun (body, rest) => (c :: body, rest)

/-- The inside of the literal that starts with the quote at the start of a text, and the rest. -/
def inside? : List Char → Option (List Char × List Char)
  | q :: s =>
    if [q, q].isPrefixOf s then tripleInside? q (s.drop 2) else plainInside? q s
  | [] => none

/-- What is still to come of an escape. -/
inductive Escape where
  | outside
  /-- After a backslash. -/
  | opened
  /-- So many hexadecimal digits, with the value of those before. -/
  | hex (left value : Nat)
  /-- At most so many octal digits, with the value of those before. -/
  | octal (left value : Nat)
  /-- The brace in front of the name of a character. -/
  | nameOpening
  /-- The name of a character, with the letters before (last first). -/
  | named (letters : List Char)
  deriving DecidableEq, Repr

def octalDigit? (c : Char) : Option Nat :=
  (hexDigit? c).filter (· < 8)

/-- The control character that a letter stands for after a backslash. -/
def controlCode? (c : Char) : Option Nat :=
  match c with
  | 'a' => some 7
  | 'b' => some 8
  | 't' => some 9
  | 'n' => some 10
  | 'v' => some 11
  | 'f' => some 12
  | 'r' => some 13
  | _ => none

/-- A code from an escape: in a row of bytes only the low eight bits count. -/
def codeOf (bytes : Bool) (n : Nat) : Nat :=
  if bytes then n % 256 else n

/-- Reads one character in a state: the codes that are complete, and the next state. Escapes by name are looked
up by `named?`. `none` if an escape is malformed. -/
def escapeStep (named? : List Char → Option Nat) (bytes : Bool) :
    Escape → Char → Option (List Nat × Escape)
  | .outside, c => if c = '\\' then some ([], .opened) else some ([c.toNat], .outside)
  | .opened, c =>
    if c = '\n' then some ([], .outside)
    else if c = '\\' ∨ c = '\'' ∨ c = '"' then some ([c.toNat], .outside)
    else if c = 'x' then some ([], .hex 2 0)
    else if c = 'u' ∧ !bytes then some ([], .hex 4 0)
    else if c = 'U' ∧ !bytes then some ([], .hex 8 0)
    else if c = 'N' ∧ !bytes then some ([], .nameOpening)
    else
      match controlCode? c, octalDigit? c with
      | some n, _ => some ([n], .outside)
      | none, some d => some ([], .octal 2 d)
      | none, none => some (['\\'.toNat, c.toNat], .outside)
  | .hex left value, c =>
    match hexDigit? c with
    | none => none
    | some d =>
      let v := value * 16 + d
      if 1 < left then some ([], .hex (left - 1) v)
      else if v ≤ 0x10FFFF then some ([v], .outside) else none
  | .octal left value, c =>
    match octalDigit? c with
    | some d =>
      let v := value * 8 + d
      if 1 < left then some ([], .octal (left - 1) v) else some ([codeOf bytes v], .outside)
    | none =>
      if c = '\\' then some ([codeOf bytes value], .opened)
      else some ([codeOf bytes value, c.toNat], .outside)
  | .nameOpening, c => if c = '\x7b' then some ([], .named []) else none
  | .named letters, c =>
    if c = '\x7d' then (named? letters.reverse).map fun n => ([n], .outside)
    else some ([], .named (c :: letters))

/-- The codes that are left when the text ends in a state. -/
def escapeEnd (bytes : Bool) : Escape → Option (List Nat)
  | .outside => some []
  | .opened => some ['\\'.toNat]
  | .octal _ value => some [codeOf bytes value]
  | .hex _ _ | .nameOpening | .named _ => none

def decodeFrom (named? : List Char → Option Nat) (bytes : Bool) : Escape → List Char → Option (List Nat)
  | e, [] => escapeEnd bytes e
  | e, c :: s =>
    match escapeStep named? bytes e c with
    | none => none
    | some (codes, next) => (decodeFrom named? bytes next s).map (codes ++ ·)

/-- The codes of the inside of a literal; a raw literal has no escapes. -/
def decodeInside (named? : List Char → Option Nat) (marks : Marks) (inside : List Char) : Option (List Nat) :=
  if marks.bytes && inside.any (fun c => 128 ≤ c.toNat) then none
  else if marks.raw then some (codePoints inside)
  else decodeFrom named? marks.bytes .outside inside

end ScenarioAudit.Syntax
