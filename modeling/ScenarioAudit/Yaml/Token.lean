import ScenarioAudit.Yaml.Scalar
import ScenarioAudit.Text.Utf8

/-!
# Tokens of YAML

A text is read into tokens; where it cannot be read on, the last token says why. Indentation becomes tokens that
open and close collections. Whether something is a key shows only at the colon after it: until then its place is
kept as a possible key, one for each depth of brackets, and the tokens that announce the key are put in front of
it afterwards.
-/

namespace ScenarioAudit.Yaml

open ScenarioAudit.Text

/-- A tag as written: with a handle, or in full. -/
structure TagName where
  handle : Option (List Char)
  suffix : List Char
  deriving Repr

inductive Token where
  /-- A directive that gives the version. -/
  | version (major : Nat)
  /-- A directive that gives a prefix for a handle. -/
  | prefixFor (handle text : List Char)
  /-- Any other directive. -/
  | directive
  | documentStart
  | documentEnd
  | blockSequenceStart
  | blockMappingStart
  | blockEnd
  | flowSequenceStart
  | flowSequenceEnd
  | flowMappingStart
  | flowMappingEnd
  | flowEntry
  | blockEntry
  | key
  | value
  | alias (name : List Char)
  | anchor (name : List Char)
  | tag (name : TagName)
  /-- A text, and whether it is written plain. -/
  | scalar (plain : Bool) (text : CodePoints)
  /-- Where the text cannot be read on. -/
  | broken (fault : Fault)
  deriving Repr

/-- A place where a key may turn out to start. -/
structure PossibleKey where
  /-- The number of the token that would follow the key token. -/
  number : Nat
  /-- Whether anything but a key would be wrong here. -/
  required : Bool
  index : Nat
  line : Nat
  column : Nat
  deriving Repr

/-- How far the reading has come. -/
structure Scan where
  place : Cursor
  /-- The depth of brackets. -/
  flow : Nat := 0
  /-- The column of the innermost block collection, -1 outside all. -/
  indent : Int := -1
  /-- The columns around it. -/
  outer : List Int := []
  /-- Whether a key may start here. -/
  keyAllowed : Bool := true
  /-- The possible keys, by depth of brackets. -/
  keys : List (Nat × PossibleKey) := []
  tokens : Array Token := #[]
  deriving Repr

namespace Scan

def inFlow (s : Scan) : Bool :=
  0 < s.flow

def push (s : Scan) (t : Token) : Scan :=
  { s with tokens := s.tokens.push t }

def insert (s : Scan) (number : Nat) (t : Token) : Scan :=
  { s with tokens := s.tokens.insertIdxIfInBounds number t }

/-- Whether a possible key is too far back: it has to end in the line it starts in, and soon. -/
def isStale (s : Scan) (k : PossibleKey) : Bool :=
  k.line ≠ s.place.line ∨ 1024 < s.place.index - k.index

/-- Drops the possible keys that are too far back. -/
def dropStale (s : Scan) : Except Fault Scan :=
  if s.keys.any fun k => s.isStale k.2 && k.2.required then .error .malformed
  else .ok { s with keys := s.keys.filter fun k => !s.isStale k.2 }

def dropKey (s : Scan) : Except Fault Scan :=
  match s.keys.lookup s.flow with
  | some k =>
    if k.required then .error .malformed else .ok { s with keys := s.keys.filter (·.1 ≠ s.flow) }
  | none => .ok s

/-- Keeps this place as a possible key, if a key may start here. -/
def keepKey (s : Scan) : Except Fault Scan := do
  if s.keyAllowed then
    let s ← s.dropKey
    let k : PossibleKey :=
      ⟨s.tokens.size, !s.inFlow && s.indent == s.place.column, s.place.index, s.place.line, s.place.column⟩
    return { s with keys := (s.flow, k) :: s.keys }
  else return s

/-- Closes the block collections that are indented deeper than a column. -/
def unwind (column : Int) : List Int → Scan → Scan
  | [], s => s
  | o :: os, s =>
    if column < s.indent then unwind column os { s.push .blockEnd with indent := o, outer := os } else s

/-- Closes block collections, unless brackets are open. -/
def unwindTo (s : Scan) (column : Int) : Scan :=
  if s.inFlow then s else unwind column s.outer s

def isDeeper (s : Scan) (column : Nat) : Bool :=
  s.indent < column

def open_ (s : Scan) (column : Nat) : Scan :=
  { s with indent := column, outer := s.indent :: s.outer }

def takeAs (s : Scan) (n : Nat) (t : Token) : Scan :=
  { s.push t with place := s.place.skip n }

/-! ## Blanks and comments -/

/-- How many characters of spaces, comments and line breaks a text starts with, and whether a line ends in them.
`comment` tells whether the start of the text is within a comment. -/
def gapLength (comment : Bool) : List Char → Nat × Bool
  | [] => (0, false)
  | c :: s =>
    if isBreak c then ((gapLength false s).1 + 1, true)
    else if comment || c == ' ' || c == '#' then
      let (n, ended) := gapLength (comment || c == '#') s
      (n + 1, ended)
    else (0, false)

/-- Moves to the next token. A key may start after the end of a line, unless brackets are open. -/
def toNextToken (s : Scan) : Scan :=
  let c := if s.place.index = 0 ∧ s.place.peek = some '\uFEFF' then s.place.next else s.place
  let (n, ended) := gapLength false c.rest
  { s with place := c.skip n, keyAllowed := s.keyAllowed || (ended && !s.inFlow) }

/-! ## Directives, anchors and tags -/

def isWordSign (c : Char) : Bool :=
  c.isAlphanum || c == '-' || c == '_'

def isTagChar (c : Char) : Bool :=
  isWordSign c || ";/?:@&=+$,.!~*'()[]%".toList.contains c

def escapedBytes : List Char → Except Fault (List UInt8 × List Char)
  | '%' :: a :: b :: s =>
    match Syntax.hexDigit? a, Syntax.hexDigit? b with
    | some x, some y => (escapedBytes s).map fun (bs, rest) => (UInt8.ofNat (x * 16 + y) :: bs, rest)
    | _, _ => .error .malformed
  | '%' :: _ => .error .malformed
  | s => .ok ([], s)

def decodeTag : Nat → List Char → Except Fault (List Char)
  | 0, _ => .error .malformed
  | _, [] => .ok []
  | fuel + 1, c :: s =>
    if c = '%' then do
      let (octets, rest) ← escapedBytes (c :: s)
      match decodeUtf8? octets with
      | some t => return t ++ (← decodeTag fuel rest)
      | none => .error .malformed
    else (decodeTag fuel s).map (c :: ·)

def tagText (c : Cursor) : Except Fault (List Char × Cursor) := do
  let written := c.rest.takeWhile isTagChar
  if written.isEmpty then .error .malformed
  else return (← decodeTag (written.length + 1) written, c.skip written.length)

def tagHandle (c : Cursor) : Except Fault (List Char × Cursor) :=
  if c.peek ≠ some '!' then .error .malformed
  else if c.peekAt 1 = some ' ' then .ok (['!'], c.next)
  else
    let word := (c.rest.drop 1).takeWhile isWordSign
    if c.peekAt (word.length + 1) = some '!' then
      .ok ('!' :: word ++ ['!'], c.skip (word.length + 2))
    else .error .malformed

/-- The place after the rest of a line that means nothing. -/
def ignoredLine (c : Cursor) : Except Fault Cursor :=
  let c := c.skipSpaces.skipComment
  if isLineEnd c.peek then .ok c.takeBreak.2 else .error .malformed

def directiveNumber (c : Cursor) : Except Fault (Nat × Cursor) :=
  let ds := c.rest.takeWhile Char.isDigit
  if ds.isEmpty then .error .malformed
  else if Number.digitLimit < ds.length then .error (.cause (.numeral (.tooLong ds.length)))
  else .ok (Number.digitsValue ds, c.skip ds.length)

def directive (c : Cursor) : Except Fault (Token × Cursor) := do
  let name := c.rest.takeWhile isWordSign
  let c := c.skip name.length
  if name.isEmpty || !isSpaceOrEnd c.peek then .error .malformed
  else if name = "YAML".toList then
    let (major, c) ← directiveNumber c.skipSpaces
    if c.peek ≠ some '.' then .error .malformed
    else
      let (_, c) ← directiveNumber c.next
      if isSpaceOrEnd c.peek then return (.version major, ← ignoredLine c) else .error .malformed
  else if name = "TAG".toList then
    let (handle, c) ← tagHandle c.skipSpaces
    if c.peek ≠ some ' ' then .error .malformed
    else
      let (text, c) ← tagText c.skipSpaces
      if isSpaceOrEnd c.peek then return (.prefixFor handle text, ← ignoredLine c) else .error .malformed
  else return (.directive, ← ignoredLine (c.skipWhile (!isBreak ·)))

def anchorName (c : Cursor) : Except Fault (List Char × Cursor) :=
  let name := c.rest.takeWhile isWordSign
  let c := c.skip name.length
  if name.isEmpty then .error .malformed
  else if isGap c.peek || c.peek.any (fun d => "?:,]\x7d%@\x60".toList.contains d) then .ok (name, c)
  else .error .malformed

def tagName (c : Cursor) : Except Fault (TagName × Cursor) := do
  let (name, c) ←
    if c.peekAt 1 = some '<' then
      let (text, c) ← tagText (c.skip 2)
      if c.peek = some '>' then pure (TagName.mk none text, c.next) else .error .malformed
    else if isGap (c.peekAt 1) then pure (TagName.mk none ['!'], c.next)
    else
      let word := (c.rest.drop 1).takeWhile fun d => !isSpaceOrEnd (some d)
      let (handle, c) ← if word.contains '!' then tagHandle c else pure (['!'], c.next)
      let (text, c) ← tagText c
      pure (TagName.mk (some handle) text, c)
  if isSpaceOrEnd c.peek then return (name, c) else .error .malformed

/-! ## Tokens -/

def documentToken (s : Scan) (read : Except Fault (Token × Cursor)) : Except Fault Scan := do
  let s ← (s.unwindTo (-1)).dropKey
  let (t, c) ← read
  return { s.push t with keyAllowed := false, place := c }

def openingToken (s : Scan) (t : Token) : Except Fault Scan := do
  let s ← s.keepKey
  return { s.takeAs 1 t with flow := s.flow + 1, keyAllowed := true }

def closingToken (s : Scan) (t : Token) : Except Fault Scan := do
  let s ← s.dropKey
  return { s.takeAs 1 t with flow := s.flow - 1, keyAllowed := false }

/-- The sign in front of an item or a key, which may open a block collection. -/
def entryToken (s : Scan) (opening t : Token) (keyAfter : Bool) : Except Fault Scan := do
  let column := s.place.column
  if !s.inFlow && !s.keyAllowed then .error .malformed
  else
    let s := if !s.inFlow && s.isDeeper column then (s.push opening).open_ column else s
    let s ← { s with keyAllowed := keyAfter }.dropKey
    return s.takeAs 1 t

def valueToken (s : Scan) : Except Fault Scan :=
  match s.keys.lookup s.flow with
  | some k =>
    let s := { s with keys := s.keys.filter (·.1 ≠ s.flow) }
    let s := s.insert k.number .key
    let s :=
      if !s.inFlow && s.isDeeper k.column then (s.insert k.number .blockMappingStart).open_ k.column else s
    .ok { s.takeAs 1 .value with keyAllowed := false }
  | none => s.entryToken .blockMappingStart .value (!s.inFlow)

def nodeToken (s : Scan) (read : Except Fault (Token × Cursor)) : Except Fault Scan := do
  let s ← s.keepKey
  let (t, c) ← read
  return { s.push t with keyAllowed := false, place := c }

/-- A text written plain. Fuel bounds the characters that are left. -/
def plainToken (s : Scan) (fuel : Nat) : Except Fault Scan := do
  let s ← s.keepKey
  let (text, ended, c) := plainText s.inFlow (s.indent + 1).toNat fuel s.place
  return { s.push (.scalar true (codePoints text)) with keyAllowed := ended, place := c }

def blockToken (s : Scan) (folded : Bool) : Except Fault Scan := do
  let s ← { s with keyAllowed := true }.dropKey
  let (text, c) ← blockText folded s.indent s.place.next
  return { s.push (.scalar false (codePoints text)) with place := c }

/-- Signs that cannot start a plain text unless something other than a gap follows some of them. -/
def startSigns : List Char :=
  "-?:,[]\x7b\x7d#&*!|>'\"%@\x60".toList

def startsPlain (s : Scan) (c : Char) : Bool :=
  (!isGap (some c) && !startSigns.contains c) ||
    (!isGap (s.place.peekAt 1) && (c == '-' || (!s.inFlow && (c == '?' || c == ':'))))

/-- The next token, which starts with a given character. Fuel bounds the characters that are left. -/
def token (s : Scan) (fuel : Nat) (c : Char) : Except Fault Scan :=
  let here := s.place
  let gapAfterSign := isGap (here.peekAt 1)
  if c = '%' ∧ here.column = 0 then s.documentToken (directive here.next)
  else if here.column = 0 ∧ here.seesMarker ['-', '-', '-'] then
    s.documentToken (.ok (.documentStart, here.skip 3))
  else if here.column = 0 ∧ here.seesMarker ['.', '.', '.'] then
    s.documentToken (.ok (.documentEnd, here.skip 3))
  else if c = '[' then s.openingToken .flowSequenceStart
  else if c = '\x7b' then s.openingToken .flowMappingStart
  else if c = ']' then s.closingToken .flowSequenceEnd
  else if c = '\x7d' then s.closingToken .flowMappingEnd
  else if c = ',' then do
    let s ← { s with keyAllowed := true }.dropKey
    return s.takeAs 1 .flowEntry
  else if c = '-' ∧ gapAfterSign then s.entryToken .blockSequenceStart .blockEntry true
  else if c = '?' ∧ (s.inFlow ∨ gapAfterSign) then s.entryToken .blockMappingStart .key (!s.inFlow)
  else if c = ':' ∧ (s.inFlow ∨ gapAfterSign) then s.valueToken
  else if c = '*' then s.nodeToken ((anchorName here.next).map fun (n, p) => (.alias n, p))
  else if c = '&' then s.nodeToken ((anchorName here.next).map fun (n, p) => (.anchor n, p))
  else if c = '!' then s.nodeToken ((tagName here).map fun (n, p) => (.tag n, p))
  else if c = '|' ∧ !s.inFlow then s.blockToken false
  else if c = '>' ∧ !s.inFlow then s.blockToken true
  else if c = '\'' ∨ c = '"' then
    s.nodeToken ((quotedText c fuel here.next).map fun (t, p) => (.scalar false t, p))
  else if s.startsPlain c then s.plainToken fuel
  else .error .malformed

/-- Reads the next token and whether it was one, not the end. Fuel bounds the characters that are left. -/
def step (s : Scan) (fuel : Nat) : Except Fault (Scan × Bool) := do
  let s ← s.toNextToken.dropStale
  let s := s.unwindTo s.place.column
  match s.place.peek with
  | none => return (← (s.unwindTo (-1)).dropKey, false)
  | some c => return (← s.token fuel c, true)

/-- The tokens in front of the first place that may still turn out to be a key. -/
def settled (s : Scan) : List Token :=
  let places := s.keys.filterMap fun k => if s.isStale k.2 then none else some k.2.number
  s.tokens.toList.take (places.foldl min s.tokens.size)

/-- Reads all tokens that are left. Each takes at least one character: fuel bounds the characters that are left. -/
def run : Nat → Scan → List Token
  | 0, s => s.settled ++ [.broken .malformed]
  | fuel + 1, s =>
    match s.step (fuel + 1) with
    | .ok (s, true) => run fuel s
    | .ok (s, false) => s.tokens.toList
    | .error f => s.settled ++ [.broken f]

end Scan

/-- A character that may stand in a YAML text. -/
def isAllowed (c : Char) : Bool :=
  let n := c.toNat
  n == 9 || n == 10 || n == 13 || (0x20 ≤ n && n ≤ 0x7E) || n == 0x85 || (0xA0 ≤ n && n ≤ 0xFFFD)
    || 0x10000 ≤ n

def Token.ofText (text : List Char) : List Token :=
  if text.all isAllowed then Scan.run (text.length + 2) { place := ⟨text, 0, 0, 0⟩ } else [.broken .malformed]

end ScenarioAudit.Yaml
