import ScenarioAudit.Yaml.Cursor
import ScenarioAudit.Syntax.Numeral
import ScenarioAudit.Text.CodePoints

/-!
# Scalars of YAML

The four ways of writing a text: between quotes of either kind, plain, and as a block. Lines of a quoted or plain
text are folded: one line break becomes a space, and of several the first one goes. Blocks keep their lines or
fold them, and end with none, one or all of their last line breaks.
-/

namespace ScenarioAudit.Yaml

open ScenarioAudit.Text

/-! ## Quoted texts -/

/-- The blank lines of a folded text, and the place after them; a document marker may not stand among them. -/
def blankLines : Nat → Cursor → Except Fault (List Char × Cursor)
  | 0, _ => .error .malformed
  | fuel + 1, c =>
    if c.seesDocumentMarker then .error .malformed
    else
      let c := c.skipWhile fun d => d == ' ' || d == '\t'
      match c.takeBreak with
      | ([], _) => .ok ([], c)
      | (b, c) => (blankLines fuel c).map fun (bs, c) => (b ++ bs, c)

/-- What a row of blanks and line breaks in a quoted text counts as. -/
def quotedGap (c : Cursor) : Except Fault (List Char × Cursor) := do
  let blanks := c.rest.takeWhile fun d => d == ' ' || d == '\t'
  let c := c.skip blanks.length
  match c.peek with
  | none => .error .malformed
  | some d =>
    if isBreak d then
      let (b, c) := c.takeBreak
      let (bs, c) ← blankLines (c.rest.length + 1) c
      return (if b ≠ ['\n'] then b ++ bs else if bs.isEmpty then [' '] else bs, c)
    else return (blanks, c)

/-- The code that a letter stands for after a backslash. -/
def escapedCode? (c : Char) : Option Nat :=
  match c with
  | '0' => some 0
  | 'a' => some 7
  | 'b' => some 8
  | 't' | '\t' => some 9
  | 'n' => some 10
  | 'v' => some 11
  | 'f' => some 12
  | 'r' => some 13
  | 'e' => some 27
  | ' ' => some 32
  | '"' => some 34
  | '\\' => some 92
  | '/' => some 47
  | 'N' => some 0x85
  | '_' => some 0xA0
  | 'L' => some 0x2028
  | 'P' => some 0x2029
  | _ => none

/-- How many hexadecimal digits follow a letter after a backslash. -/
def hexWidth? (c : Char) : Option Nat :=
  match c with
  | 'x' => some 2
  | 'u' => some 4
  | 'U' => some 8
  | _ => none

def hexCode (width : Nat) (c : Cursor) : Except Fault (Nat × Cursor) :=
  let ds := c.rest.take width
  if ds.length = width ∧ ds.all (fun d => (Syntax.hexDigit? d).isSome) then
    let n := Syntax.radixValue 16 ds
    if n ≤ 0x10FFFF then .ok (n, c.skip width)
    else if n < 0x80000000 then .error (.cause .noSuchCharacter)
    else .error (.cause .overflow)
  else .error .malformed

/-- A quoted text after its opening quote, and the place after the closing one. -/
def quotedText (quote : Char) : Nat → Cursor → Except Fault (CodePoints × Cursor)
  | 0, _ => .error .malformed
  | fuel + 1, c =>
    let double := quote == '"'
    let on (codes : CodePoints) (c : Cursor) : Except Fault (CodePoints × Cursor) :=
      (quotedText quote fuel c).map fun (more, c) => (codes ++ more, c)
    match c.peek with
    | none => .error .malformed
    | some d =>
      if d = quote then
        if !double && c.peekAt 1 == some quote then on [quote.toNat] (c.skip 2) else .ok ([], c.next)
      else if d = '\\' ∧ double then
        let c := c.next
        match c.peek with
        | none => .error .malformed
        | some e =>
          match escapedCode? e, hexWidth? e with
          | some n, _ => on [n] c.next
          | none, some width =>
            match hexCode width c.next with
            | .ok (n, c) => on [n] c
            | .error f => .error f
          | none, none =>
            if isBreak e then
              match blankLines (c.rest.length + 1) c.takeBreak.2 with
              | .ok (bs, c) => on (codePoints bs) c
              | .error f => .error f
            else .error .malformed
      else if d = ' ' ∨ d = '\t' ∨ isBreak d then
        match quotedGap c with
        | .ok (gap, c) => on (codePoints gap) c
        | .error f => .error f
      else on [d.toNat] c.next

/-! ## Plain texts -/

/-- A character that ends an item of a collection in brackets. -/
def isFlowMark (c : Char) : Bool :=
  c == ',' || c == '[' || c == ']' || c == '\x7b' || c == '\x7d'

/-- How many characters of a plain text stand in a row; `flow` tells whether brackets are open. -/
def plainRun (flow : Bool) : List Char → Nat
  | [] => 0
  | c :: s =>
    if isGap (some c) then 0
    else if c = ':' ∧ (isGap s.head? || (flow && s.head?.any isFlowMark)) then 0
    else if flow ∧ (isFlowMark c ∨ c = '?') then 0
    else plainRun flow s + 1

/-- The line breaks and spaces after a line of a plain text; nothing more if a document marker follows. -/
def plainBreaks : Nat → Cursor → Option (List Char) × Cursor
  | 0, c => (some [], c)
  | fuel + 1, c =>
    match c.peek with
    | some ' ' => plainBreaks fuel c.next
    | some d =>
      if isBreak d then
        let (b, c) := c.takeBreak
        if c.seesDocumentMarker then (none, c)
        else
          match plainBreaks fuel c with
          | (some bs, c) => (some (b ++ bs), c)
          | (none, c) => (none, c)
      else (some [], c)
    | none => (some [], c)

/-- What stands between two runs of a plain text, and whether a line ended in it. -/
def plainGap (c : Cursor) : List Char × Bool × Cursor :=
  let blanks := c.rest.takeWhile (· == ' ')
  let c := c.skip blanks.length
  if c.peek.any isBreak then
    let (b, c) := c.takeBreak
    if c.seesDocumentMarker then ([], true, c)
    else
      match plainBreaks (c.rest.length + 1) c with
      | (none, c) => ([], true, c)
      | (some bs, c) => (if b ≠ ['\n'] then b ++ bs else if bs.isEmpty then [' '] else bs, true, c)
  else (blanks, false, c)

/-- A plain text whose further lines are indented to a column at least; tells whether a line ended after it. -/
def plainText (flow : Bool) (indent : Nat) : Nat → Cursor → List Char × Bool × Cursor
  | 0, c => ([], false, c)
  | fuel + 1, c =>
    if c.peek = some '#' then ([], false, c)
    else
      let n := plainRun flow c.rest
      if n = 0 then ([], false, c)
      else
        let run := c.rest.take n
        let (gap, ended, c) := plainGap (c.skip n)
        if gap.isEmpty ∨ c.peek = some '#' ∨ (!flow ∧ c.column < indent) then (run, ended, c)
        else if plainRun flow c.rest = 0 then (run, ended, c)
        else
          let (more, ended, c) := plainText flow indent fuel c
          (run ++ gap ++ more, ended, c)

/-! ## Blocks -/

/-- What happens to the line breaks at the end of a block. -/
inductive Chomping where
  | strip
  | clip
  | keep
  deriving DecidableEq, Repr

def chomping? : Option Char → Option Chomping
  | some '+' => some .keep
  | some '-' => some .strip
  | _ => none

def increment? (c : Option Char) : Option Nat :=
  (c.filter Char.isDigit).map fun d => d.toNat - '0'.toNat

/-- The head of a block: its chomping, its indentation if given, and the place after its line. -/
def blockHead (c : Cursor) : Except Fault (Chomping × Option Nat × Cursor) := do
  let (chomping, increment, c) :=
    match chomping? c.peek, increment? c.peek with
    | some k, _ =>
      match increment? c.next.peek with
      | some n => (k, some n, c.skip 2)
      | none => (k, none, c.next)
    | none, some n =>
      match chomping? c.next.peek with
      | some k => (k, some n, c.skip 2)
      | none => (Chomping.clip, some n, c.next)
    | none, none => (Chomping.clip, none, c)
  if increment = some 0 ∨ !isSpaceOrEnd c.peek then .error .malformed
  else
    let c := c.skipSpaces.skipComment
    if isLineEnd c.peek then return (chomping, increment, c.takeBreak.2) else .error .malformed

/-- The blank lines in front of a block, and the deepest column in them. -/
def blockLead : Nat → Nat → Cursor → List Char × Nat × Cursor
  | 0, deepest, c => ([], deepest, c)
  | fuel + 1, deepest, c =>
    match c.peek with
    | some ' ' => blockLead fuel (max deepest c.next.column) c.next
    | some d =>
      if isBreak d then
        let (b, c) := c.takeBreak
        let (bs, deepest, c) := blockLead fuel deepest c
        (b ++ bs, deepest, c)
      else ([], deepest, c)
    | none => ([], deepest, c)

def indentTo (indent : Nat) (c : Cursor) : Cursor :=
  c.skip (min (indent - c.column) (c.rest.takeWhile (· == ' ')).length)

/-- The blank lines between lines of a block. -/
def blockBreaks (indent : Nat) : Nat → Cursor → List Char × Cursor
  | 0, c => ([], c)
  | fuel + 1, c =>
    let c := indentTo indent c
    match c.takeBreak with
    | ([], _) => ([], c)
    | (b, c) => let (bs, c) := blockBreaks indent fuel c; (b ++ bs, c)

/-- The lines of a block: its text, its last line break, and the blank lines after it. -/
def blockLines (folded : Bool) (indent : Nat) :
    Nat → List Char → Cursor → List Char × List Char × List Char × Cursor
  | 0, breaks, c => ([], [], breaks, c)
  | fuel + 1, breaks, c =>
    if c.column = indent ∧ c.peek.isSome then
      let line := c.rest.takeWhile (!isBreak ·)
      let indented := c.peek.any fun d => d == ' ' || d == '\t'
      let (b, c) := (c.skip line.length).takeBreak
      let (after, c) := blockBreaks indent (c.rest.length + 1) c
      if c.column = indent ∧ c.peek.isSome then
        let joint :=
          if folded ∧ b = ['\n'] ∧ !indented ∧ !c.peek.any (fun d => d == ' ' || d == '\t') then
            if after.isEmpty then [' '] else []
          else b
        let (text, last, tail, c) := blockLines folded indent fuel after c
        (breaks ++ line ++ joint ++ text, last, tail, c)
      else (breaks ++ line, b, after, c)
    else ([], [], breaks, c)

/-- A block after its mark, inside a collection at a column (-1 for none). -/
def blockText (folded : Bool) (outer : Int) (c : Cursor) : Except Fault (List Char × Cursor) := do
  let (chomping, increment, c) ← blockHead c
  let least := (max (outer + 1) 1).toNat
  let (breaks, indent, c) :=
    match increment with
    | none =>
      let (breaks, deepest, c) := blockLead (c.rest.length + 1) 0 c
      (breaks, max least deepest, c)
    | some n =>
      let indent := least + n - 1
      let (breaks, c) := blockBreaks indent (c.rest.length + 1) c
      (breaks, indent, c)
  let (text, last, tail, c) := blockLines folded indent (c.rest.length + 1) breaks c
  return (text ++ (if chomping = .strip then [] else last) ++ (if chomping = .keep then tail else []), c)

end ScenarioAudit.Yaml
