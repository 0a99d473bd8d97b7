import ScenarioAudit.Text.Case
import ScenarioAudit.Text.Blank

/-!
# Patterns

A pattern describes pieces of text. Matching tries alternatives in order and takes the first way that lets
everything after it match too: a greedy repetition prefers more, a lazy one less. The position of a match is a
`Spot`, the text before it (last character first) and the text after it. Matching is total: repetition of single
characters recurses on the text, repetition of whole patterns is bounded by its length.
-/

namespace ScenarioAudit

open ScenarioAudit.Text

/-- A piece of text by where it starts and how long it is. -/
structure Span where
  start : List Char
  length : Nat
  deriving Repr

def Span.text (s : Span) : List Char :=
  s.start.take s.length

/-- A place in a text, with the pieces captured on the way there (latest first). -/
structure Spot where
  before : List Char
  after : List Char
  position : Nat
  captures : List (Nat × Span) := []
  deriving Repr

namespace Spot

def start (text : List Char) : Spot :=
  ⟨[], text, 0, []⟩

/-- The place after one more character. -/
def next (s : Spot) (c : Char) (rest : List Char) : Spot :=
  { s with before := c :: s.before, after := rest, position := s.position + 1 }

def forget (s : Spot) : Spot :=
  { s with captures := [] }

/-- The text captured under a number; empty if nothing was. -/
def captured (s : Spot) (n : Nat) : List Char :=
  match s.captures.find? (·.1 = n) with
  | some (_, span) => span.text
  | none => []

/-- The text between two places. -/
def upTo (s t : Spot) : List Char :=
  s.after.take (t.position - s.position)

end Spot

/-- A description of pieces of text. -/
inductive Pattern where
  /-- The empty piece. -/
  | nothing
  /-- One character of a class. -/
  | one (p : Char → Bool)
  /-- Any number of characters of a class; `greedy` prefers more. -/
  | many (greedy : Bool) (p : Char → Bool)
  /-- One pattern after the other. -/
  | seq (a b : Pattern)
  /-- Either pattern, the first one preferred. -/
  | alt (a b : Pattern)
  /-- Any number of repetitions, more preferred. -/
  | star (a : Pattern)
  /-- A pattern whose text is captured under a number. -/
  | capture (n : Nat) (a : Pattern)
  /-- The text captured under a number, once more. -/
  | same (n : Nat)
  /-- A test of the character before and the text after. -/
  | look (test : Option Char → List Char → Bool)

namespace Pattern

/-- Repetition of a class, as many characters as possible first. -/
def runMany {α : Type} (p : Char → Bool) (k : Spot → Option α) : List Char → Spot → Option α
  | [], s => k s
  | c :: rest, s =>
    if p c then
      match runMany p k rest (s.next c rest) with
      | some a => some a
      | none => k s
    else
      k s

/-- Repetition of a class, as few characters as possible first. -/
def runLazy {α : Type} (p : Char → Bool) (k : Spot → Option α) : List Char → Spot → Option α
  | [], s => k s
  | c :: rest, s =>
    match k s with
    | some a => some a
    | none => if p c then runLazy p k rest (s.next c rest) else none

/-- Repetition of a pattern given by its way of running, at most `fuel` times. -/
def runStar {α : Type} (step : Spot → (Spot → Option α) → Option α) (k : Spot → Option α) :
    Nat → Spot → Option α
  | 0, s => k s
  | fuel + 1, s =>
    match step s (runStar step k fuel) with
    | some a => some a
    | none => k s

/-- The place after a given text, if it comes next. -/
def runText : List Char → Spot → Option Spot
  | [], s => some s
  | c :: cs, s =>
    match s.after with
    | d :: rest => if c = d then runText cs (s.next d rest) else none
    | [] => none

/-- Matches a pattern at a place; `k` is what has to succeed after it. -/
def run {α : Type} : Pattern → Spot → (Spot → Option α) → Option α
  | nothing, s, k => k s
  | one p, s, k =>
    match s.after with
    | c :: rest => if p c then k (s.next c rest) else none
    | [] => none
  | many greedy p, s, k => if greedy then runMany p k s.after s else runLazy p k s.after s
  | seq a b, s, k => a.run s fun t => b.run t k
  | alt a b, s, k =>
    match a.run s k with
    | some x => some x
    | none => b.run s k
  | star a, s, k => runStar a.run k s.after.length s
  | capture n a, s, k =>
    a.run s fun t => k { t with captures := (n, ⟨s.after, t.position - s.position⟩) :: t.captures }
  | same n, s, k =>
    match runText (s.captured n) s with
    | some t => k t
    | none => none
  | look test, s, k => if test s.before.head? s.after then k s else none

/-- A match: where it starts and where it stops. -/
structure Match where
  start : Spot
  stop : Spot
  deriving Repr

def Match.text (m : Match) : List Char :=
  m.start.upTo m.stop

def Match.captured (m : Match) (n : Nat) : List Char :=
  m.stop.captured n

def matchAt (p : Pattern) (s : Spot) : Option Match :=
  (p.run s.forget some).map fun t => ⟨s.forget, t⟩

/-- The first match at or after a place; the list is the text after that place. -/
def findFrom (p : Pattern) : List Char → Spot → Option Match
  | [], s => p.matchAt s
  | c :: rest, s =>
    match p.matchAt s with
    | some m => some m
    | none => findFrom p rest (s.next c rest)

def findAfter (p : Pattern) (s : Spot) : Option Match :=
  p.findFrom s.after s

def find (p : Pattern) (text : List Char) : Option Match :=
  p.findAfter (Spot.start text)

def occurs (p : Pattern) (text : List Char) : Bool :=
  (p.find text).isSome

def startsAt (p : Pattern) (text : List Char) : Bool :=
  (p.matchAt (Spot.start text)).isSome

def findAllAfter (p : Pattern) : Nat → Spot → List Match
  | 0, _ => []
  | fuel + 1, s =>
    match p.findAfter s with
    | none => []
    | some m =>
      if m.start.position < m.stop.position then m :: findAllAfter p fuel m.stop
      else
        match m.stop.after with
        | [] => [m]
        | c :: rest => m :: findAllAfter p fuel (m.stop.next c rest)

def findAll (p : Pattern) (text : List Char) : List Match :=
  p.findAllAfter (text.length + 1) (Spot.start text)

end Pattern

end ScenarioAudit
