import ScenarioAudit.Text.Property.CombiningClass
import ScenarioAudit.Text.Property.Composition
import ScenarioAudit.Text.Property.Decomposition

/-!
# Compatibility form

Texts that differ only in how their characters are encoded have the same compatibility form. Characters are
decomposed, the marks after each base are ordered by their class, and what composes is composed again. Hangul
syllables follow a rule, all other characters follow tables.
-/

namespace ScenarioAudit.Text

/-! ## Hangul -/

/-- The first code points of the syllables and of the three kinds of their parts; the part before the first
trailing one stands for none. -/
def hangulBase : Nat := 0xAC00
def leadingBase : Nat := 0x1100
def vowelBase : Nat := 0x1161
def trailingBase : Nat := 0x11A7

def leadingCount : Nat := 19
def vowelCount : Nat := 21
def trailingCount : Nat := 28

def syllableParts? (c : Nat) : Option (List Nat) :=
  if hangulBase ≤ c ∧ c < hangulBase + leadingCount * vowelCount * trailingCount then
    let index := c - hangulBase
    let open_ := index / trailingCount
    let trailing := index % trailingCount
    some ([leadingBase + open_ / vowelCount, vowelBase + open_ % vowelCount]
      ++ if trailing = 0 then [] else [trailingBase + trailing])
  else none

/-- The syllable that a leading part and a vowel, or an open syllable and a trailing part, make. -/
def syllable? (a b : Nat) : Option Nat :=
  if leadingBase ≤ a ∧ a < leadingBase + leadingCount ∧ vowelBase ≤ b ∧ b < vowelBase + vowelCount then
    some (hangulBase + ((a - leadingBase) * vowelCount + (b - vowelBase)) * trailingCount)
  else if hangulBase ≤ a ∧ a < hangulBase + leadingCount * vowelCount * trailingCount
      ∧ (a - hangulBase) % trailingCount = 0 ∧ trailingBase < b ∧ b < trailingBase + trailingCount then
    some (a + (b - trailingBase))
  else none

/-! ## Tables -/

/-- What the table says about a code point; the rows are in order. -/
def decompositionIn : CodeTable → Nat → Option (List Nat)
  | (first :: last :: parts) :: rows, c =>
    if c < first then none
    else if c ≤ last then some (parts.map (· + (c - first)))
    else decompositionIn rows c
  | _, _ => none

def decompose (c : Nat) : List Nat :=
  ((syllableParts? c).or (decompositionIn decompositionTable c)).getD [c]

def classIn : CodeTable → Nat → Nat
  | [first, last, cls] :: rows, c => if c < first then 0 else if c ≤ last then cls else classIn rows c
  | _, _ => 0

def combiningClass (c : Nat) : Nat :=
  classIn combiningClassTable c

/-- The character that two others in a row compose into. -/
def composite? (a b : Nat) : Option Nat :=
  (syllable? a b).or ((compositionTable.find? fun row => row.take 2 == [a, b]).bind (·[2]?))

/-! ## Form -/

/-- Puts a mark in front of marks in order, behind those of lower classes. -/
def insertMark (c : Nat) : List Nat → List Nat
  | [] => [c]
  | d :: ds =>
    if 0 < combiningClass d ∧ combiningClass d < combiningClass c then d :: insertMark c ds else c :: d :: ds

/-- The text with the marks after each base in the order of their classes. -/
def orderMarks (cs : List Nat) : List Nat :=
  cs.foldr insertMark []

/-- Composes a text that starts with a base and the marks (last one first) that did not compose with it. A mark
composes with the base unless one of the same or a higher class stands between. -/
def composeFrom (base : Nat) (between : List Nat) : List Nat → List Nat
  | [] => base :: between.reverse
  | c :: cs =>
    let blocked := between.head?.any fun d => combiningClass c ≤ combiningClass d
    match if blocked then none else composite? base c with
    | some d => composeFrom d between cs
    | none =>
      if combiningClass c = 0 then base :: between.reverse ++ composeFrom c [] cs
      else composeFrom base (c :: between) cs

def compose : List Nat → List Nat
  | [] => []
  | c :: cs => composeFrom c [] cs

def compatibilityForm (s : List Char) : List Char :=
  (compose (orderMarks (s.flatMap fun c => decompose c.toNat))).map Char.ofNat

end ScenarioAudit.Text
