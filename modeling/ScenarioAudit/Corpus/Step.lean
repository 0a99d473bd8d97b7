import ScenarioAudit.Text.Blank
import ScenarioAudit.Text.Lines

/-!
# Step lines

A Gherkin step line is indentation, a step keyword and at least one blank after it. A marked line, as older
specification documents have them, starts with a keyword between double asterisks and a colon. The corpus of a
feature text is its step lines with blanks squeezed; that of a document is its marked lines, sorted.
-/

namespace ScenarioAudit

open ScenarioAudit.Text

def stepKeywords : List (List Char) :=
  ["Given".toList, "When".toList, "Then".toList, "And".toList, "But".toList]

def markedKeywords : List (List Char) :=
  ["Given".toList, "When".toList, "Then".toList]

def afterStart? : List Char → List Char → Option (List Char)
  | [], s => some s
  | p :: ps, c :: s => if p = c then afterStart? ps s else none
  | _ :: _, [] => none

def startsBlank : List Char → Bool
  | c :: _ => isBlank c
  | [] => false

def isGherkinStep (line : List Char) : Bool :=
  stepKeywords.any fun k => ((afterStart? k (stripLeft line)).map startsBlank).getD false

def keywordMark (keyword : List Char) : List Char :=
  '*' :: '*' :: keyword ++ ['*', '*', ':']

def isMarkedStep (line : List Char) : Bool :=
  markedKeywords.any fun k => (afterStart? (keywordMark k) line).isSome

def isStepLine (line : List Char) : Bool :=
  isGherkinStep line || isMarkedStep line

/-- The words of a line with single spaces between them. -/
def normalizeStep (line : List Char) : List Char :=
  strip (squeeze line)

def gherkinSteps (text : List Char) : List (List Char) :=
  ((splitLines text).filter isGherkinStep).map normalizeStep

/-- The order of texts by code point, which is also that of their bytes. -/
def textLE : List Char → List Char → Bool
  | [], _ => true
  | _ :: _, [] => false
  | a :: s, b :: t => if a = b then textLE s t else decide (a.toNat < b.toNat)

/-- The marked lines of a specification document, without trailing blanks, sorted. -/
def markedSteps (text : List Char) : List (List Char) :=
  (((splitLines text).filter isMarkedStep).map stripRight).mergeSort textLE

end ScenarioAudit
