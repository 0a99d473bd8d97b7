import ScenarioAudit.Corpus.Step

/-!
# Drift

Uncommitted changes matter only where they touch a step. In a line difference, an added or removed line is a
step if it is one by itself, a Gherkin keyword here being followed by a plain space; the header lines of the
files are passed over.
-/

namespace ScenarioAudit

open ScenarioAudit.Text

/-- The outcome of comparing the workspace with the last commit. -/
inductive DriftStatus where
  | clean
  | modified
  | untracked
  | skipped
  deriving DecidableEq, Repr

namespace DriftStatus

def toString : DriftStatus → String
  | clean => "clean"
  | modified => "modified"
  | untracked => "untracked"
  | skipped => "skipped"

instance : ToString DriftStatus := ⟨toString⟩

def all : List DriftStatus :=
  [clean, modified, untracked, skipped]

def ofString? (s : String) : Option DriftStatus :=
  all.find? fun k => k.toString = s

end DriftStatus

def isDiffHeader (line : List Char) : Bool :=
  "+++".toList.isPrefixOf line || "---".toList.isPrefixOf line

/-- A changed line whose content is a Gherkin step with a plain space after its keyword. -/
def isChangedGherkin (content : List Char) : Bool :=
  stepKeywords.any fun k => (afterStart? (k ++ [' ']) (stripLeft content)).isSome

def changesStep (line : List Char) : Bool :=
  match line with
  | c :: content => (c == '+' || c == '-') && (isMarkedStep content || isChangedGherkin content)
  | [] => false

def diffTouchesSteps (diff : List Char) : Bool :=
  (splitLines diff).any fun line => !isDiffHeader line && changesStep line

end ScenarioAudit
