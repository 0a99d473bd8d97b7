import ScenarioAudit.Corpus.Step
import ScenarioAudit.Tree
import ScenarioAudit.Digest

/-!
# Corpora

A path is classified once: a directory of feature files, a single feature file, a specification document,
or nothing. The corpus is what the digest covers: the step lines of the source in a fixed order.
-/

namespace ScenarioAudit

open ScenarioAudit.Text

/-- What a path turned out to be. -/
inductive SourceKind where
  | directory
  | scenarioFile
  | legacyDocument
  | missing
  deriving DecidableEq, Repr

namespace SourceKind

def toString : SourceKind → String
  | directory => "directory"
  | scenarioFile => "scenario_file"
  | legacyDocument => "legacy_document"
  | missing => "missing"

instance : ToString SourceKind := ⟨toString⟩

def all : List SourceKind :=
  [directory, scenarioFile, legacyDocument, missing]

def ofString? (s : String) : Option SourceKind :=
  all.find? fun k => k.toString = s

end SourceKind

/-- A classified path. -/
inductive Source where
  | directory (path : Path) (files : List Path)
  | scenarioFile (path : Path)
  | legacyDocument (path : Path)
  | missing (path : Path)
  deriving DecidableEq, Repr

namespace Source

def kind : Source → SourceKind
  | directory _ _ => .directory
  | scenarioFile _ => .scenarioFile
  | legacyDocument _ => .legacyDocument
  | missing _ => .missing

def path : Source → Path
  | directory p _ => p
  | scenarioFile p => p
  | legacyDocument p => p
  | missing p => p

end Source

def featureSuffix : String := ".feature"

def isFeatureName (name : String) : Bool :=
  featureSuffix.toList.isSuffixOf name.toList

/-- The feature files right inside a directory, in the order of their names. -/
def featureFiles (t : Tree) (directory : Path) : Except Trouble (List Path) := do
  let entries ← t.list directory
  return (entries.filter fun e => !e.2.isDirNode && isFeatureName e.1).map fun e => directory.child e.1

def classifyPath (t : Tree) (p : Path) : Except Trouble Source := do
  if ← t.isDir p then return .directory p (← featureFiles t p)
  else if ← t.isFile p then return if isFeatureName p.name then .scenarioFile p else .legacyDocument p
  else return .missing p

/-- The ordered step lines of a source. -/
structure Corpus where
  source : Source
  lines : List (List Char)
  deriving Repr

namespace Corpus

def ofSource (t : Tree) (source : Source) : Except Trouble Corpus := do
  match source with
  | .directory _ files =>
    let texts ← files.mapM t.readText
    return ⟨source, texts.flatMap gherkinSteps⟩
  | .scenarioFile p => return ⟨source, gherkinSteps (← t.readText p)⟩
  | .legacyDocument p => return ⟨source, markedSteps (← t.readText p)⟩
  | .missing _ => return ⟨source, []⟩

def ofPath (t : Tree) (p : Path) : Except Trouble Corpus := do
  ofSource t (← classifyPath t p)

def joined (c : Corpus) : List Char :=
  joinLines c.lines

def digest (sentinel : String) (c : Corpus) : String :=
  if c.lines.isEmpty then sentinel else Digest.sha256 (encodeUtf8 c.joined)

end Corpus

def digestAt (t : Tree) (sentinel : String) (p : Path) : Except Trouble String :=
  (Corpus.ofPath t p).map (Corpus.digest sentinel)

/-- What to digest when the evidence was taken over a whole directory: the directory of a feature file
instead of the file alone. -/
def likeForLike (t : Tree) (p : Path) (overDirectory : Bool) : Except Trouble Path := do
  if overDirectory then return if (← t.isFile p) && isFeatureName p.name then p.parent else p
  else return p

/-- The directory that owns the record of a path: two levels above a directory or a document, three above
a feature file. -/
def artifactRoot (t : Tree) (p : Path) : Except Trouble Path := do
  if ← t.isDir p then return p.parent.parent
  else if isFeatureName p.name then return p.parent.parent.parent
  else return p.parent.parent

end ScenarioAudit
