import ScenarioAudit.Quality.Report
import ScenarioAudit.Quality.Structural
import ScenarioAudit.Scan.Scanner
import ScenarioAudit.Framework.Profile
import ScenarioAudit.Settings.Basic
import ScenarioAudit.Tree

/-!
# Analysis of step definitions

Every file below a directory that has a suffix of the language is looked at: as a tree if there is a grammar for
the language, by patterns otherwise. A file that does not follow the grammar is a warning and does not touch what
is found in the others. The report says so when patterns had to do. Directories that the system does not list are
passed over; a file that it does not open ends the analysis, and so do directories too deep inside one another.
-/

namespace ScenarioAudit

open ScenarioAudit.Text

/-! ## Files -/

/-- The directories whose files nobody wrote by hand. -/
def skippedDirectories : List String :=
  [".git", "node_modules", "__pycache__", ".venv", "venv", "target", "bin", "obj"]

structure SourceFile where
  path : Path
  bytes : List UInt8
  deriving Repr

/-- What an entry of a directory contributes to a walk. -/
structure WalkEntry where
  name : String
  isDirectory : Bool
  files : List SourceFile

def WalkEntry.sorted (es : List WalkEntry) : List WalkEntry :=
  es.mergeSort fun a b => decide (a.name ≤ b.name)

/-- The files of the entries of a directory, files first and then directories, each in the order of names. -/
def WalkEntry.inOrder (es : List WalkEntry) : List SourceFile :=
  let files := es.filter fun e => !e.isDirectory
  let directories := es.filter fun e => e.isDirectory && !skippedDirectories.contains e.name
  (sorted files).flatMap (·.files) ++ (sorted directories).flatMap (·.files)

def entryText (text n : String) : String :=
  if text.endsWith "/" then text ++ n else text ++ "/" ++ n

mutual
/-- The files at or below a place, outside skipped directories and those whose text is too long. -/
def filesBelow (here : Path) (text : String) : Tree → List SourceFile
  | .file bytes => [⟨here, bytes⟩]
  | .dir es => if Tree.pathLimit < text.utf8ByteSize then [] else WalkEntry.inOrder (walkEntries here text es)
def walkEntries (here : Path) (text : String) : List (String × Tree) → List WalkEntry
  | [] => []
  | (n, t) :: es => ⟨n, t.isDirNode, filesBelow (here.child n) (entryText text n) t⟩ :: walkEntries here text es
end

mutual
/-- How many directories inside one another a walk gets into. -/
def walkDepth (text : String) : Tree → Nat
  | .file _ => 0
  | .dir es => if Tree.pathLimit < text.utf8ByteSize then 1 else deepestEntry text es + 1
def deepestEntry (text : String) : List (String × Tree) → Nat
  | [] => 0
  | (n, t) :: es =>
    max (if n ∈ skippedDirectories then 0 else walkDepth (entryText text n) t) (deepestEntry text es)
end

/-- A file whose path the system takes. -/
def SourceFile.opened (f : SourceFile) : Except Trouble SourceFile :=
  if Tree.pathLimit < f.path.toString.utf8ByteSize then .error (Tree.refuse f.path .tooLong) else .ok f

/-! ## Strategy -/

/-- How the files of a language are looked at. -/
structure Strategy where
  /-- What the report calls the language. -/
  label : String
  rules : Scan.ScanRules
  tier : ParserTier

namespace Strategy

def forLanguage (spelling : String) (heuristicOnly : Bool) : Strategy :=
  match Language.parse? spelling with
  | some l =>
    { label := l.toString
      rules := Scan.rulesFor l.toString
      tier := if l = .python ∧ heuristicOnly = false then .structural else .heuristic }
  | none => { label := Language.fold spelling, rules := Scan.general, tier := .heuristic }

def accepts (s : Strategy) (p : Path) : Bool :=
  s.rules.suffixes.isEmpty || s.rules.suffixes.contains p.suffix

/-- What the report says about the way of looking. -/
def note (s : Strategy) : Option String :=
  match s.tier with
  | .structural => none
  | .heuristic =>
    some ("DEGRADED_ANALYSIS: No AST parser available for " ++ s.label ++ ". Using regex heuristics.")

def bindings (s : Strategy) (settings : QualitySettings) (f : SourceFile) (room : Nat := Syntax.usualRoom) :
    Except Trouble (List StepBinding) :=
  let shown := f.path.toString
  match s.tier with
  | .structural => do
    StepBinding.ofSource shown settings.keywords (← Tree.strictText f.bytes) room
  | .heuristic =>
    .ok (Scan.scan s.rules settings.keywords settings.lookahead shown (Tree.lossyText f.bytes))

def results (s : Strategy) (settings : QualitySettings) (files : List SourceFile) (room : Nat) :
    Except Trouble (List (Path × Except Trouble (List StepBinding))) :=
  (files.filter fun f => s.accepts f.path).mapM fun f => do
    let f ← f.opened
    return (f.path, s.bindings settings f room)

/-- The warning about a file without bindings to read. -/
def warning? : Path × Except Trouble (List StepBinding) → Option Finding
  | (p, .error e) => some (Finding.unreadable p.toString e.message)
  | (_, .ok _) => none

def report (s : Strategy) (results : List (Path × Except Trouble (List StepBinding))) : QualityReport :=
  QualityReport.ofBindings s.label s.tier (results.flatMap fun r => r.2.toOption.getD [])
    (results.filterMap warning?) s.note

end Strategy

/-- The report about the step definitions below a directory. -/
def analyzeSteps (settings : QualitySettings) (t : Tree) (root : Path) (language : String)
    (heuristicOnly : Bool) (room : Nat := Syntax.usualRoom) (walkRoom : Nat := Tree.usualDepth) :
    Except Trouble QualityReport := do
  match ← t.look root with
  | some (.dir es) =>
    if walkRoom < walkDepth root.toString (.dir es) then .error .tooDeep
    else
      let s := Strategy.forLanguage language heuristicOnly
      return s.report (← s.results settings (filesBelow root root.toString (.dir es)) room)
  | _ => .error (.noStepDirectory root.toString)

end ScenarioAudit
