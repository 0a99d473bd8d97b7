import ScenarioAudit.Anchor.Note
import ScenarioAudit.Anchor.Drift
import ScenarioAudit.Record.Store
import ScenarioAudit.Host

/-!
# Version history

Anchoring attaches a note with the current digest to the last commit, verifying compares that note with the
current digest, and the drift check looks at uncommitted changes of one file. All of it needs a repository;
everything the version-history tool can do wrong becomes a cause of its own.
-/

namespace ScenarioAudit

open ScenarioAudit.Text

/-- A working tree under version control. -/
structure History where
  workdir : Path
  settings : IntegritySettings
  deriving Repr

namespace History

def ofDirectory (directory : Option Path) (settings : IntegritySettings) : Except Trouble History :=
  (Tree.absolute (directory.getD Path.here)).map fun d => ⟨d, settings⟩

/-- The end of a version-history command. -/
structure Exit where
  code : Int
  output : String
  errors : String

/-- The end of a command whose output has to be text. -/
def Exit.ofBytes (code : Int) (output errors : List UInt8) : Except Trouble Exit := do
  return ⟨code, String.ofList (← Tree.strictText output), String.ofList (← Tree.strictText errors)⟩

def Exit.ofReply (command : String) : Reply → Except Trouble Exit
  | .exited code output errors => .ok ⟨code, output, errors⟩
  | .ended code output errors => Exit.ofBytes code output errors
  | .missing => .error .gitMissing
  | .denied => .error (.path .denied "git")
  | .timedOut _ => .error (.gitTimedOut command)
  | .refused fault => .error fault.trouble

def git (h : History) (command : String) (args : List String) (stdin : Option String := none) :
    Job Exit := do
  let reply ← Host.startGit
    { argv := "git" :: command :: args
      cwd := some h.workdir.toString
      timeout := h.settings.gitTimeout
      stdin := stdin }
  Job.settle (Exit.ofReply command reply)

/-- Whether a cause is about the version history, as opposed to files. -/
def isHistoryTrouble : Trouble → Bool
  | .notRepository _ | .gitMissing | .gitTimedOut _ | .diffFailed _ | .anchorRefused _ => true
  | _ => false

def orElseHistory {α : Type} (job : Job α) (fallback : Job α) : Job α :=
  tryCatch job fun e => if isHistoryTrouble e then fallback else throw e

def isRepository (h : History) : Job Bool :=
  orElseHistory (do return (← h.git "rev-parse" ["--git-dir"]).code == 0) (pure false)

def requireRepository (h : History) : Job Unit := do
  if !(← h.isRepository) then
    Job.fail (.notRepository h.workdir.toString)

def notesOption (h : History) : String :=
  "--ref=" ++ h.settings.notesRef.toText

/-- A text without blanks around it. -/
def stripped (s : String) : String :=
  String.ofList (strip s.toList)

/-- Attaches the digest of a path to the last commit. `shown` is the path as it is written down. -/
def anchor (h : History) (shown : String) : Job String := do
  h.requireRepository
  let corpus ← Job.reading fun t => Corpus.ofPath t (Path.ofString shown)
  let digest := corpus.digest h.settings.emptySentinel.toText
  let note : AnchorNote :=
    { digest := digest
      generatedAt := (← get).now.stamp
      originPath := shown
      originKind := some corpus.source.kind }
  let exit ← h.git "notes" [h.notesOption, "add", "-f", "-F", "-", "HEAD"] (some note.toText)
  if exit.code ≠ 0 then
    let detail := stripped exit.errors
    Job.fail (.anchorRefused (if detail.isEmpty then "unknown error" else detail))
  return digest

def readAnchor (h : History) : Job (Option AnchorNote) := do
  h.requireRepository
  let exit ← h.git "notes" [h.notesOption, "show", "HEAD"]
  return if exit.code ≠ 0 then none else AnchorNote.ofText? exit.output

/-- Compares the note on the last commit with what is at a path now. -/
def verifyAnchor (h : History) (p : Path) : Job CheckStatus := do
  match ← h.readAnchor with
  | none => return .missing
  | some note =>
    let current ← Job.reading fun t => do
      digestAt t h.settings.emptySentinel.toText (← likeForLike t p (← note.coversDirectory t))
    return .ofDigests note.digest current

def classifyChanges (h : History) (target : Path) : Job DriftStatus := do
  let tracked ← h.git "ls-files" ["--error-unmatch", "--", target.toString]
  if tracked.code ≠ 0 then return .untracked
  else
    let diff ← h.git "diff" ["HEAD", "--", target.toString]
    if diff.code ≠ 0 then Job.fail (.diffFailed (stripped diff.errors))
    else return if diffTouchesSteps diff.output.toList then .modified else .clean

/-- Classifies the uncommitted changes of a file. -/
def checkDrift (h : History) (p : Path) : Job DriftStatus := do
  h.requireRepository
  let target ← Job.settle (Tree.absolute p)
  if ← Job.reading (·.isFile target) then h.classifyChanges target
  else Job.fail (.noScenarioFile target.toString)

end History

end ScenarioAudit
