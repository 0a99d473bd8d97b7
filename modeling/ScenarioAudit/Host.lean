import ScenarioAudit.Tree
import ScenarioAudit.Clock
import ScenarioAudit.Json.Display
import ScenarioAudit.Syntax.Visit

/-!
# The host

What an operation runs on, as a value: the workspace, the clock, the environment variables, the programs
that can be found, how child processes answer, and how deeply nested data and directories an operation can go
through. The replies to version-history commands are a script that is used up in order; every other command gets
the same reply. Each start is logged. A `Job` is an operation on a host; a failed job keeps what it had changed.
-/

namespace ScenarioAudit

open ScenarioAudit.Number

/-- What a child process had written before its time was up. -/
inductive PartialOutput where
  | nothing
  | text (s : String)
  | bytes (b : List UInt8)
  deriving Repr, Inhabited

/-- Why a child process cannot be run the way it is asked for. -/
inductive StartFault where
  /-- A word of the command, or the directory, has a NUL character. -/
  | nulCharacter
  /-- The time limit is no number. -/
  | limitNotANumber
  /-- The time limit is longer than the system can wait. -/
  | limitTooLong
  deriving DecidableEq, Repr

def StartFault.trouble : StartFault → Trouble
  | .nulCharacter => .nulInPath
  | .limitNotANumber => .notANumber
  | .limitTooLong => .overflow

/-- What became of a child process. -/
inductive Reply where
  /-- It ended, and what it wrote is read already. -/
  | exited (code : Int) (output errors : String)
  /-- It ended, and what it wrote is still to be read. -/
  | ended (code : Int) (output errors : List UInt8)
  | missing
  | denied
  | timedOut (output : PartialOutput)
  | refused (fault : StartFault)
  deriving Repr, Inhabited

/-- The start of a child process. -/
structure Call where
  argv : List String
  cwd : Option String
  timeout : Binary64
  stdin : Option String := none
  deriving Repr

/-- What an operation runs on. -/
structure Host where
  tree : Tree := .dir []
  now : Moment := Moment.ofSeconds 0 0
  environment : List (String × String) := []
  programs : List String := []
  gitReplies : List Reply := []
  toolReply : Reply := .exited 0 "" ""
  calls : List Call := []
  /-- How many levels of a value can be shown. -/
  showRoom : Nat := Json.usualRoom
  /-- How many calls can be open while a syntax tree is gone through. -/
  visitRoom : Nat := Syntax.usualRoom
  /-- How many directories inside one another a walk gets into. -/
  walkRoom : Nat := Tree.usualDepth
  deriving Repr

abbrev Job (α : Type) := ExceptT Trouble (StateM Host) α

namespace Job

def fail {α : Type} (e : Trouble) : Job α :=
  throw e

/-- The result of a step that looks at nothing and changes nothing. -/
def settle {α : Type} : Except Trouble α → Job α
  | .ok a => return a
  | .error e => throw e

def looking {α : Type} (f : Host → Except Trouble α) : Job α := do
  settle (f (← get))

def reading {α : Type} (f : Tree → Except Trouble α) : Job α :=
  looking fun h => f h.tree

def runOn {α : Type} (job : Job α) (h : Host) : Except Trouble α × Host :=
  (ExceptT.run job).run h

end Job

namespace Host

/-- The value of an environment variable that is set and not empty. -/
def valueOf? (h : Host) (name : String) : Option String :=
  match h.environment.find? (·.1 = name) with
  | some (_, v) => if v.isEmpty then none else some v
  | none => none

/-- The reply of the version-history tool after its script is used up. -/
def exhausted : Reply :=
  .exited 1 "" ""

/-- Starts the version-history tool: logs the call and takes the next reply. -/
def startGit (call : Call) : Job Reply := do
  let h ← get
  let (reply, rest) :=
    match h.gitReplies with
    | [] => (exhausted, [])
    | r :: rs => (r, rs)
  set { h with gitReplies := rest, calls := h.calls ++ [call] }
  return reply

def startTool (call : Call) : Job Reply := do
  let h ← get
  set { h with calls := h.calls ++ [call] }
  return h.toolReply

end Host

end ScenarioAudit
