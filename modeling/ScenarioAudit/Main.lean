import ScenarioAudit.CommandLine.Run

/-!
# The program

Runs a command line on the working directory: the files below it are read into a tree, the command runs on that
tree, and the files that it changed are written back. No other program is started from here, so version history
counts as absent and a framework as not installed.
-/

namespace ScenarioAudit

open ScenarioAudit.Text

/-- The file trees of the entries of a directory. What cannot be read counts as not there. -/
partial def readEntries (entries : Array IO.FS.DirEntry) : IO Tree.Entries := do
  let mut found : Tree.Entries := []
  for e in entries do
    if ← e.path.isDir then
      match ← e.path.readDir.toBaseIO with
      | .ok inner => found := (e.fileName, .dir (← readEntries inner)) :: found
      | .error _ => pure ()
    else
      match ← (IO.FS.readBinFile e.path).toBaseIO with
      | .ok bytes => found := (e.fileName, .file bytes.toList) :: found
      | .error _ => pure ()
  return found

mutual
def changedFiles (before : Option Tree) (at_ : List String) : Tree → List (List String × List UInt8)
  | .file bytes =>
    match before with
    | some (.file old) => if old = bytes then [] else [(at_, bytes)]
    | _ => [(at_, bytes)]
  | .dir es => changedEntries before at_ es
def changedEntries (before : Option Tree) (at_ : List String) :
    List (String × Tree) → List (List String × List UInt8)
  | [] => []
  | (n, t) :: es =>
    changedFiles (before.bind fun b => b.below? [n]) (at_ ++ [n]) t ++ changedEntries before at_ es
end

/-- The time, as the one of a file that was just made. -/
def currentTime : IO Int := do
  let (_, path) ← IO.FS.createTempFile
  let metadata ← path.metadata
  IO.FS.removeFile path
  return metadata.modified.sec

/-- A text with the place of the working directory filled in. -/
def located (root : String) (s : List Char) : String :=
  (String.ofList s).replace Path.workspace.toString root

def readEnvironment : IO (List (String × String)) :=
  Settings.variableNames.filterMapM fun name => return (← IO.getEnv name).map fun value => (name, value)

/-- Runs a command line, and returns its exit code. -/
def runProgram (words : List String) : IO UInt32 := do
  let root ← IO.currentDir
  let tree := Tree.dir (← readEntries (← root.readDir))
  let stdin ← if words.contains "-" then (← IO.getStdin).readToEnd else pure ""
  let host : Host :=
    { tree := tree
      now := Moment.ofSeconds (← currentTime) 0
      environment := ← readEnvironment
      toolReply := .missing }
  let (result, after) := (CommandLine.run words stdin).runOn host
  for (names, bytes) in changedFiles (some tree) [] after.tree do
    let path := names.foldl (· / ·) root
    if let some directory := path.parent then IO.FS.createDirAll directory
    IO.FS.writeBinFile path ⟨bytes.toArray⟩
  match result with
  | .ok outcome =>
    IO.print (located root.toString (outcome.output.map Char.ofNat))
    if let some complaint := outcome.complaint then IO.eprintln (located root.toString complaint.toList)
    return UInt32.ofNat outcome.exitCode
  | .error e =>
    IO.eprintln (located root.toString e.message.toList)
    return 1

end ScenarioAudit

def main (args : List String) : IO UInt32 :=
  ScenarioAudit.runProgram args
