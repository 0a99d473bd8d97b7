import ScenarioAudit.Record.Basic
import ScenarioAudit.Json.Reader
import ScenarioAudit.Json.Writer
import ScenarioAudit.Settings.Basic
import ScenarioAudit.Clock

/-!
# The record file

The records of an artifact root live in one JSON document, next to whatever else is kept there. Storing
reads the document, sets one key and writes the document back; a document that is missing or unreadable
counts as empty. Verifying digests again what the record was taken over and compares.
-/

namespace ScenarioAudit

open ScenarioAudit.Number

/-- The outcome of comparing a digest. -/
inductive CheckStatus where
  | valid
  | invalid
  | missing
  | skipped
  deriving DecidableEq, Repr

namespace CheckStatus

def toString : CheckStatus → String
  | valid => "valid"
  | invalid => "invalid"
  | missing => "missing"
  | skipped => "skipped"

instance : ToString CheckStatus := ⟨toString⟩

def all : List CheckStatus :=
  [valid, invalid, missing, skipped]

def ofString? (s : String) : Option CheckStatus :=
  all.find? fun k => k.toString = s

def ofDigests (stored current : String) : CheckStatus :=
  if current = stored then valid else invalid

end CheckStatus

/-- A record file by the directory it is in. -/
structure RecordStore where
  root : Path
  settings : IntegritySettings
  deriving Repr

namespace RecordStore

def recordPath (s : RecordStore) : Path :=
  s.root.join (Path.ofString s.settings.recordFilename.toText)

def digestOf (s : RecordStore) (t : Tree) (p : Path) : Except Trouble String :=
  digestAt t s.settings.emptySentinel.toText p

def document (s : RecordStore) (t : Tree) : Except Trouble Json.Members :=
  match t.readBytes s.recordPath with
  | .ok bytes =>
    match Json.ofBytes? bytes with
    | some (.obj members) => .ok members
    | _ => .ok []
  | .error (.path .noEntry _) => .ok []
  | .error e => .error e

/-- The stored record, if there is one. `room` is how many levels of a value in it can be shown. -/
def readRecord (s : RecordStore) (t : Tree) (room : Nat := Json.usualRoom) :
    Except Trouble (Option IntegrityRecord) := do
  match (← s.document t).get? s.settings.recordKey.toText with
  | some (.obj entry) => IntegrityRecord.ofEntry entry room
  | _ => return none

def hashInput (t : Tree) (p : Path) (record : Option IntegrityRecord) : Except Trouble Path :=
  likeForLike t p (record.any fun r => r.sourceDirectory.isSome)

def verify (s : RecordStore) (t : Tree) (p : Path) (room : Nat := Json.usualRoom) : Except Trouble CheckStatus := do
  match ← s.readRecord t room with
  | none => return .missing
  | some record => return .ofDigests record.digest (← s.digestOf t (← hashInput t p (some record)))

/-- The record of what is at a path now. `shown` is the path as it is written down. -/
def recordOf (s : RecordStore) (t : Tree) (shown : String) (now : Moment) :
    Except Trouble IntegrityRecord := do
  let source ← classifyPath t (Path.ofString shown)
  let corpus ← Corpus.ofSource t source
  let origin := match source with
    | .directory _ files => Origin.directory shown files.length
    | other => .document shown other.kind
  return ⟨corpus.digest s.settings.emptySentinel.toText, now.stamp, origin⟩

/-- The words that tell the scratch files of one record file from one another. -/
def scratchWord : Nat → String
  | 0 => "XXXXXXXX"
  | n + 1 => padZeros 8 (toString n)

/-- The path of a scratch file: what takes the place of the record file is written there first. -/
def scratchPath (s : RecordStore) (word : String) : Path :=
  s.root.join (Path.ofString ("." ++ s.settings.recordFilename.toText ++ "." ++ word ++ ".tmp"))

def scratchTries : Nat := 10000

/-- A new scratch file with its path: words are tried one after the other until one is free. -/
def makeScratch (s : RecordStore) (t : Tree) (bytes : List UInt8) : Nat → Nat → Except Trouble (Path × Tree)
  | word, 0 => .error (.path .alreadyExists (s.scratchPath (scratchWord word)).toString)
  | word, tries + 1 =>
    match t.create (s.scratchPath (scratchWord word)) (.file bytes) with
    | .ok t' => .ok (s.scratchPath (scratchWord word), t')
    | .error (.path .alreadyExists _) => makeScratch s t bytes (word + 1) tries
    | .error e => .error e

/-- Replaces the record file by way of a scratch file, which is taken away if it cannot be moved. -/
def replaceRecord (s : RecordStore) (t : Tree) (bytes : List UInt8) : Tree × Option Trouble :=
  match s.makeScratch t bytes 0 scratchTries with
  | .error e => (t, some e)
  | .ok (scratch, t') =>
    match t'.moveFile scratch s.recordPath with
    | .ok t'' => (t'', none)
    | .error e => (t'.removeFile scratch, some e)

/-- Writes a document. The tree changes even on failure only by directories made for the root. -/
def writeDocument (s : RecordStore) (t : Tree) (members : Json.Members) : Tree × Option Trouble :=
  match t.ensureDir s.root (s.root.names.length + 1) with
  | (t', some e) => (t', some e)
  | (t', none) =>
    match Json.render? (.obj members) with
    | none => (t', some .wrongType)
    | some text => s.replaceRecord t' (Text.encodeUtf8 (text ++ ['\n']))

def store (s : RecordStore) (t : Tree) (shown : String) (now : Moment) :
    Tree × Except Trouble IntegrityRecord :=
  match s.recordOf t shown now with
  | .error e => (t, .error e)
  | .ok record =>
    match s.document t with
    | .error e => (t, .error e)
    | .ok members =>
      match s.writeDocument t (members.set s.settings.recordKey.toText (.obj record.toEntry)) with
      | (t', some e) => (t', .error e)
      | (t', none) => (t', .ok record)

end RecordStore

end ScenarioAudit
