import ScenarioAudit.Corpus.Source

/-!
# Anchor notes

The second copy of a digest is a note on the last commit: one field a line, each a key, a colon and a value.
Reading takes the first line of each key and strips both sides; lines without a colon and unknown keys mean
nothing. A note without a kind is older than that field, and whether it covers a directory is then decided by
its path.
-/

namespace ScenarioAudit

open ScenarioAudit.Text

structure AnchorNote where
  digest : String
  generatedAt : String
  originPath : String
  originKind : Option SourceKind := none
  deriving DecidableEq, Repr

namespace AnchorNote

def fieldLine (key value : String) : String :=
  key ++ ": " ++ value ++ "\n"

def toText (n : AnchorNote) : String :=
  fieldLine "testify-hash" n.digest ++ fieldLine "generated-at" n.generatedAt
    ++ fieldLine "test-specs-file" n.originPath
    ++ match n.originKind with
      | some kind => fieldLine "source-kind" kind.toString
      | none => ""

/-- A line as a key and a value around its first colon. -/
def splitField (line : List Char) : Option (List Char × List Char) :=
  match line.dropWhile (· ≠ ':') with
  | ':' :: value => some (strip (line.takeWhile (· ≠ ':')), strip value)
  | _ => none

def fields (text : List Char) : List (List Char × List Char) :=
  (splitLines text).filterMap splitField

def field (fs : List (List Char × List Char)) (key : String) : String :=
  match fs.find? (·.1 = key.toList) with
  | some (_, v) => String.ofList v
  | none => ""

def ofText? (text : String) : Option AnchorNote :=
  let fs := fields text.toList
  let digest := field fs "testify-hash"
  if digest.isEmpty then none
  else some
    { digest := digest
      generatedAt := field fs "generated-at"
      originPath := field fs "test-specs-file"
      originKind := SourceKind.ofString? (field fs "source-kind") }

/-- Whether the digest was taken over a directory. -/
def coversDirectory (n : AnchorNote) (t : Tree) : Except Trouble Bool :=
  match n.originKind with
  | some kind => .ok (kind == .directory)
  | none => if n.originPath.isEmpty then .ok false else t.isDir (Path.ofString n.originPath)

end AnchorNote

end ScenarioAudit
