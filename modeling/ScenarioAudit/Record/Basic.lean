import ScenarioAudit.Corpus.Source
import ScenarioAudit.Json.Display

/-!
# Integrity records

A record is a stored digest with where it came from: a directory with its number of feature files, or a
single document. In a record file it is an entry with one of two shapes; reading an entry accepts any JSON
value in every field but the digest.
-/

namespace ScenarioAudit

/-- Where a digest came from. -/
inductive Origin where
  | directory (path : String) (fileCount : Int)
  | document (path : String) (kind : SourceKind)
  deriving DecidableEq, Repr

/-- A stored digest. -/
structure IntegrityRecord where
  digest : String
  generatedAt : String
  origin : Origin
  deriving DecidableEq, Repr

namespace IntegrityRecord

def sourceKind (r : IntegrityRecord) : SourceKind :=
  match r.origin with
  | .directory _ _ => .directory
  | .document _ kind => kind

def sourceDirectory (r : IntegrityRecord) : Option String :=
  match r.origin with
  | .directory path _ => some path
  | .document _ _ => none

def sourceDocument (r : IntegrityRecord) : Option String :=
  match r.origin with
  | .directory _ _ => none
  | .document path _ => some path

def unitCount (r : IntegrityRecord) : Int :=
  match r.origin with
  | .directory _ n => n
  | .document _ _ => 1

def toEntry (r : IntegrityRecord) : Json.Members :=
  let head := [("assertion_hash", Json.str r.digest), ("generated_at", Json.str r.generatedAt)]
  match r.origin with
  | .directory path n => head ++ [("features_dir", .str path), ("file_count", .int n)]
  | .document path _ => head ++ [("test_specs_file", .str path)]

def textField? (entry : Json.Members) (key : String) : Option String :=
  match entry.get? key with
  | some (.str s) => if s.isEmpty then none else some s
  | _ => none

/-- Any value under a key, as text; empty if there is none. -/
def anyField (entry : Json.Members) (key : String) (room : Nat) : Except Trouble String :=
  ((entry.get? key).getD (.str "")).toText room

/-- The record of an entry; none if it has no digest. `room` is how many levels of a value can be shown. -/
def ofEntry (entry : Json.Members) (room : Nat := Json.usualRoom) : Except Trouble (Option IntegrityRecord) := do
  match textField? entry "assertion_hash" with
  | none => return none
  | some digest =>
    match textField? entry "features_dir" with
    | some path =>
      let generatedAt ← anyField entry "generated_at" room
      let n ← ((entry.get? "file_count").getD .null).toCount
      return some ⟨digest, generatedAt, .directory path n⟩
    | none =>
      let path ← anyField entry "test_specs_file" room
      let kind := if isFeatureName path then SourceKind.scenarioFile else .legacyDocument
      let generatedAt ← anyField entry "generated_at" room
      return some ⟨digest, generatedAt, .document path kind⟩

end IntegrityRecord

end ScenarioAudit
