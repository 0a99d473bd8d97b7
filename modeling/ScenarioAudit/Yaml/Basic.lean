import ScenarioAudit.Json.Basic
import ScenarioAudit.Text.CodePoints

/-!
# YAML values

The values that a safe reader builds. A mapping keeps its entries in the order of their first appearance and
may have any hashable value as a key; of a repeated key the last value stays, in the first place.

One mapping is laid over another: where both have a mapping under a key these are laid over each other, and
everywhere else the upper value stays. Keys keep the place they have below; new ones follow.
-/

namespace ScenarioAudit

open ScenarioAudit.Number ScenarioAudit.Text

inductive Yaml where
  | null
  | bool (b : Bool)
  | int (i : Int)
  | float (x : Binary64)
  | str (s : String)
  /-- A text with code points that are no characters. -/
  | codes (s : CodePoints)
  | bytes (b : List UInt8)
  /-- A date or a point in time, by its text. -/
  | time (text : String)
  | seq (items : List Yaml)
  | map (entries : List (Yaml × Yaml))
  | set (items : List Yaml)
  /-- One item of a sequence of pairs. -/
  | pair (first second : Yaml)
  deriving Repr, Inhabited

namespace Yaml

def ofCodes (s : CodePoints) : Yaml :=
  match s.toChars? with
  | some cs => .str (String.ofList cs)
  | none => .codes s

abbrev Entries := List (Yaml × Yaml)

mutual
/-- Whether the keys of two readings are the same: they are compared by value, and a truth value counts as a number. -/
def sameKey : Yaml → Yaml → Bool
  | .null, .null => true
  | .bool a, .bool b => a == b
  | .int a, .int b => a == b
  | .bool a, .int b => (if a then 1 else 0) == b
  | .int a, .bool b => (if b then 1 else 0) == a
  | .float a, .float b => a.equal b
  | .float a, .int b => a.equalInt b
  | .int a, .float b => b.equalInt a
  | .float a, .bool b => a.equalInt (if b then 1 else 0)
  | .bool a, .float b => b.equalInt (if a then 1 else 0)
  | .str a, .str b => a == b
  | .codes a, .codes b => a == b
  | .bytes a, .bytes b => a == b
  | .time a, .time b => a == b
  | .pair a b, .pair c d => sameKey a c && sameKey b d
  | .seq as, .seq bs => sameKeys as bs
  | _, _ => false
def sameKeys : List Yaml → List Yaml → Bool
  | [], [] => true
  | a :: as, b :: bs => sameKey a b && sameKeys as bs
  | _, _ => false
end

def Entries.get? (es : Entries) (key : Yaml) : Option Yaml :=
  (es.find? fun e => sameKey e.1 key).map (·.2)

def Entries.field? (es : Entries) (key : String) : Option Yaml :=
  Entries.get? es (.str key)

/-- The entries with a key set: in its place if it is there, at the end otherwise. -/
def Entries.put : Entries → Yaml → Yaml → Entries
  | [], key, v => [(key, v)]
  | (k, w) :: es, key, v => if sameKey k key then (k, v) :: es else (k, w) :: Entries.put es key v

/-! ## Overlays -/

mutual
/-- The mapping with another one laid over it. -/
def Entries.overlay (below : Entries) : List (Yaml × Yaml) → Entries
  | [] => below
  | (k, v) :: above =>
    Entries.overlay (below.put k (overlayAt (below.get? k) v)) above
/-- A value laid over what may be there. -/
def overlayAt (below : Option Yaml) : Yaml → Yaml
  | .map above =>
    match below with
    | some (.map es) => .map (Entries.overlay es above)
    | _ => .map above
  | v => v
end

/-! ## Other values -/

mutual
def ofJson : Json → Yaml
  | .null => .null
  | .bool b => .bool b
  | .int i => .int i
  | .float x => .float x
  | .str s => .str s
  | .arr items => .seq (ofItems items)
  | .obj members => .map (ofMembers members)
def ofItems : List Json → List Yaml
  | [] => []
  | v :: vs => ofJson v :: ofItems vs
def ofMembers : List (String × Json) → Entries
  | [] => []
  | (k, v) :: ms => (.str k, ofJson v) :: ofMembers ms
end

/-- Whether a value counts as absent: null, false, zero or empty. -/
def isEmpty : Yaml → Bool
  | .null => true
  | .bool b => !b
  | .int i => i == 0
  | .float x => x.isZero
  | .str s => s.isEmpty
  | .codes s => s.isEmpty
  | .bytes b => b.isEmpty
  | .time _ => false
  | .seq items => items.isEmpty
  | .map entries => entries.isEmpty
  | .set items => items.isEmpty
  | .pair _ _ => false

end Yaml

end ScenarioAudit
