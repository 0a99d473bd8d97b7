import ScenarioAudit.Yaml.Node
import ScenarioAudit.Yaml.Meaning

/-!
# Documents of YAML

The value of a node, and so of a text. A mapping first takes over the entries that are merged into it; its own
ones come after them and win. Collections are filled from the root outwards: of several faults the one nearest
the root counts, and of those the first.
-/

namespace ScenarioAudit.Yaml

open ScenarioAudit.Text

/-- A fault and how many collections are around it. -/
structure DeepFault where
  depth : Nat
  fault : Fault
  deriving Repr

abbrev Deep := Except DeepFault

namespace Deep

def at_ {α : Type} (depth : Nat) : Except Fault α → Deep α
  | .ok a => .ok a
  | .error f => .error ⟨depth, f⟩

def all {α : Type} : List (Deep α) → Deep (List α)
  | [] => .ok []
  | r :: rs =>
    match r, all rs with
    | .ok a, .ok as => .ok (a :: as)
    | .ok _, .error g => .error g
    | .error f, .ok _ => .error f
    | .error f, .error g => .error (if g.depth < f.depth then g else f)

end Deep

namespace Node

mutual
def height : Node → Nat
  | scalar _ _ => 0
  | sequence _ items => heightOfAll items + 1
  | mapping _ entries => heightOfEntries entries + 1
  | inside _ => 0
def heightOfAll : List Node → Nat
  | [] => 0
  | n :: ns => max (height n) (heightOfAll ns)
def heightOfEntries : List (Node × Node) → Nat
  | [] => 0
  | (k, v) :: es => max (max (height k) (height v)) (heightOfEntries es)
end

mutual
/-- The entries of a mapping, those that are merged into it first; nothing else may be merged. -/
def flattened : Node → Option (List (Node × Node))
  | mapping _ entries => do
    return (← mergedInto entries) ++ entries.filter fun e => e.1.tag ≠ .merge
  | _ => none
def mergedInto : List (Node × Node) → Option (List (Node × Node))
  | [] => some []
  | (k, v) :: es => do
    if k.tag = .merge then return (← mergedFrom v) ++ (← mergedInto es) else mergedInto es
/-- The entries of a mapping, or of all mappings of a list, the last one first. -/
def mergedFrom : Node → Option (List (Node × Node))
  | mapping t entries => flattened (mapping t entries)
  | sequence _ items => flattenedFromLast items
  | _ => none
def flattenedFromLast : List Node → Option (List (Node × Node))
  | [] => some []
  | n :: ns => do
    let here ← flattened n
    return (← flattenedFromLast ns) ++ here
end

def scalarText : Nat → Node → Option CodePoints
  | _, scalar _ text => some text
  | fuel + 1, mapping _ entries =>
    match entries.find? fun e => e.1.tag = .default with
    | some (_, v) => scalarText fuel v
    | none => none
  | _, _ => none

def isCollectionTag (t : Tag) : Bool :=
  t = .sequence || t = .mapping || t = .set || t = .pairs

def asKey : Node → Node
  | scalar .default text => scalar .text text
  | n => n

def toEntries (pairs : List (Yaml × Yaml)) : Yaml.Entries :=
  pairs.foldl (fun es e => Yaml.Entries.put es e.1 e.2) []

/-- The value of a node with some collections around it. Fuel bounds the collections in it. -/
def value : Nat → Nat → Node → Deep Yaml
  | 0, depth, _ => .error ⟨depth, .malformed⟩
  | fuel + 1, depth, n =>
    let inner := depth + 1
    let fail : Deep Yaml := .error ⟨inner, .malformed⟩
    let pair (kv : Node × Node) : Deep (Yaml × Yaml) := do
      match ← Deep.all [value fuel inner kv.1, value fuel inner kv.2] with
      | [k, v] => return (k, v)
      | _ => .error ⟨inner, .malformed⟩
    let entry (kv : Node × Node) : Deep (Yaml × Yaml) :=
      if isCollectionTag kv.1.tag then .error ⟨inner, .malformed⟩ else pair (asKey kv.1, kv.2)
    let mappingOf : Deep Yaml.Entries := do
      match flattened n with
      | some es => return toEntries (← Deep.all (es.map entry))
      | none => .error ⟨inner, .malformed⟩
    match n.tag with
    | .sequence =>
      match n with
      | sequence _ items => (Deep.all (items.map (value fuel inner))).map .seq
      | _ => fail
    | .pairs =>
      match n with
      | sequence _ items =>
        (Deep.all (items.map fun item =>
          match item with
          | mapping _ [kv] => (pair kv).map fun (k, v) => Yaml.pair k v
          | _ => fail)).map .seq
      | _ => fail
    | .mapping => mappingOf.map .map
    | .set => mappingOf.map fun es => .set (es.map (·.1))
    | tag =>
      match scalarText (n.height + 1) n with
      | some text =>
        -- A point in time has to be a scalar itself.
        if tag = .timestamp ∧ n.height ≠ 0 then .error ⟨depth, .cause .wrongType⟩
        else Deep.at_ depth (ofScalar tag text)
      | none => .error ⟨depth, .malformed⟩

end Node

def ofText (text : List Char) : Except Fault Yaml := do
  match ← Node.ofTokens (Token.ofText text) with
  | none => return .null
  | some n =>
    match n.value (n.height + 2) 0 with
    | .ok v => return v
    | .error f => .error f.fault

end ScenarioAudit.Yaml
