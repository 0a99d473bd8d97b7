import ScenarioAudit.Yaml.Token
import ScenarioAudit.Yaml.Tag

/-!
# Nodes of YAML

The tree of scalars and collections that tokens describe, with the tag of each node. An alias is replaced by the
node that its name was given to before. Inside the collection of that name it stands for the collection itself,
which has no end: it is followed a few times, further than settings are looked for. Every step of the reading takes
a token or ends, so the number of tokens bounds it.
-/

namespace ScenarioAudit.Yaml

open ScenarioAudit.Text

/-- A scalar or a collection with what it stands for. -/
inductive Node where
  | scalar (tag : Tag) (text : CodePoints)
  | sequence (tag : Tag) (items : List Node)
  | mapping (tag : Tag) (entries : List (Node × Node))
  /-- An alias inside the collection of its name. -/
  | inside (name : List Char)
  deriving Repr

namespace Node

def tag : Node → Tag
  | scalar t _ => t
  | sequence t _ => t
  | mapping t _ => t
  | inside _ => .mapping

/-- What is left of the tokens, and the names known so far. -/
structure Reading where
  tokens : List Token
  /-- What a tag starts with for each handle. -/
  handles : List (List Char × List Char)
  anchors : List (List Char × Node) := []

abbrev Reader := StateT Reading (Except Fault)

namespace Reader

def peek : Reader (Option Token) := do
  match (← get).tokens with
  | .broken f :: _ => throw f
  | tokens => return tokens.head?

def advance : Reader Unit :=
  modify fun r => { r with tokens := r.tokens.tail }

def malformed {α : Type} : Reader α :=
  throw .malformed

/-- Takes the next token if it passes a test. -/
def takeIf (p : Token → Bool) : Reader Bool := do
  match ← peek with
  | some t => if p t then advance; return true else return false
  | none => return false

/-- Takes the next token, which has to pass a test. -/
def expect (p : Token → Bool) : Reader Unit := do
  if ← takeIf p then return else malformed

/-- Whether the next token is one of some that end an empty place. -/
def sees (p : Token → Bool) : Reader Bool :=
  return (← peek).any p

def nameIt (name : List Char) (n : Node) : Reader Unit :=
  modify fun r => { r with anchors := (name, n) :: r.anchors }

/-- Reads the inside of a node that may have a name. A name may be given once. -/
def named (name : Option (List Char)) (content : Reader Node) : Reader Node := do
  match name with
  | none => content
  | some a =>
    if ((← get).anchors.lookup a).isSome then malformed
    else
      nameIt a (.inside a)
      let n ← content
      nameIt a n
      return n

def fullName (t : TagName) : Reader (List Char) := do
  match t.handle with
  | none => return t.suffix
  | some h =>
    match (← get).handles.lookup h with
    | some start => return start ++ t.suffix
    | none => malformed

/-- The name and the tag in front of a node, in either order. -/
def properties : Reader (Option (List Char) × Option (List Char)) := do
  match ← peek with
  | some (.anchor a) =>
    advance
    match ← peek with
    | some (.tag t) => advance; return (some a, some (← fullName t))
    | _ => return (some a, none)
  | some (.tag t) =>
    advance
    match ← peek with
    | some (.anchor a) => advance; return (some a, some (← fullName t))
    | _ => return (none, some (← fullName t))
  | _ => return (none, none)

end Reader

/-- A scalar with a tag as written; without one, or with one that says nothing, the form decides. -/
def ofText (tag : Option (List Char)) (plain : Bool) (text : CodePoints) : Node :=
  let byForm := (text.toChars?.map Tag.ofPlain).getD .text
  match tag with
  | none => .scalar (if plain then byForm else .text) text
  | some ['!'] => .scalar byForm text
  | some name => .scalar (Tag.ofName name) text

def empty : Node :=
  ofText none true []

def collectionTag (usual : Tag) : Option (List Char) → Tag
  | none => usual
  | some ['!'] => usual
  | some name => Tag.ofName name

/-- Where a node stands: in brackets, in a block, or as part of an entry of a block, where items need not be
indented. -/
inductive Room where
  | flow
  | block
  | entry
  deriving DecidableEq

def startsItem : Token → Bool
  | .blockEntry => true
  | _ => false

def endsItem : Token → Bool
  | .blockEntry | .blockEnd => true
  | _ => false

def endsLooseItem : Token → Bool
  | .blockEntry | .key | .value | .blockEnd => true
  | _ => false

def endsEntryPart : Token → Bool
  | .key | .value | .blockEnd => true
  | _ => false

def isBlockEnd : Token → Bool
  | .blockEnd => true
  | _ => false

def isKey : Token → Bool
  | .key => true
  | _ => false

def isValue : Token → Bool
  | .value => true
  | _ => false

def isComma : Token → Bool
  | .flowEntry => true
  | _ => false

def closes (sequence : Bool) : Token → Bool
  | .flowSequenceEnd => sequence
  | .flowMappingEnd => !sequence
  | _ => false

def endsFlowKey (sequence : Bool) (t : Token) : Bool :=
  isValue t || isComma t || closes sequence t

def endsFlowValue (sequence : Bool) (t : Token) : Bool :=
  isComma t || closes sequence t

open Reader

mutual
def read (room : Room) : Nat → Reader Node
  | 0 => malformed
  | fuel + 1 => do
    match ← peek with
    | some (.alias a) =>
      advance
      match (← get).anchors.lookup a with
      | some n => return n
      | none => malformed
    | _ =>
      let (name, tag) ← properties
      let listTag := collectionTag .sequence tag
      let mapTag := collectionTag .mapping tag
      match ← peek with
      | some .blockEntry =>
        if room = .entry then named name (return .sequence listTag (← items endsLooseItem fuel))
        else bare name tag
      | some (.scalar plain text) =>
        advance
        named name (return ofText tag plain text)
      | some .flowSequenceStart =>
        advance
        named name (return .sequence listTag (← flowItems true fuel))
      | some .flowMappingStart =>
        advance
        named name (return .mapping mapTag (← flowEntries true fuel))
      | some .blockSequenceStart =>
        if room = .flow then bare name tag
        else
          advance
          named name do
            let is ← items endsItem fuel
            expect isBlockEnd
            return .sequence listTag is
      | some .blockMappingStart =>
        if room = .flow then bare name tag
        else
          advance
          named name do
            let es ← entries fuel
            expect isBlockEnd
            return .mapping mapTag es
      | _ => bare name tag
def bare (name tag : Option (List Char)) : Reader Node :=
  if name.isSome || tag.isSome then named name (return ofText tag true []) else malformed
def readUnless (ends : Token → Bool) (room : Room) : Nat → Reader Node
  | 0 => malformed
  | fuel + 1 => do
    if ← sees ends then return empty else read room fuel
def items (ends : Token → Bool) : Nat → Reader (List Node)
  | 0 => malformed
  | fuel + 1 => do
    if ← takeIf startsItem then
      let n ← readUnless ends .block fuel
      return n :: (← items ends fuel)
    else return []
/-- The value of a key, nothing if no sign announces one. -/
def valueUnless (ends : Token → Bool) (room : Room) : Nat → Reader Node
  | 0 => malformed
  | fuel + 1 => do
    if ← takeIf isValue then readUnless ends room fuel else return empty
def entries : Nat → Reader (List (Node × Node))
  | 0 => malformed
  | fuel + 1 => do
    if ← takeIf isKey then
      let k ← readUnless endsEntryPart .entry fuel
      let v ← valueUnless endsEntryPart .entry fuel
      return (k, v) :: (← entries fuel)
    else return []
/-- A key in brackets after its sign, and its value. -/
def flowPair (sequence : Bool) : Nat → Reader (Node × Node)
  | 0 => malformed
  | fuel + 1 => do
    let k ← readUnless (endsFlowKey sequence) .flow fuel
    let v ← valueUnless (endsFlowValue sequence) .flow fuel
    return (k, v)
/-- The items in brackets; a single entry stands for a mapping. -/
def flowItems (first : Bool) : Nat → Reader (List Node)
  | 0 => malformed
  | fuel + 1 => do
    if ← takeIf (closes true) then return []
    else
      if !first then expect isComma
      if ← takeIf isKey then
        let (k, v) ← flowPair true fuel
        return .mapping .mapping [(k, v)] :: (← flowItems false fuel)
      else if ← takeIf (closes true) then return []
      else
        let n ← read .flow fuel
        return n :: (← flowItems false fuel)
/-- The entries in brackets; a node alone is a key without a value. -/
def flowEntries (first : Bool) : Nat → Reader (List (Node × Node))
  | 0 => malformed
  | fuel + 1 => do
    if ← takeIf (closes false) then return []
    else
      if !first then expect isComma
      if ← takeIf isKey then
        let e ← flowPair false fuel
        return e :: (← flowEntries false fuel)
      else if ← takeIf (closes false) then return []
      else
        let k ← read .flow fuel
        return (k, empty) :: (← flowEntries false fuel)
end

/-! ## Collections inside themselves -/

mutual
def filled (nodeOf : List Char → Node) : Node → Node
  | scalar t text => scalar t text
  | sequence t items => sequence t (filledAll nodeOf items)
  | mapping t es => mapping t (filledEntries nodeOf es)
  | inside a => nodeOf a
def filledAll (nodeOf : List Char → Node) : List Node → List Node
  | [] => []
  | n :: ns => filled nodeOf n :: filledAll nodeOf ns
def filledEntries (nodeOf : List Char → Node) : List (Node × Node) → List (Node × Node)
  | [] => []
  | (k, v) :: es => (filled nodeOf k, filled nodeOf v) :: filledEntries nodeOf es
end

def emptied : Node → Node
  | sequence t _ => sequence t []
  | mapping t _ => mapping t []
  | n => n

/-- The node with the aliases inside their own collections followed some times. What is further in stays empty. -/
def unrolled (anchors : List (List Char × Node)) : Nat → Node → Node
  | 0 => filled fun a => ((anchors.lookup a).map emptied).getD empty
  | turns + 1 => filled fun a => ((anchors.lookup a).map (unrolled anchors turns)).getD empty

/-- How often an alias inside its own collection is followed. Settings are in the sections of a document, in their
fields, and in the items of these. -/
def usualTurns : Nat := 3

/-! ## Documents -/

def usualHandles : List (List Char × List Char) :=
  [(['!'], ['!']), (['!', '!'], tagSpace)]

/-- Reads the directives in front of a document; each version and handle may be given once. -/
def directives (versioned : Bool) (handles : List (List Char × List Char)) :
    List Token → Except Fault (List (List Char × List Char) × List Token)
  | .version major :: ts =>
    if versioned || major ≠ 1 then .error .malformed else directives true handles ts
  | .prefixFor handle text :: ts =>
    if (handles.lookup handle).isSome then .error .malformed
    else directives versioned ((handle, text) :: handles) ts
  | .directive :: ts => directives versioned handles ts
  | ts => .ok (handles ++ usualHandles, ts)

def isBetweenDocuments : Token → Bool
  | .version _ | .prefixFor _ _ | .directive | .documentStart | .documentEnd => true
  | _ => false

/-- What is wrong with the tokens after a document: nothing may follow but ends of documents. -/
def faultAfter? : List Token → Option Fault
  | [] => none
  | .documentEnd :: ts => faultAfter? ts
  | ts =>
    match directives false [] ts with
    | .ok (_, .broken f :: _) => some f
    | _ => some .malformed

/-- The node at the start of tokens, after which only ends of documents may follow. -/
def only (handles : List (List Char × List Char)) (tokens : List Token) (read : Reader Node) :
    Except Fault (Option Node) := do
  let (n, r) ← read.run { tokens := tokens, handles := handles }
  match faultAfter? r.tokens with
  | none => return some (n.unrolled r.anchors usualTurns)
  | some f => .error f

/-- The node of the only document of a text; none if the text has no document. -/
def ofTokens (tokens : List Token) : Except Fault (Option Node) :=
  let fuel := 4 * tokens.length + 8
  match tokens with
  | [] => .ok none
  | .documentEnd :: _ => .error .malformed
  | t :: _ =>
    if isBetweenDocuments t then do
      match ← directives false [] tokens with
      | (handles, .documentStart :: ts) =>
        if (ts.head?.all isBetweenDocuments) then only handles ts (return empty)
        else only handles ts (read .block fuel)
      | (_, .broken f :: _) => .error f
      | _ => .error .malformed
    else only usualHandles tokens (read .block fuel)

end Node

end ScenarioAudit.Yaml
