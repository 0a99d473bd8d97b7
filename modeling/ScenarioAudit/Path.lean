/-!
# Paths

A path is where it starts and the names that follow. Reading a path drops empty and `.` segments and keeps
`..`; a relative path without names is `.`. `resolve` makes a path absolute and takes `..` back one name.
-/

namespace ScenarioAudit

/-- Where a path starts: at the working directory, at the top of the file system (written with one slash
or with exactly two), or at the absolute place of the workspace. -/
inductive Anchor where
  | relative
  | top
  | doubleTop
  | workspace
  deriving DecidableEq, Repr, Inhabited

structure Path where
  anchor : Anchor
  names : List String
  deriving DecidableEq, Repr, Inhabited

namespace Path

/-- The segments between slashes that name something. -/
def segments (s : String) : List String :=
  ((s.toList.splitOn '/').map String.ofList).filter fun n => n ≠ "" && n ≠ "."

def ofString (s : String) : Path :=
  let anchor :=
    match s.toList with
    | '/' :: '/' :: '/' :: _ => Anchor.top
    | '/' :: '/' :: _ => Anchor.doubleTop
    | '/' :: _ => Anchor.top
    | _ => Anchor.relative
  ⟨anchor, segments s⟩

def here : Path :=
  ⟨.relative, []⟩

/-- The absolute place of the working directory. -/
def workspace : Path :=
  ⟨.workspace, []⟩

def toString (p : Path) : String :=
  match p.anchor with
  | .relative => if p.names.isEmpty then "." else "/".intercalate p.names
  | .top => "/" ++ "/".intercalate p.names
  | .doubleTop => "//" ++ "/".intercalate p.names
  | .workspace => "/".intercalate ("$ROOT" :: p.names)

instance : ToString Path := ⟨toString⟩

def name (p : Path) : String :=
  p.names.getLast?.getD ""

def parent (p : Path) : Path :=
  { p with names := p.names.dropLast }

def child (p : Path) (name : String) : Path :=
  { p with names := p.names ++ [name] }

def join (p q : Path) : Path :=
  if q.anchor = .relative then { p with names := p.names ++ q.names } else q

/-- The part of a name from its last dot, if something stands before and after that dot. -/
def suffixOf (name : List Char) : List Char :=
  let tail := (name.reverse.takeWhile (· ≠ '.')).reverse
  let front := name.length - tail.length
  if tail.isEmpty || front ≤ 1 then [] else '.' :: tail

def suffix (p : Path) : String :=
  String.ofList (suffixOf p.name.toList)

/-- The names with every `..` taking back the name before it. -/
def collapse (names : List String) : List String :=
  (names.foldl (fun back n => if n = ".." then back.tail else n :: back) []).reverse

def resolve (p : Path) : Path :=
  match p.anchor with
  | .relative => ⟨.workspace, collapse p.names⟩
  | a => ⟨a, collapse p.names⟩

@[simp] theorem parent_child (p : Path) (n : String) : (p.child n).parent = p := by
  simp [parent, child]

@[simp] theorem name_child (p : Path) (n : String) : (p.child n).name = n := by
  simp [name, child]

end Path

end ScenarioAudit
