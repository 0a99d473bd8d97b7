import ScenarioAudit.Pattern.Glob
import ScenarioAudit.Text.Lines
import ScenarioAudit.Tree

/-!
# Path patterns

A path pattern leads from a directory to paths below it, segment by segment: a plain segment to the entry of
that name, a segment with wildcards to every entry that fits, and two stars to the directories at any depth.
-/

namespace ScenarioAudit

open ScenarioAudit.Text

inductive PathSegment where
  | plain (name : String)
  | fitting (pattern : String)
  | anyDepth
  deriving DecidableEq, Repr

structure PathPattern where
  segments : List PathSegment
  /-- Whether a slash ends the pattern. -/
  directoriesOnly : Bool := false
  deriving DecidableEq, Repr

/-- The segment of a text. Two stars stand by themselves. -/
def PathSegment.ofString (s : String) : Except Trouble PathSegment :=
  if s = "**" then .ok .anyDepth
  else if isInsideString "**" s then .error (.pattern .starsBeside)
  else if s.toList.any ['*', '?', '['].contains then .ok (.fitting s)
  else .ok (.plain s)

mutual
def directoriesBelow (here : Path) : Tree → List Path
  | .file _ => []
  | .dir es => here :: entryDirectories here es
def entryDirectories (here : Path) : List (String × Tree) → List Path
  | [] => []
  | (n, t) :: es => directoriesBelow (here.child n) t ++ entryDirectories here es
end

def PathSegment.lead (t : Tree) (here : Path) : PathSegment → Except Trouble (List Path)
  | .plain name => do return if ← t.pathExists (here.child name) then [here.child name] else []
  | .fitting pattern =>
    match t.list here with
    | .ok es => .ok ((es.filter fun e => Pattern.globFits pattern e.1).map fun e => here.child e.1)
    | .error _ => .ok []
  | .anyDepth =>
    match t.find here with
    | .ok u => .ok (directoriesBelow here u)
    | .error _ => .ok []

namespace PathPattern

def ofString (s : String) : Except Trouble PathPattern :=
  if s.isEmpty then .error (.pattern .empty)
  else if (Path.ofString s).anchor ≠ .relative then .error (.pattern .absolute)
  else
    match Path.segments s with
    | [] => .error (if s.toList.getLast? = some '/' then .pattern .slashAlone else .noSuchItem)
    | names => do
      return { segments := ← names.mapM PathSegment.ofString, directoriesOnly := s.toList.getLast? = some '/' }

/-- Whether the names of one path come before those of another, or are the same. -/
def namesInOrder : List String → List String → Bool
  | [], _ => true
  | _ :: _, [] => false
  | a :: as, b :: bs => if a = b then namesInOrder as bs else decide (a ≤ b)

def below (p : PathPattern) (t : Tree) (root : Path) : Except Trouble (List Path) := do
  let found ← p.segments.foldlM (fun paths s => return (← paths.mapM fun here => s.lead t here).flatten) [root]
  let kept ← if p.directoriesOnly then found.filterM t.isDir else pure found
  return kept.eraseDups.mergeSort fun a b => namesInOrder a.names b.names

end PathPattern

end ScenarioAudit
