import ScenarioAudit.Json.Basic
import ScenarioAudit.Number.Shortest
import ScenarioAudit.Text.Quoted

/-!
# Writing JSON

Values are written over several lines with an indentation of two spaces. A string escapes the quote, the
backslash and the control characters below the space, and nothing else.
-/

namespace ScenarioAudit.Json

open ScenarioAudit.Text ScenarioAudit.Number

def escapeChar (c : Char) : List Char :=
  if c = '"' then ['\\', '"']
  else if c = '\\' then ['\\', '\\']
  else if c = '\n' then ['\\', 'n']
  else if c = '\r' then ['\\', 'r']
  else if c = '\t' then ['\\', 't']
  else if c.toNat = 8 then ['\\', 'b']
  else if c.toNat = 12 then ['\\', 'f']
  else if c.toNat < 0x20 then '\\' :: 'u' :: hexPadded 4 c.toNat
  else [c]

def renderString (s : String) : List Char :=
  '"' :: s.toList.flatMap escapeChar ++ ['"']

/-- The line break before an item of the given nesting level. -/
def newline (level : Nat) : List Char :=
  '\n' :: List.replicate (2 * level) ' '

mutual
/-- A value whose first line is already indented to `level`. -/
def renderAt (level : Nat) : Json → List Char
  | .null => "null".toList
  | .bool true => "true".toList
  | .bool false => "false".toList
  | .int i => (toString i).toList
  | .float .nan => "null".toList
  | .float (.infinite _) => "null".toList
  | .float x => (x.render documentLayout).toList
  | .str s => renderString s
  | .arr [] => ['[', ']']
  | .arr (v :: vs) =>
    '[' :: (newline (level + 1) ++ renderAt (level + 1) v ++ renderItems (level + 1) vs)
      ++ newline level ++ [']']
  | .obj [] => ['{', '}']
  | .obj ((k, v) :: ms) =>
    '{' :: (newline (level + 1) ++ renderString k ++ [':', ' '] ++ renderAt (level + 1) v
      ++ renderMembers (level + 1) ms) ++ newline level ++ ['}']
def renderItems (level : Nat) : List Json → List Char
  | [] => []
  | v :: vs => ',' :: (newline level ++ renderAt level v ++ renderItems level vs)
def renderMembers (level : Nat) : List (String × Json) → List Char
  | [] => []
  | (k, v) :: ms =>
    ',' :: (newline level ++ renderString k ++ [':', ' '] ++ renderAt level v
      ++ renderMembers level ms)
end

def writeDepthLimit : Nat := 254

/-- The text of a value; `none` if it is nested too deeply or holds a whole number beyond 64 bits. -/
def render? (v : Json) : Option (List Char) :=
  if v.depth ≤ writeDepthLimit && v.fitsWord then some (renderAt 0 v) else none

end ScenarioAudit.Json
