import ScenarioAudit.Json.Basic
import ScenarioAudit.Number.Shortest
import ScenarioAudit.Text.Quoted
import ScenarioAudit.Trouble

/-!
# JSON values as plain text and as counts

Any value can stand where a text is expected: a string is itself, everything else is shown, with strings
inside it quoted, unless it is nested too deeply. A count is read from a number, a truth value or a numeral; what is
empty counts zero.
-/

namespace ScenarioAudit.Json

open ScenarioAudit.Text ScenarioAudit.Number

mutual
def shown : Json → String
  | .null => "None"
  | .bool true => "True"
  | .bool false => "False"
  | .int i => toString i
  | .float x => x.display
  | .str s => quoteString s
  | .arr items => "[" ++ ", ".intercalate (shownItems items) ++ "]"
  | .obj members => "\x7b" ++ ", ".intercalate (shownMembers members) ++ "\x7d"
def shownItems : List Json → List String
  | [] => []
  | v :: vs => shown v :: shownItems vs
def shownMembers : List (String × Json) → List String
  | [] => []
  | (k, v) :: ms => (quoteString k ++ ": " ++ shown v) :: shownMembers ms
end

mutual
/-- How many values stand inside one another, the innermost one included. -/
def levels : Json → Nat
  | .arr items => levelsItems items + 1
  | .obj members => levelsMembers members + 1
  | _ => 1
def levelsItems : List Json → Nat
  | [] => 0
  | v :: vs => max (levels v) (levelsItems vs)
def levelsMembers : List (String × Json) → Nat
  | [] => 0
  | (_, v) :: ms => max (levels v) (levelsMembers ms)
end

/-- How many levels of a value can be shown where nothing else is said. -/
def usualRoom : Nat := 950

/-- A value as a text of its own. `room` is how many levels of it can be shown. -/
def toText (v : Json) (room : Nat) : Except Trouble String :=
  match v with
  | .str s => .ok s
  | v => if v.levels ≤ room then .ok (shown v) else .error .tooDeep

def isEmpty : Json → Bool
  | .null => true
  | .bool b => !b
  | .int i => i == 0
  | .float x => x.isZero
  | .str s => s.isEmpty
  | .arr items => items.isEmpty
  | .obj members => members.isEmpty

def toCount (v : Json) : Except Trouble Int :=
  if v.isEmpty then .ok 0
  else
    match v with
    | .bool _ => .ok 1
    | .int i => .ok i
    | .float .nan => .error .notANumber
    | .float x =>
      match x.truncate? with
      | some i => .ok i
      | none => .error .overflow
    | .str s => (wholeOfText s).mapError .numeral
    | _ => .error .wrongType

end ScenarioAudit.Json
