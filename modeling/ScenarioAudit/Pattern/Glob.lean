import ScenarioAudit.Pattern.Build

/-!
# File name patterns

In a file name pattern a star stands for any characters, a question mark for one, and a bracketed class for
one of its members; everything else stands for itself.
-/

namespace ScenarioAudit.Pattern

/-- The members of a bracketed class: single characters and ranges. -/
def classMembers : List Char → Char → Bool
  | a :: '-' :: b :: rest, c => (a ≤ c && c ≤ b) || classMembers rest c
  | a :: rest, c => a == c || classMembers rest c
  | [], _ => false

/-- The inside of a class after the ranges without members that it starts with. -/
def afterEmptyRanges : List Char → List Char
  | a :: '-' :: b :: rest => if b < a then afterEmptyRanges rest else a :: '-' :: b :: rest
  | s => s

def classSign (inside : List Char) : Bool × List Char :=
  match inside with
  | '!' :: members => (true, members)
  | _ =>
    match afterEmptyRanges inside with
    | '!' :: members => (true, members)
    | members => (false, members)

/-- The inside of a bracketed class and what follows it; a bracket right at the start is a member. -/
def splitClass (s : List Char) : Option (List Char × List Char) :=
  let (sign, body) := match s with
    | '!' :: r => (['!'], r)
    | r => ([], r)
  let (first, rest) := match body with
    | ']' :: r => ([']'], r)
    | r => ([], r)
  match rest.dropWhile (· ≠ ']') with
  | ']' :: after => some (sign ++ first ++ rest.takeWhile (· ≠ ']'), after)
  | _ => none

/-- The pattern of a file name pattern; at most `fuel` of its pieces. -/
def ofGlob : Nat → List Char → Pattern
  | 0, _ => nothing
  | _ + 1, [] => look fun _ after => after.isEmpty
  | fuel + 1, '*' :: s => many true (fun _ => true) ++ ofGlob fuel s
  | fuel + 1, '?' :: s => one (fun _ => true) ++ ofGlob fuel s
  | fuel + 1, '[' :: s =>
    match splitClass s with
    | some (inside, after) =>
      let (negated, members) := classSign inside
      one (fun c => classMembers members c != negated) ++ ofGlob fuel after
    | none => char '[' ++ ofGlob fuel s
  | fuel + 1, c :: s => char c ++ ofGlob fuel s

def globFits (pattern name : String) : Bool :=
  (ofGlob (pattern.length + 1) pattern.toList).startsAt name.toList

end ScenarioAudit.Pattern
