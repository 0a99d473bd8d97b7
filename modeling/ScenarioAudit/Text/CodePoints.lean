import ScenarioAudit.Text.Utf8

/-!
# Code points

A string literal of a source file or a document may name any code point, a surrogate as well, which no character
is. Texts that can come from such literals are kept as lists of code points.
-/

namespace ScenarioAudit.Text

/-- A text whose code points need not be characters. -/
abbrev CodePoints := List Nat

def codePoints (s : List Char) : CodePoints :=
  s.map Char.toNat

def isSurrogate (n : Nat) : Bool :=
  0xD800 ≤ n && n < 0xE000

def codesOf (s : String) : CodePoints :=
  codePoints s.toList

def CodePoints.toChars? (s : CodePoints) : Option (List Char) :=
  if s.any isSurrogate then none else some (s.map Char.ofNat)

def CodePoints.toText (s : CodePoints) : String :=
  String.ofList (s.map fun n => if isSurrogate n then replacementMark else Char.ofNat n)

/-- A change of text made in each run of characters; what is between the runs stays. The run that is read so far
comes last character first. -/
def CodePoints.mapRuns (f : List Char → List Char) : List Char → CodePoints → CodePoints
  | run, [] => codePoints (f run.reverse)
  | run, n :: s =>
    if isSurrogate n then codePoints (f run.reverse) ++ n :: mapRuns f [] s
    else mapRuns f (Char.ofNat n :: run) s

end ScenarioAudit.Text
