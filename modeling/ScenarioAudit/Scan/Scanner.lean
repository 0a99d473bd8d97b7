import ScenarioAudit.Scan.Body

/-!
# The scanner

Finds the step bindings of a source text by the rules of its language. Every registration is one binding; the
body of a binding ends at the latest where the next registration starts.
-/

namespace ScenarioAudit.Scan

open ScenarioAudit.Text Pattern

def quotedBy (q : Char) : Pattern :=
  char q ++ capture 1 (star ((char '\\' ++ one notNewline) ||| one fun c => c != q && c != '\n')) ++ char q

def quotedText : Pattern :=
  firstOf (['"', '\'', backquote].map quotedBy)

/-- The text of a step: part of the registration, else the first quoted text on its line. -/
def stepText (text : List Char) (m : Match) : List Char :=
  let inside := m.captured 3
  if !inside.isEmpty then inside
  else
    match quotedText.find (slice text m.start.position (endOfLine text m.start.position)) with
    | some q => q.captured 1
    | none => []

def bindingOf (r : ScanRules) (keywords : List String) (lookahead : Int) (file : String) (text : List Char)
    (lines : List (List Char)) (m : Match) (limit : Nat) : StepBinding :=
  let linesBefore := countNewlines (text.take m.start.position)
  let (body, function) :=
    if r.style = .indented then indentBody lookahead.toNat (lines.drop linesBefore)
    else braceBody r lookahead.toNat text m.stop.position limit
  { kind := StepKind.ofKeyword (m.captured 1)
    text := codePoints (stepText text m)
    function := function
    file := file
    line := linesBefore + 1
    body := r.facts keywords body }

def bindingsOf (r : ScanRules) (keywords : List String) (lookahead : Int) (file : String) (text : List Char)
    (lines : List (List Char)) : List Match → List StepBinding
  | [] => []
  | m :: ms =>
    let limit := match ms with
      | n :: _ => n.start.position
      | [] => text.length
    bindingOf r keywords lookahead file text lines m limit
      :: bindingsOf r keywords lookahead file text lines ms

def scan (r : ScanRules) (keywords : List String) (lookahead : Int) (file : String) (text : List Char) :
    List StepBinding :=
  bindingsOf r keywords lookahead file text (splitLines text) (r.registration.findAll text)

end ScenarioAudit.Scan
