import ScenarioAudit.Quality.Defect
import ScenarioAudit.Verdict.Basic

/-!
# Quality reports

A report lists the findings about all bindings and, after them, the files that could not be read. It is
blocked by any defective binding; an unreadable file is only a warning.
-/

namespace ScenarioAudit

/-- How the bindings of a report were found. -/
inductive ParserTier where
  /-- By reading the source code as a tree. -/
  | structural
  /-- By patterns. -/
  | heuristic
  deriving DecidableEq, Repr

namespace ParserTier

def toString : ParserTier → String
  | structural => "ast"
  | heuristic => "regex"

instance : ToString ParserTier := ⟨toString⟩

def all : List ParserTier :=
  [structural, heuristic]

def ofString? (s : String) : Option ParserTier :=
  all.find? fun k => k.toString = s

end ParserTier

/-- What is known of the step definitions of a project. -/
structure QualityReport where
  status : GateStatus
  language : String
  parser : ParserTier
  note : Option String := none
  total : Nat := 0
  passed : Int := 0
  failed : Nat := 0
  details : List Finding := []
  deriving DecidableEq, Repr

namespace QualityReport

def warnings (r : QualityReport) : List Finding :=
  r.details.filter fun f => f.severity = .warn

def ofBindings (language : String) (parser : ParserTier) (bindings : List StepBinding)
    (unreadable : List Finding) (note : Option String) : QualityReport :=
  let details := bindings.filterMap Finding.ofBinding ++ unreadable
  let failed := details.countP fun f => f.severity = .fail
  { status := if failed = 0 then .pass else .blocked
    language := language
    parser := parser
    note := note
    total := bindings.length
    passed := bindings.length - failed
    failed := failed
    details := details }

def toGate (r : QualityReport) : QualityGate :=
  { status := r.status, failed := r.failed, total := r.total }

end QualityReport

end ScenarioAudit
