import ScenarioAudit.CommandLine.Options
import ScenarioAudit.Framework.Registry
import ScenarioAudit.Verdict.Basic
import ScenarioAudit.Path

/-!
# Commands

What can be asked for on a command line: options for all commands, then a command with its own options and
operands.
-/

namespace ScenarioAudit.CommandLine

/-- What can be done with a path alone. -/
inductive PathAction where
  | extract
  | hash
  | store
  | verify
  | anchor
  | verifyAnchor
  | drift
  deriving DecidableEq, Repr

namespace PathAction

def toString : PathAction → String
  | extract => "extract"
  | hash => "hash"
  | store => "store"
  | verify => "verify"
  | anchor => "anchor"
  | verifyAnchor => "verify-anchor"
  | drift => "drift"

instance : ToString PathAction := ⟨toString⟩

def all : List PathAction :=
  [extract, hash, store, verify, anchor, verifyAnchor, drift]

def ofString? (s : String) : Option PathAction :=
  all.find? fun a => a.toString = s

end PathAction

/-- What an integrity check is asked to look at. -/
structure IntegrityRequest where
  path : Path
  policy : Policy := .optional
  coverageDir : Option Path := none
  framework : Option String := none
  qualityDir : Option Path := none
  language : Option String := none
  deriving Repr

/-- What a coverage check is asked to look at. -/
structure CoverageRequest where
  features : Path
  declaration : Option Path := none
  framework : Option String := none
  projectRoot : Option Path := none
  deriving Repr

inductive Command where
  | onPath (action : PathAction) (path : Path)
  | integrity (request : IntegrityRequest)
  | coverage (request : CoverageRequest)
  | quality (steps : Path) (language : String) (heuristicOnly : Bool)
  /-- The output of a test run is in a file, or on standard input for a hyphen. -/
  | execution (features : Path) (output : String)
  deriving Repr

/-- A command line. -/
structure Request where
  /-- Whether the answer is written as one JSON document. -/
  json : Bool
  /-- The settings to lay over the defaults. -/
  config : Option Path
  command : Command
  deriving Repr

/-! ## Layouts -/

def commonLayout : Layout where
  options := [.help, { name := "--version", kind := .version }, { name := "--json", kind := .flag },
    .taking "--config"]
  commands := true

def pathLayout : Layout where
  options := [.help]
  operands := 1

def integrityLayout : Layout where
  options := [.help, .taking "--policy" (some (Policy.all.map toString)), .taking "--coverage-dir",
    .taking "--framework", .taking "--quality-dir", .taking "--language"]
  operands := 1

def coverageLayout : Layout where
  options := [.help, .taking "--declaration", .taking "--framework" (some Registry.standard.names),
    .taking "--project-root"]
  operands := 1

def qualityLayout : Layout where
  options := [.help, { name := "--heuristic", kind := .flag }]
  operands := 2

def executionLayout : Layout where
  options := [.help, .taking "--output"]
  operands := 1

/-! ## Reading -/

def Arguments.operand (a : Arguments) (n : Nat) : String :=
  a.operands[n]?.getD ""

def Arguments.path? (a : Arguments) (name : String) : Option Path :=
  (a.value? name).map Path.ofString

/-- The command of some arguments, and whether a word was left over. -/
def commandOf (name : String) (words : List String) : Except Stop (Command × Bool) := do
  match PathAction.ofString? name with
  | some action =>
    let a ← pathLayout.read words
    return (.onPath action (Path.ofString (a.operand 0)), a.leftover)
  | none =>
    if name = "integrity" then
      let a ← integrityLayout.read words
      return (.integrity {
        path := Path.ofString (a.operand 0)
        policy := ((a.value? "--policy").bind Policy.ofString?).getD .optional
        coverageDir := a.path? "--coverage-dir"
        framework := a.value? "--framework"
        qualityDir := a.path? "--quality-dir"
        language := a.value? "--language" }, a.leftover)
    else if name = "coverage" then
      let a ← coverageLayout.read words
      return (.coverage {
        features := Path.ofString (a.operand 0)
        declaration := a.path? "--declaration"
        framework := a.value? "--framework"
        projectRoot := a.path? "--project-root" }, a.leftover)
    else if name = "quality" then
      let a ← qualityLayout.read words
      return (.quality (Path.ofString (a.operand 0)) (a.operand 1) (a.has "--heuristic"), a.leftover)
    else if name = "execution" then
      let a ← executionLayout.read words
      match a.value? "--output" with
      | some output => return (.execution (Path.ofString (a.operand 0)) output, a.leftover)
      | none => .error .misuse
    else .error .misuse

/-- The request of a command line. Words that are left over are a mistake, found last. -/
def Request.ofWords (words : List String) : Except Stop Request := do
  let a ← commonLayout.read words
  match a.command with
  | none => .error .misuse
  | some (name, rest) =>
    let (command, leftover) ← commandOf name rest
    if a.leftover || leftover then .error .misuse
    else return { json := a.has "--json", config := a.path? "--config", command := command }

end ScenarioAudit.CommandLine
