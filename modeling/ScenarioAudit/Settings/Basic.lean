import ScenarioAudit.Number.Binary64
import ScenarioAudit.Text.CodePoints

/-!
# Settings

The tunable parameters with their defaults. A text among them may come from an escape in a document and so is kept
as code points.
-/

namespace ScenarioAudit

open ScenarioAudit.Number ScenarioAudit.Text

/-- How the log is written. -/
structure LoggingSettings where
  level : CodePoints := codesOf "WARNING"
  format : CodePoints := codesOf "console"
  deriving Repr

/-- How records and anchors are kept. -/
structure IntegritySettings where
  recordFilename : CodePoints := codesOf "context.json"
  recordKey : CodePoints := codesOf "testify"
  notesRef : CodePoints := codesOf "refs/notes/testify"
  emptySentinel : CodePoints := codesOf "NO_ASSERTIONS"
  gitTimeout : Binary64 := Binary64.ofInt 15
  deriving Repr

/-- How a dry run is bounded and how much of it is reported. -/
structure CoverageSettings where
  dryRunTimeout : Binary64 := Binary64.ofInt 300
  maxDetailLines : Int := 20
  deriving Repr

/-- The words that mark a call as an assertion, in lower case. -/
def defaultAssertionKeywords : List String :=
  ["assert", "assertequal", "assertin", "asserttrue", "assertfalse", "assertraises", "assertisnone",
    "assertisnotnone", "assert_that", "should", "expect", "verify"]

/-- What step quality looks for. -/
structure QualitySettings where
  assertionKeywords : List CodePoints := defaultAssertionKeywords.map codesOf
  lookahead : Int := 30
  deriving Repr

/-- The keywords that a name can hold: those of characters. -/
def QualitySettings.keywords (s : QualitySettings) : List String :=
  s.assertionKeywords.filterMap fun k => k.toChars?.map String.ofList

structure Settings where
  logging : LoggingSettings := {}
  integrity : IntegritySettings := {}
  coverage : CoverageSettings := {}
  quality : QualitySettings := {}
  deriving Repr

end ScenarioAudit
