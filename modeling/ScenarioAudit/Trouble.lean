import ScenarioAudit.Number.Numeral
import ScenarioAudit.Text.Quoted
import ScenarioAudit.Text.Utf8

/-!
# What can go wrong

Every failure of an operation is a cause; its wording is in one function. `Trouble.outlet` says how a command
line reports a cause: as trouble of the surroundings, as a mistake of the caller, or not at all.
-/

namespace ScenarioAudit

open ScenarioAudit.Text ScenarioAudit.Number

/-- Why the system refuses a path. -/
inductive PathFault where
  | noEntry
  | notDirectory
  | isDirectory
  | alreadyExists
  | denied
  /-- A name in the path, or the whole path, is too long. -/
  | tooLong
  deriving DecidableEq, Repr

/-- The system's number and text for a fault. -/
def PathFault.describe : PathFault → String
  | .noEntry => "[Errno 2] No such file or directory"
  | .notDirectory => "[Errno 20] Not a directory"
  | .isDirectory => "[Errno 21] Is a directory"
  | .alreadyExists => "[Errno 17] File exists"
  | .denied => "[Errno 13] Permission denied"
  | .tooLong => "[Errno 36] File name too long"

/-- The fields of a calendar moment that can be out of range. -/
inductive MomentFault where
  | year (value : Int)
  | month
  | day
  | hour
  | minute
  | second
  | microsecond
  | zone (minutes : Int)
  deriving DecidableEq, Repr

def MomentFault.message : MomentFault → String
  | .year v => "year " ++ toString v ++ " is out of range"
  | .month => "month must be in 1..12"
  | .day => "day is out of range for month"
  | .hour => "hour must be in 0..23"
  | .minute => "minute must be in 0..59"
  | .second => "second must be in 0..59"
  | .microsecond => "microsecond must be in 0..999999"
  | .zone minutes =>
    let days := minutes.fdiv 1440
    let seconds := (minutes - days * 1440) * 60
    "offset must be a timedelta strictly between -timedelta(hours=24) and timedelta(hours=24), not "
      ++ "datetime.timedelta(days=" ++ toString days
      ++ (if seconds = 0 then "" else ", seconds=" ++ toString seconds) ++ ")."

/-- Why a path pattern is refused. -/
inductive PatternFault where
  | empty
  | absolute
  /-- Two stars stand beside something else in one segment. -/
  | starsBeside
  /-- A slash ends the pattern, and there is no segment before it. -/
  | slashAlone
  deriving DecidableEq, Repr

def PatternFault.message : PatternFault → String
  | .empty => "Unacceptable pattern: ''"
  | .absolute => "Non-relative patterns are unsupported"
  | .starsBeside => "Invalid pattern: '**' can only be an entire path component"
  | .slashAlone => "'_TerminatingSelector' object has no attribute 'select_from'"

/-- The cause of a failure. -/
inductive Trouble where
  /-- The system refused a path. -/
  | path (fault : PathFault) (shown : String)
  /-- A path with a NUL character reached the system. -/
  | nulInPath
  /-- A scenario file that should be checked for drift is not there. -/
  | noScenarioFile (shown : String)
  /-- The directory of step definitions is not there. -/
  | noStepDirectory (shown : String)
  /-- The directory is outside any version history. -/
  | notRepository (shown : String)
  /-- There is no version-history tool. -/
  | gitMissing
  /-- The version-history tool took too long. -/
  | gitTimedOut (command : String)
  /-- The difference against the last commit could not be computed. -/
  | diffFailed (detail : String)
  /-- The note could not be attached. -/
  | anchorRefused (detail : String)
  /-- The configuration file is not there. -/
  | configMissing (shown : String)
  /-- The configuration file is no well-formed YAML. -/
  | configMalformed (shown : String)
  /-- The configuration file does not hold a mapping. -/
  | configNotMapping (shown : String)
  /-- A text is no numeral. -/
  | numeral (cause : NumeralError)
  /-- A text is none of the values of an enumeration. -/
  | notMember (value enumeration : String)
  /-- What is no number has no integer part. -/
  | notANumber
  /-- No framework has this name. -/
  | unknownFramework (name : String) (available : List String)
  /-- A framework of this name is registered already. -/
  | duplicateFramework (name : String)
  /-- Step quality was asked for without a language. -/
  | languageNeeded
  /-- A moment does not exist. -/
  | moment (cause : MomentFault)
  /-- A timestamp of a document does not exist. -/
  | timestamp (cause : MomentFault)
  /-- A source file holds a NUL character. -/
  | nulInSource
  /-- A text of a document that should be a date is none. -/
  | notDate
  /-- A word of a document is no truth value. -/
  | notTruth (word : String)
  /-- A number in a document names no character. -/
  | noSuchCharacter
  /-- A value is missing on a command line. -/
  | noValue
  /-- An environment variable for a section of settings holds no JSON. -/
  | variableMalformed (section_ : String)
  /-- A path pattern cannot be used. -/
  | pattern (cause : PatternFault)
  /-- A value has the wrong type for its field. -/
  | rejected
  /-- A file is not UTF-8. -/
  | notUtf8 (fault : Utf8Fault)
  /-- A value has the wrong type for an operation. -/
  | wrongType
  /-- A list is too short. -/
  | noSuchItem
  /-- A number is too large for an operation. -/
  | overflow
  /-- What an operation goes through is nested too deeply for it. -/
  | tooDeep
  /-- A source file does not follow the grammar. -/
  | badSyntax
  /-- A log level has no number. -/
  | logLevel (name : String)
  /-- The settings library fails on a parameter of its own. -/
  | libraryFailed
  deriving Repr

namespace Trouble

def quoteList (xs : List String) : String :=
  "[" ++ ", ".intercalate (xs.map quoteString) ++ "]"

/-- The wording of a cause. Causes whose wording belongs to another tool have none. -/
def message : Trouble → String
  | path fault shown => fault.describe ++ ": " ++ quoteString shown
  | nulInPath => "embedded null byte"
  | noScenarioFile shown => "Scenario file not found: " ++ shown
  | noStepDirectory shown => "Step definitions directory not found: " ++ shown
  | notRepository shown => "Not a git repository: " ++ shown
  | gitMissing => "git executable not found on PATH"
  | gitTimedOut command => "git " ++ command ++ " timed out"
  | diffFailed detail => "git diff failed: " ++ detail
  | anchorRefused detail => "git notes add failed: " ++ detail
  | configMissing shown => "Config file not found: " ++ shown
  | configMalformed shown => "Invalid YAML in " ++ shown
  | configNotMapping shown => "Config root in " ++ shown ++ " must be a mapping"
  | numeral cause => cause.message
  | notMember value enumeration => quoteString value ++ " is not a valid " ++ enumeration
  | notANumber => "cannot convert float NaN to integer"
  | unknownFramework name available =>
    "No framework profile named " ++ quoteString name ++ ". Available: " ++ quoteList available
  | duplicateFramework name => "Framework profile " ++ quoteString name ++ " already registered"
  | languageNeeded => "--quality-dir requires --language"
  | moment cause => cause.message
  | timestamp cause => cause.message
  | nulInSource => "source code string cannot contain null bytes"
  | notDate => "'NoneType' object has no attribute 'groupdict'"
  | notTruth word => word
  | pattern cause => cause.message
  | noValue => "not enough values to unpack (expected 1, got 0)"
  | variableMalformed section_ =>
    "error parsing value for field \"" ++ section_ ++ "\" from source \"EnvSettingsSource\""
  | noSuchCharacter => "chr() arg not in range(0x110000)"
  | logLevel name => "Unknown level: " ++ quoteString name
  | notUtf8 fault => fault.message
  | rejected | wrongType | noSuchItem | overflow | tooDeep | badSyntax | libraryFailed => ""

/-- How a command line reports a failed command. -/
inductive Outlet where
  /-- Trouble of the surroundings. -/
  | environment
  /-- A mistake of the caller. -/
  | usage
  /-- Not reported: the failure leaves the program. -/
  | uncaught
  deriving DecidableEq, Repr

def outlet : Trouble → Outlet
  | path .noEntry _ | noScenarioFile _ | noStepDirectory _ => .usage
  | path _ _ => .environment
  | notRepository _ | gitMissing | gitTimedOut _ | diffFailed _ | anchorRefused _ => .environment
  | pattern .absolute | pattern .slashAlone => .uncaught
  | nulInPath | pattern _ | numeral _ | notANumber | notMember _ _ | unknownFramework _ _ | duplicateFramework _
  | languageNeeded | moment _ | timestamp _ | nulInSource | notTruth _ | noSuchCharacter | rejected | notUtf8 _
  | logLevel _ | noValue | variableMalformed _ => .usage
  | configMissing _ | configMalformed _ | configNotMapping _ => .uncaught
  | notDate | wrongType | noSuchItem | overflow | tooDeep | badSyntax | libraryFailed =>
    .uncaught

end Trouble

end ScenarioAudit
