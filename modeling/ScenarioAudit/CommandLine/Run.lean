import ScenarioAudit.CommandLine.Answer
import ScenarioAudit.CommandLine.Command
import ScenarioAudit.Quality.Analysis
import ScenarioAudit.Settings.Load
import ScenarioAudit.Verdict.Check

/-!
# Running a command line

A command line is read, the settings are loaded, and the command is answered. Failures are told in one line: 2 is
the exit code for trouble of the surroundings, 1 for mistakes, and what is neither leaves the program.
-/

namespace ScenarioAudit.CommandLine

open ScenarioAudit.Text

/-- What a run of the program leaves. -/
structure Outcome where
  exitCode : Nat
  output : CodePoints := []
  /-- What is written to standard error. -/
  complaint : Option String := none
  deriving Repr

def programName : String := "stepguard"

def programVersion : String := "0.4.0"

/-! ## Commands -/

def storeFor (settings : IntegritySettings) (p : Path) : Job RecordStore := do
  return ⟨← Job.reading fun t => artifactRoot t p, settings⟩

def historyFor (settings : IntegritySettings) (p : Path) : Job History := do
  Job.reading fun t => do
    let workdir := if ← t.isDir p then p else p.parent
    History.ofDirectory (if ← t.isDir workdir then some workdir else none) settings

def storeRecord (store : RecordStore) (p : Path) : Job IntegrityRecord := do
  let h ← get
  let (tree, result) := store.store h.tree p.toString h.now
  set { h with tree := tree }
  Job.settle result

def answerPath (settings : IntegritySettings) (p : Path) : PathAction → Job Answer
  | .extract => do return .ofCorpus p (← Job.reading fun t => Corpus.ofPath t p)
  | .hash => do
    let store ← storeFor settings p
    return .aboutPath p "digest" (← Job.reading fun t => store.digestOf t p)
  | .store => do
    let store ← storeFor settings p
    return .ofRecord store.recordPath (← storeRecord store p)
  | .verify => do
    let store ← storeFor settings p
    return .aboutPath p "status" (toString (← Job.looking fun h => store.verify h.tree p h.showRoom))
  | .anchor => do
    let digest ← (← historyFor settings p).anchor p.toString
    return .aboutPath p "digest" digest [("ref", .str settings.notesRef.toText)]
  | .verifyAnchor => do
    return .aboutPath p "status" (toString (← (← historyFor settings p).verifyAnchor p))
  | .drift => do
    return .aboutPath p "status" (toString (← (← historyFor settings p).checkDrift p))

/-- The profile that a framework's name means, or that the declaration and the files point to. -/
def chooseProfile (features : Path) (framework : Option String) (declaration : Option Path) :
    Job (Option FrameworkProfile) := do
  match framework.filter fun name => !name.isEmpty with
  | some name => return some (← Job.settle (Registry.standard.get name))
  | none =>
    let text ← declaration.mapM fun p => Job.reading fun t => t.readText p
    Job.reading fun t => Registry.standard.detect t text features

/-- Checks coverage, and finds the manifest that declares the framework. -/
def coverageOf (settings : CoverageSettings) (r : CoverageRequest) :
    Job (CoverageResult × Option Path) := do
  let profile ← chooseProfile r.features r.framework r.declaration
  let result ← verifyCoverage settings r.projectRoot r.features profile
  let manifest ← match profile with
    | some p => Job.reading fun t => findManifest t p (r.projectRoot.getD Path.workspace)
    | none => pure none
  return (result, manifest)

/-- Analyzes the steps below a directory, for which a language has to be named. -/
def qualityOf (settings : QualitySettings) (steps : Path) (language : Option String) : Job QualityReport :=
  match language.filter fun l => !l.isEmpty with
  | some l => Job.looking fun h => analyzeSteps settings h.tree steps l false h.visitRoom h.walkRoom
  | none => throw .languageNeeded

/-- The verdict on a path, with the gates that were asked for laid over it. -/
def integrityOf (settings : Settings) (r : IntegrityRequest) : Job Verdict := do
  let verdict ← checkIntegrity settings.integrity none r.path r.policy
  let coverage ← r.coverageDir.mapM fun d =>
    coverageOf settings.coverage { features := d, framework := r.framework }
  let quality ← r.qualityDir.mapM fun d => qualityOf settings.quality d r.language
  return verdict.applyGates (coverage.map fun c => c.1.toGate) (quality.map (·.toGate))

def Command.answer (settings : Settings) (stdin : String) : Command → Job Answer
  | .onPath action p => answerPath settings.integrity p action
  | .integrity r => do return .ofVerdict (← integrityOf settings r)
  | .coverage r => do
    let (result, manifest) ← coverageOf settings.coverage r
    return .ofCoverage result manifest
  | .quality steps language heuristicOnly => do
    let report ← Job.looking fun h =>
      analyzeSteps settings.quality h.tree steps language heuristicOnly h.visitRoom h.walkRoom
    return .ofQuality report
  | .execution features output => do
    let text ← if output = "-" then pure stdin.toList
      else Job.reading fun t => t.readText (Path.ofString output)
    Job.settle (Answer.ofExecution (← Job.reading fun t => verifyExecution t features text))

/-! ## Runs -/

/-- The names of log settings that are no levels, with what becomes of them. -/
def unusableLevels : List (String × Trouble) :=
  [("BASIC_FORMAT", .logLevel "%(levelname)s:%(name)s:%(message)s"), ("_STYLES", .wrongType)]

def setUpLog (settings : LoggingSettings) : Job Unit :=
  match unusableLevels.lookup (String.ofList (upperAscii settings.level.toText.toList)) with
  | some e => throw e
  | none => return

/-- What is said about a cause. A name that is looked up is said in quotes. -/
def complaintOf (e : Trouble) : String :=
  let said := match e with
    | .unknownFramework _ _ => quoteString e.message
    | _ => e.message
  programName ++ ": " ++ said

/-- Whether a cause lies in the configuration file itself. -/
def isConfigTrouble : Trouble → Bool
  | .configMissing _ | .configMalformed _ | .configNotMapping _ => true
  | _ => false

def outcomeOf (e : Trouble) : Job Outcome :=
  match e.outlet with
  | .environment => return { exitCode := 2, complaint := some (complaintOf e) }
  | .usage => return { exitCode := 1, complaint := some (complaintOf e) }
  | .uncaught => throw e

/-- The outcome of a command line that asks for no command. -/
def Stop.outcome : Stop → Job Outcome
  | .help => return { exitCode := 0 }
  | .version =>
    return { exitCode := 0, output := codePoints (programName ++ " " ++ programVersion ++ "\n").toList }
  | .misuse => return { exitCode := 1 }
  | .noValue => throw .noValue

def Request.run (r : Request) (settings : Settings) (stdin : String) : Job Outcome :=
  tryCatch (do
    let a ← r.command.answer settings stdin
    return { exitCode := a.exitCode, output := ← Job.settle (a.output r.json) }) outcomeOf

def run (words : List String) (stdin : String) (library : SettingsLibrary := .plain) : Job Outcome := do
  match Request.ofWords words with
  | .error stop => stop.outcome
  | .ok r =>
    let loaded ← tryCatch (Except.ok <$> Settings.load r.config library) fun e =>
      if isConfigTrouble e then return .error e else throw e
    match loaded with
    | .error e => return { exitCode := 1, complaint := some (complaintOf e) }
    | .ok settings =>
      setUpLog settings.logging
      r.run settings stdin

end ScenarioAudit.CommandLine
