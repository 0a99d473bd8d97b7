import ScenarioAudit.CommandLine.Run
import ScenarioAudit.Proofs.Record.Store
import ScenarioAudit.Proofs.Verdict.Evidence

/-! # What a command line leaves

A run that is asked for JSON leaves one document on standard output or nothing. It leaves nothing if the configuration
is rejected or the command fails, and the exit code then tells the kind of the failure (`FailureKind.exitCode?`). If it
leaves a document, the exit code can be read off the document (`Command.Fails`). All of this is `run_json_outcome`.

A failure ends a command before anything is written, because the document is the last thing that is made. That the
exit code agrees with the document is a law of each answer (`Answer.Agrees`), and that a gate which is laid over a
verdict cannot get lost is one of verdicts (`Verdict.KeepsGates`).
-/

namespace ScenarioAudit

/-! ## Kinds of failures -/

/-- The kinds of failures that a caller can tell apart. -/
inductive FailureKind where
  /-- Trouble with the version history. -/
  | history
  /-- A file that has to be there is not. -/
  | absent
  /-- A name that is looked up is not there. -/
  | unknownName
  /-- A value that cannot be used. -/
  | badValue
  /-- Any other refusal of the system. -/
  | system
  /-- The configuration is rejected. -/
  | configuration
  /-- A failure that no one counts on. -/
  | unforeseen
  deriving DecidableEq, Repr

/-- The exit code for a command that failed; none if the failure leaves the program. -/
def FailureKind.exitCode? : FailureKind → Option ℕ
  | history | system => some 2
  | absent | unknownName | badValue => some 1
  | configuration | unforeseen => none

def Trouble.kind : Trouble → FailureKind
  | notRepository _ | gitMissing | gitTimedOut _ | diffFailed _ | anchorRefused _ => .history
  | path .noEntry _ | noScenarioFile _ | noStepDirectory _ => .absent
  | unknownFramework _ _ | notTruth _ => .unknownName
  | nulInPath | numeral _ | notMember _ _ | notANumber | duplicateFramework _ | languageNeeded | moment _
  | timestamp _ | nulInSource | noSuchCharacter | noValue | variableMalformed _ | pattern .empty
  | pattern .starsBeside | rejected | notUtf8 _ | logLevel _ => .badValue
  | path _ _ => .system
  | configMissing _ | configMalformed _ | configNotMapping _ => .configuration
  | pattern .absolute | pattern .slashAlone | notDate | wrongType | noSuchItem | overflow | tooDeep | badSyntax
  | libraryFailed => .unforeseen

theorem Trouble.exitCode?_kind (e : Trouble) : e.kind.exitCode? =
    match e.outlet with
    | .environment => some 2
    | .usage => some 1
    | .uncaught => none := by
  cases e with
  | path fault shown => cases fault <;> rfl
  | pattern cause => cases cause <;> rfl
  | _ => rfl

namespace CommandLine

open ScenarioAudit.Text

theorem isConfigTrouble_iff {e : Trouble} : isConfigTrouble e = true ↔ e.kind = .configuration := by
  cases e with
  | path fault shown => cases fault <;> simp [isConfigTrouble, Trouble.kind]
  | pattern cause => cases cause <;> simp [isConfigTrouble, Trouble.kind]
  | _ => simp [isConfigTrouble, Trouble.kind]

/-- A failure that is reported leaves nothing on standard output, and its kind as the exit code. -/
theorem runOn_outcomeOf_eq_ok {e : Trouble} {h h' : Host} {o : Outcome}
    (hrun : (outcomeOf e).runOn h = (.ok o, h')) : o.output = [] ∧ e.kind.exitCode? = some o.exitCode := by
  rw [e.exitCode?_kind]
  unfold outcomeOf at hrun
  cases houtlet : e.outlet with
  | environment =>
    rw [houtlet] at hrun
    cases hrun
    exact ⟨rfl, rfl⟩
  | usage =>
    rw [houtlet] at hrun
    cases hrun
    exact ⟨rfl, rfl⟩
  | uncaught =>
    rw [houtlet] at hrun
    cases hrun

end CommandLine

/-! ## Documents -/

/-- The value under a key of an object. -/
def Json.member? (key : String) : Json → Option Json
  | .obj ms => Json.Members.get? ms key
  | _ => none

/-- Whether the status under a key of a document says that something is blocked. -/
def Json.IsBlocked (d : Json) (key : String) : Prop :=
  d.member? key = some (.str "BLOCKED")

/-- The documents for which a command exits with 1, by the status that a document has as a whole. -/
def CommandLine.Command.Fails (d : Json) : Command → Prop
  | .onPath _ _ => False
  | .integrity _ => d.IsBlocked "overall_status"
  | .coverage _ | .quality _ _ _ => d.IsBlocked "status"
  | .execution _ _ =>
    ∃ status ∈ ["NO_TESTS_RUN", "TESTS_FAILING", "INCOMPLETE"], d.member? "status" = some (.str status)

/-- The documents that show a blocked gate, be it one that is laid over a verdict. -/
def CommandLine.Command.ShowsBlockedGate (d : Json) : Command → Prop
  | .integrity _ => d.IsBlocked "overall_status" ∨
    ∃ checks, d.member? "checks" = some checks ∧ (checks.IsBlocked "coverage" ∨ checks.IsBlocked "quality")
  | .coverage _ | .quality _ _ _ => d.IsBlocked "status"
  | .onPath _ _ | .execution _ _ => False

/-! ## Verdicts -/

theorem GateStatus.exitCode_eq_one {s : GateStatus} : s.exitCode = 1 ↔ s = .blocked := by
  cases s <;> simp [exitCode]

theorem GateStatus.exitCode_eq_zero {s : GateStatus} : s.exitCode = 0 ↔ s ≠ .blocked := by
  cases s <;> simp [exitCode]

namespace Verdict

/-- No gate that is blocked goes with a verdict that is not. -/
structure KeepsGates (v : Verdict) : Prop where
  coverage : v.checks.coverage = some .blocked → v.status = .blocked
  quality : v.checks.quality = some .blocked → v.status = .blocked

theorem keepsGates_aggregate (integrity anchor : CheckStatus) (drift : DriftStatus) (policy : Policy) :
    (aggregate integrity anchor drift policy).KeepsGates :=
  ⟨nofun, nofun⟩

theorem status_block (message : String) (v : Verdict) : (v.block message).status = .blocked := by
  unfold block
  split
  next hblocked => exact hblocked
  next => rfl

theorem checks_degrade (message : String) (v : Verdict) : (v.degrade message).checks = v.checks := by
  unfold degrade
  split
  · rfl
  · rfl

theorem status_degrade {message : String} {v : Verdict} (h : v.status = .blocked) :
    (v.degrade message).status = .blocked := by
  rw [degrade, if_neg (by simp [h])]
  exact h

theorem KeepsGates.applyCoverage {v : Verdict} (h : v.KeepsGates) (gate : CoverageGate) :
    (v.applyCoverage gate).KeepsGates := by
  unfold Verdict.applyCoverage
  cases hgate : gate.status with
  | blocked => exact ⟨fun _ => status_block _ _, fun _ => status_block _ _⟩
  | degraded =>
    -- A degraded gate says nothing about the status, but a quality gate that blocked before must not get lost.
    constructor
    · rw [checks_degrade]
      nofun
    · rw [checks_degrade]
      intro hquality
      exact status_degrade (h.quality hquality)
  | pass => exact ⟨nofun, h.quality⟩
  | warn => exact ⟨nofun, h.quality⟩

theorem KeepsGates.applyQuality {v : Verdict} (h : v.KeepsGates) (gate : QualityGate) :
    (v.applyQuality gate).KeepsGates := by
  unfold Verdict.applyQuality
  cases hgate : gate.status with
  | blocked => exact ⟨fun _ => status_block _ _, fun _ => status_block _ _⟩
  | degraded => exact ⟨h.coverage, nofun⟩
  | pass => exact ⟨h.coverage, nofun⟩
  | warn => exact ⟨h.coverage, nofun⟩

theorem KeepsGates.applyGates {v : Verdict} (h : v.KeepsGates) (coverage : Option CoverageGate)
    (quality : Option QualityGate) : (v.applyGates coverage quality).KeepsGates := by
  unfold Verdict.applyGates
  cases coverage with
  | none =>
    cases quality with
    | none => exact h
    | some gate => exact h.applyQuality gate
  | some gate =>
    cases quality with
    | none => exact h.applyCoverage gate
    | some gate' => exact (h.applyCoverage gate).applyQuality gate'

end Verdict

namespace CommandLine

open ScenarioAudit.Text

theorem keepsGates_integrityOf {settings : Settings} {r : IntegrityRequest} {h h' : Host} {v : Verdict}
    (hrun : (integrityOf settings r).runOn h = (.ok v, h')) : v.KeepsGates := by
  unfold integrityOf at hrun
  obtain ⟨verdict, h₁, hcheck, hrun⟩ := Job.runOn_bind_eq_ok hrun
  obtain ⟨coverage, h₂, -, hrun⟩ := Job.runOn_bind_eq_ok hrun
  obtain ⟨quality, h₃, -, hrun⟩ := Job.runOn_bind_eq_ok hrun
  obtain ⟨results, -, rfl⟩ := checkIntegrity_ok hcheck
  cases hrun
  exact (Verdict.keepsGates_aggregate _ _ _ _).applyGates _ _

/-! ## Answers -/

/-- The document of an answer can be read again, and the exit code can be read off it. -/
structure Answer.Agrees (a : Answer) (c : Command) (d : Json) : Prop where
  tidy : d.Tidy
  exitCode_eq_one : a.exitCode = 1 ↔ c.Fails d
  exitCode_eq_zero : a.exitCode = 0 ↔ ¬ c.Fails d
  blocked : c.ShowsBlockedGate d → a.exitCode = 1

theorem nameOf_eq_blocked {s : GateStatus} : some (nameOf s) = some (.str "BLOCKED") ↔ s = .blocked := by
  cases s <;> simp [nameOf, toString, GateStatus.toString]

theorem nameOrNull_eq_blocked {s : Option GateStatus} :
    some (nameOrNull s) = some (.str "BLOCKED") ↔ s = some .blocked := by
  cases s with
  | none => simp [nameOrNull]
  | some s => rw [nameOrNull, nameOf_eq_blocked, Option.some.injEq]

theorem agrees_onPath {a : Answer} {d : Json} (hcode : a.exitCode = 0) (htidy : d.Tidy) (action : PathAction)
    (p : Path) : a.Agrees (.onPath action p) d where
  tidy := htidy
  exitCode_eq_one := by simp [hcode, Command.Fails]
  exitCode_eq_zero := by simp [hcode, Command.Fails]
  blocked := nofun

theorem agrees_gate {a : Answer} {c : Command} {d : Json} {s : GateStatus} (hcode : a.exitCode = s.exitCode)
    (htidy : d.Tidy) (hfails : c.Fails d ↔ s = .blocked) (hgates : c.ShowsBlockedGate d → s = .blocked) :
    a.Agrees c d where
  tidy := htidy
  exitCode_eq_one := by rw [hcode, GateStatus.exitCode_eq_one, hfails]
  exitCode_eq_zero := by rw [hcode, GateStatus.exitCode_eq_zero, hfails]
  blocked := by
    intro hshows
    rw [hcode, GateStatus.exitCode_eq_one]
    exact hgates hshows

theorem agrees_ofVerdict {v : Verdict} (hkeeps : v.KeepsGates) (r : IntegrityRequest) :
    (Answer.ofVerdict v).Agrees (.integrity r) (verdictDocument v) := by
  have hstatus : (verdictDocument v).IsBlocked "overall_status" ↔ v.status = .blocked := nameOf_eq_blocked
  refine agrees_gate (s := v.status) rfl ?_ hstatus ?_
  · have hissues : Json.TidyItems (v.issues.map Json.str) := by
      rw [Json.tidyItems_iff]
      simp [Json.Tidy]
    refine ⟨by simp, trivial, trivial, trivial, ?_, hissues, trivial⟩
    refine ⟨by simp, trivial, trivial, trivial, ?_, ?_, trivial⟩
    · cases v.checks.coverage <;> trivial
    · cases v.checks.quality <;> trivial
  · rintro (hblocked | ⟨checks, hchecks, hblocked⟩)
    · exact hstatus.mp hblocked
    · cases hchecks
      rcases hblocked with hcoverage | hquality
      · exact hkeeps.coverage (nameOrNull_eq_blocked.mp hcoverage)
      · exact hkeeps.quality (nameOrNull_eq_blocked.mp hquality)

theorem tidy_textOrNull (s : Option String) : (textOrNull s).Tidy := by
  cases s <;> trivial

theorem agrees_ofCoverage (result : CoverageResult) (manifest : Option Path) (r : CoverageRequest) :
    (Answer.ofCoverage result manifest).Agrees (.coverage r) (coverageDocument result manifest) := by
  have hstatus : (coverageDocument result manifest).IsBlocked "status" ↔ result.status = .blocked :=
    nameOf_eq_blocked
  refine agrees_gate (s := result.status) rfl ?_ hstatus hstatus.mp
  have hdetails : Json.TidyItems (result.details.map undefinedStepDocument) := by
    rw [Json.tidyItems_iff, List.forall_mem_map]
    intro d _
    exact ⟨by simp, trivial, trivial, trivial, trivial⟩
  refine ⟨by simp, trivial, tidy_textOrNull _, trivial, trivial, trivial, trivial, hdetails, trivial, ?_, trivial, ?_,
    trivial⟩
  · cases result.exitCode <;> trivial
  · cases manifest <;> trivial

theorem tidyItems_findings {findings : List Finding} {details : List Json}
    (h : findings.mapM findingDocument? = some details) : Json.TidyItems details := by
  induction findings generalizing details with
  | nil =>
    cases h
    trivial
  | cons f findings ih =>
    rw [List.mapM_cons] at h
    obtain ⟨d, hd, h⟩ := Option.bind_eq_some_iff.mp h
    obtain ⟨rest, hrest, h⟩ := Option.bind_eq_some_iff.mp h
    cases h
    obtain ⟨step, -, rfl⟩ := Option.map_eq_some_iff.mp hd
    exact ⟨⟨by simp, trivial, trivial, trivial, trivial, trivial, trivial, trivial⟩, ih hrest⟩

theorem agrees_ofQuality {report : QualityReport} {d : Json} (hd : qualityDocument? report = some d) (steps : Path)
    (language : String) (heuristicOnly : Bool) :
    (Answer.ofQuality report).Agrees (.quality steps language heuristicOnly) d := by
  obtain ⟨details, hdetails, rfl⟩ := Option.map_eq_some_iff.mp hd
  refine agrees_gate (s := report.status) rfl ?_ nameOf_eq_blocked nameOf_eq_blocked.mp
  exact ⟨by simp, trivial, trivial, trivial, tidy_textOrNull _, trivial, trivial, trivial,
    tidyItems_findings hdetails, trivial⟩

/-- The test runs that fail a command are those whose status is one of three. -/
theorem ExecutionStatus.exitCode_eq_one {s : ExecutionStatus} : s.exitCode = 1 ↔
    ∃ status ∈ ["NO_TESTS_RUN", "TESTS_FAILING", "INCOMPLETE"], some (nameOf s) = some (.str status) := by
  cases s <;> simp [ExecutionStatus.exitCode, nameOf, toString, ExecutionStatus.toString]

theorem ExecutionStatus.exitCode_le_one (s : ExecutionStatus) : s.exitCode ≤ 1 := by
  cases s <;> decide

theorem agrees_ofExecution {report : ExecutionReport} {a : Answer} (ha : Answer.ofExecution report = .ok a)
    (features : Path) (output : String) : a.document = some (executionDocument report) ∧
      a.Agrees (.execution features output) (executionDocument report) := by
  obtain ⟨text, -, ha⟩ := bind_eq_ok ha
  cases ha
  have hfails := ExecutionStatus.exitCode_eq_one (s := report.status)
  refine ⟨rfl, ?_, hfails, ?_, nofun⟩
  · refine ⟨by simp, trivial, trivial, trivial, ?_, trivial⟩
    exact ⟨by simp, trivial, trivial, trivial, tidy_textOrNull _, trivial⟩
  · have hone := ExecutionStatus.exitCode_le_one report.status
    show report.status.exitCode = 0 ↔ ¬ ∃ status ∈ ["NO_TESTS_RUN", "TESTS_FAILING", "INCOMPLETE"],
      some (nameOf report.status) = some (.str status)
    rw [← hfails]
    omega

theorem answerPath_eq_ok {settings : IntegritySettings} {p : Path} {action : PathAction} {h h' : Host} {a : Answer}
    (hrun : (answerPath settings p action).runOn h = (.ok a, h')) :
    a.exitCode = 0 ∧ ∃ d, a.document = some d ∧ d.Tidy := by
  cases action with
  | extract =>
    obtain ⟨corpus, -, hrun⟩ := Job.runOn_reading_bind_eq_ok hrun
    cases hrun
    refine ⟨rfl, _, rfl, by simp, trivial, trivial, ?_, trivial⟩
    show Json.TidyItems _
    rw [Json.tidyItems_iff, List.forall_mem_map]
    exact fun _ _ => trivial
  | hash =>
    obtain ⟨store, h₁, -, hrun⟩ := Job.runOn_bind_eq_ok hrun
    obtain ⟨digest, -, hrun⟩ := Job.runOn_reading_bind_eq_ok hrun
    cases hrun
    exact ⟨rfl, _, rfl, by simp, trivial, trivial, trivial⟩
  | store =>
    obtain ⟨store, h₁, -, hrun⟩ := Job.runOn_bind_eq_ok hrun
    obtain ⟨record, h₂, -, hrun⟩ := Job.runOn_bind_eq_ok hrun
    cases hrun
    exact ⟨rfl, _, rfl, by simp [recordMembers], trivial, trivial, trivial, trivial, tidy_textOrNull _,
      tidy_textOrNull _, trivial, trivial⟩
  | verify =>
    obtain ⟨store, h₁, -, hrun⟩ := Job.runOn_bind_eq_ok hrun
    obtain ⟨status, -, hrun⟩ := Job.runOn_looking_bind_eq_ok hrun
    cases hrun
    exact ⟨rfl, _, rfl, by simp, trivial, trivial, trivial⟩
  | anchor =>
    obtain ⟨history, h₁, -, hrun⟩ := Job.runOn_bind_eq_ok hrun
    obtain ⟨digest, h₂, -, hrun⟩ := Job.runOn_bind_eq_ok hrun
    cases hrun
    exact ⟨rfl, _, rfl, by simp, trivial, trivial, trivial, trivial⟩
  | verifyAnchor =>
    obtain ⟨history, h₁, -, hrun⟩ := Job.runOn_bind_eq_ok hrun
    obtain ⟨status, h₂, -, hrun⟩ := Job.runOn_bind_eq_ok hrun
    cases hrun
    exact ⟨rfl, _, rfl, by simp, trivial, trivial, trivial⟩
  | drift =>
    obtain ⟨history, h₁, -, hrun⟩ := Job.runOn_bind_eq_ok hrun
    obtain ⟨status, h₂, -, hrun⟩ := Job.runOn_bind_eq_ok hrun
    cases hrun
    exact ⟨rfl, _, rfl, by simp, trivial, trivial, trivial⟩

/-- The answer about a test run is about some report, wherever the output of the run stands. -/
theorem execution_eq_ok {settings : Settings} {stdin output : String} {features : Path} {h h' : Host} {a : Answer}
    (hrun : ((Command.execution features output).answer settings stdin).runOn h = (.ok a, h')) :
    ∃ report, Answer.ofExecution report = .ok a := by
  have hreport {text : List Char} {h₁ : Host} (hrun : (do
      Job.settle (Answer.ofExecution (← Job.reading fun t => verifyExecution t features text)) : Job Answer).runOn
        h₁ = (.ok a, h')) : ∃ report, Answer.ofExecution report = .ok a := by
    obtain ⟨report, -, hrun⟩ := Job.runOn_reading_bind_eq_ok hrun
    rw [Job.runOn_settle] at hrun
    exact ⟨report, (Prod.mk.inj hrun).1⟩
  unfold Command.answer at hrun
  dsimp only at hrun
  split at hrun
  · exact hreport hrun
  · obtain ⟨text, h₁, -, hrun⟩ := Job.runOn_bind_eq_ok hrun
    exact hreport hrun

/-- **The answer to a command agrees with its document.** -/
theorem agrees_of_answer {settings : Settings} {stdin : String} {c : Command} {h h' : Host} {a : Answer} {d : Json}
    (hrun : (c.answer settings stdin).runOn h = (.ok a, h')) (hd : a.document = some d) : a.Agrees c d := by
  cases c with
  | onPath action p =>
    obtain ⟨hcode, d', hd', htidy⟩ := answerPath_eq_ok hrun
    rw [hd'] at hd
    cases hd
    exact agrees_onPath hcode htidy action p
  | integrity r =>
    obtain ⟨v, h₁, hverdict, hrun⟩ := Job.runOn_bind_eq_ok hrun
    cases hrun
    cases hd
    exact agrees_ofVerdict (keepsGates_integrityOf hverdict) r
  | coverage r =>
    obtain ⟨⟨result, manifest⟩, h₁, -, hrun⟩ := Job.runOn_bind_eq_ok hrun
    cases hrun
    cases hd
    exact agrees_ofCoverage result manifest r
  | quality steps language heuristicOnly =>
    obtain ⟨report, -, hrun⟩ := Job.runOn_looking_bind_eq_ok hrun
    cases hrun
    exact agrees_ofQuality hd steps language heuristicOnly
  | execution features output =>
    obtain ⟨report, ha⟩ := execution_eq_ok hrun
    obtain ⟨hdocument, hagrees⟩ := agrees_ofExecution ha features output
    rw [hdocument] at hd
    cases hd
    exact hagrees

/-! ## Runs -/

/-- What a run leaves on standard output is one document. -/
def Outcome.Prints (o : Outcome) (d : Json) : Prop :=
  ∃ text, o.output = codePoints text ∧ Json.ofText? Json.recordRule text = some d

theorem codePoints_injective : Function.Injective codePoints :=
  List.map_injective_iff.mpr fun _ _ h => Char.ext (UInt32.toNat_inj.mp h)

theorem Outcome.Prints.unique {o : Outcome} {d d' : Json} (h : o.Prints d) (h' : o.Prints d') : d = d' := by
  obtain ⟨text, houtput, hread⟩ := h
  obtain ⟨text', houtput', hread'⟩ := h'
  obtain rfl := codePoints_injective (houtput.symm.trans houtput')
  exact Option.some.inj (hread.symm.trans hread')

theorem Outcome.Prints.output_ne_nil {o : Outcome} {d : Json} (h : o.Prints d) : o.output ≠ [] := by
  obtain ⟨text, houtput, hread⟩ := h
  intro hnone
  obtain rfl : text = [] := codePoints_injective (houtput.symm.trans hnone)
  cases hread

namespace Request

/-- Answers a request, with all failures passed on. -/
def handle (r : Request) (settings : Settings) (stdin : String) : Job Outcome := do
  let a ← r.command.answer settings stdin
  return { exitCode := a.exitCode, output := ← Job.settle (a.output r.json) }

theorem run_eq (r : Request) (settings : Settings) (stdin : String) :
    r.run settings stdin = tryCatch (r.handle settings stdin) outcomeOf :=
  rfl

theorem handle_eq_ok {r : Request} {settings : Settings} {stdin : String} {h h' : Host} {o : Outcome}
    (hjson : r.json = true) (hrun : (r.handle settings stdin).runOn h = (.ok o, h')) :
    ∃ d, o.Prints d ∧ (o.exitCode = 1 ↔ r.command.Fails d) ∧ (o.exitCode = 0 ↔ ¬ r.command.Fails d) ∧
      (r.command.ShowsBlockedGate d → o.exitCode = 1) := by
  unfold handle at hrun
  obtain ⟨a, h₁, hanswer, hrun⟩ := Job.runOn_bind_eq_ok hrun
  obtain ⟨output, houtput, hrun⟩ := Job.runOn_settle_bind_eq_ok hrun
  cases hrun
  rw [hjson, Answer.output, if_pos rfl] at houtput
  split at houtput
  next text htext =>
    -- Only what fits the limits of the writer is written, and that is what makes a tidy document regular.
    cases houtput
    obtain ⟨d, hd, hrender⟩ := Option.bind_eq_some_iff.mp htext
    have hagrees := agrees_of_answer hanswer hd
    have hregular := hagrees.tidy.regular (Json.fitsWord_of_render hrender)
    exact ⟨d, ⟨_, rfl, Json.ofText_render hregular hrender⟩, hagrees.exitCode_eq_one, hagrees.exitCode_eq_zero,
      hagrees.blocked⟩
  next => cases houtput

end Request

/-- A failure that a run takes back leaves nothing on standard output, and its kind as the exit code. -/
theorem Request.run_eq_ok {r : Request} {settings : Settings} {stdin : String} {h h' : Host} {o : Outcome}
    (hrun : (r.run settings stdin).runOn h = (.ok o, h')) :
    (r.handle settings stdin).runOn h = (.ok o, h') ∨
      ∃ e h₁, (r.handle settings stdin).runOn h = (.error e, h₁) ∧ o.output = [] ∧
        e.kind.exitCode? = some o.exitCode := by
  rw [r.run_eq] at hrun
  rcases hhandle : (r.handle settings stdin).runOn h with ⟨e | o', h₁⟩
  · rw [Job.runOn_tryCatch_error hhandle] at hrun
    exact Or.inr ⟨e, h₁, rfl, runOn_outcomeOf_eq_ok hrun⟩
  · rw [Job.runOn_tryCatch_ok hhandle] at hrun
    exact Or.inl hrun

theorem run_eq_ok {words : List String} {r : Request} {stdin : String} {library : SettingsLibrary} {h h' : Host}
    {o : Outcome}
    (hwords : Request.ofWords words = .ok r) (hrun : (run words stdin library).runOn h = (.ok o, h')) :
    (∃ e h₁, (Settings.load r.config library).runOn h = (.error e, h₁) ∧ e.kind = .configuration ∧ o.output = [] ∧
      o.exitCode = 1) ∨
    ∃ settings h₁, (Settings.load r.config library).runOn h = (.ok settings, h₁) ∧
      (r.run settings stdin).runOn h₁ = (.ok o, h') := by
  rw [run, hwords] at hrun
  obtain ⟨loaded, h₁, hloaded, hrun⟩ := Job.runOn_bind_eq_ok hrun
  rw [map_eq_pure_bind] at hloaded
  rcases hload : (Settings.load r.config library).runOn h with ⟨e | settings, h₂⟩
  · rw [Job.runOn_tryCatch_error (Job.runOn_bind_error hload)] at hloaded
    split at hloaded
    next hconfig =>
      cases hloaded
      cases hrun
      exact Or.inl ⟨e, _, rfl, isConfigTrouble_iff.mp hconfig, rfl, rfl⟩
    next => cases hloaded
  · have hok : (Settings.load r.config library >>= fun settings => pure (.ok settings : Except Trouble Settings)).runOn h =
        (.ok (.ok settings), h₂) := Job.runOn_bind_ok hload
    rw [Job.runOn_tryCatch_ok hok] at hloaded
    cases hloaded
    obtain ⟨u, h₃, hlog, hrun⟩ := Job.runOn_bind_eq_ok hrun
    unfold setUpLog at hlog
    split at hlog
    next => cases hlog
    next =>
      cases hlog
      exact Or.inr ⟨settings, _, rfl, hrun⟩

/-- **Standard output and the exit code agree with the outcome.** For every run with JSON that ends: standard output is
empty or one document. It is empty with exit code 1 if the configuration is rejected, and empty with the exit code of
the kind of failure if the command fails; otherwise it is a document. If it is a document, the exit code is 1 if the
status of the document as a whole says so, and 0 if it does not, and no gate is blocked with the exit code 0. -/
theorem run_json_outcome {words : List String} {r : Request} {stdin : String} {library : SettingsLibrary} {h h' : Host}
    {o : Outcome}
    (hwords : Request.ofWords words = .ok r) (hjson : r.json = true)
    (hrun : (run words stdin library).runOn h = (.ok o, h')) :
    (o.output = [] ∨ ∃ d, o.Prints d) ∧
    (∀ e h₁, (Settings.load r.config library).runOn h = (.error e, h₁) →
      e.kind = .configuration ∧ o.output = [] ∧ o.exitCode = 1) ∧
    (∀ settings h₁ e h₂, (Settings.load r.config library).runOn h = (.ok settings, h₁) →
      (r.handle settings stdin).runOn h₁ = (.error e, h₂) →
        o.output = [] ∧ e.kind.exitCode? = some o.exitCode) ∧
    (∀ settings h₁ o' h₂, (Settings.load r.config library).runOn h = (.ok settings, h₁) →
      (r.handle settings stdin).runOn h₁ = (.ok o', h₂) → ∃ d, o.Prints d) ∧
    (∀ d, o.Prints d → (o.exitCode = 1 ↔ r.command.Fails d) ∧ (o.exitCode = 0 ↔ ¬ r.command.Fails d) ∧
      (r.command.ShowsBlockedGate d → o.exitCode = 1)) := by
  rcases run_eq_ok hwords hrun with ⟨e, h₁, hload, hkind, hempty, hcode⟩ | ⟨settings, h₁, hload, hrun⟩
  · -- The configuration is rejected, and no command is come to.
    rw [hload]
    refine ⟨Or.inl hempty, ?_, (fun _ _ _ _ hloads => nomatch hloads), (fun _ _ _ _ hloads => nomatch hloads),
      fun d hprints => absurd hempty hprints.output_ne_nil⟩
    intro _ _ hrejects
    cases hrejects
    exact ⟨hkind, hempty, hcode⟩
  · rw [hload]
    rcases Request.run_eq_ok hrun with hhandle | ⟨e, h₂, hhandle, hempty, hcode⟩
    · obtain ⟨d, hprints, hagrees⟩ := Request.handle_eq_ok hjson hhandle
      refine ⟨Or.inr ⟨d, hprints⟩, (fun _ _ hrejects => nomatch hrejects), ?_, fun _ _ _ _ _ _ => ⟨d, hprints⟩, ?_⟩
      · intro _ _ e h₂ hloads hfails
        cases hloads
        rw [hhandle] at hfails
        cases hfails
      · intro d' hprints'
        rw [hprints'.unique hprints]
        exact hagrees
    · refine ⟨Or.inl hempty, (fun _ _ hrejects => nomatch hrejects), ?_, ?_,
        fun d hprints => absurd hempty hprints.output_ne_nil⟩
      · intro _ _ e' h₃ hloads hfails
        cases hloads
        rw [hhandle] at hfails
        cases hfails
        exact ⟨hempty, hcode⟩
      · intro _ _ o' h₃ hloads hanswers
        cases hloads
        rw [hhandle] at hanswers
        cases hanswers

/-- A host with a feature file and no record of it. -/
def unrecordedHost : Host where
  tree := .dir [("a.feature", .file (encodeUtf8 "Given x\n".toList))]

/-- The words of a check that has to find a record. -/
def mandatoryWords : List String :=
  ["--json", "integrity", "a.feature", "--policy", "mandatory"]

theorem run_json_outcome_blocked : ∃ r o h' d, Request.ofWords mandatoryWords = .ok r ∧
    (run mandatoryWords "").runOn unrecordedHost = (.ok o, h') ∧ o.Prints d ∧ r.command.Fails d ∧ o.exitCode = 1 := by
  obtain ⟨r, hwords, hjson⟩ := exists_of_toOption_map (f := Request.json) (b := true)
    (x := Request.ofWords mandatoryWords) (by decide +kernel)
  obtain ⟨o, hok, hleaves⟩ := exists_of_toOption_map (f := fun o : Outcome => (o.exitCode, o.output.isEmpty))
    (b := (1, false)) (x := ((run mandatoryWords "").runOn unrecordedHost).1) (by decide +kernel)
  obtain ⟨hcode, hempty⟩ := Prod.mk.inj hleaves
  rcases hrun : (run mandatoryWords "").runOn unrecordedHost with ⟨result, h'⟩
  rw [hrun] at hok
  obtain rfl : result = .ok o := hok
  obtain ⟨hprints, -, -, -, hagrees⟩ := run_json_outcome hwords hjson hrun
  rcases hprints with hnone | ⟨d, hd⟩
  · rw [hnone] at hempty
    cases hempty
  · exact ⟨r, o, h', d, hwords, rfl, hd, (hagrees d hd).1.mp hcode, hcode⟩

end CommandLine

end ScenarioAudit
