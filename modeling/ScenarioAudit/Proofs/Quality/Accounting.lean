import ScenarioAudit.Proofs.Quality.Walk

/-! # What a quality report accounts for

Each file that is looked at adds one thing to the report: its bindings, or a warning if it cannot be read
(`Contribution`). The report counts all bindings, each of them as sound or as defective, and lists one finding for each
defective binding and, behind them, the warnings (`QualityReport.Accounts`). A file that cannot be read adds its
warning and nothing else: without the file the report is the same but for that warning (`analyzeSteps_accounts`).
-/

namespace ScenarioAudit

/-! ## Contributions -/

/-- What a file adds to a report. -/
inductive Contribution where
  | bindings (bs : List StepBinding)
  | warning (w : Finding)

namespace Contribution

def found : Contribution → List StepBinding
  | bindings bs => bs
  | warning _ => []

def warning? : Contribution → Option Finding
  | bindings _ => none
  | warning w => some w

end Contribution

namespace Strategy

variable (s : Strategy) (settings : QualitySettings) (room : ℕ)

/-- The bindings of a file, or the warning that it cannot be read. -/
def contribution (f : SourceFile) : Contribution :=
  match s.bindings settings f room with
  | .ok bs => .bindings bs
  | .error e => .warning (Finding.unreadable f.path.toString e.message)

/-- What the files with a suffix of the language add, in their order. -/
def contributions (files : List SourceFile) : List Contribution :=
  (files.filter fun f => s.accepts f.path).map (s.contribution settings room)

/-- The report about what files add. -/
def reportOn (cs : List Contribution) : QualityReport :=
  QualityReport.ofBindings s.label s.tier (cs.flatMap (·.found)) (cs.filterMap (·.warning?)) s.note

def Opens (files : List SourceFile) : Prop :=
  ∀ f ∈ files, s.accepts f.path = true → f.path.toString.utf8ByteSize ≤ Tree.pathLimit

theorem contribution_of_error {f : SourceFile} {e : Trouble} (h : s.bindings settings f room = .error e) :
    s.contribution settings room f = .warning (Finding.unreadable f.path.toString e.message) := by
  rw [contribution, h]

theorem report_map (files : List SourceFile) :
    s.report (files.map fun f => (f.path, s.bindings settings f room)) =
      s.reportOn (files.map (s.contribution settings room)) := by
  have hfound (f : SourceFile) :
      (s.bindings settings f room).toOption.getD [] = (s.contribution settings room f).found := by
    unfold contribution
    cases s.bindings settings f room <;> rfl
  have hwarning (f : SourceFile) :
      warning? (f.path, s.bindings settings f room) = (s.contribution settings room f).warning? := by
    unfold contribution
    cases s.bindings settings f room <;> rfl
  simp only [report, reportOn, List.flatMap_map, List.filterMap_map, Function.comp_def, hfound, hwarning]

theorem opened_eq_ok_iff {f g : SourceFile} :
    f.opened = .ok g ↔ f.path.toString.utf8ByteSize ≤ Tree.pathLimit ∧ g = f := by
  unfold SourceFile.opened
  split
  next hlong => exact iff_of_false nofun fun h => Nat.not_le.mpr hlong h.1
  next hshort => simp [Nat.not_lt.mp hshort, eq_comm]

theorem results_eq_ok_iff {files : List SourceFile} {rs : List (Path × Except Trouble (List StepBinding))} :
    s.results settings files room = .ok rs ↔
      s.Opens files ∧
        rs = (files.filter fun f => s.accepts f.path).map fun f => (f.path, s.bindings settings f room) := by
  unfold results
  have hopens : s.Opens files ↔
      ∀ f ∈ files.filter fun f => s.accepts f.path, f.path.toString.utf8ByteSize ≤ Tree.pathLimit := by
    simp only [Opens, List.mem_filter, and_imp]
  rw [hopens]
  induction files.filter fun f => s.accepts f.path generalizing rs with
  | nil => simp [eq_comm, pure, Except.pure]
  | cons f fs ih =>
    rw [List.mapM_cons, List.forall_mem_cons, List.map_cons]
    constructor
    · intro h
      obtain ⟨r, hr, hrest⟩ := bind_eq_ok h
      obtain ⟨rest, hrest, hrs⟩ := bind_eq_ok hrest
      obtain ⟨g, hg, hgr⟩ := bind_eq_ok hr
      obtain ⟨hshort, rfl⟩ := opened_eq_ok_iff.mp hg
      obtain ⟨hfs, rfl⟩ := ih.mp hrest
      cases hgr
      cases hrs
      exact ⟨⟨hshort, hfs⟩, rfl⟩
    · rintro ⟨⟨hshort, hfs⟩, rfl⟩
      rw [opened_eq_ok_iff.mpr ⟨hshort, rfl⟩, ih.mpr ⟨hfs, rfl⟩]
      rfl

theorem contributions_append (fs gs : List SourceFile) :
    s.contributions settings room (fs ++ gs) =
      s.contributions settings room fs ++ s.contributions settings room gs := by
  rw [contributions, List.filter_append, List.map_append]
  rfl

end Strategy

/-! ## Findings -/

theorem isSome_ofBinding (b : StepBinding) : (Finding.ofBinding b).isSome = b.defect.isSome := by
  rw [Finding.ofBinding, Option.isSome_map]

theorem severity_of_ofBinding {b : StepBinding} {f : Finding} (h : Finding.ofBinding b = some f) :
    f.severity = .fail := by
  obtain ⟨d, -, rfl⟩ := Option.map_eq_some_iff.mp h
  rfl

theorem length_findings (bs : List StepBinding) :
    (bs.filterMap Finding.ofBinding).length = bs.countP (·.defect.isSome) := by
  rw [List.length_filterMap_eq_countP]
  exact List.countP_congr fun b _ => by rw [isSome_ofBinding]

namespace QualityReport

/-- A report that accounts for what files add to it: every binding is counted once, as sound or as defective, and every
defective binding is one finding; the other findings are the warnings. -/
structure Accounts (r : QualityReport) (cs : List Contribution) : Prop where
  total_eq : r.total = (cs.flatMap (·.found)).length
  details_eq : r.details = (cs.flatMap (·.found)).filterMap Finding.ofBinding ++ cs.filterMap (·.warning?)
  failed_eq : r.failed = (cs.flatMap (·.found)).countP (·.defect.isSome)
  failures_eq : (r.details.filter (·.severity = .fail)).length = r.failed
  sum_eq : r.passed + r.failed = r.total
  passed_nonneg : 0 ≤ r.passed
  warnings_eq : r.warnings = cs.filterMap (·.warning?)
  blocked_iff : r.status = .blocked ↔ 0 < r.failed

section OfBindings

variable {bs : List StepBinding} {ws : List Finding}

theorem severity_of_mem_findings {f : Finding} (h : f ∈ bs.filterMap Finding.ofBinding) : f.severity = .fail := by
  obtain ⟨b, -, hb⟩ := List.mem_filterMap.mp h
  exact severity_of_ofBinding hb

theorem filter_fail (hws : ∀ w ∈ ws, w.severity = .warn) :
    (bs.filterMap Finding.ofBinding ++ ws).filter (·.severity = .fail) = bs.filterMap Finding.ofBinding := by
  rw [List.filter_append, List.filter_eq_self.mpr, List.filter_eq_nil_iff.mpr, List.append_nil]
  · intro w hw
    simp [hws w hw]
  · intro f hf
    simp [severity_of_mem_findings hf]

theorem filter_warn (hws : ∀ w ∈ ws, w.severity = .warn) :
    (bs.filterMap Finding.ofBinding ++ ws).filter (·.severity = .warn) = ws := by
  rw [List.filter_append, List.filter_eq_nil_iff.mpr, List.filter_eq_self.mpr, List.nil_append]
  · intro w hw
    simp [hws w hw]
  · intro f hf
    simp [severity_of_mem_findings hf]

theorem ofBindings_eq (language : String) (parser : ParserTier) (note : Option String)
    (hws : ∀ w ∈ ws, w.severity = .warn) :
    ofBindings language parser bs ws note =
      { status := if bs.countP (·.defect.isSome) = 0 then .pass else .blocked
        language := language
        parser := parser
        note := note
        total := bs.length
        passed := bs.length - bs.countP (·.defect.isSome)
        failed := bs.countP (·.defect.isSome)
        details := bs.filterMap Finding.ofBinding ++ ws } := by
  have hfailed : (bs.filterMap Finding.ofBinding ++ ws).countP (·.severity = .fail) =
      bs.countP (·.defect.isSome) := by
    rw [List.countP_eq_length_filter, filter_fail hws, length_findings]
  unfold ofBindings
  simp only [hfailed]

/-- A report about the bindings that were found accounts for them, if what comes with them are warnings. -/
theorem accounts_ofBindings (language : String) (parser : ParserTier) (note : Option String) {cs : List Contribution}
    (hws : ∀ w ∈ cs.filterMap (·.warning?), w.severity = .warn) :
    (ofBindings language parser (cs.flatMap (·.found)) (cs.filterMap (·.warning?)) note).Accounts cs := by
  have hle : (cs.flatMap (·.found)).countP (·.defect.isSome) ≤ (cs.flatMap (·.found)).length :=
    List.countP_le_length
  rw [ofBindings_eq language parser note hws]
  constructor
  · rfl
  · rfl
  · rfl
  · rw [filter_fail hws, length_findings]
  · dsimp only
    omega
  · dsimp only
    omega
  · exact filter_warn hws
  · dsimp only
    split
    next hzero => simp [hzero]
    next hpos => simpa using Nat.pos_of_ne_zero hpos

end OfBindings

end QualityReport

/-! ## The analysis -/

section Report

variable (s : Strategy) (settings : QualitySettings) (room : ℕ)

theorem Strategy.severity_of_mem_warnings {files : List SourceFile} {w : Finding}
    (h : w ∈ (s.contributions settings room files).filterMap (·.warning?)) : w.severity = .warn := by
  obtain ⟨c, hc, hw⟩ := List.mem_filterMap.mp h
  obtain ⟨f, -, rfl⟩ := List.mem_map.mp hc
  unfold contribution at hw
  split at hw
  · cases hw
  · cases hw
    rfl

theorem Strategy.accounts_report (files : List SourceFile) :
    (s.reportOn (s.contributions settings room files)).Accounts (s.contributions settings room files) :=
  QualityReport.accounts_ofBindings _ _ _ fun _ hw => s.severity_of_mem_warnings settings room hw

/-- A file that cannot be read adds its warning to a report and changes nothing else in it. -/
theorem Strategy.report_unreadable (before after : List SourceFile) {f : SourceFile} {w : Finding}
    (haccepts : s.accepts f.path = true) (hw : s.contribution settings room f = .warning w) :
    ∃ front back, (s.reportOn (s.contributions settings room (before ++ f :: after))).details = front ++ w :: back ∧
      s.reportOn (s.contributions settings room (before ++ after)) =
        { s.reportOn (s.contributions settings room (before ++ f :: after)) with details := front ++ back } := by
  have hwith : s.contributions settings room (before ++ f :: after) =
      s.contributions settings room before ++ .warning w :: s.contributions settings room after := by
    rw [s.contributions_append, ← hw]
    congr 1
    rw [contributions, List.filter_cons_of_pos (by exact haccepts)]
    rfl
  have hfound : (s.contributions settings room (before ++ f :: after)).flatMap (·.found) =
      (s.contributions settings room (before ++ after)).flatMap (·.found) := by
    rw [hwith, s.contributions_append, List.flatMap_append, List.flatMap_append, List.flatMap_cons]
    rfl
  have hwarnings : (s.contributions settings room (before ++ f :: after)).filterMap (·.warning?) =
      (s.contributions settings room before).filterMap (·.warning?) ++ w ::
        (s.contributions settings room after).filterMap (·.warning?) := by
    rw [hwith, List.filterMap_append, List.filterMap_cons]
    rfl
  have hwarn (files : List SourceFile) : ∀ w ∈ (s.contributions settings room files).filterMap (·.warning?),
      w.severity = .warn := fun w hw => s.severity_of_mem_warnings settings room hw
  refine ⟨((s.contributions settings room (before ++ after)).flatMap (·.found)).filterMap Finding.ofBinding ++
    (s.contributions settings room before).filterMap (·.warning?),
    (s.contributions settings room after).filterMap (·.warning?), ?_, ?_⟩
  · rw [(s.accounts_report settings room _).details_eq, hfound, hwarnings, List.append_assoc]
  · rw [reportOn, reportOn, QualityReport.ofBindings_eq _ _ _ (hwarn _), QualityReport.ofBindings_eq _ _ _ (hwarn _),
      hfound]
    simp only [s.contributions_append, List.filterMap_append, List.append_assoc]

end Report

section Analysis

variable (settings : QualitySettings) (language : String) (heuristicOnly : Bool) (room walkRoom : ℕ) {t : Tree}
variable {root : Path}

theorem analyzeSteps_dir {es : Tree.Entries} (h : t.look root = .ok (some (.dir es))) (hnames : (Tree.dir es).Distinct)
    {r : QualityReport} :
    analyzeSteps settings t root language heuristicOnly room walkRoom = .ok r ↔
      (Shallow (.dir es) root.toString walkRoom ∧
        (Strategy.forLanguage language heuristicOnly).Opens (filesBelow root root.toString (.dir es))) ∧
        r = (Strategy.forLanguage language heuristicOnly).reportOn
          ((Strategy.forLanguage language heuristicOnly).contributions settings room
            (filesBelow root root.toString (.dir es))) := by
  let s := Strategy.forLanguage language heuristicOnly
  rw [← walkDepth_le_iff hnames]
  by_cases hdeep : walkRoom < walkDepth root.toString (.dir es)
  · have hsteps : analyzeSteps settings t root language heuristicOnly room walkRoom = .error .tooDeep := by
      rw [analyzeSteps, h]
      exact if_pos hdeep
    rw [hsteps]
    exact iff_of_false (by rintro ⟨⟩) fun hr => absurd hr.1.1 (Nat.not_le.mpr hdeep)
  have hsteps : analyzeSteps settings t root language heuristicOnly room walkRoom =
      (s.results settings (filesBelow root root.toString (.dir es)) room).map s.report := by
    rw [analyzeSteps, h]
    refine (if_neg hdeep).trans ?_
    cases s.results settings (filesBelow root root.toString (.dir es)) room
    all_goals rfl
  rw [hsteps, Strategy.contributions, ← Strategy.report_map, and_iff_right (Nat.not_lt.mp hdeep)]
  constructor
  · intro hr
    obtain ⟨rs, hrs, rfl⟩ := map_eq_ok hr
    obtain ⟨hopens, rfl⟩ := (s.results_eq_ok_iff settings room).mp hrs
    exact ⟨hopens, rfl⟩
  · rintro ⟨hopens, rfl⟩
    rw [(s.results_eq_ok_iff settings room).mpr ⟨hopens, rfl⟩]
    rfl

/-- **A quality report accounts for every file and every binding once.** What is looked at below a directory is a walk of
it, and there is a report if no directory of the walk is too deep and the system opens the files of the language. Each of
these files adds its bindings or one warning to the report, which accounts for them and nothing else. Without one of the
files that cannot be read, the report is the same but for the warning about that file. -/
theorem analyzeSteps_accounts {es : Tree.Entries} (hroot : t.look root = .ok (some (.dir es)))
    (hnames : (Tree.dir es).Distinct) :
    ∃ files, IsWalk (.dir es) root root.toString files ∧
      ((∃ r, analyzeSteps settings t root language heuristicOnly room walkRoom = .ok r) ↔
        Shallow (.dir es) root.toString walkRoom ∧ (Strategy.forLanguage language heuristicOnly).Opens files) ∧
      ∀ r, analyzeSteps settings t root language heuristicOnly room walkRoom = .ok r →
        r.Accounts ((Strategy.forLanguage language heuristicOnly).contributions settings room files) ∧
        ∀ names bytes, (Tree.dir es).below? names = some (.file bytes) → IsOpen names → Listed root.toString names →
          (Strategy.forLanguage language heuristicOnly).accepts (root.below names) = true →
          ∀ w, (Strategy.forLanguage language heuristicOnly).contribution settings room ⟨root.below names, bytes⟩ =
            .warning w →
          ∀ t' : Tree, t'.look root = .ok (some ((Tree.dir es).remove names)) →
            ∃ front back, r.details = front ++ w :: back ∧
              analyzeSteps settings t' root language heuristicOnly room walkRoom =
                .ok { r with details := front ++ back } := by
  have hrun {t : Tree} {es : Tree.Entries} (h : t.look root = .ok (some (.dir es))) (hnames : (Tree.dir es).Distinct)
      {r : QualityReport} :=
    analyzeSteps_dir settings language heuristicOnly room walkRoom h hnames (r := r)
  generalize Strategy.forLanguage language heuristicOnly = s at hrun ⊢
  refine ⟨filesBelow root root.toString (.dir es), isWalk_filesBelow hnames root _, ?_, fun r hr => ?_⟩
  · simp only [hrun hroot hnames, exists_and_left, exists_eq, and_true]
  obtain ⟨⟨hshallow, hopens⟩, rfl⟩ := (hrun hroot hnames).mp hr
  refine ⟨s.accounts_report settings room _, ?_⟩
  intro names bytes hbelow hopen hlisted haccepts w hw t' hroot'
  have hne : names ≠ [] := by
    rintro rfl
    cases hbelow
  obtain ⟨before, after, hfiles, hfiles'⟩ := exists_walk_remove hnames root _ hbelow hne hopen hlisted
  obtain ⟨front, back, hdetails, hreport⟩ :=
    s.report_unreadable settings room before after (f := ⟨root.below names, bytes⟩) haccepts hw
  have hshallow' := hshallow.remove hbelow hne
  have hnames' := hnames.remove hbelow
  obtain ⟨es', hes'⟩ := Tree.exists_dir_remove es hne
  rw [hes'] at hroot' hfiles' hshallow' hnames'
  rw [hfiles] at hopens ⊢
  refine ⟨front, back, hdetails, (hrun hroot' hnames').mpr ⟨⟨hshallow', ?_⟩, ?_⟩⟩
  · rw [hfiles']
    exact fun f hf => hopens f (by simp at hf ⊢; tauto)
  · rw [hfiles', hreport]

end Analysis

/-- Two source files, one of which is no text, beside a skipped directory and a file of another kind. -/
def stepFiles : Tree.Entries :=
  [("b.py", .file [0xff]), ("venv", .dir [("c.py", .file [])]), ("a.py", .file []), ("notes.md", .file [])]

theorem distinct_stepFiles : (Tree.dir stepFiles).Distinct := by
  simp [Tree.Distinct, Tree.AllDistinct, stepFiles]

theorem opens_stepFiles (s : Strategy) {files : List SourceFile}
    (h : IsWalk (.dir stepFiles) (Path.ofString "steps") "steps" files) : s.Opens files := by
  rw [h.unique (isWalk_filesBelow distinct_stepFiles _ _)]
  intro f hf _
  rw [filesBelow, if_neg (by decide +kernel), mem_inOrder] at hf
  obtain ⟨w, hw, hopen, hf⟩ := hf
  have hshort : ∀ w ∈ walkEntries (Path.ofString "steps") "steps" stepFiles,
      (w.isDirectory = true → w.name ∉ skippedDirectories) →
        ∀ f ∈ w.files, f.path.toString.utf8ByteSize ≤ Tree.pathLimit := by
    decide +kernel
  exact hshort w hw hopen f hf

theorem contribution_noText (settings : QualitySettings) (room : ℕ) :
    ∃ message, (Strategy.forLanguage "Python" false).contribution settings room ⟨Path.ofString "steps/b.py", [0xff]⟩ =
      .warning (Finding.unreadable "steps/b.py" message) := by
  have htier : (Strategy.forLanguage "Python" false).tier = .structural := by decide +kernel
  have hpath : (Path.ofString "steps/b.py").toString = "steps/b.py" := by decide +kernel
  obtain ⟨fault, htext⟩ := exists_of_toOption_none (x := Tree.strictText [0xff]) (by decide +kernel)
  refine ⟨fault.message, ?_⟩
  have he : (Strategy.forLanguage "Python" false).bindings settings ⟨Path.ofString "steps/b.py", [0xff]⟩ room =
      .error fault := by
    simp only [Strategy.bindings, htier, htext]
    rfl
  rw [Strategy.contribution_of_error _ _ _ he, hpath]

theorem analyzeSteps_accounts_noText :
    Tree.look (.dir [("steps", .dir stepFiles)]) (Path.ofString "steps") = .ok (some (.dir stepFiles)) ∧
      (Tree.dir stepFiles).Distinct ∧
      ∃ r front back message,
        analyzeSteps {} (.dir [("steps", .dir stepFiles)]) (Path.ofString "steps") "Python" false = .ok r ∧
        r.passed + r.failed = r.total ∧ r.details = front ++ Finding.unreadable "steps/b.py" message :: back ∧
        analyzeSteps {} (.dir [("steps", (Tree.dir stepFiles).remove ["b.py"])]) (Path.ofString "steps") "Python" false =
          .ok { r with details := front ++ back } := by
  have hroot : Tree.look (.dir [("steps", .dir stepFiles)]) (Path.ofString "steps") = .ok (some (.dir stepFiles)) := rfl
  have hshallow : Shallow (.dir stepFiles) "steps" Tree.usualDepth :=
    (walkDepth_le_iff distinct_stepFiles).mp (by decide +kernel)
  obtain ⟨message, hmessage⟩ := contribution_noText {} Syntax.usualRoom
  obtain ⟨files, hwalk, hgives, hall⟩ :=
    analyzeSteps_accounts {} "Python" false Syntax.usualRoom Tree.usualDepth hroot distinct_stepFiles
  rw [show (Path.ofString "steps").toString = "steps" by decide +kernel] at hwalk hgives
  obtain ⟨r, hr⟩ := hgives.mpr ⟨hshallow, opens_stepFiles _ hwalk⟩
  obtain ⟨haccounts, hwithout⟩ := hall r hr
  obtain ⟨front, back, hdetails, hrest⟩ := hwithout ["b.py"] [0xff] rfl (by decide) ⟨by decide +kernel, trivial⟩
    (by decide +kernel) _ hmessage (.dir [("steps", (Tree.dir stepFiles).remove ["b.py"])]) rfl
  exact ⟨hroot, distinct_stepFiles, r, front, back, message, hr, haccounts.sum_eq, hdetails, hrest⟩

end ScenarioAudit
