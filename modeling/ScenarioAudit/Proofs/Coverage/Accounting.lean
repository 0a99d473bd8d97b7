import ScenarioAudit.Proofs.Coverage.Verify

/-! # What a coverage check accounts for

The counts of a coverage check add up to the steps of the corpus (`CoverageResult.Reconciles`), a check that could not
be made counts nothing (`CoverageResult.CountsNothing`), and a program is started once at most, after everything that
it takes is known to be there (`coverage_accounts`). The steps are counted apart from the corpus, line by line
(`countFeatureSteps_eq`), and the details are chosen apart from the counts (`Grammar.read_details`), so both have to be
brought together first.
-/

namespace ScenarioAudit

open ScenarioAudit.Text ScenarioAudit.Number Pattern

/-! ## Steps -/

/-- **The steps that are counted are the lines of the corpus.** -/
theorem countFeatureSteps_eq {t : Tree} {features : Path} {files : List Path} (hdir : t.isDir features = .ok true)
    (hfiles : featureFiles t features = .ok files) {n : ℕ} (h : countFeatureSteps t files = .ok n) :
    ∃ c, Corpus.ofPath t features = .ok c ∧ c.lines.length = n := by
  obtain ⟨counts, hcounts, h⟩ := bind_eq_ok h
  cases h
  obtain ⟨texts, htexts, rfl⟩ := mapM_map_eq_ok hcounts
  have hclass : classifyPath t features = .ok (.directory features files) := by
    rw [classifyPath, hdir, hfiles]
    rfl
  refine ⟨⟨.directory features files, texts.flatMap gherkinSteps⟩, ?_, ?_⟩
  · rw [Corpus.ofPath, hclass]
    show Corpus.ofSource t (.directory features files) = _
    rw [Corpus.ofSource, htexts]
    rfl
  · rw [List.length_flatMap, ← List.sum_eq_foldl]
    simp [gherkinSteps]

/-! ## Details -/

namespace Grammar

variable {g : Grammar} {output : List Char} {c : DryRunCounts}

theorem length_detailsOf (lines : List (List Char)) : (detailsOf lines).length ≤ detailLimit := by
  simp [detailsOf]

theorem detailsOf_nil : detailsOf [] = [] :=
  rfl

/-- A line that the collection of pytest reports as a detail has the marker of undefined steps. -/
theorem marked_of_shown {line : List Char}
    (h : (oneOf ["StepDefNotFound", "StepDefinitionNotFoundError", "ERRORS"]).occurs line = true) :
    (oneOf ["StepDefNotFound", "StepDefinitionNotFoundError", "ERRORS", "no tests ran"]).occurs line = true := by
  obtain ⟨u, v, huv, t, ht⟩ := occurs_iff.mp h
  obtain ⟨w, hw, hrest⟩ := reaches_oneOf.mp ht
  refine occurs_iff.mpr ⟨u, v, huv, t, reaches_oneOf.mpr ⟨w, ?_, hrest⟩⟩
  simp only [List.mem_cons, List.not_mem_nil, or_false] at hw ⊢
  tauto

/-- A grammar whose details are told by another pattern than its marker counts the lines with the marker. -/
theorem shown_of_mem_table (hg : g ∈ table) {gate shown : Pattern} (hdetails : g.details = .whenever gate shown) :
    g.summary = none ∧ ∀ line, shown.occurs line = true → g.undefinedMark.occurs line = true := by
  simp only [table, List.mem_cons, List.not_mem_nil, or_false] at hg
  rcases hg with rfl | rfl | rfl | rfl | rfl | rfl | rfl
  · cases hdetails
    exact ⟨rfl, fun line h => marked_of_shown h⟩
  all_goals cases hdetails

/-- **Details are reported only with undefined steps,** and no more of them than fit. -/
theorem read_details (hg : g ∈ table) (h : g.read output = .ok c) :
    (c.details ≠ [] → 0 < c.undefinedSteps) ∧ c.details.length ≤ detailLimit := by
  obtain ⟨hnonneg, -⟩ := read_nonneg h
  obtain ⟨⟨n, k⟩, hcounts, h⟩ := bind_eq_ok h
  cases h
  refine ⟨?_, length_detailsOf _⟩
  intro hne
  show 0 < n
  have hpos (hn : n ≠ 0) : 0 < n := lt_of_le_of_ne hnonneg hn.symm
  cases hdetails : g.details with
  | marked =>
    simp only [hdetails] at hne
    split at hne
    · exact absurd detailsOf_nil hne
    next hn => exact hpos hn
  | stepAbove =>
    simp only [hdetails] at hne
    split at hne
    · exact absurd detailsOf_nil hne
    next hn => exact hpos hn
  | whenever gate shown =>
    simp only [hdetails] at hne
    split at hne
    next hgate =>
      obtain ⟨hsummary, hmarked⟩ := shown_of_mem_table hg hdetails
      -- Some line is shown. It has the marker, and without a summary the lines with the marker are counted.
      obtain ⟨line, hline⟩ : ∃ line, line ∈ (splitLines output).filter shown.occurs := by
        apply List.exists_mem_of_ne_nil
        intro hnil
        rw [hnil] at hne
        exact hne detailsOf_nil
      obtain ⟨hmem, hoccurs⟩ := List.mem_filter.mp hline
      have hn : n = countLines g.undefinedMark (splitLines output) := by
        simp only [counts, hsummary, Option.bind_none] at hcounts
        cases hcounts
        rfl
      rw [hn, countLines, Int.natCast_pos]
      exact List.length_pos_of_mem (List.mem_filter.mpr ⟨hmem, hmarked line hoccurs⟩)
    · exact absurd detailsOf_nil hne

end Grammar

/-! ## Results -/

namespace CoverageResult

/-- A check that could not be made counts nothing, and no program has ended. -/
structure CountsNothing (r : CoverageResult) : Prop where
  total_eq : r.totalSteps = 0
  matched_eq : r.matched = 0
  undefined_eq : r.undefinedSteps = 0
  pending_eq : r.pendingSteps = 0
  details_eq : r.details = []
  exitCode_eq : r.exitCode = none

/-- The counts of a check add up to a number of steps, and its status and its details agree with them. -/
structure Reconciles (r : CoverageResult) (steps : ℕ) (maxDetails : ℤ) : Prop where
  total_eq : r.totalSteps = steps
  undefined_nonneg : 0 ≤ r.undefinedSteps
  pending_nonneg : 0 ≤ r.pendingSteps
  sum_eq : r.matched + r.undefinedSteps + r.pendingSteps = max r.totalSteps (r.undefinedSteps + r.pendingSteps)
  pass_iff : r.status = .pass ↔ r.undefinedSteps + r.pendingSteps = 0
  blocked_iff : r.status = .blocked ↔ 0 < r.undefinedSteps + r.pendingSteps
  matched_of_pass : r.status = .pass → r.matched = r.totalSteps
  undefined_of_details : r.details ≠ [] → 0 < r.undefinedSteps
  length_details : r.details.length ≤ min 20 maxDetails

/-- Counts that reconcile are those of a check that was made. -/
theorem Reconciles.ne_degraded {r : CoverageResult} {steps : ℕ} {maxDetails : ℤ} (h : r.Reconciles steps maxDetails) :
    r.status ≠ .degraded := by
  intro hdegraded
  have hundefined := h.undefined_nonneg
  have hpending := h.pending_nonneg
  have hpass := h.pass_iff
  have hblocked := h.blocked_iff
  simp only [hdegraded, reduceCtorEq, false_iff] at hpass hblocked
  omega

theorem countsNothing_degraded (message : String) (framework : Option String) :
    (degraded message framework).CountsNothing :=
  ⟨rfl, rfl, rfl, rfl, rfl, rfl⟩

end CoverageResult

theorem takeUpTo_of_nonneg {α : Type} {n : ℤ} (hn : 0 ≤ n) (xs : List α) : takeUpTo n xs = xs.take n.toNat := by
  rw [takeUpTo, if_neg (by omega)]

/-- **What is reported about a transcript reconciles its counts with the steps.** -/
theorem reconciles_of_reconcile {settings : CoverageSettings} (hmax : 0 ≤ settings.maxDetailLines) {g : Grammar}
    (hg : g ∈ Grammar.table) {framework : String} {total : ℕ} {run : DryRun} {r : CoverageResult}
    (h : (g.read run.output >>= reconcile settings framework total run) = .ok r) :
    r.Reconciles total settings.maxDetailLines := by
  obtain ⟨c, hread, h⟩ := bind_eq_ok h
  obtain ⟨message, -, h⟩ := bind_eq_ok h
  cases h
  obtain ⟨hundefined, hpending⟩ := Grammar.read_nonneg hread
  obtain ⟨hdetails, hlength⟩ := Grammar.read_details hg hread
  constructor
  · rfl
  · exact hundefined
  · exact hpending
  · dsimp only
    omega
  · dsimp only
    split
    · simp only [reduceCtorEq, false_iff]
      omega
    · simp only [true_iff]
      omega
  · dsimp only
    split
    next hpos => simp [hpos]
    next hnone => simp [hnone]
  · dsimp only
    intro hpass
    split at hpass
    · cases hpass
    · omega
  · dsimp only
    rw [takeUpTo_of_nonneg hmax]
    intro hne
    apply hdetails
    rintro hnil
    rw [hnil, List.take_nil] at hne
    exact hne rfl
  · dsimp only
    rw [takeUpTo_of_nonneg hmax, List.length_take]
    have hlimit : Grammar.detailLimit = 20 := rfl
    omega

theorem countsNothing_or_reconciles {settings : CoverageSettings} (hmax : 0 ≤ settings.maxDetailLines)
    {projectRoot : Option Path} {files : List Path} {profile : FrameworkProfile} {program : String} {g : Grammar}
    (hg : g ∈ Grammar.table) {h h' : Host} {r : CoverageResult}
    (hrun : (runCoverage settings projectRoot files profile program g).runOn h = (.ok r, h')) :
    r.status = .degraded ∧ r.CountsNothing ∨
      ∃ n, countFeatureSteps h.tree files = .ok n ∧ r.Reconciles n settings.maxDetailLines := by
  obtain ⟨n, hcount, hrun⟩ := Job.runOn_reading_bind_eq_ok hrun
  rw [Job.runOn_bind_ok (runOn_startTool _ h)] at hrun
  obtain ⟨left, -, hrun⟩ := Job.runOn_settle_bind_eq_ok hrun
  cases left with
  | none =>
    cases hrun
    exact Or.inl ⟨rfl, CoverageResult.countsNothing_degraded _ _⟩
  | some run =>
    dsimp only at hrun
    split at hrun
    · cases hrun
      exact Or.inl ⟨rfl, CoverageResult.countsNothing_degraded _ _⟩
    · rw [Job.runOn_settle] at hrun
      exact Or.inr ⟨n, hcount, reconciles_of_reconcile hmax hg (congrArg Prod.fst hrun)⟩

/-! ## Programs that are started -/

namespace Job

theorem runOn_reading_bind {α β : Type} (x : Tree → Except Trouble α) (f : α → Job β) (h : Host) :
    (reading x >>= f).runOn h =
      match x h.tree with
      | .ok a => (f a).runOn h
      | .error e => (.error e, h) := by
  cases hx : x h.tree with
  | ok a => exact runOn_bind_ok (by rw [runOn_reading, hx])
  | error e => exact runOn_bind_error (by rw [runOn_reading, hx])

end Job

theorem calls_runCoverage (settings : CoverageSettings) (projectRoot : Option Path) (files : List Path)
    (profile : FrameworkProfile) (program : String) (g : Grammar) (h : Host) :
    ((runCoverage settings projectRoot files profile program g).runOn h).2.calls = h.calls ∨
      ∃ call, call.argv = profile.dryRun ∧
        ((runCoverage settings projectRoot files profile program g).runOn h).2.calls = h.calls ++ [call] := by
  unfold runCoverage
  rw [Job.runOn_reading_bind]
  cases countFeatureSteps h.tree files with
  | error e => exact Or.inl rfl
  | ok n =>
    right
    refine ⟨dryRunCall settings projectRoot profile, rfl, ?_⟩
    dsimp only
    rw [Job.runOn_bind_ok (runOn_startTool _ h)]
    cases DryRun.ofReply h.toolReply with
    | error e => rfl
    | ok left =>
      rw [Job.runOn_bind_ok (Job.runOn_settle _ _)]
      cases left with
      | none => rfl
      | some run =>
        dsimp only
        split
        · rfl
        · rw [Job.runOn_settle]

section Check

variable {settings : CoverageSettings} {projectRoot : Option Path} {features : Path} {profile : Option FrameworkProfile}

theorem head_of_executable {p : FrameworkProfile} {program : String} (h : p.executable = .ok program) :
    program ∈ p.dryRun.head? := by
  unfold FrameworkProfile.executable at h
  split at h
  next program' rest hdry =>
    cases h
    rw [hdry]
    rfl
  next => cases h

/-- How a check goes on: it is degraded without having started anything, or fails so, or comes to a dry run. -/
theorem verifyCoverage_cases (h : Host) :
    (∃ message framework, (verifyCoverage settings projectRoot features profile).runOn h =
      (.ok (.degraded message framework), h)) ∨
    (∃ e, (verifyCoverage settings projectRoot features profile).runOn h = (.error e, h)) ∨
    ∃ p ∈ profile, ∃ files program g, ComesToDryRun h features p files g ∧
      (verifyCoverage settings projectRoot features profile).runOn h =
        (runCoverage settings projectRoot files p program g).runOn h := by
  unfold verifyCoverage
  rw [Job.runOn_reading_bind]
  cases hdir : h.tree.isDir features with
  | error e => exact Or.inr (Or.inl ⟨e, rfl⟩)
  | ok there =>
    cases there with
    | false => exact Or.inl ⟨_, _, rfl⟩
    | true =>
      simp only [Bool.not_true, Bool.false_eq_true, if_false]
      rw [Job.runOn_reading_bind]
      cases hfiles : featureFiles h.tree features with
      | error e => exact Or.inr (Or.inl ⟨e, rfl⟩)
      | ok files =>
        dsimp only
        split
        · exact Or.inl ⟨_, _, rfl⟩
        next hsome =>
          have hne : files ≠ [] := fun hnil => hsome (by rw [hnil]; rfl)
          cases profile with
          | none => exact Or.inl ⟨_, _, rfl⟩
          | some p =>
            dsimp only
            rw [Job.runOn_reading_bind]
            cases hprogram : p.executable with
            | error e => exact Or.inr (Or.inl ⟨e, rfl⟩)
            | ok program =>
              dsimp only
              rw [Job.runOn_bind_ok (show Job.runOn get h = (.ok h, h) from rfl)]
              split
              · exact Or.inl ⟨_, _, rfl⟩
              next hthere =>
                cases hgrammar : Grammar.named? p.grammar with
                | none => exact Or.inl ⟨_, _, rfl⟩
                | some g =>
                  have hmem : program ∈ h.programs := by simpa using hthere
                  exact Or.inr (Or.inr ⟨p, rfl, files, program, g,
                    ⟨hdir, hfiles, hne, ⟨program, head_of_executable hprogram, hmem⟩, hgrammar⟩, rfl⟩)

/-- **What a coverage check accounts for.** A check starts a program at most once, and only if the directory has feature
files, the program is there and the grammar of its transcript is known. The counts of its result reconcile with the
corpus of the directory, unless the check is degraded; then it counts nothing. -/
theorem coverage_accounts (hmax : 0 ≤ settings.maxDetailLines) (h : Host) :
    (∀ x h', (verifyCoverage settings projectRoot features profile).runOn h = (x, h') → h'.calls = h.calls ∨
      ∃ p ∈ profile, ∃ files g call, ComesToDryRun h features p files g ∧ call.argv = p.dryRun ∧
        h'.calls = h.calls ++ [call]) ∧
    ∀ r h', (verifyCoverage settings projectRoot features profile).runOn h = (.ok r, h') →
      (r.status = .degraded → r.CountsNothing) ∧
      (r.status ≠ .degraded → ∃ c, Corpus.ofPath h.tree features = .ok c ∧
        r.Reconciles c.lines.length settings.maxDetailLines) := by
  constructor
  · intro x h' hrun
    have hcalls : h'.calls = ((verifyCoverage settings projectRoot features profile).runOn h).2.calls := by
      rw [hrun]
    rw [hcalls]
    rcases verifyCoverage_cases h with ⟨message, framework, hends⟩ | ⟨e, hends⟩ |
      ⟨p, hp, files, program, g, hcomes, hgoes⟩
    · exact Or.inl (by rw [hends])
    · exact Or.inl (by rw [hends])
    · rw [hgoes]
      refine (calls_runCoverage settings projectRoot files p program g h).imp_right ?_
      rintro ⟨call, hargv, hcall⟩
      exact ⟨p, hp, files, g, call, hcomes, hargv, hcall⟩
  · intro r h' hrun
    rcases verifyCoverage_cases h with ⟨message, framework, hends⟩ | ⟨e, hends⟩ |
      ⟨p, hp, files, program, g, hcomes, hgoes⟩
    · cases hrun.symm.trans hends
      exact ⟨fun _ => CoverageResult.countsNothing_degraded _ _, fun hnot => absurd rfl hnot⟩
    · cases hrun.symm.trans hends
    · rw [hgoes] at hrun
      have hg : g ∈ Grammar.table := List.mem_of_find?_eq_some hcomes.grammar
      rcases countsNothing_or_reconciles hmax hg hrun with ⟨hstatus, hnothing⟩ | ⟨n, hcount, hreconciles⟩
      · exact ⟨fun _ => hnothing, fun hnot => absurd hstatus hnot⟩
      · obtain ⟨c, hc, hlength⟩ := countFeatureSteps_eq hcomes.isDir hcomes.files_eq hcount
        rw [← hlength] at hreconciles
        exact ⟨fun hdegraded => absurd hdegraded hreconciles.ne_degraded, fun _ => ⟨c, hc, hreconciles⟩⟩

end Check

/-- A dry run that finds one of two steps undefined. -/
def halfDefined : Host where
  tree := .dir [("f", .dir [("a.feature", .file (encodeUtf8 "Given x\nThen y\n".toList))])]
  programs := ["godog"]
  toolReply := .exited 1 "2 steps (1 passed, 1 undefined)\n" ""

/-- One step has a binding, the other one blocks the check, and godog was started once. -/
theorem coverage_accounts_blocked :
    ∃ r h', (verifyCoverage {} none (Path.ofString "f") (some godogProfile)).runOn halfDefined = (.ok r, h') ∧
      r.status = .blocked ∧ r.totalSteps = 2 ∧ r.matched + r.undefinedSteps + r.pendingSteps = 2 ∧
      0 < r.undefinedSteps + r.pendingSteps ∧ (r.details.length : ℤ) ≤ 20 ∧ h'.calls.length ≤ 1 := by
  obtain ⟨r, hr, hstatus⟩ := exists_of_toOption_map
    (x := ((verifyCoverage {} none (Path.ofString "f") (some godogProfile)).runOn halfDefined).1)
    (f := fun r => (r.status, r.totalSteps, r.undefinedSteps, r.pendingSteps)) (b := (.blocked, 2, 1, 0))
    (by decide +kernel)
  simp only [Prod.mk.injEq] at hstatus
  obtain ⟨hstatus, htotal, hundefined, hpending⟩ := hstatus
  have hrun : (verifyCoverage {} none (Path.ofString "f") (some godogProfile)).runOn halfDefined =
      (.ok r, ((verifyCoverage {} none (Path.ofString "f") (some godogProfile)).runOn halfDefined).2) :=
    Prod.ext hr rfl
  obtain ⟨hcalls, hresult⟩ :=
    @coverage_accounts {} none (Path.ofString "f") (some godogProfile) (by decide) halfDefined
  obtain ⟨c, -, hreconciles⟩ := (hresult r _ hrun).2 (by rw [hstatus]; decide)
  refine ⟨r, _, hrun, hstatus, htotal, ?_, ?_, ?_, ?_⟩
  · rw [hreconciles.sum_eq, htotal, hundefined, hpending]
    decide
  · exact hreconciles.blocked_iff.mp hstatus
  · exact hreconciles.length_details.trans (min_le_left _ _)
  · rcases hcalls _ _ hrun with hnone | ⟨p, -, files, g, call, -, -, hone⟩
    · rw [hnone]
      decide
    · rw [hone]
      exact Nat.le_refl 1

end ScenarioAudit
