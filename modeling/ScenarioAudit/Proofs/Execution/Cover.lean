import ScenarioAudit.Execution.Report
import ScenarioAudit.Proofs.Pattern.Capture
import ScenarioAudit.Proofs.Number.Numeral
import ScenarioAudit.Proofs.Tree

/-! # What a passing run covers

A run passes if tests ran, none failed, as many ran as there are scenarios, and some passed (`judgeRun_pass_iff`).
Whether that means as many passed tests as scenarios depends on the runner. All runners but one count as run what
passed or failed (`Counted`), so with none failed all that ran have passed. The summary of cucumber-js counts scenarios
of every outcome, the skipped and the undefined ones among them, so a run of it can pass with fewer passed scenarios
than there are in the corpus, and no other run can (`passing_run_covers`).
-/

namespace ScenarioAudit

open ScenarioAudit.Text Pattern

/-! ## What the runners count -/

theorem Grammar.numberOf_nonneg {p : Pattern} {n : Nat} (hp : p.capturedUnder n = [digits]) {m : Match}
    (hstart : m.start.captures = []) (hm : p.Reaches m.start m.stop) {i : Int}
    (h : Grammar.numberOf (m.captured n) = .ok i) : 0 ≤ i := by
  have hdigits : ∀ c ∈ m.captured n, isDecimalDigit c = true := by
    intro c hc
    simpa [digits, many1, admits] using admits_of_captured hp hm hstart c hc
  rw [Grammar.numberOf] at h
  cases hread : Number.wholeOfText (String.ofList (m.captured n)) with
  | error e =>
    rw [hread] at h
    cases h
  | ok j =>
    rw [hread] at h
    cases h
    exact Number.wholeOfText_nonneg hdigits hread

theorem Grammar.numberOf_numeral {n : ℕ} (h : Number.Readable n) :
    Grammar.numberOf (Number.numeral n) = .ok n := by
  rw [Grammar.numberOf, Number.wholeOfText_numeral h]
  rfl

/-- Counts of a run in which a test that ran has passed or failed. -/
structure RunCounts.Counted (c : RunCounts) : Prop where
  failed_nonneg : 0 ≤ c.failed
  total_eq : c.total = c.passed + c.failed

namespace Runner

variable {output : List Char} {c : RunCounts}

theorem lastCount_nonneg {label : String} {text : List Char} {i : Int} (h : lastCount label text = .ok i) : 0 ≤ i := by
  rw [lastCount] at h
  cases hlast : ((counted label).findAll text).getLast? with
  | none =>
    rw [hlast] at h
    cases h
    exact Int.le_refl 0
  | some m =>
    rw [hlast] at h
    obtain ⟨hstart, hm⟩ := reaches_of_mem_findAll (List.mem_of_getLast? hlast)
    exact Grammar.numberOf_nonneg (by simp [counted, digits]) hstart hm h

theorem counted_summed {passed failed : Int} (h : 0 ≤ failed) : (summed passed failed).Counted :=
  ⟨h, rfl⟩

theorem counted_of_summedLast {passed failed : String} {text : List Char}
    (h : summedLast passed failed text = .ok (some c)) : c.Counted := by
  obtain ⟨i, -, h⟩ := bind_eq_ok h
  obtain ⟨j, hj, h⟩ := bind_eq_ok h
  cases h
  exact counted_summed (lastCount_nonneg hj)

theorem counted_of_behave (h : behave output = .ok (some c)) : c.Counted := by
  rw [behave] at h
  split at h
  · cases h
  · next m hfind =>
    obtain ⟨i, -, h⟩ := bind_eq_ok h
    obtain ⟨j, hj, h⟩ := bind_eq_ok h
    cases h
    obtain ⟨hstart, hm⟩ := reaches_of_findFrom hfind
    exact counted_summed (Grammar.numberOf_nonneg (by simp [lineStart, blanks, digits]) hstart hm hj)

theorem counted_of_jest (h : jest output = .ok (some c)) : c.Counted := by
  rw [jest] at h
  split at h
  · cases h
  · exact counted_of_summedLast h

theorem counted_of_pytest (h : pytest output = .ok (some c)) : c.Counted := by
  rw [pytest] at h
  split at h
  · cases h
  · exact counted_of_summedLast h

theorem counted_of_goTest (h : goTest output = .ok (some c)) : c.Counted := by
  rw [goTest] at h
  split at h
  · cases h
    exact counted_summed (Int.natCast_nonneg _)
  · cases h

theorem counted_of_playwright (h : playwright output = .ok (some c)) : c.Counted := by
  rw [playwright] at h
  split at h
  · exact counted_of_summedLast h
  · cases h

theorem counted_of_mocha (h : mocha output = .ok (some c)) : c.Counted := by
  rw [mocha] at h
  split at h
  · exact counted_of_summedLast h
  · cases h

/-- The total of cucumber-js is a number of its own, but no negative number of scenarios failed either. -/
theorem failed_nonneg_of_cucumberJs (h : cucumberJs output = .ok (some c)) : 0 ≤ c.failed := by
  rw [cucumberJs] at h
  split at h
  · cases h
  · obtain ⟨i, -, h⟩ := bind_eq_ok h
    obtain ⟨j, hj, h⟩ := bind_eq_ok h
    obtain ⟨k, -, h⟩ := bind_eq_ok h
    cases h
    exact lastCount_nonneg hj

theorem counts_of_mem_table {r : Runner} (hr : r ∈ table) (h : r.read output = .ok (some c)) :
    0 ≤ c.failed ∧ (r.name ≠ "cucumber-js" → c.Counted) := by
  have hcounted (hc : c.Counted) : 0 ≤ c.failed ∧ (r.name ≠ "cucumber-js" → c.Counted) :=
    ⟨hc.failed_nonneg, fun _ => hc⟩
  simp only [table, List.mem_cons, List.not_mem_nil, or_false] at hr
  rcases hr with rfl | rfl | rfl | rfl | rfl | rfl | rfl
  · exact hcounted (counted_of_behave h)
  · exact ⟨failed_nonneg_of_cucumberJs h, fun hname => absurd rfl hname⟩
  · exact hcounted (counted_of_jest h)
  · exact hcounted (counted_of_pytest h)
  · exact hcounted (counted_of_goTest h)
  · exact hcounted (counted_of_playwright h)
  · exact hcounted (counted_of_mocha h)

/-- The counts are those of some runner, or nothing was recognised. -/
theorem readFirst_eq_ok {rs : List Runner} (h : readFirst rs output = .ok c) :
    c = {} ∨ ∃ r ∈ rs, ∃ c', r.read output = .ok (some c') ∧ c = { c' with runner := some r.name } := by
  induction rs with
  | nil =>
    cases h
    exact Or.inl rfl
  | cons r rs ih =>
    obtain ⟨found, hread, h⟩ := bind_eq_ok h
    cases found with
    | none => exact (ih h).imp_right fun ⟨r', hr', hc'⟩ => ⟨r', List.mem_cons_of_mem r hr', hc'⟩
    | some c' =>
      cases h
      exact Or.inr ⟨r, List.mem_cons_self, c', hread, rfl⟩

end Runner

/-- **Every runner but cucumber-js counts as run what passed or failed.** -/
theorem RunCounts.counted_of_ofOutput {output : List Char} {c : RunCounts} (h : RunCounts.ofOutput output = .ok c) :
    0 ≤ c.failed ∧ (c.runner ≠ some "cucumber-js" → c.Counted) := by
  rcases Runner.readFirst_eq_ok h with rfl | ⟨r, hr, c', hread, rfl⟩
  · exact ⟨Int.le_refl 0, fun _ => ⟨Int.le_refl 0, rfl⟩⟩
  · obtain ⟨hfailed, hcounted⟩ := Runner.counts_of_mem_table hr hread
    refine ⟨hfailed, fun hrunner => ?_⟩
    obtain ⟨hnonneg, htotal⟩ := hcounted fun hname => hrunner (congrArg some hname)
    exact ⟨hnonneg, htotal⟩

/-! ## When a run passes -/

/-- **When a run passes.** -/
theorem judgeRun_pass_iff {expected : Nat} {actual : RunCounts} : (judgeRun expected actual).1 = .pass ↔
    actual.total ≠ 0 ∧ actual.failed ≤ 0 ∧ (expected = 0 ∨ (expected : Int) ≤ actual.total) ∧ 0 < actual.passed := by
  unfold judgeRun
  split
  · simp_all
  split
  · simp
    omega
  split
  · simp
    omega
  split
  · simp
    omega
  · simp
    omega

theorem verifyExecution_eq_ok {t : Tree} {p : Path} {output : List Char} {report : ExecutionReport}
    (h : verifyExecution t p output = .ok report) :
    RunCounts.ofOutput output = .ok report.actual ∧ report.status = (judgeRun report.expected report.actual).1 := by
  obtain ⟨expected, -, h⟩ := bind_eq_ok h
  obtain ⟨actual, hactual, h⟩ := bind_eq_ok h
  cases h
  exact ⟨hactual, rfl⟩

theorem verifyExecution_pass_iff {t : Tree} {p : Path} {output : List Char} :
    (∃ report, verifyExecution t p output = .ok report ∧ report.status = .pass) ↔
      ∃ expected actual, expectedScenarios t p = .ok expected ∧ RunCounts.ofOutput output = .ok actual ∧
        (judgeRun expected actual).1 = .pass := by
  constructor
  · rintro ⟨report, h, hpass⟩
    obtain ⟨expected, hexpected, h⟩ := bind_eq_ok h
    obtain ⟨actual, hactual, h⟩ := bind_eq_ok h
    cases h
    exact ⟨expected, actual, hexpected, hactual, hpass⟩
  · rintro ⟨expected, actual, hexpected, hactual, hpass⟩
    rw [verifyExecution, hexpected, hactual]
    exact ⟨_, rfl, hpass⟩

/-- **What a passing run covers.** No test of it failed, and unless it is a run of cucumber-js, at least as many passed
as there are scenarios. A run passes with fewer exactly if it is one of cucumber-js whose scenarios are enough, though
not the passed ones among them. -/
theorem passing_run_covers {t : Tree} {p : Path} {output : List Char} {report : ExecutionReport}
    (h : verifyExecution t p output = .ok report) :
    (report.status = .pass → report.actual.failed = 0 ∧
      (report.actual.runner ≠ some "cucumber-js" → (report.expected : Int) ≤ report.actual.passed)) ∧
    (report.status = .pass ∧ report.actual.passed < report.expected ↔
      report.actual.runner = some "cucumber-js" ∧ report.actual.failed = 0 ∧ 0 < report.actual.passed ∧
        report.actual.passed < report.expected ∧ (report.expected : Int) ≤ report.actual.total) := by
  obtain ⟨hactual, hstatus⟩ := verifyExecution_eq_ok h
  obtain ⟨hfailed, hcounted⟩ := RunCounts.counted_of_ofOutput hactual
  rw [hstatus, judgeRun_pass_iff]
  -- With none failed, what ran is what passed.
  have henough (hpass : report.actual.failed ≤ 0) (hexpected : report.expected = 0 ∨
      (report.expected : Int) ≤ report.actual.total) (hpassed : 0 < report.actual.passed)
      (hrunner : report.actual.runner ≠ some "cucumber-js") : (report.expected : Int) ≤ report.actual.passed := by
    have htotal := (hcounted hrunner).total_eq
    omega
  constructor
  · rintro ⟨-, hpass, hexpected, hpassed⟩
    exact ⟨by omega, henough hpass hexpected hpassed⟩
  constructor
  · rintro ⟨⟨-, hpass, hexpected, hpassed⟩, hshort⟩
    have hrunner : report.actual.runner = some "cucumber-js" := by
      by_contra hrunner
      have hcover := henough hpass hexpected hpassed hrunner
      omega
    exact ⟨hrunner, by omega, hpassed, hshort, by omega⟩
  · rintro ⟨-, hnone, hpassed, hshort, hexpected⟩
    exact ⟨⟨by omega, by omega, Or.inr hexpected, hpassed⟩, hshort⟩

/-- A workspace with one feature file of two scenarios. -/
def twoScenarios : Tree :=
  .dir [("a.feature", .file (encodeUtf8 "Scenario: a\nScenario: b\n".toList))]

theorem passing_run_covers_two :
    ∃ report, verifyExecution twoScenarios (Path.ofString "a.feature") "2 scenarios (2 passed)\n".toList = .ok report ∧
      report.status = .pass ∧ report.expected = 2 ∧ report.actual.failed = 0 ∧ ¬ report.actual.passed < 2 := by
  obtain ⟨report, hreport, hcounts⟩ := exists_of_toOption_map
    (x := verifyExecution twoScenarios (Path.ofString "a.feature") "2 scenarios (2 passed)\n".toList)
    (f := fun r => (r.status, r.expected, r.actual.passed)) (b := (.pass, 2, 2)) (by decide +kernel)
  obtain ⟨hstatus, hexpected, hpassed⟩ : report.status = .pass ∧ report.expected = 2 ∧ report.actual.passed = 2 := by
    simpa using hcounts
  obtain ⟨hcovers, -⟩ := passing_run_covers hreport
  exact ⟨report, hreport, hstatus, hexpected, (hcovers hstatus).1, by omega⟩

/-- An undefined scenario is counted as run: with one of two scenarios passed and the other one undefined, the run
passes. -/
theorem undefined_scenario_passes :
    ∃ report, verifyExecution twoScenarios (Path.ofString "a.feature")
        "2 scenarios (1 undefined, 1 passed)\n".toList = .ok report ∧
      report.status = .pass ∧ report.expected = 2 ∧ report.actual.passed = 1 := by
  obtain ⟨report, hreport, hcounts⟩ := exists_of_toOption_map
    (x := verifyExecution twoScenarios (Path.ofString "a.feature") "2 scenarios (1 undefined, 1 passed)\n".toList)
    (f := fun r => (r.status, r.expected, r.actual.passed)) (b := (.pass, 2, 1)) (by decide +kernel)
  exact ⟨report, hreport, by simpa using hcounts⟩

end ScenarioAudit
