import ScenarioAudit.Proofs.Execution.Runners
import ScenarioAudit.Proofs.Framework.Summary

/-! # Which summary decides

The first summary of behave, of cucumber-js and of jest decides, and the last one of pytest (`place_of_deciding`); what
the others state is not read. A line that is a summary by itself is one in the output, so the summary that decides is
that line or one before it, for pytest one after it. If it is the line, its counts are those of the line by itself
(`counts_in_text`), so a failure that is stated there is seen; otherwise the run passes whenever the deciding summary is
good enough (`failure_masked_iff`), and it can be (`masked_failures_pass`).
-/

namespace ScenarioAudit

open ScenarioAudit.Text Pattern

namespace RunSummary

variable {s : RunSummary} {output u line w x y : List Char} {m : Match} {c : RunCounts}

/-! ## The shapes in a larger text -/

/-- A summary is one in whatever text its line is part of. -/
theorem stable_of_mem (hs : s ∈ all) (hu : ∀ c ∈ u.getLast?, c = '\n') (hw : ∀ c ∈ w.head?, c = '\n') :
    s.pattern.Stable u w := by
  simp only [all, List.mem_cons, List.not_mem_nil, or_false] at hs
  rcases hs with rfl | rfl | rfl | rfl
  · simp [behave, scenarios, Stable, stable_lineStart hu, blanks, digits, many1, opt]
  · simp [cucumberJs, scenarios, Stable, stable_lineStart hu, blanks, digits, many1, opt, char]
  · simp [jest, Stable, stable_lineStart hu, stable_lineEnd hw, stable_edge hu hw, blanks, blanks1, many1, opt, char,
      inLine]
  · simp [pytest, Stable, stable_lineStart hu, stable_edge hu hw, many1, char, inLine, oneOf, firstOf]

/-- Nothing that a summary of pytest takes in goes on after a line feed. -/
theorem closed_pytest (hu : ∀ c ∈ u.getLast?, c = '\n') (hw : ∀ c ∈ w.head?, c = '\n') :
    pytest.pattern.Closed u w := by
  have hone {q : Char → Bool} (hq : q '\n' = false) : w.head?.any q = false := by
    cases hhead : w.head? with
    | none => rfl
    | some c =>
      rw [hw c hhead]
      exact hq
  have hword {v : String} (hv : '\n' ∉ v.toList) : (word v).Closed u w := by
    apply closed_word
    intro c hc hhead
    rw [hw c hhead] at hc
    exact hv hc
  have hedge := closed_edge hu hw
  refine ⟨⟨⟨⟨⟨⟨closed_lineStart hu, ?_, ?_⟩, ?_⟩, ⟨⟨⟨?_, hedge⟩, ?_, ?_⟩, hedge⟩, ?_⟩, ?_⟩, ?_, ?_⟩, ?_⟩
  all_goals first | exact hword (by decide) | exact hone (by decide)

theorem onOneLine_pytest : OnOneLine pytest.pattern where
  fromLineStart := fromLineStart_of_mem (by simp [all])
  admits_feed := by decide +kernel
  grows := by
    rintro s t ⟨m, hbefore, hlast⟩
    obtain ⟨z, hz⟩ := hbefore.exists_skipped
    obtain ⟨rest, -, rfl⟩ := reaches_char.mp hlast
    have hposition := hz.2.2
    show s.position < m.position + 1
    omega

theorem dropWhile_isBlank_of_pytest {a t : Spot} (h : pytest.pattern.Reaches a t) :
    a.after.dropWhile isBlank = a.after := by
  obtain ⟨_, ⟨_, ⟨_, ⟨_, ⟨_, ⟨_, hstart, hrule⟩, -⟩, -⟩, -⟩, -⟩, -⟩ := h
  obtain ⟨-, rfl⟩ := reaches_lineStart.mp hstart
  obtain ⟨_, ⟨d, rest, hafter, hd, -⟩, -⟩ := hrule
  obtain rfl : d = '=' := beq_iff_eq.mp hd
  rw [hafter]
  exact List.dropWhile_cons_of_neg (by decide)

/-! ## The deciding summary -/

theorem latest_or (hs : s ∈ all) : s.latest = false ∧ s ∈ [behave, cucumberJs, jest] ∨ s = pytest := by
  simp only [all, List.mem_cons, List.not_mem_nil, or_false] at hs
  rcases hs with rfl | rfl | rfl | rfl
  · exact Or.inl ⟨rfl, by simp⟩
  · exact Or.inl ⟨rfl, by simp⟩
  · exact Or.inl ⟨rfl, by simp⟩
  · exact Or.inr rfl

/-- **The first summary decides, or the last one.** -/
theorem place_of_deciding (hs : s ∈ all) (h : s.deciding? output = some m) :
    ∃ x y, output = x ++ y ∧ s.pattern.matchAt ((Spot.start output).skip x y) = some m ∧
      ∀ x' y' t, output = x' ++ y' → s.pattern.Reaches (.between x' y') t →
        if s.latest then x'.length ≤ x.length else x.length ≤ x'.length := by
  rcases latest_or hs with ⟨hlatest, -⟩ | rfl
  · rw [deciding?, hlatest, if_neg Bool.false_ne_true] at h
    obtain ⟨x, y, houtput, hm, hmin⟩ := findAfter_eq_some h
    refine ⟨x, y, houtput, hm, ?_⟩
    intro x' y' t houtput' ht
    rw [hlatest, if_neg Bool.false_ne_true]
    have ht' : s.pattern.Reaches ((Spot.start output).skip x' y').forget t := by rwa [forget_skip_start]
    exact hmin x' y' t houtput' ht'
  · obtain ⟨x, y, houtput, hm, hmax⟩ := onOneLine_pytest.getLast_allAfter h
    refine ⟨x, y, houtput, hm, ?_⟩
    intro x' y' t houtput' ht
    have ht' : pytest.pattern.Reaches ((Spot.start output).skip x' y').forget t := by rwa [forget_skip_start]
    exact hmax x' y' t houtput' ht'

theorem exists_deciding (hs : s ∈ all) (houtput : output = x ++ y) {t : Spot}
    (h : s.pattern.Reaches (.between x y) t) : ∃ m, s.deciding? output = some m := by
  have hoccurs : s.pattern.occurs output = true := occurs_iff.mpr ⟨x, y, houtput, t, h⟩
  obtain ⟨m, hm⟩ := Option.isSome_iff_exists.mp hoccurs
  rcases latest_or hs with ⟨hlatest, -⟩ | rfl
  · refine ⟨m, ?_⟩
    rw [deciding?, hlatest, if_neg Bool.false_ne_true]
    exact hm
  · have hall : pytest.pattern.findAll output = m :: pytest.pattern.allAfter m.stop := onOneLine_pytest.allAfter_cons hm
    exact ⟨_, by rw [deciding?, if_pos (by rfl), hall, List.getLast?_cons]⟩

theorem matchAt_of_read (hs : s ∈ all) (hline : '\n' ∉ line) (h : s.read line = .ok (some c)) :
    ∃ m, s.pattern.matchAt (Spot.start line) = some m ∧ s.counts m.captured = .ok c := by
  rw [read] at h
  cases hdeciding : s.deciding? line with
  | none =>
    rw [hdeciding] at h
    cases h
  | some m =>
    rw [hdeciding] at h
    obtain ⟨x, y, hxy, hm, -⟩ := place_of_deciding hs hdeciding
    obtain rfl : x = [] := by
      by_contra hx
      obtain ⟨x, d, rfl⟩ := (List.eq_nil_or_concat x).resolve_left hx
      obtain ⟨-, hreaches⟩ := reaches_of_matchAt hm
      rw [forget_skip_start] at hreaches
      obtain rfl : d = '\n' := fromLineStart_of_mem hs _ _ hreaches d (by simp [Spot.between])
      exact hline (by simp [hxy])
    rw [Spot.skip_nil hxy] at hm
    obtain ⟨c', hcounts, hsome⟩ := map_eq_ok h
    cases hsome
    exact ⟨m, hm, hcounts⟩

/-- **A summary counts in a text what its line by itself counts.** -/
theorem counts_in_text (hs : s ∈ all) (hline : LineBetween u line w) {m' : Match}
    (hm : s.pattern.matchAt (Spot.start line) = some m)
    (hm' : s.pattern.matchAt ((Spot.start (u ++ line ++ w)).skip x y) = some m') (hxy : u ++ line ++ w = x ++ y)
    (hplace : y.dropWhile isBlank = (line ++ w).dropWhile isBlank) :
    s.counts m'.captured = s.counts m.captured := by
  have hstable := stable_of_mem hs hline.opened hline.closed
  obtain ⟨-, hreaches⟩ := reaches_of_matchAt hm
  obtain ⟨-, hreaches'⟩ := reaches_of_matchAt hm'
  have hwide := reaches_widen hstable hreaches
  have hcaptured : (m.stop.widen u w).captured = m.captured := by
    ext1 n
    exact captured_widen hreaches rfl n
  rcases latest_or hs with ⟨-, hs'⟩ | rfl
  · rw [← hcaptured]
    exact counts_unique hs' hreaches' hwide hplace
  · have hfirst := dropWhile_isBlank_of_pytest hwide
    have hfirst' := dropWhile_isBlank_of_pytest hreaches'
    obtain rfl : y = line ++ w := hfirst'.symm.trans (hplace.trans hfirst)
    obtain rfl : x = u := by
      rw [List.append_assoc] at hxy
      exact (List.append_cancel_right hxy).symm
    have hsame : ((Spot.start (x ++ line ++ w)).skip x (line ++ w)).forget = ((Spot.start line).widen x w).forget := by
      simp [Spot.start, Spot.skip, Spot.widen, Spot.forget]
    rw [matchAt_congr hsame, matchAt_widen (closed_pytest hline.opened hline.closed), hm] at hm'
    cases hm'
    exact congrArg pytest.counts hcaptured

/-! ## The counts of an output -/

theorem dropWhile_table (hs : s ∈ all) :
    ∃ rs, Runner.table.dropWhile (fun r => decide (r.name ≠ s.name)) = s.runner :: rs := by
  rw [table_eq]
  simp only [all, List.mem_cons, List.not_mem_nil, or_false] at hs
  rcases hs with rfl | rfl | rfl | rfl
  all_goals exact ⟨_, rfl⟩

/-- **The deciding summary gives the counts of an output** that no earlier runner recognises. -/
theorem ofOutput_eq (hs : s ∈ all)
    (hnone : ∀ r ∈ Runner.table.takeWhile fun r => decide (r.name ≠ s.name), r.read output = .ok none)
    (h : s.deciding? output = some m) :
    RunCounts.ofOutput output = (s.counts m.captured).map fun c => { c with runner := some s.name } := by
  obtain ⟨rs, hrs⟩ := dropWhile_table hs
  have htable := List.takeWhile_append_dropWhile (p := fun r : Runner => decide (r.name ≠ s.name)) (l := Runner.table)
  have hread : s.runner.read output = (s.counts m.captured).map some := by
    show s.read output = _
    rw [read, h]
  rw [RunCounts.ofOutput, ← htable, Runner.readFirst_append hnone, hrs, Runner.readFirst, hread]
  cases s.counts m.captured with
  | error e => rfl
  | ok c => rfl

/-- **When an output passes** by its deciding summary. -/
theorem passes_iff (hs : s ∈ all)
    (hnone : ∀ r ∈ Runner.table.takeWhile fun r => decide (r.name ≠ s.name), r.read output = .ok none)
    (h : s.deciding? output = some m) (t : Tree) (p : Path) :
    (∃ report, verifyExecution t p output = .ok report ∧ report.status = .pass) ↔
      ∃ expected c, expectedScenarios t p = .ok expected ∧ s.counts m.captured = .ok c ∧ c.failed = 0 ∧
        0 < c.passed ∧ c.total ≠ 0 ∧ (expected = 0 ∨ (expected : Int) ≤ c.total) := by
  have hof := ofOutput_eq hs hnone h
  rw [verifyExecution_pass_iff]
  constructor
  · rintro ⟨expected, actual, hexpected, hactual, hpass⟩
    obtain ⟨hnonneg, -⟩ := RunCounts.counted_of_ofOutput hactual
    obtain ⟨htotal, hfailed, henough, hpassed⟩ := judgeRun_pass_iff.mp hpass
    rw [hof] at hactual
    obtain ⟨c, hcounts, rfl⟩ := map_eq_ok hactual
    exact ⟨expected, c, hexpected, hcounts, Int.le_antisymm hfailed hnonneg, hpassed, htotal, henough⟩
  · rintro ⟨expected, c, hexpected, hcounts, hfailed, hpassed, htotal, henough⟩
    refine ⟨expected, { c with runner := some s.name }, hexpected, ?_, ?_⟩
    · rw [hof, hcounts]
      rfl
    · exact judgeRun_pass_iff.mpr ⟨htotal, Int.le_of_eq hfailed, henough, hpassed⟩

/-- **Only the deciding summary counts.** In an output that no earlier runner recognises, let one line be a summary by
itself that states failed tests. Some summary decides, for pytest that line or a later one and else that line or an
earlier one. If it is that line, its failure is read and no run passes. In any case a run passes exactly if the deciding
summary states no failure and enough passed tests, whatever that line states. -/
theorem failure_masked_iff (hs : s ∈ all) (hline : LineBetween u line w)
    (hnone : ∀ r ∈ Runner.table.takeWhile fun r => decide (r.name ≠ s.name), r.read (u ++ line ++ w) = .ok none)
    (hread : s.read line = .ok (some c)) (hfailed : 0 < c.failed) :
    ∃ m, s.deciding? (u ++ line ++ w) = some m ∧
      (if s.latest then u.length ≤ m.start.position else m.start.position ≤ u.length) ∧
      (m.start.after.dropWhile isBlank = (line ++ w).dropWhile isBlank → s.counts m.captured = .ok c ∧
        ∀ t p report, verifyExecution t p (u ++ line ++ w) = .ok report → report.status ≠ .pass) ∧
      ∀ t p, (∃ report, verifyExecution t p (u ++ line ++ w) = .ok report ∧ report.status = .pass) ↔
        ∃ expected c', expectedScenarios t p = .ok expected ∧ s.counts m.captured = .ok c' ∧ c'.failed = 0 ∧
          0 < c'.passed ∧ c'.total ≠ 0 ∧ (expected = 0 ∨ (expected : Int) ≤ c'.total) := by
  obtain ⟨m₀, hm₀, hcounts₀⟩ := matchAt_of_read hs hline.feedless hread
  have hplace : ∃ t, s.pattern.Reaches (.between u (line ++ w)) t := by
    obtain ⟨-, hreaches⟩ := reaches_of_matchAt hm₀
    exact ⟨_, reaches_widen (stable_of_mem hs hline.opened hline.closed) hreaches⟩
  obtain ⟨t₀, ht₀⟩ := hplace
  have houtput : u ++ line ++ w = u ++ (line ++ w) := List.append_assoc u line w
  obtain ⟨m, hdeciding⟩ := exists_deciding hs houtput ht₀
  obtain ⟨x, y, hxy, hm, hextreme⟩ := place_of_deciding hs hdeciding
  obtain ⟨hstart, -⟩ := reaches_of_matchAt hm
  rw [forget_skip_start] at hstart
  have hpasses := passes_iff hs hnone hdeciding
  refine ⟨m, hdeciding, ?_, ?_, hpasses⟩
  · have hposition : m.start.position = x.length := by rw [hstart]; rfl
    rw [hposition]
    exact hextreme u (line ++ w) t₀ houtput ht₀
  · intro hsame
    rw [hstart] at hsame
    have hcounts : s.counts m.captured = .ok c := (counts_in_text hs hline hm₀ hm hxy hsame).trans hcounts₀
    refine ⟨hcounts, ?_⟩
    intro t p report hreport hpass
    obtain ⟨expected, c', -, hc', hnofailure, -⟩ := (hpasses t p).mp ⟨report, hreport, hpass⟩
    rw [hcounts, Except.ok.injEq] at hc'
    subst hc'
    omega

theorem failure_masked_iff_first :
    ∃ m, behave.deciding?
        ([] ++ "2 scenarios passed, 1 failed".toList ++ "\n3 scenarios passed, 0 failed\n".toList) = some m ∧
      behave.counts m.captured = .ok (Runner.summed 2 1) ∧
      ¬ ∃ report, verifyExecution (.dir []) Path.here
        ([] ++ "2 scenarios passed, 1 failed".toList ++ "\n3 scenarios passed, 0 failed\n".toList) = .ok report ∧
        report.status = .pass := by
  have hread : behave.read "2 scenarios passed, 1 failed".toList = .ok (some (Runner.summed 2 1)) := by
    obtain ⟨a, ha, rfl⟩ := exists_of_toOption_map (x := behave.read "2 scenarios passed, 1 failed".toList) (f := id)
      (b := some (Runner.summed 2 1)) (by decide +kernel)
    exact ha
  obtain ⟨m, hdeciding, -, hseen, -⟩ := failure_masked_iff (s := behave) (u := [])
    (w := "\n3 scenarios passed, 0 failed\n".toList) (by simp [all]) ⟨by decide, by simp, by simp⟩ nofun hread
    (by decide)
  have hstart : (behave.deciding?
      ([] ++ "2 scenarios passed, 1 failed".toList ++ "\n3 scenarios passed, 0 failed\n".toList)).map
        (fun m => m.start.after) =
      some ("2 scenarios passed, 1 failed".toList ++ "\n3 scenarios passed, 0 failed\n".toList) := by
    decide +kernel
  rw [hdeciding, Option.map_some, Option.some.injEq] at hstart
  obtain ⟨hcounts, hfails⟩ := hseen (congrArg (List.dropWhile isBlank) hstart)
  refine ⟨m, hdeciding, hcounts, ?_⟩
  rintro ⟨report, hreport, hpass⟩
  exact hfails _ _ report hreport hpass

/-- A line by itself states failed tests, no earlier runner recognises the output, and yet the run passes. -/
structure Masked (s : RunSummary) (u line w : List Char) : Prop where
  between : LineBetween u line w
  unrecognised : ∀ r ∈ Runner.table.takeWhile fun r => decide (r.name ≠ s.name), r.read (u ++ line ++ w) = .ok none
  fails : ∃ c, s.read line = .ok (some c) ∧ 0 < c.failed
  passes : ∃ report, verifyExecution (.dir []) Path.here (u ++ line ++ w) = .ok report ∧ report.status = .pass

theorem masked_of_check (hline : LineBetween u line w)
    (hnone : ∀ r ∈ Runner.table.takeWhile fun r => decide (r.name ≠ s.name),
      (r.read (u ++ line ++ w)).toOption = some none)
    (hfails : ((s.read line).toOption.map fun found => found.any fun c => decide (0 < c.failed)) = some true)
    (hpasses : (verifyExecution (.dir []) Path.here (u ++ line ++ w)).toOption.map (·.status) = some .pass) :
    s.Masked u line w where
  between := hline
  unrecognised := by
    intro r hr
    obtain ⟨found, hfound, rfl⟩ := exists_of_toOption_map (f := id) (by rw [Option.map_id_apply]; exact hnone r hr)
    exact hfound
  fails := by
    obtain ⟨found, hfound, hany⟩ := exists_of_toOption_map hfails
    cases found with
    | none => cases hany
    | some c => exact ⟨c, hfound, of_decide_eq_true hany⟩
  passes := exists_of_toOption_map hpasses

/-- **A failure is masked by another summary:** by an earlier one for behave, for cucumber-js and for jest, by a later
one for pytest. -/
theorem masked_failures_pass :
    behave.Masked "3 scenarios passed, 0 failed\n".toList "2 scenarios passed, 1 failed".toList ['\n'] ∧
    cucumberJs.Masked "2 scenarios (2 passed)\n".toList "1 scenario (1 failed)".toList ['\n'] ∧
    jest.Masked "Tests: 2 passed, 2 total\n".toList "Tests: 1 failed, 1 passed, 2 total".toList ['\n'] ∧
    pytest.Masked [] "=== 1 failed in 0.10s ===".toList "\n=== 3 passed in 0.10s ===\n".toList := by
  refine ⟨?_, ?_, ?_, ?_⟩
  all_goals
    apply masked_of_check
    · exact ⟨by decide, by simp, by simp⟩
    all_goals decide +kernel

end RunSummary

end ScenarioAudit
