import ScenarioAudit.Proofs.Execution.SeveralLines

/-! # Every runner is recognised by its summary

The summaries of the seven runners share words, and the runners are tried one after the other. Still each summary is
recognised as the one of its runner, with its numbers whatever they are (`summaries_recognised`): the shapes tried
before it do not occur, since the text lacks characters that they need or starts its lines otherwise, and the number
in front of each label is the only one there.
-/

namespace ScenarioAudit

open ScenarioAudit.Text ScenarioAudit.Number Pattern

/-! ## Recognised runners -/

/-- An output is recognised as one of a runner with these counts, and no runner tried before recognises it. -/
def Recognised (name : String) (output : List Char) (c : RunCounts) : Prop :=
  RunCounts.ofOutput output = .ok { c with runner := some name } ∧
    ∀ r ∈ Runner.table.takeWhile (·.name ≠ name), r.read output = .ok none

namespace Runner

variable {rs rs' : List Runner} {r : Runner} {output : List Char} {c : RunCounts}

theorem recognised_of_read (htable : table = rs ++ r :: rs') (hname : r.name ∉ rs.map Runner.name)
    (hnone : ∀ r ∈ rs, r.read output = .ok none) (h : r.read output = .ok (some c)) :
    Recognised r.name output c := by
  constructor
  · rw [RunCounts.ofOutput, htable, readFirst_append hnone, readFirst, h]
    rfl
  · intro r' hr'
    have hbefore : ∀ r' ∈ rs, decide (r'.name ≠ r.name) = true := by
      intro r' hmem
      rw [decide_eq_true_eq]
      intro heq
      exact hname (heq ▸ List.mem_map_of_mem hmem)
    rw [htable, List.takeWhile_append_of_pos hbefore, List.takeWhile_cons_of_neg (by simp), List.append_nil] at hr'
    exact hnone r' hr'

end Runner

open Runner RunSummary

variable {p f t : ℕ} {close : List Char}

/-! ## The runners -/

theorem none_of_letters (letters : List Char) (summaries : List RunSummary)
    (h : ∀ s ∈ summaries, s.pattern.possible ("0123456789".toList ++ letters) = false) {text : List Char}
    (htext : ∀ c ∈ text, c ∈ "0123456789".toList ∨ c ∈ letters) :
    ∀ r ∈ summaries.map runner, r.read text = .ok none := by
  intro r hr
  obtain ⟨s, hs, rfl⟩ := List.mem_map.mp hr
  exact read_of_not_occurs (not_occurs_of_letters letters (h s hs) htext)

theorem mem_letters_of_numeral {letters : List Char} (n : ℕ) :
    ∀ c ∈ numeral n, c ∈ "0123456789".toList ∨ c ∈ letters :=
  fun _ hc => Or.inl (mem_digits_of_mem_numeral hc)

theorem mem_letters_of_close {letters : List Char} (hfeed : '\n' ∈ letters) (hclose : close = [] ∨ close = ['\n']) :
    ∀ c ∈ close, c ∈ "0123456789".toList ∨ c ∈ letters := by
  rcases hclose with rfl | rfl
  · exact List.forall_mem_nil _
  · intro c hc
    rw [List.mem_singleton.mp hc]
    exact Or.inr hfeed

theorem recognised_jestText (hp : Readable p) (hf : Readable f) (hclose : close = [] ∨ close = ['\n']) :
    Recognised "jest" (jestText f p t ++ close) (summed p f) := by
  let letters := "Tests: failed, passed, total\n".toList
  have htext : ∀ c ∈ jestText f p t ++ close, c ∈ "0123456789".toList ∨ c ∈ letters := by
    unfold jestText
    simp only [List.forall_mem_append]
    exact ⟨⟨⟨⟨⟨⟨⟨by decide, mem_letters_of_numeral f⟩, by decide⟩, mem_letters_of_numeral p⟩, by decide⟩,
      mem_letters_of_numeral t⟩, by decide⟩, mem_letters_of_close (by decide) hclose⟩
  have hnone := none_of_letters letters [RunSummary.behave, RunSummary.cucumberJs] (by decide +kernel) htext
  exact recognised_of_read (r := jest.runner) table_eq (by decide) hnone (read_jestText hf hp hclose)

theorem recognised_pytestText (hp : Readable p) (hf : Readable f) (hclose : close = [] ∨ close = ['\n']) :
    Recognised "pytest" (pytestText f p ++ close) (summed p f) := by
  let letters := "=== failed, passed in 0.12s\n".toList
  have htext : ∀ c ∈ pytestText f p ++ close, c ∈ "0123456789".toList ∨ c ∈ letters := by
    unfold pytestText
    simp only [List.forall_mem_append]
    exact ⟨⟨⟨⟨⟨by decide, mem_letters_of_numeral f⟩, by decide⟩, mem_letters_of_numeral p⟩, by decide⟩,
      mem_letters_of_close (by decide) hclose⟩
  have hnone :=
    none_of_letters letters [RunSummary.behave, RunSummary.cucumberJs, RunSummary.jest] (by decide +kernel) htext
  exact recognised_of_read (r := pytest.runner) table_eq (by decide) hnone (read_pytestText hf hp hclose)

theorem recognised_goText {tests : List (Bool × List Char)} (hne : tests ≠ [])
    (hnames : ∀ test ∈ tests, TestName test.2) (hclose : close = [] ∨ close = ['\n']) :
    Recognised "go" (joinLines (tests.map goLine) ++ close)
      (summed (tests.countP (·.1 == true)) (tests.countP (·.1 == false))) := by
  have hstuck : ∀ s ∈ RunSummary.all, s.pattern.stuck '-' = true ∧ s.pattern.possible [] = false := by
    decide +kernel
  have hnone : ∀ r ∈ RunSummary.all.map runner, r.read (joinLines (tests.map goLine) ++ close) = .ok none := by
    intro r hr
    obtain ⟨s, hs, rfl⟩ := List.mem_map.mp hr
    exact read_of_not_occurs (occurs_of_linesStart (fromLineStart_of_mem hs) (hstuck s hs).1 (hstuck s hs).2
      (linesStart_goText hne hnames hclose))
  exact recognised_of_read (r := ⟨"go", goTest⟩) table_eq (by decide) hnone (read_goText hne hnames hclose)

theorem mem_letters_of_twoLines {passing failing rest : String} {lines : List (List Char)} {letters : List Char}
    (hlines : TwoLines (countLine p passing rest) (countLine f failing "") lines)
    (hletters : ∀ c ∈ passing.toList ++ failing.toList ++ rest.toList ++ [' ', '\n'],
      c ∈ "0123456789".toList ∨ c ∈ letters) (hclose : close = [] ∨ close = ['\n']) :
    ∀ c ∈ joinLines lines ++ close, c ∈ "0123456789".toList ∨ c ∈ letters := by
  simp only [List.forall_mem_append, List.forall_mem_cons] at hletters
  obtain ⟨⟨⟨hpassing, hfailing⟩, hrest⟩, hspace, hfeed, -⟩ := hletters
  have hline {n : ℕ} {label rest : String} (hlabel : ∀ c ∈ label.toList, c ∈ "0123456789".toList ∨ c ∈ letters)
      (hrest : ∀ c ∈ rest.toList, c ∈ "0123456789".toList ∨ c ∈ letters) :
      ∀ c ∈ countLine n label rest, c ∈ "0123456789".toList ∨ c ∈ letters := by
    simp only [countLine, List.forall_mem_append, List.forall_mem_cons]
    exact ⟨mem_letters_of_numeral n, hspace, hlabel, hrest⟩
  have hpair {a b : List Char} (ha : ∀ c ∈ a, c ∈ "0123456789".toList ∨ c ∈ letters)
      (hb : ∀ c ∈ b, c ∈ "0123456789".toList ∨ c ∈ letters) :
      ∀ c ∈ joinLines [a, b] ++ close, c ∈ "0123456789".toList ∨ c ∈ letters := by
    rw [joinLines_cons (by simp), joinLines, joinWith]
    simp only [List.forall_mem_append, List.forall_mem_cons]
    refine ⟨⟨ha, hfeed, hb⟩, ?_⟩
    rcases hclose with rfl | rfl
    · exact List.forall_mem_nil _
    · exact List.forall_mem_singleton.mpr hfeed
  rcases hlines with rfl | rfl
  · exact hpair (hline hpassing hrest) (hline hfailing (List.forall_mem_nil _))
  · exact hpair (hline hfailing (List.forall_mem_nil _)) (hline hpassing hrest)

theorem recognised_playwrightLines (hp : Readable p) (hf : Readable f) (hclose : close = [] ∨ close = ['\n'])
    {lines : List (List Char)}
    (hlines : TwoLines (countLine p "passed" " (3.2s)") (countLine f "failed" "") lines) :
    Recognised "playwright" (joinLines lines ++ close) (summed p f) := by
  let letters := "passed failed (3.2s)\n".toList
  have htext : ∀ c ∈ joinLines lines ++ close, c ∈ "0123456789".toList ∨ c ∈ letters :=
    mem_letters_of_twoLines hlines (by decide) hclose
  have hsummaries := none_of_letters letters RunSummary.all (by decide +kernel) htext
  have hgo : goTest (joinLines lines ++ close) = .ok none :=
    if_neg (Bool.eq_false_iff.mp (not_occurs_of_letters (q := goSign) letters (by decide +kernel) htext))
  have hnone : ∀ r ∈ RunSummary.all.map runner ++ [⟨"go", goTest⟩], r.read (joinLines lines ++ close) = .ok none := by
    rw [List.forall_mem_append, List.forall_mem_singleton]
    exact ⟨hsummaries, hgo⟩
  exact recognised_of_read (r := ⟨"playwright", playwright⟩) table_eq (by decide) hnone
    (read_playwrightLines hp hf hclose hlines)

theorem recognised_mochaLines (hp : Readable p) (hf : Readable f) (hclose : close = [] ∨ close = ['\n'])
    {lines : List (List Char)}
    (hlines : TwoLines (countLine p "passing" " (20ms)") (countLine f "failing" "") lines) :
    Recognised "mocha" (joinLines lines ++ close) (summed p f) := by
  let letters := "passing failing (20ms)\n".toList
  have htext : ∀ c ∈ joinLines lines ++ close, c ∈ "0123456789".toList ∨ c ∈ letters :=
    mem_letters_of_twoLines hlines (by decide) hclose
  have hsummaries := none_of_letters letters RunSummary.all (by decide +kernel) htext
  have hgo : goTest (joinLines lines ++ close) = .ok none :=
    if_neg (Bool.eq_false_iff.mp (not_occurs_of_letters (q := goSign) letters (by decide +kernel) htext))
  have hplaywright : playwright (joinLines lines ++ close) = .ok none :=
    if_neg (Bool.eq_false_iff.mp (not_occurs_of_letters
      (q := digits ++ char ' ' ++ oneOf ["passed", "failed"]) letters (by decide +kernel) htext))
  have hnone : ∀ r ∈ RunSummary.all.map runner ++ [⟨"go", goTest⟩, ⟨"playwright", playwright⟩],
      r.read (joinLines lines ++ close) = .ok none := by
    simp only [List.forall_mem_append, List.forall_mem_cons]
    exact ⟨hsummaries, hgo, hplaywright, List.forall_mem_nil _⟩
  exact recognised_of_read (r := ⟨"mocha", mocha⟩) table_eq (by decide) hnone
    (read_mochaLines hp hf hclose hlines)

/-- **Every runner is recognised by its summary,** with the numbers that are written there, and none that is tried
before it recognises that text: the line of behave, of cucumber-js, of jest and of pytest, any lines of go, and the two
lines of playwright and of mocha in either order. -/
theorem summaries_recognised (hp : Readable p) (hf : Readable f) (ht : Readable t)
    (hclose : close = [] ∨ close = ['\n']) :
    Recognised "behave" (behaveText p f ++ close) (summed p f) ∧
    Recognised "cucumber-js" (cucumberJsText t p f ++ close) { passed := p, failed := f, total := t } ∧
    Recognised "jest" (jestText f p t ++ close) (summed p f) ∧
    Recognised "pytest" (pytestText f p ++ close) (summed p f) ∧
    (∀ tests : List (Bool × List Char), tests ≠ [] → (∀ test ∈ tests, TestName test.2) →
      Recognised "go" (joinLines (tests.map goLine) ++ close)
        (summed (tests.countP (·.1 == true)) (tests.countP (·.1 == false)))) ∧
    (∀ lines, TwoLines (countLine p "passed" " (3.2s)") (countLine f "failed" "") lines →
      Recognised "playwright" (joinLines lines ++ close) (summed p f)) ∧
    ∀ lines, TwoLines (countLine p "passing" " (20ms)") (countLine f "failing" "") lines →
      Recognised "mocha" (joinLines lines ++ close) (summed p f) := by
  refine ⟨?_, ?_, recognised_jestText hp hf hclose, recognised_pytestText hp hf hclose,
    fun tests hne hnames => recognised_goText hne hnames hclose,
    fun lines hlines => recognised_playwrightLines hp hf hclose hlines,
    fun lines hlines => recognised_mochaLines hp hf hclose hlines⟩
  · have hnone : ∀ r ∈ ([] : List Runner), r.read (behaveText p f ++ close) = .ok none :=
      List.forall_mem_nil _
    exact recognised_of_read (r := behave.runner) table_eq (by simp) hnone (read_behaveText hp hf)
  · have hnone : ∀ r ∈ [RunSummary.behave].map runner, r.read (cucumberJsText t p f ++ close) = .ok none := by
      intro r hr
      rw [List.mem_singleton.mp hr]
      exact read_of_not_occurs (not_occurs_behave_cucumberJsText hclose)
    exact recognised_of_read (r := cucumberJs.runner) table_eq (by decide) hnone (read_cucumberJsText ht hp hf)

theorem summaries_recognised_twelve :
    Recognised "cucumber-js" (cucumberJsText 12 7 5 ++ ['\n']) { passed := 7, failed := 5, total := 12 } :=
  (summaries_recognised (p := 7) (f := 5) (t := 12) (by decide) (by decide) (by decide) (Or.inr rfl)).2.1

end ScenarioAudit
