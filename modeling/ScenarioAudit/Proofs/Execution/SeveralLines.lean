import ScenarioAudit.Proofs.Execution.OneLine

/-! # Summaries on several lines

A run of go has a line for each test, and the lines of an outcome are counted, in whatever order they come
(`length_allAfter_goMark`). The summaries of playwright and of mocha are two lines with a number each, in either order.
-/

namespace ScenarioAudit

open ScenarioAudit.Text ScenarioAudit.Number Pattern

/-! ## The texts -/

namespace Runner

/-- What opens the line of a test of go that has passed or failed. -/
def goMark (passed : Bool) : String :=
  if passed then "--- PASS:" else "--- FAIL:"

def goLine (test : Bool × List Char) : List Char :=
  (goMark test.1).toList ++ ' ' :: test.2 ++ " (0.00s)".toList

/-- A name of a test, on one line and without what opens the lines of tests. -/
structure TestName (name : List Char) : Prop where
  feedless : '\n' ∉ name
  markless : ∀ passed, ¬ (goMark passed).toList <:+: name

def countLine (n : ℕ) (label rest : String) : List Char :=
  numeral n ++ ' ' :: (label.toList ++ rest.toList)

end Runner

open Runner RunSummary

variable {p f t : ℕ} {close : List Char}

/-! ## go -/

theorem head_of_goMark {passed : Bool} {s t : Spot} (h : (word (goMark passed)).Reaches s t) :
    s.after.head?.any (· == '-') = true := by
  obtain ⟨rest, hs, -⟩ := reaches_word.mp h
  rw [hs]
  cases passed with
  | true => rfl
  | false => rfl

theorem avoids_goTail {passed : Bool} {name gap rest : List Char} (hname : TestName name)
    (hgap : gap = [] ∨ gap = ['\n']) :
    (word (goMark passed)).Avoids (' ' :: name ++ [' '] ++ ("(0.00s)".toList ++ gap)) rest := by
  refine Avoids.append ?_ (avoids_of_head (fun s t => head_of_goMark) ?_)
  · intro y z hyz hz s t hs ht
    obtain ⟨rest', hrest, -⟩ := reaches_word.mp ht
    have hmark : (goMark passed).toList ++ rest' = z ++ '(' :: ("0.00s)".toList ++ gap ++ rest) := by
      rw [← hrest, hs]
      simp
    obtain ⟨x, rfl, -⟩ := exists_append_of_not_mem hmark (by cases passed <;> decide)
    -- The mark has no blank at either end, so it would be in the name.
    obtain ⟨m, l, hm, hfirst, hlast⟩ : ∃ m l, (goMark passed).toList = '-' :: m ++ [l] ∧ '-' ≠ ' ' ∧ l ≠ ' ' := by
      cases passed with
      | true => exact ⟨"-- PASS".toList, ':', rfl, by decide, by decide⟩
      | false => exact ⟨"-- FAIL".toList, ':', rfl, by decide, by decide⟩
    cases y with
    | nil =>
      rw [hm] at hyz
      simp at hyz
    | cons c y =>
      rcases List.eq_nil_or_concat x with rfl | ⟨x, d, rfl⟩
      · rw [hm, List.append_nil, ← List.append_assoc] at hyz
        obtain ⟨-, hend⟩ := List.append_inj' hyz rfl
        exact hlast (List.cons.inj hend).1.symm
      · rw [List.concat_eq_append, ← List.append_assoc, ← List.append_assoc] at hyz
        obtain ⟨hyz, -⟩ := List.append_inj' hyz rfl
        obtain ⟨-, hinside⟩ := List.cons.inj hyz
        refine hname.markless passed ⟨y, x, ?_⟩
        simpa using hinside.symm
  · rw [List.forall_mem_append]
    refine ⟨by decide, ?_⟩
    rcases hgap with rfl | rfl
    · nofun
    · decide

theorem avoids_goMark {passed other : Bool} (hne : other ≠ passed) {rest : List Char} :
    (word (goMark passed)).Avoids (goMark other).toList rest := by
  have hall : ∀ passed other : Bool, other ≠ passed → ∀ n < 9,
      (goMark other).toList.drop n ≠ (goMark passed).toList.take (9 - n) := by
    decide
  have hlength : ∀ passed, (goMark passed).toList.length = 9 := by decide
  intro y z hyz hz s t hs ht
  obtain ⟨rest', hrest, -⟩ := reaches_word.mp ht
  have hlength' : y.length + z.length = 9 := by
    rw [← hlength other, hyz, List.length_append]
  have hpos := List.length_pos_of_ne_nil hz
  refine hall passed other hne y.length (by omega) ?_
  have hprefix : ((goMark passed).toList ++ rest').take z.length = z := by
    rw [← hrest, hs, List.take_left]
  rw [hyz, List.drop_left, ← hprefix, List.take_append_of_le_length (by rw [hlength]; omega)]
  congr 1
  omega

theorem allAfter_goMark_close (passed : Bool) (hclose : close = [] ∨ close = ['\n']) {s : Spot} (hs : s.after = close) :
    (word (goMark passed)).allAfter s = [] := by
  apply allAfter_of_none
  apply findAfter_eq_none
  · apply avoids_of_head (fun s t => head_of_goMark)
    rw [hs]
    rcases hclose with rfl | rfl
    · exact List.forall_mem_nil _
    · decide
  · intro s t hs ht
    have hhead := head_of_goMark ht
    rw [hs] at hhead
    cases hhead

/-- **The marks of an outcome are as many as its lines.** -/
theorem length_allAfter_goMark (passed : Bool) {tests : List (Bool × List Char)}
    (hnames : ∀ test ∈ tests, TestName test.2) (hclose : close = [] ∨ close = ['\n']) {s : Spot}
    (hs : s.after = joinLines (tests.map goLine) ++ close) :
    ((word (goMark passed)).allAfter s).length = tests.countP (·.1 == passed) := by
  induction tests generalizing s with
  | nil =>
    rw [allAfter_goMark_close passed hclose hs]
    rfl
  | cons test tests ih =>
    rw [List.forall_mem_cons] at hnames
    obtain ⟨outcome, name⟩ := test
    obtain ⟨gap, hgap, htext⟩ := exists_joinWith_cons ['\n'] (goLine (outcome, name)) (tests.map goLine)
    let tail := ' ' :: name ++ [' '] ++ ("(0.00s)".toList ++ gap)
    let others := joinLines (tests.map goLine) ++ close
    have hline : s.after = (goMark outcome).toList ++ (tail ++ others) := by
      rw [hs, List.map_cons]
      show joinWith ['\n'] (goLine (outcome, name) :: tests.map goLine) ++ close = _
      rw [htext]
      simp [goLine, tail, others, joinLines]
    have htail : (word (goMark passed)).Avoids tail others := avoids_goTail hnames.1 hgap
    by_cases houtcome : outcome = passed
    · subst houtcome
      have hmatch : ((word (goMark outcome)).matchAt s).isSome :=
        matchAt_isSome.mpr ⟨_, reaches_word.mpr ⟨_, hline, rfl⟩⟩
      obtain ⟨m, hm⟩ := Option.isSome_iff_exists.mp hmatch
      obtain ⟨hplace, hreaches⟩ := reaches_of_matchAt hm
      obtain ⟨rest, hrest, hstop⟩ := reaches_word.mp hreaches
      obtain rfl : tail ++ others = rest := List.append_cancel_left (hline.symm.trans hrest)
      have hlt : m.start.position < m.stop.position := by
        rw [hplace, hstop]
        apply Nat.lt_add_of_pos_right
        cases outcome with
        | true => decide
        | false => decide
      rw [allAfter_cons (findAfter_of_matchAt hm) hlt, List.length_cons,
        allAfter_skip htail (s := m.stop) (by rw [hstop]; rfl), ih hnames.2 rfl,
        List.countP_cons_of_pos (by simp)]
    · rw [allAfter_skip (avoids_goMark houtcome) hline, allAfter_skip htail rfl, ih hnames.2 rfl,
        List.countP_cons_of_neg (by simpa using houtcome)]

def goSign : Pattern :=
  firstOf [lineStart ++ oneOf ["ok", "FAIL"] ++ one isBlank, word "--- " ++ oneOf ["PASS", "FAIL"] ++ char ':']

theorem occurs_goSign (passed : Bool) (rest : List Char) :
    goSign.occurs ((goMark passed).toList ++ rest) = true := by
  have hleads (w : String) (hw : w ∈ ["PASS", "FAIL"]) (s : Spot) :
      goSign.LeadsOver ("--- ".toList ++ w.toList ++ [':']) s := by
    intro rest hs
    have hmark := ((leadsOver_word "--- " s).append (leadsOver_oneOf hw)).append (leadsOver_char ':')
    obtain ⟨t, ht, hafter⟩ := hmark rest hs
    exact ⟨t, Or.inr ht, hafter⟩
  cases passed with
  | true => exact occurs_of_leadsOver (hleads "PASS" (by simp)) [] rest
  | false => exact occurs_of_leadsOver (hleads "FAIL" (by simp)) [] rest

theorem read_goText {tests : List (Bool × List Char)} (hne : tests ≠ []) (hnames : ∀ test ∈ tests, TestName test.2)
    (hclose : close = [] ∨ close = ['\n']) :
    goTest (joinLines (tests.map goLine) ++ close) =
      .ok (some (summed (tests.countP (·.1 == true)) (tests.countP (·.1 == false)))) := by
  have hsign : goSign.occurs (joinLines (tests.map goLine) ++ close) = true := by
    obtain ⟨⟨passed, name⟩, others, rfl⟩ := List.exists_cons_of_ne_nil hne
    obtain ⟨gap, -, htext⟩ := exists_joinWith_cons ['\n'] (goLine (passed, name)) (others.map goLine)
    have hmark := occurs_goSign passed
      (' ' :: name ++ " (0.00s)".toList ++ gap ++ joinLines (others.map goLine) ++ close)
    rw [List.map_cons, joinLines, htext]
    simpa only [goLine, joinLines, List.append_assoc] using hmark
  have hcount (passed : Bool) : ((word (goMark passed)).findAll (joinLines (tests.map goLine) ++ close)).length =
      tests.countP (·.1 == passed) :=
    length_allAfter_goMark passed hnames hclose rfl
  have hread : goTest (joinLines (tests.map goLine) ++ close) =
      if goSign.occurs (joinLines (tests.map goLine) ++ close) then
        .ok (some (summed ((word (goMark true)).findAll (joinLines (tests.map goLine) ++ close)).length
          ((word (goMark false)).findAll (joinLines (tests.map goLine) ++ close)).length))
      else .ok none := rfl
  rw [hread, if_pos hsign, hcount, hcount]

theorem linesStart_goText {tests : List (Bool × List Char)} (hne : tests ≠ [])
    (hnames : ∀ test ∈ tests, TestName test.2) (hclose : close = [] ∨ close = ['\n']) :
    LinesStart '-' (joinLines (tests.map goLine) ++ close) := by
  have hline {test : Bool × List Char} (hname : TestName test.2) :
      (goLine test).head? = some '-' ∧ '\n' ∉ goLine test := by
    obtain ⟨passed, name⟩ := test
    have hfeedless : '\n' ∉ name := hname.feedless
    cases passed with
    | true => simp [goLine, goMark, hfeedless]
    | false => simp [goLine, goMark, hfeedless]
  induction tests with
  | nil => exact absurd rfl hne
  | cons test tests ih =>
    rw [List.forall_mem_cons] at hnames
    obtain ⟨hfirst, hclean⟩ := hline hnames.1
    cases tests with
    | nil =>
      show LinesStart '-' (goLine test ++ close)
      rcases hclose with rfl | rfl
      · rw [List.append_nil]
        exact linesStart_line hfirst hclean
      · exact (linesStart_nil '-').cons hfirst hclean
    | cons test' tests =>
      rw [List.map_cons, joinLines_cons (by simp), List.append_assoc, List.cons_append]
      exact (ih (by simp) hnames.2).cons hfirst hclean

/-! ## playwright and mocha -/

/-- A count in front of a label whose first letter is nowhere else is the number that is read, in whichever of two
lines. -/
theorem lastCount_lines {n : ℕ} (hn : Readable n) {label rest : String} {first : Char} {others other : List Char}
    (hlabel : label.toList = first :: others) (hfirst : isDecimalDigit first = false) (hrest : first ∉ rest.toList)
    (hother : first ∉ other) (hfeed : first ≠ '\n') (hclose : close = [] ∨ close = ['\n']) :
    lastCount label (countLine n label rest ++ '\n' :: other ++ close) = .ok n ∧
      lastCount label (other ++ '\n' :: countLine n label rest ++ close) = .ok n := by
  have hclose' : first ∉ close := by
    rcases hclose with rfl | rfl
    · simp
    · simpa using hfeed
  constructor
  · have hafter : first ∉ rest.toList ++ '\n' :: other ++ close := by simp [hrest, hother, hfeed, hclose']
    have hcount := lastCount_eq hlabel hn hfirst (x := []) (by simp) (by simp) hafter
    simpa [countLine] using hcount
  · have hafter : first ∉ rest.toList ++ close := by simp [hrest, hclose']
    have hbefore : ∀ c ∈ (other ++ ['\n']).getLast?, isDecimalDigit c = false := by
      simp
      decide
    have hcount := lastCount_eq hlabel hn hfirst (by simp [hother, hfeed]) hbefore hafter
    simpa [countLine] using hcount

/-- Two lines with a count each, in either order. -/
def TwoLines (a b : List Char) (lines : List (List Char)) : Prop :=
  lines = [a, b] ∨ lines = [b, a]

theorem summedLast_twoLines (hp : Readable p) (hf : Readable f) (hclose : close = [] ∨ close = ['\n'])
    {passing failing rest : String} {others others' : List Char} (hpassing : passing.toList = 'p' :: others)
    (hfailing : failing.toList = 'f' :: others') (hp' : 'p' ∉ failing.toList) (hf' : 'f' ∉ passing.toList)
    (hprest : 'p' ∉ rest.toList) (hfrest : 'f' ∉ rest.toList) {lines : List (List Char)}
    (hlines : TwoLines (countLine p passing rest) (countLine f failing "") lines) :
    summedLast passing failing (joinLines lines ++ close) = .ok (some (summed p f)) := by
  have hother : 'p' ∉ countLine f failing "" := by simp [countLine, not_mem_numeral, hp']
  have hother' : 'f' ∉ countLine p passing rest := by simp [countLine, not_mem_numeral, hf', hfrest]
  have hnone : 'f' ∉ "".toList := by simp
  have hpassed := lastCount_lines hp hpassing (by decide) hprest hother (by decide) hclose
  have hfailed := lastCount_lines hf hfailing (by decide) hnone hother' (by decide) hclose
  rcases hlines with rfl | rfl
  · have htext : joinLines [countLine p passing rest, countLine f failing ""] =
        countLine p passing rest ++ '\n' :: countLine f failing "" := joinLines_cons (by simp) _
    rw [htext, summedLast, hpassed.1, hfailed.2]
    rfl
  · have htext : joinLines [countLine f failing "", countLine p passing rest] =
        countLine f failing "" ++ '\n' :: countLine p passing rest := joinLines_cons (by simp) _
    rw [htext, summedLast, hpassed.2, hfailed.1]
    rfl

theorem occurs_twoLines {q : Pattern} {n : ℕ} {label rest : String} {other : List Char}
    (hq : ∀ s, q.LeadsOver (numeral n ++ ' ' :: label.toList) s) {lines : List (List Char)}
    (hlines : TwoLines (countLine n label rest) other lines) : q.occurs (joinLines lines ++ close) = true := by
  rcases hlines with rfl | rfl
  · have hoccurs := occurs_of_leadsOver hq [] (rest.toList ++ '\n' :: other ++ close)
    simpa [joinLines, joinWith, countLine] using hoccurs
  · have hoccurs := occurs_of_leadsOver hq (other ++ ['\n']) (rest.toList ++ close)
    simpa [joinLines, joinWith, countLine] using hoccurs

theorem read_playwrightLines (hp : Readable p) (hf : Readable f) (hclose : close = [] ∨ close = ['\n'])
    {lines : List (List Char)}
    (hlines : TwoLines (countLine p "passed" " (3.2s)") (countLine f "failed" "") lines) :
    playwright (joinLines lines ++ close) = .ok (some (summed p f)) := by
  have hleads (s : Spot) : (digits ++ char ' ' ++ oneOf ["passed", "failed"]).LeadsOver
      (numeral p ++ ' ' :: "passed".toList) s := by
    have hall : (digits ++ char ' ' ++ oneOf ["passed", "failed"]).LeadsOver _ s :=
      ((leadsOver_many1 (numeral_ne_nil p) isDecimalDigit_of_mem_numeral s).append
        (leadsOver_char ' ')).append (leadsOver_oneOf (w := "passed") (by simp))
    simpa using hall
  have hoccurs : (digits ++ char ' ' ++ oneOf ["passed", "failed"]).occurs (joinLines lines ++ close) = true :=
    occurs_twoLines hleads hlines
  unfold playwright
  rw [if_pos hoccurs]
  exact summedLast_twoLines hp hf hclose rfl rfl (by decide) (by decide) (by decide) (by decide) hlines

theorem read_mochaLines (hp : Readable p) (hf : Readable f) (hclose : close = [] ∨ close = ['\n'])
    {lines : List (List Char)}
    (hlines : TwoLines (countLine p "passing" " (20ms)") (countLine f "failing" "") lines) :
    mocha (joinLines lines ++ close) = .ok (some (summed p f)) := by
  have hleads (s : Spot) : (digits ++ word " passing").LeadsOver (numeral p ++ ' ' :: "passing".toList) s :=
    (leadsOver_many1 (numeral_ne_nil p) isDecimalDigit_of_mem_numeral s).append (leadsOver_word " passing")
  have hoccurs : (digits ++ word " passing").occurs (joinLines lines ++ close) = true :=
    occurs_twoLines hleads hlines
  unfold mocha
  rw [if_pos hoccurs]
  exact summedLast_twoLines hp hf hclose rfl rfl (by decide) (by decide) (by decide) (by decide) hlines

end ScenarioAudit
