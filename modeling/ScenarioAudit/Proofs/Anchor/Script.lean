import ScenarioAudit.Proofs.Anchor.Drift
import ScenarioAudit.Proofs.Anchor.History

/-! # A clean drift result means an unchanged corpus

A difference shows an edit script between the committed and the working lines, among lines that show no line of the
file. Where no step line is oddly spaced, the drift rule sees every removed or added step line (`touches_iff`): what
it passes over as headers starts with two signs and is no step. A script that changes no step line leaves the step
lines of both forms as they are (`filter_sides`), so what the rule calls clean has the corpora that were committed
(`corpora_of_drift`).
-/

namespace ScenarioAudit

open ScenarioAudit.Text

/-! ## Edit scripts -/

/-- One line of an edit script. -/
inductive Edit where
  | keep (line : List Char)
  | remove (line : List Char)
  | add (line : List Char)
  deriving DecidableEq, Repr

namespace Edit

def committed? : Edit → Option (List Char)
  | keep l => some l
  | remove l => some l
  | add _ => none

def working? : Edit → Option (List Char)
  | keep l => some l
  | remove _ => none
  | add l => some l

/-- The line that is removed or added. -/
def changed? : Edit → Option (List Char)
  | keep _ => none
  | remove l => some l
  | add l => some l

end Edit

def committedLines (script : List Edit) : List (List Char) :=
  script.filterMap Edit.committed?

def workingLines (script : List Edit) : List (List Char) :=
  script.filterMap Edit.working?

def ChangesStepLine (script : List Edit) : Prop :=
  ∃ e ∈ script, ∃ l, e.changed? = some l ∧ isStepLine l = true

/-- A line of a difference that shows no line of the file: the head of a file or a hunk, or a remark. -/
def isNotice (line : List Char) : Bool :=
  ["diff".toList, "index".toList, "---".toList, "+++".toList, "@@".toList, ['\\']].any (·.isPrefixOf line)

/-- The lines of a difference that shows a script. Kept lines that are far from any change may be left out. -/
inductive ShowsScript : List Edit → List (List Char) → Prop
  | nil : ShowsScript [] []
  | notice {script : List Edit} {lines : List (List Char)} {line : List Char} (hline : isNotice line = true)
      (h : ShowsScript script lines) : ShowsScript script (line :: lines)
  | keep {script : List Edit} {lines : List (List Char)} (l : List Char) (h : ShowsScript script lines) :
      ShowsScript (.keep l :: script) ((' ' :: l) :: lines)
  | leaveOut {script : List Edit} {lines : List (List Char)} (l : List Char) (h : ShowsScript script lines) :
      ShowsScript (.keep l :: script) lines
  | remove {script : List Edit} {lines : List (List Char)} (l : List Char) (h : ShowsScript script lines) :
      ShowsScript (.remove l :: script) (('-' :: l) :: lines)
  | add {script : List Edit} {lines : List (List Char)} (l : List Char) (h : ShowsScript script lines) :
      ShowsScript (.add l :: script) (('+' :: l) :: lines)

/-- Two texts have the same corpora: the same Gherkin steps and the same marked lines. -/
structure SameCorpora (old new : List Char) : Prop where
  gherkin : gherkinSteps old = gherkinSteps new
  marked : markedSteps old = markedSteps new

/-- A script that changes no line of some kind leaves the lines of that kind as they are, in their order. -/
theorem filter_sides {p : List Char → Bool} {script : List Edit}
    (h : ∀ e ∈ script, ∀ l, e.changed? = some l → p l = false) :
    (committedLines script).filter p = (workingLines script).filter p := by
  induction script with
  | nil => rfl
  | cons e script ih =>
    have hrest := ih fun e' he' => h e' (List.mem_cons_of_mem _ he')
    have hfirst := h e List.mem_cons_self
    cases e with
    | keep l =>
      show (l :: committedLines script).filter p = (l :: workingLines script).filter p
      rw [List.filter_cons, List.filter_cons, hrest]
    | remove l =>
      show (l :: committedLines script).filter p = (workingLines script).filter p
      rw [List.filter_cons_of_neg (Bool.eq_false_iff.mp (hfirst l rfl)), hrest]
    | add l =>
      show (committedLines script).filter p = (l :: workingLines script).filter p
      rw [List.filter_cons_of_neg (Bool.eq_false_iff.mp (hfirst l rfl)), hrest]

/-! ## What a difference shows -/

theorem isDiffHeader_of_isNotice {sign : Char} {l : List Char} (hsign : sign = '+' ∨ sign = '-')
    (h : isNotice (sign :: l) = true) : isDiffHeader (sign :: l) = true := by
  rcases hsign with rfl | rfl
  · simpa [isNotice, isDiffHeader] using h
  · simpa [isNotice, isDiffHeader] using h

theorem ShowsScript.changed_of_mem {script : List Edit} {lines : List (List Char)} (h : ShowsScript script lines)
    {sign : Char} {l : List Char} (hsign : sign = '+' ∨ sign = '-') (hmem : sign :: l ∈ lines)
    (hheader : isDiffHeader (sign :: l) = false) : ∃ e ∈ script, e.changed? = some l := by
  induction h with
  | nil => cases hmem
  | notice hline _ ih =>
    rcases List.mem_cons.mp hmem with rfl | hmem
    · rw [isDiffHeader_of_isNotice hsign hline] at hheader
      cases hheader
    · exact ih hmem
  | keep k _ ih =>
    rcases List.mem_cons.mp hmem with heq | hmem
    · rcases hsign with rfl | rfl
      · cases heq
      · cases heq
    · obtain ⟨e, he, hl⟩ := ih hmem
      exact ⟨e, List.mem_cons_of_mem _ he, hl⟩
  | leaveOut k _ ih =>
    obtain ⟨e, he, hl⟩ := ih hmem
    exact ⟨e, List.mem_cons_of_mem _ he, hl⟩
  | remove k _ ih =>
    rcases List.mem_cons.mp hmem with heq | hmem
    · cases heq
      exact ⟨_, List.mem_cons_self, rfl⟩
    · obtain ⟨e, he, hl⟩ := ih hmem
      exact ⟨e, List.mem_cons_of_mem _ he, hl⟩
  | add k _ ih =>
    rcases List.mem_cons.mp hmem with heq | hmem
    · cases heq
      exact ⟨_, List.mem_cons_self, rfl⟩
    · obtain ⟨e, he, hl⟩ := ih hmem
      exact ⟨e, List.mem_cons_of_mem _ he, hl⟩

theorem ShowsScript.mem_of_changed {script : List Edit} {lines : List (List Char)} (h : ShowsScript script lines)
    {e : Edit} (he : e ∈ script) {l : List Char} (hl : e.changed? = some l) :
    ∃ sign, (sign = '+' ∨ sign = '-') ∧ sign :: l ∈ lines := by
  induction h with
  | nil => cases he
  | notice _ _ ih =>
    obtain ⟨sign, hsign, hmem⟩ := ih he
    exact ⟨sign, hsign, List.mem_cons_of_mem _ hmem⟩
  | keep k _ ih =>
    rcases List.mem_cons.mp he with rfl | he
    · cases hl
    · obtain ⟨sign, hsign, hmem⟩ := ih he
      exact ⟨sign, hsign, List.mem_cons_of_mem _ hmem⟩
  | leaveOut k _ ih =>
    rcases List.mem_cons.mp he with rfl | he
    · cases hl
    · exact ih he
  | remove k _ ih =>
    rcases List.mem_cons.mp he with rfl | he
    · cases hl
      exact ⟨'-', Or.inr rfl, List.mem_cons_self⟩
    · obtain ⟨sign, hsign, hmem⟩ := ih he
      exact ⟨sign, hsign, List.mem_cons_of_mem _ hmem⟩
  | add k _ ih =>
    rcases List.mem_cons.mp he with rfl | he
    · cases hl
      exact ⟨'+', Or.inl rfl, List.mem_cons_self⟩
    · obtain ⟨sign, hsign, hmem⟩ := ih he
      exact ⟨sign, hsign, List.mem_cons_of_mem _ hmem⟩

/-- A changed line that looks like the header of a file is no step: its own text starts with a sign. -/
theorem isStepLine_of_header {sign : Char} {l : List Char} (h : isDiffHeader (sign :: l) = true) :
    isStepLine l = false := by
  have hopen : ∃ c rest, l = c :: rest ∧ (c = '+' ∨ c = '-') := by
    rcases l with _ | ⟨c, rest⟩
    · simp [isDiffHeader] at h
    · refine ⟨c, rest, rfl, ?_⟩
      simp [isDiffHeader] at h
      rcases h with ⟨-, rfl, -⟩ | ⟨-, rfl, -⟩
      · exact Or.inl rfl
      · exact Or.inr rfl
  obtain ⟨c, rest, rfl, rfl | rfl⟩ := hopen
  · rw [isStepLine, isGherkinStep, stripLeft_cons (by decide)]
    rfl
  · rw [isStepLine, isGherkinStep, stripLeft_cons (by decide)]
    rfl

/-! ## The drift rule on a script -/

theorem oddlySpaced_iff {line : List Char} :
    OddlySpaced line ↔ isGherkinStep line = true ∧ isChangedGherkin line = false := by
  constructor
  · intro hodd
    have hstep : isGherkinStep line = true := by
      obtain ⟨indent, keyword, c, rest, hopens, hc, -⟩ := hodd
      exact isGherkinStep_iff.mpr ⟨indent, keyword, c, rest, hopens, hc⟩
    refine ⟨hstep, Bool.eq_false_iff.mpr fun hchanged => ?_⟩
    exact (seen_iff.mp (by rw [hchanged, Bool.or_true])).2 hodd
  · rintro ⟨hstep, hchanged⟩
    obtain ⟨indent, keyword, c, rest, hopens, hc⟩ := isGherkinStep_iff.mp hstep
    refine ⟨indent, keyword, c, rest, hopens, hc, ?_⟩
    rintro rfl
    exact Bool.eq_false_iff.mp hchanged (isChangedGherkin_iff.mpr ⟨indent, keyword, rest, hopens⟩)

instance : DecidablePred OddlySpaced :=
  fun _ => decidable_of_iff _ oddlySpaced_iff.symm

section Script

variable {diff : List Char} {script : List Edit}

/-- **The rule sees exactly the scripts that change a step line.** -/
theorem touches_iff (hspaced : ∀ e ∈ script, ∀ l, e.changed? = some l → ¬ OddlySpaced l)
    (hshows : ShowsScript script (splitLines diff)) :
    diffTouchesSteps diff = true ↔ ChangesStepLine script := by
  rw [diffTouchesSteps_iff]
  constructor
  · rintro ⟨l, ⟨sign, hsign, hmem, hheader⟩, hstep, -⟩
    obtain ⟨e, he, hl⟩ := hshows.changed_of_mem hsign hmem hheader
    exact ⟨e, he, l, hl, hstep⟩
  · rintro ⟨e, he, l, hl, hstep⟩
    obtain ⟨sign, hsign, hmem⟩ := hshows.mem_of_changed he hl
    refine ⟨l, ⟨sign, hsign, hmem, ?_⟩, hstep, hspaced e he l hl⟩
    rw [Bool.eq_false_iff]
    intro hheader
    rw [isStepLine_of_header hheader] at hstep
    cases hstep

variable {old new : List Char}

theorem sameCorpora_of_script (hold : committedLines script = splitLines old)
    (hnew : workingLines script = splitLines new) (h : ¬ ChangesStepLine script) : SameCorpora old new := by
  have hplain {p : List Char → Bool} (hp : ∀ l, p l = true → isStepLine l = true) :
      (splitLines old).filter p = (splitLines new).filter p := by
    rw [← hold, ← hnew]
    apply filter_sides
    intro e he l hl
    rw [Bool.eq_false_iff]
    exact fun hpl => h ⟨e, he, l, hl, hp l hpl⟩
  constructor
  · rw [gherkinSteps, gherkinSteps, hplain fun l hl => by rw [isStepLine, hl, Bool.true_or]]
  · rw [markedSteps, markedSteps, hplain fun l hl => by rw [isStepLine, hl, Bool.or_true]]

theorem mem_of_changed {e : Edit} (he : e ∈ script) {l : List Char} (hl : e.changed? = some l) :
    l ∈ committedLines script ++ workingLines script := by
  rw [List.mem_append, committedLines, workingLines, List.mem_filterMap, List.mem_filterMap]
  cases e with
  | keep k => cases hl
  | remove k => exact Or.inl ⟨_, he, hl⟩
  | add k => exact Or.inr ⟨_, he, hl⟩

/-- **A clean drift result means an unchanged corpus.** Let a difference show a script from the lines of one text to
those of another one, where no line is oddly spaced. If the rule passes the difference over, both texts have the same
corpora; if it does not, the script removes or adds a step line. So the drift check answers clean for such a difference
only if the corpora are the same, and modified only if a step line was changed. -/
theorem corpora_of_drift (hold : committedLines script = splitLines old)
    (hnew : workingLines script = splitLines new)
    (hspaced : ∀ l ∈ splitLines old ++ splitLines new, ¬ OddlySpaced l)
    (hshows : ShowsScript script (splitLines diff)) :
    (diffTouchesSteps diff = false → SameCorpora old new) ∧
    (diffTouchesSteps diff = true → ChangesStepLine script) ∧
    ∀ (history : History) (p : Path) (h h' : Host) (d : DriftStatus),
      (history.checkDrift p).runOn h = (.ok d, h') →
      History.diffShown h.gitReplies 0 = some (String.ofList diff) →
        (d = .clean → SameCorpora old new) ∧ (d = .modified → ChangesStepLine script) := by
  have htouches : diffTouchesSteps diff = true ↔ ChangesStepLine script := by
    refine touches_iff (fun e he l hl => hspaced l ?_) hshows
    rw [← hold, ← hnew]
    exact mem_of_changed he hl
  have hclean (h : diffTouchesSteps diff = false) : SameCorpora old new :=
    sameCorpora_of_script hold hnew (mt htouches.mpr (Bool.eq_false_iff.mp h))
  refine ⟨hclean, htouches.mp, ?_⟩
  intro history p h h' d hrun hdiff
  have hmodified : d = .modified ↔ diffTouchesSteps diff = true := by
    rcases history.runOn_checkDrift p h with ⟨d', h₁, hcheck, hiff⟩ | ⟨e, h₁, hcheck, -⟩
    · rw [hcheck] at hrun
      cases hrun
      rw [hiff, hdiff]
      simp
    · rw [hcheck] at hrun
      cases hrun
  constructor
  · rintro rfl
    refine hclean (Bool.eq_false_iff.mpr fun h => ?_)
    cases hmodified.mpr h
  · intro hd
    exact htouches.mp (hmodified.mp hd)

end Script

/-- A script whose changed lines look like the headers of a file once they are signed. -/
def signedScript : List Edit :=
  [.keep "Given a user".toList, .remove "-- old".toList, .add "++ new".toList, .keep "Then it works".toList]

def signedDiff : List Char :=
  ("--- a/x.feature\n+++ b/x.feature\n@@ -1,3 +1,3 @@\n Given a user\n--- old\n+++ new\n Then it works\n").toList

theorem corpora_of_drift_signed :
    committedLines signedScript = splitLines "Given a user\n-- old\nThen it works\n".toList ∧
    workingLines signedScript = splitLines "Given a user\n++ new\nThen it works\n".toList ∧
    ShowsScript signedScript (splitLines signedDiff) ∧
    diffTouchesSteps signedDiff = false ∧
    SameCorpora "Given a user\n-- old\nThen it works\n".toList
      "Given a user\n++ new\nThen it works\n".toList := by
  have hold : committedLines signedScript = splitLines "Given a user\n-- old\nThen it works\n".toList := by
    decide
  have hnew : workingLines signedScript = splitLines "Given a user\n++ new\nThen it works\n".toList := by
    decide
  have hshows : ShowsScript signedScript (splitLines signedDiff) := by
    have hlines : splitLines signedDiff =
        ["--- a/x.feature".toList, "+++ b/x.feature".toList, "@@ -1,3 +1,3 @@".toList, " Given a user".toList,
          "--- old".toList, "+++ new".toList, " Then it works".toList] := by decide
    rw [hlines]
    refine .notice (by decide) (.notice (by decide) (.notice (by decide) ?_))
    exact .keep _ (.remove _ (.add _ (.keep _ .nil)))
  have hclean : diffTouchesSteps signedDiff = false := by decide
  exact ⟨hold, hnew, hshows, hclean, (corpora_of_drift hold hnew (by decide) hshows).1 hclean⟩

end ScenarioAudit
