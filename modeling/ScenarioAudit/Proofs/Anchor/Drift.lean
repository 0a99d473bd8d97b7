import ScenarioAudit.Anchor.Drift
import ScenarioAudit.Proofs.Corpus.Step

/-! # What the drift rule sees

The drift rule and the corpus have each a definition of a step line. The rule asks for a plain space after a
Gherkin keyword, the corpus for any blank. So the rule sees exactly those changed step lines that are not oddly
spaced (`diffTouchesSteps_iff`). It never takes another line for a step, but a difference whose changed step lines
are all oddly spaced is passed over, although the digest changes with them (`diffTouchesSteps_agrees_iff`).
-/

namespace ScenarioAudit

open ScenarioAudit.Text

/-- A difference adds or removes a line with this content, and it is no header. -/
def Changes (diff content : List Char) : Prop :=
  ∃ sign, (sign = '+' ∨ sign = '-') ∧ sign :: content ∈ splitLines diff ∧
    isDiffHeader (sign :: content) = false

/-- A difference adds or removes a step line. -/
def TouchesStepLine (diff : List Char) : Prop :=
  ∃ content, Changes diff content ∧ isStepLine content = true

/-- A Gherkin step line with some other blank than a space right after its keyword. -/
def OddlySpaced (line : List Char) : Prop :=
  ∃ indent keyword c rest, Opens line indent keyword (c :: rest) ∧ isBlank c = true ∧ c ≠ ' '

/-! ## One line -/

theorem isChangedGherkin_iff {content : List Char} :
    isChangedGherkin content = true ↔ ∃ indent keyword rest, Opens content indent keyword (' ' :: rest) := by
  rw [isChangedGherkin, List.any_eq_true]
  constructor
  · rintro ⟨keyword, hk, h⟩
    obtain ⟨rest, hrest⟩ := Option.isSome_iff_exists.mp h
    rw [afterStart?_eq_some, List.append_assoc] at hrest
    obtain ⟨indent, hopens⟩ := (opens_iff hk).mp (afterStart?_eq_some.mpr hrest)
    exact ⟨indent, keyword, rest, hopens⟩
  · rintro ⟨indent, keyword, rest, hopens⟩
    refine ⟨keyword, hopens.keyword, Option.isSome_iff_exists.mpr ⟨rest, ?_⟩⟩
    rw [afterStart?_eq_some, List.append_assoc]
    exact hopens.stripLeft

theorem seen_iff {content : List Char} :
    (isMarkedStep content || isChangedGherkin content) = true ↔
      isStepLine content = true ∧ ¬ OddlySpaced content := by
  rw [Bool.or_eq_true, isChangedGherkin_iff, isStepLine, Bool.or_eq_true]
  constructor
  · rintro (hmarked | ⟨indent, keyword, rest, hopens⟩)
    · refine ⟨Or.inr hmarked, ?_⟩
      rintro ⟨indent, keyword, c, rest, hopens, -, -⟩
      rw [isMarkedStep_opens hopens] at hmarked
      cases hmarked
    · refine ⟨Or.inl (isGherkinStep_iff.mpr ⟨indent, keyword, ' ', rest, hopens, isBlank_space⟩), ?_⟩
      -- The separator is determined by the line, so it is the space.
      rintro ⟨indent', keyword', c, rest', hopens', -, hc⟩
      obtain ⟨-, -, hrest⟩ := hopens.unique hopens'
      exact hc (List.cons.inj hrest).1.symm
  · rintro ⟨hgherkin | hmarked, hodd⟩
    · obtain ⟨indent, keyword, c, rest, hopens, hc⟩ := isGherkinStep_iff.mp hgherkin
      by_cases hspace : c = ' '
      · subst hspace
        exact Or.inr ⟨indent, keyword, rest, hopens⟩
      · exact absurd ⟨indent, keyword, c, rest, hopens, hc, hspace⟩ hodd
    · exact Or.inl hmarked

theorem changesStep_cons {sign : Char} {content : List Char} :
    changesStep (sign :: content) = true ↔
      (sign = '+' ∨ sign = '-') ∧ isStepLine content = true ∧ ¬ OddlySpaced content := by
  rw [changesStep, Bool.and_eq_true, seen_iff, Bool.or_eq_true, beq_iff_eq, beq_iff_eq]

/-! ## A difference -/

theorem diffTouchesSteps_iff {diff : List Char} :
    diffTouchesSteps diff = true ↔
      ∃ content, Changes diff content ∧ isStepLine content = true ∧ ¬ OddlySpaced content := by
  rw [diffTouchesSteps, List.any_eq_true]
  constructor
  · rintro ⟨line, hline, h⟩
    rw [Bool.and_eq_true, Bool.not_eq_true'] at h
    obtain ⟨hheader, hchanges⟩ := h
    cases line with
    | nil => cases hchanges
    | cons sign content =>
      obtain ⟨hsign, hstep, hodd⟩ := changesStep_cons.mp hchanges
      exact ⟨content, ⟨sign, hsign, hline, hheader⟩, hstep, hodd⟩
  · rintro ⟨content, ⟨sign, hsign, hline, hheader⟩, hstep, hodd⟩
    refine ⟨sign :: content, hline, ?_⟩
    rw [hheader, changesStep_cons.mpr ⟨hsign, hstep, hodd⟩]
    rfl

/-- **When the drift rule agrees with the corpus on what a step line is.** What it reports is a changed step line;
what it passes over are exactly the differences with a changed step line in which every one is oddly spaced. -/
theorem diffTouchesSteps_agrees_iff (diff : List Char) :
    (diffTouchesSteps diff = true → TouchesStepLine diff) ∧
    ((diffTouchesSteps diff = true ↔ TouchesStepLine diff) ↔
      ¬ (TouchesStepLine diff ∧
        ∀ content, Changes diff content → isStepLine content = true → OddlySpaced content)) := by
  have hsound : diffTouchesSteps diff = true → TouchesStepLine diff := by
    intro h
    obtain ⟨content, hchanges, hstep, -⟩ := diffTouchesSteps_iff.mp h
    exact ⟨content, hchanges, hstep⟩
  refine ⟨hsound, ?_⟩
  constructor
  · rintro hagree ⟨htouches, hall⟩
    obtain ⟨content, hchanges, hstep, hodd⟩ := diffTouchesSteps_iff.mp (hagree.mpr htouches)
    exact hodd (hall content hchanges hstep)
  · intro hnot
    refine ⟨hsound, fun htouches => Classical.byContradiction fun hblind => hnot ⟨htouches, ?_⟩⟩
    intro content hchanges hstep
    refine Classical.byContradiction fun hodd => hblind ?_
    exact diffTouchesSteps_iff.mpr ⟨content, hchanges, hstep, hodd⟩

/-- A step added with a tab after its keyword is passed over. -/
theorem diffTouchesSteps_tab :
    diffTouchesSteps "+Given\tx".toList = false ∧ TouchesStepLine "+Given\tx".toList := by
  refine ⟨by decide, "Given\tx".toList, ⟨'+', Or.inl rfl, ?_, by decide⟩, by decide⟩
  decide

end ScenarioAudit
