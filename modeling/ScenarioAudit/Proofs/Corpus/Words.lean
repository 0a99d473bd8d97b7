import ScenarioAudit.Proofs.Corpus.Step
import ScenarioAudit.Proofs.Text.Words

/-! # Steps, word by word

A line is a Gherkin step exactly when its first word is a keyword and a blank follows that word (`isWordStep_eq`), and
its step is its words with single spaces between them: a text can be read word by word (`gherkinSteps_eq`).
-/

namespace ScenarioAudit

open ScenarioAudit.Text

/-- A line whose first word is a keyword, with a blank somewhere after that word. -/
def isWordStep (line : List Char) : Bool :=
  (words line).head?.any stepKeywords.contains && (afterFirstWord line).any isBlank

/-- The words of the step lines of a text, with single spaces between them. -/
def wordSteps (text : List Char) : List (List Char) :=
  ((splitLines text).filter isWordStep).map fun line => joinWords (words line)

theorem keyword_solid {keyword : List Char} (h : keyword ∈ stepKeywords) :
    keyword ≠ [] ∧ ∀ c ∈ keyword, isBlank c = false := by
  have hall : ∀ k ∈ stepKeywords, k ≠ [] ∧ ∀ c ∈ k, isBlank c = false := by decide
  exact hall keyword h

theorem isGherkinStep_words {line : List Char} :
    isGherkinStep line = true ↔
      ∃ keyword ∈ stepKeywords, (words line).head? = some keyword ∧ stripLeft line ≠ keyword := by
  rw [isGherkinStep_iff]
  constructor
  · rintro ⟨indent, keyword, c, rest, hopens, hc⟩
    obtain ⟨hne, hsolid⟩ := keyword_solid hopens.keyword
    refine ⟨keyword, hopens.keyword, ?_, ?_⟩
    · rw [← words_stripLeft, hopens.stripLeft, words_word hne hsolid (by simp [hc])]
      rfl
    · rw [hopens.stripLeft]
      exact fun heq => List.cons_ne_nil c rest (List.append_right_eq_self.mp heq)
  · rintro ⟨keyword, hk, hhead, hne⟩
    have hstrip : stripLeft line ≠ [] := by
      intro hnil
      rw [words_eq_nil (stripLeft_eq_nil.mp hnil)] at hhead
      cases hhead
    rw [words_eq hstrip, List.head?_cons, Option.some.injEq] at hhead
    have hsplit := firstWord_append line
    have hblank := afterFirstWord_head line
    rw [hhead] at hsplit
    obtain ⟨indent, hline, hindent⟩ := exists_indent line
    rw [← hsplit] at hline
    -- What follows the first word starts with a blank, as it is not empty.
    cases hrest : afterFirstWord line with
    | nil =>
      rw [hrest, List.append_nil] at hsplit
      exact absurd hsplit.symm hne
    | cons c rest =>
      rw [hrest] at hline hblank
      exact ⟨indent, keyword, c, rest, ⟨hline, hindent, hk⟩, by simpa using hblank⟩

/-- **The step lines are those that open with a keyword and a blank, word by word.** -/
theorem isWordStep_eq (line : List Char) : isWordStep line = isGherkinStep line := by
  rw [Bool.eq_iff_iff, isGherkinStep_words, isWordStep, Bool.and_eq_true, Option.any_eq_true]
  have hblank : (afterFirstWord line).any isBlank = true ↔ afterFirstWord line ≠ [] := by
    have hhead := afterFirstWord_head line
    cases hrest : afterFirstWord line with
    | nil => simp
    | cons c rest =>
      rw [hrest] at hhead
      have hc : isBlank c = true := by simpa using hhead
      simp [hc]
  have hstrip {keyword : List Char} (hhead : (words line).head? = some keyword) :
      afterFirstWord line ≠ [] ↔ stripLeft line ≠ keyword := by
    have hne : stripLeft line ≠ [] := by
      intro hnil
      rw [words_eq_nil (stripLeft_eq_nil.mp hnil)] at hhead
      cases hhead
    rw [words_eq hne, List.head?_cons, Option.some.injEq] at hhead
    rw [← hhead, ← firstWord_append line]
    simp
  rw [hblank]
  constructor
  · rintro ⟨⟨keyword, hhead, hk⟩, hrest⟩
    exact ⟨keyword, List.contains_iff_mem.mp hk, hhead, (hstrip hhead).mp hrest⟩
  · rintro ⟨keyword, hk, hhead, hne⟩
    exact ⟨⟨keyword, hhead, List.contains_iff_mem.mpr hk⟩, (hstrip hhead).mpr hne⟩

/-- **The steps of a text, word by word.** -/
theorem gherkinSteps_eq (text : List Char) : gherkinSteps text = wordSteps text := by
  have hstep : isGherkinStep = isWordStep := funext fun line => (isWordStep_eq line).symm
  rw [gherkinSteps, wordSteps, hstep]
  exact List.map_congr_left fun line _ => strip_squeeze line

theorem gherkinSteps_universalNewlines (s : List Char) : gherkinSteps (universalNewlines s) = gherkinSteps s := by
  rw [gherkinSteps, splitLines_universalNewlines, gherkinSteps]

/-! ## The shape of a step -/

/-- A line of a corpus: a keyword, alone or before a space, and no blanks but single spaces inside. -/
structure TidyStep (line : List Char) : Prop where
  ne_nil : line ≠ []
  keyword : ∃ k ∈ stepKeywords, line = k ∨ k ++ [' '] <+: line
  blank : ∀ u c v, line = u ++ c :: v → isBlank c = true → SingleSpace u c v

theorem tidyStep_of_mem {text line : List Char} (h : line ∈ wordSteps text) : TidyStep line := by
  obtain ⟨raw, hraw, rfl⟩ := List.mem_map.mp h
  have hstep := (List.mem_filter.mp hraw).2
  rw [isWordStep_eq, isGherkinStep_words] at hstep
  obtain ⟨k, hk, hhead, -⟩ := hstep
  obtain ⟨others, hwords⟩ := List.head?_eq_some_iff.mp hhead
  refine ⟨?_, ⟨k, hk, ?_⟩, fun u c v heq hc => joinWords_blank (fun w hw => mem_words hw) heq hc⟩
  · rw [ne_eq, joinWords_eq_nil fun w hw => (mem_words hw).1, hwords]
    exact List.cons_ne_nil _ _
  · rw [hwords]
    by_cases hnil : others = []
    · rw [hnil]
      exact Or.inl rfl
    · rw [joinWords_cons hnil, ← List.singleton_append, ← List.append_assoc]
      exact Or.inr (List.prefix_append _ _)

end ScenarioAudit
