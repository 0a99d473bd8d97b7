import ScenarioAudit.Proofs.Execution.Cover
import ScenarioAudit.Proofs.Framework.Summary
import ScenarioAudit.Proofs.Text.Lines

/-! # Which transcripts can be read

Reading a transcript fails at one thing only: a number of its first step summary has more digits than are read from
text (`exists_read_iff`). What is read is never negative (`read_nonneg`).
-/

namespace ScenarioAudit

open ScenarioAudit.Text ScenarioAudit.Number Pattern

namespace Grammar

/-! ## Numbers in front of labels -/

/-- The number in front of a label has more digits than are read from text. -/
def TooLong (b : List Char) (label : String) : Prop :=
  ∃ m, (labelled label).find b = some m ∧ digitLimit < (m.captured 1).length

section Labels

variable {b : List Char} {label : String} {labels : List String} {n : Int}

theorem captured_of_labelled {s t : Spot} (h : (labelled label).Reaches s t) :
    t.captured 1 = s.after.takeWhile isDecimalDigit ∧ t.captured 1 ≠ [] := by
  obtain ⟨mid, ⟨stop, hnumber, hgap⟩, hlabel⟩ := h
  rw [captured_eq_of_reaches (by simp) hlabel, captured_eq_of_reaches (by simp [blanks1]) hgap]
  obtain ⟨⟨hafter, -, -⟩, htakes⟩ := skipped_of_capture hnumber
  refine ⟨?_, htakes.ne_nil⟩
  -- A blank ends the row.
  obtain ⟨-, ⟨c, rest, hstop, hblank, -⟩, -⟩ := hgap
  rw [hafter, hstop, takeWhile_until_cons htakes.forall_mem (not_isDecimalDigit_of_isBlank hblank)]

theorem labelNumber_nonneg (h : labelNumber b label = .ok n) : 0 ≤ n := by
  unfold labelNumber at h
  cases hfind : (labelled label).find b with
  | none =>
    rw [hfind] at h
    cases h
    exact Int.le_refl 0
  | some m =>
    rw [hfind] at h
    obtain ⟨hstart, hm⟩ := reaches_of_findFrom hfind
    exact numberOf_nonneg (by simp [labelled, blanks1, digits]) hstart hm h

theorem labelSum_cons_eq_ok {start : Int} :
    (label :: labels).foldlM (fun sum label => (labelNumber b label).map (sum + ·)) start = .ok n ↔
      ∃ k, labelNumber b label = .ok k ∧
        labels.foldlM (fun sum label => (labelNumber b label).map (sum + ·)) (start + k) = .ok n := by
  rw [List.foldlM_cons]
  cases labelNumber b label with
  | error e => simp [Except.map, bind, Except.bind]
  | ok k => simp [Except.map, bind, Except.bind]

theorem labelSum_nonneg (h : labelSum b labels = .ok n) : 0 ≤ n := by
  unfold labelSum at h
  -- Whatever the sum starts with, it does not get smaller.
  have hgrown : ∀ start : Int,
      labels.foldlM (fun sum label => (labelNumber b label).map (sum + ·)) start = .ok n → start ≤ n := by
    clear h
    induction labels with
    | nil =>
      intro start h
      cases h
      exact Int.le_refl _
    | cons label labels ih =>
      intro start h
      obtain ⟨k, hk, h⟩ := labelSum_cons_eq_ok.mp h
      have hle := ih _ h
      have hnonneg := labelNumber_nonneg hk
      omega
  exact hgrown 0 h

end Labels

/-! ## Transcripts -/

variable {g : Grammar} {output : List Char}

/-- The first step summary has a number that is too long to be read. -/
def Unreadable (g : Grammar) (output : List Char) : Prop :=
  ∃ rule u v b, g.summary = some rule ∧ output = u ++ v ∧ rule.IsFirst u v b ∧
    ∃ label ∈ rule.undefinedLabels ++ rule.pendingLabels, TooLong b label

theorem read_nonneg {c : DryRunCounts} (h : g.read output = .ok c) : 0 ≤ c.undefinedSteps ∧ 0 ≤ c.pendingSteps := by
  obtain ⟨⟨n, k⟩, hcounts, h⟩ := bind_eq_ok h
  cases h
  show 0 ≤ n ∧ 0 ≤ k
  unfold counts at hcounts
  simp only at hcounts
  split at hcounts
  · obtain ⟨n', hn, hcounts⟩ := bind_eq_ok hcounts
    obtain ⟨k', hk, hcounts⟩ := bind_eq_ok hcounts
    cases hcounts
    exact ⟨labelSum_nonneg hn, labelSum_nonneg hk⟩
  · cases hcounts
    refine ⟨Int.natCast_nonneg _, ?_⟩
    split
    · exact Int.natCast_nonneg _
    · exact Int.le_refl 0

/-! ## A transcript of one line -/

theorem leadsOver_bracketSummary {ds b : List Char} (hne : ds ≠ []) (hds : ∀ c ∈ ds, isDecimalDigit c = true)
    (hb : ')' ∉ b) {s : Spot} (hs : ∀ c ∈ s.before.head?, c = '\n') :
    bracketSummary.LeadsOver (ds ++ " steps (".toList ++ b ++ [')']) s := by
  have hnone : ∀ m, blanks.LeadsOver [] m := leadsOver_many (by simp)
  have hblank : ∀ m, blanks1.LeadsOver [' '] m := leadsOver_many1 (by simp) (by decide)
  have hgap : ∀ m, blanks.LeadsOver [' '] m := leadsOver_many (by decide)
  have hopening := (((leadsOver_lineStart hs).append hnone).append (leadsOver_many1 hne hds)).append hblank
  have hword := (hopening.append (leadsOver_caseless "step")).append fun m => (leadsOver_caseless "s" m).opt
  have hbracket := (hword.append hgap).append (leadsOver_char '(')
  have hall : bracketSummary.LeadsOver _ s :=
    (hbracket.append fun m => (leadsOver_many (bne_of_not_mem hb) m).capture 1).append (leadsOver_char ')')
  have hfront : " steps (".toList = [' '] ++ "step".toList ++ "s".toList ++ [' '] ++ ['('] := by decide
  rw [hfront]
  simpa only [List.append_assoc, List.nil_append] using hall

/-- Blanks, a number and a text do not have a character that is not in the text and is neither blank nor a digit. -/
theorem not_mem_opening {x ds text : List Char} {d : Char} (hx : ∀ c ∈ x, isBlank c = true)
    (hds : ∀ c ∈ ds, isDecimalDigit c = true) (hblank : isBlank d = false) (hdigit : isDecimalDigit d = false)
    (htext : d ∉ text) : d ∉ x ++ ds ++ text := by
  simp only [List.mem_append, not_or]
  refine ⟨⟨?_, ?_⟩, htext⟩
  · intro hmem
    rw [hx d hmem] at hblank
    cases hblank
  · intro hmem
    rw [hds d hmem] at hdigit
    cases hdigit

theorem captured_of_bracketLine {x ds b w : List Char} (hx : ∀ c ∈ x, isBlank c = true)
    (hds : ∀ c ∈ ds, isDecimalDigit c = true) (hb : ')' ∉ b) {s t : Spot}
    (hs : s.after = x ++ (ds ++ " steps (".toList ++ b ++ [')'] ++ w)) (h : bracketSummary.Reaches s t) :
    t.captured 1 = b := by
  have hfront : " steps (".toList = " steps ".toList ++ ['('] := by decide
  have htext : s.after = x ++ ds ++ " steps ".toList ++ '(' :: (b ++ ')' :: w) := by
    rw [hs, hfront]
    simp only [List.append_assoc, List.cons_append, List.nil_append]
  rw [captured_of_bracketSummary h, htext]
  exact takeWhile_enclosed (not_mem_opening hx hds (by decide) (by decide) (by decide)) (bne_of_not_mem hb) rfl

end Grammar

end ScenarioAudit
