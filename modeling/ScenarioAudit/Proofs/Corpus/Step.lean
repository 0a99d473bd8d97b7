import ScenarioAudit.Corpus.Step
import ScenarioAudit.Proofs.Text.Lines

/-! # The shape of a step line

A Gherkin step line is indentation, a keyword and a blank, then anything (`isGherkinStep_iff`); a marked line opens
with a marked keyword (`isMarkedStep_iff`). The pieces are determined by the line, since no keyword starts another
one (`stepKeyword_unique`): each step line has one separator and one step text.
-/

namespace ScenarioAudit

open ScenarioAudit.Text

theorem afterStart?_eq_some {start s rest : List Char} :
    afterStart? start s = some rest ↔ s = start ++ rest := by
  induction start generalizing s with
  | nil => simp [afterStart?]
  | cons p start ih =>
    cases s with
    | nil => simp [afterStart?]
    | cons c s =>
      rw [afterStart?]
      by_cases hpc : p = c
      · simp [hpc, ih]
      · simp [hpc, Ne.symm hpc]

theorem startsBlank_iff {s : List Char} :
    startsBlank s = true ↔ ∃ c rest, s = c :: rest ∧ isBlank c = true := by
  cases s <;> simp [startsBlank]

/-! ## Keywords -/

theorem exists_letter {keyword : List Char} (h : keyword ∈ stepKeywords) :
    ∃ c rest, keyword = c :: rest ∧ isBlank c = false := by
  have hall : ∀ k ∈ stepKeywords, k.head?.any (!isBlank ·) = true := by decide
  have hk := hall keyword h
  cases keyword with
  | nil => cases hk
  | cons c rest => exact ⟨c, rest, rfl, by simpa using hk⟩

theorem stepKeyword_unique {k k' s s' : List Char} (hk : k ∈ stepKeywords) (hk' : k' ∈ stepKeywords)
    (h : k ++ s = k' ++ s') : k = k' ∧ s = s' := by
  have hstarts : ∀ a ∈ stepKeywords, ∀ b ∈ stepKeywords, a <+: b → a = b := by decide
  -- Both keywords start the same text, so one of them starts the other.
  have heq : k = k' := by
    rcases List.prefix_or_prefix_of_prefix (List.prefix_append k s) (h ▸ List.prefix_append k' s') with hp | hp
    · exact hstarts k hk k' hk' hp
    · exact (hstarts k' hk' k hk hp).symm
  subst heq
  exact ⟨rfl, List.append_cancel_left h⟩

structure Opens (line indent keyword rest : List Char) : Prop where
  split : line = indent ++ (keyword ++ rest)
  indent : ∀ c ∈ indent, isBlank c = true
  keyword : keyword ∈ stepKeywords

theorem Opens.stripLeft {line indent keyword rest : List Char} (h : Opens line indent keyword rest) :
    stripLeft line = keyword ++ rest := by
  obtain ⟨c, letters, hkeyword, hc⟩ := exists_letter h.keyword
  rw [h.split, stripLeft_append h.indent, hkeyword, List.cons_append, stripLeft_cons hc]

theorem Opens.unique {line indent indent' keyword keyword' rest rest' : List Char}
    (h : Opens line indent keyword rest) (h' : Opens line indent' keyword' rest') :
    indent = indent' ∧ keyword = keyword' ∧ rest = rest' := by
  have heq : keyword ++ rest = keyword' ++ rest' := by rw [← h.stripLeft, h'.stripLeft]
  obtain ⟨rfl, rfl⟩ := stepKeyword_unique h.keyword h'.keyword heq
  refine ⟨?_, rfl, rfl⟩
  exact List.append_cancel_right (h.split.symm.trans h'.split)

theorem opens_iff {line keyword rest : List Char} (hk : keyword ∈ stepKeywords) :
    afterStart? keyword (stripLeft line) = some rest ↔ ∃ indent, Opens line indent keyword rest := by
  rw [afterStart?_eq_some]
  constructor
  · intro h
    obtain ⟨indent, hline, hindent⟩ := exists_indent line
    exact ⟨indent, h ▸ hline, hindent, hk⟩
  · rintro ⟨indent, h⟩
    exact h.stripLeft

/-- **The shape of a Gherkin step line.** -/
theorem isGherkinStep_iff {line : List Char} :
    isGherkinStep line = true ↔
      ∃ indent keyword c rest, Opens line indent keyword (c :: rest) ∧ isBlank c = true := by
  rw [isGherkinStep, List.any_eq_true]
  constructor
  · rintro ⟨keyword, hk, h⟩
    obtain ⟨rest, hrest, hblank⟩ :
        ∃ rest, afterStart? keyword (stripLeft line) = some rest ∧ startsBlank rest = true := by
      cases hafter : afterStart? keyword (stripLeft line) with
      | none => simp [hafter] at h
      | some rest => exact ⟨rest, rfl, by simpa [hafter] using h⟩
    obtain ⟨c, text, rfl, hc⟩ := startsBlank_iff.mp hblank
    obtain ⟨indent, hopens⟩ := (opens_iff hk).mp hrest
    exact ⟨indent, keyword, c, text, hopens, hc⟩
  · rintro ⟨indent, keyword, c, rest, hopens, hc⟩
    refine ⟨keyword, hopens.keyword, ?_⟩
    rw [(opens_iff hopens.keyword).mpr ⟨indent, hopens⟩]
    exact hc

/-! ## Step lines that are cut short or go on -/

theorem Opens.append {line indent keyword rest : List Char} (h : Opens line indent keyword rest)
    (s : List Char) : Opens (line ++ s) indent keyword (rest ++ s) where
  split := by rw [h.split]; simp
  indent := h.indent
  keyword := h.keyword

theorem isGherkinStep_append {line : List Char} (h : isGherkinStep line = true) (s : List Char) :
    isGherkinStep (line ++ s) = true := by
  obtain ⟨indent, keyword, c, rest, hopens, hc⟩ := isGherkinStep_iff.mp h
  exact isGherkinStep_iff.mpr ⟨indent, keyword, c, rest ++ s, hopens.append s, hc⟩

/-- A step line goes on being one without what comes after its keyword and starts with no blank: the separator
comes before it. -/
theorem isGherkinStep_of_append {line indent keyword rest s : List Char} {d : Char}
    (hopens : Opens line indent keyword rest) (hd : isBlank d = false)
    (h : isGherkinStep (line ++ d :: s) = true) : isGherkinStep line = true := by
  obtain ⟨indent', keyword', c, rest', hopens', hc⟩ := isGherkinStep_iff.mp h
  obtain ⟨-, -, hrest⟩ := (hopens.append (d :: s)).unique hopens'
  -- Were nothing left after the keyword, the character itself would be the separator.
  cases rest with
  | nil =>
    rw [List.nil_append, List.cons.injEq] at hrest
    rw [hrest.1, hc] at hd
    cases hd
  | cons c' rest =>
    rw [List.cons_append, List.cons.injEq] at hrest
    exact isGherkinStep_iff.mpr ⟨indent, keyword, c', rest, hopens, hrest.1 ▸ hc⟩

theorem isGherkinStep_of_concat {line : List Char} {d : Char} (hd : isBlank d = false)
    (h : isGherkinStep (line ++ [d]) = true) : isGherkinStep line = true := by
  obtain ⟨indent, keyword, c, rest, hopens, hc⟩ := isGherkinStep_iff.mp h
  have hsplit := hopens.split
  rcases List.eq_nil_or_concat rest with rfl | ⟨rest, e, rfl⟩
  · rw [← List.append_assoc] at hsplit
    obtain ⟨-, heq⟩ := List.append_inj' hsplit rfl
    cases heq
    rw [hc] at hd
    cases hd
  · rw [List.concat_eq_append, ← List.cons_append, ← List.append_assoc, ← List.append_assoc] at hsplit
    obtain ⟨hline, -⟩ := List.append_inj' hsplit rfl
    rw [List.append_assoc] at hline
    exact isGherkinStep_iff.mpr ⟨indent, keyword, c, rest, ⟨hline, hopens.indent, hopens.keyword⟩, hc⟩

theorem exists_not_blank {line : List Char} (h : isGherkinStep line = true) : ∃ c ∈ line, isBlank c = false := by
  obtain ⟨indent, keyword, sep, rest, hopens, -⟩ := isGherkinStep_iff.mp h
  obtain ⟨c, letters, hkeyword, hc⟩ := exists_letter hopens.keyword
  refine ⟨c, ?_, hc⟩
  rw [hopens.split, hkeyword]
  simp

/-! ## Marked lines -/

theorem isMarkedStep_iff {line : List Char} :
    isMarkedStep line = true ↔ ∃ keyword ∈ markedKeywords, ∃ rest, line = keywordMark keyword ++ rest := by
  rw [isMarkedStep, List.any_eq_true]
  refine exists_congr fun keyword => and_congr_right fun _ => ?_
  rw [Option.isSome_iff_exists]
  exact exists_congr fun rest => afterStart?_eq_some

theorem isMarkedStep_opens {line indent keyword rest : List Char} (h : Opens line indent keyword rest) :
    isMarkedStep line = false := by
  rw [Bool.eq_false_iff]
  intro hmarked
  obtain ⟨k, -, text, hline⟩ := isMarkedStep_iff.mp hmarked
  have hstar : ∀ a ∈ stepKeywords, a.head? ≠ some '*' := by decide
  have hstrip := h.stripLeft
  rw [hline, keywordMark, List.cons_append, List.cons_append, stripLeft_cons (by decide)] at hstrip
  obtain ⟨c, letters, hkeyword, -⟩ := exists_letter h.keyword
  rw [hkeyword, List.cons_append] at hstrip
  refine hstar keyword h.keyword ?_
  rw [hkeyword, List.head?_cons, (List.cons.inj hstrip).1]

end ScenarioAudit
