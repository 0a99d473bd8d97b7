import ScenarioAudit.Framework.Transcript
import ScenarioAudit.Proofs.Pattern.Widen
import ScenarioAudit.Proofs.Tree

/-! # Which undefined steps of a transcript are seen

A grammar trusts the first step summary of a transcript, and counts the lines with its marker if there is none. So steps
are seen to be undefined if the first summary says so, or if there is no summary but a line with the marker
(`undefined_seen_iff`). A line that would be a summary by itself is one in the transcript, and what it states is seen if
it is the first one; what later summaries state is not.
-/

namespace ScenarioAudit

open ScenarioAudit.Text Pattern

/-! ## Breakdowns -/

namespace Pattern

/-- A repetition is captured between a delimiter that nothing before it can take in and what stops the repetition. -/
theorem captured_delimited {lead tail : Pattern} {d : Char} {q : Char → Bool} {n : Nat}
    (hlead : lead.admits d = false) (htail : tail.capturedUnder n = [])
    (hstop : ∀ s t, tail.Reaches s t → s.after.head?.any q = false) {s t : Spot}
    (h : (lead ++ char d ++ capture n (many true q) ++ tail).Reaches s t) :
    t.captured n = ((s.after.dropWhile (· != d)).drop 1).takeWhile q := by
  obtain ⟨m, ⟨o, ⟨i, hi, ho⟩, m', ⟨b, after, hafter, hb, rfl⟩, rfl⟩, ht⟩ := h
  obtain ⟨rest, hrest, rfl⟩ := reaches_char.mp ho
  obtain rfl : rest = b ++ after := hafter
  obtain ⟨x, hx⟩ := hi.exists_skipped
  have hx' : d ∉ x := by
    intro hd
    have hadmits := Takes.admits ⟨s, i, hi, hx⟩ d hd
    rw [hlead] at hadmits
    cases hadmits
  have hafter : after.head?.any q = false := hstop _ _ ht
  calc t.captured n = (b ++ after).take (i.position + 1 + b.length - (i.position + 1)) := by
        rw [captured_eq_of_reaches htail ht]
        simp [Spot.captured, Span.text, Spot.skip, Spot.next]
    _ = b := by rw [Nat.add_sub_cancel_left, List.take_left]
    _ = ((s.after.dropWhile (· != d)).drop 1).takeWhile q := by
        rw [hx.1, hrest, takeWhile_enclosed hx' hb hafter]

theorem reaches_caseless_append {v w : String} {s t : Spot} :
    (caseless (v ++ w)).Reaches s t ↔ (caseless v ++ caseless w).Reaches s t := by
  rw [caseless, caseless, String.toList_append, List.foldr_append]
  induction v.toList generalizing s with
  | nil =>
    constructor
    · intro h
      exact ⟨s, rfl, h⟩
    · rintro ⟨m, rfl, h⟩
      exact h
  | cons c l ih =>
    constructor
    · rintro ⟨m, hm, h⟩
      obtain ⟨m', hm', h⟩ := ih.mp h
      exact ⟨m', ⟨m, hm, hm'⟩, h⟩
    · rintro ⟨m', ⟨m, hm, hm'⟩, h⟩
      exact ⟨m, hm, ih.mpr ⟨m', hm', h⟩⟩

end Pattern

namespace Grammar

theorem captured_of_bracketSummary {s t : Spot} (h : bracketSummary.Reaches s t) :
    t.captured 1 = ((s.after.dropWhile (· != '(')).drop 1).takeWhile (· != ')') := by
  refine captured_delimited (by decide +kernel) rfl ?_ h
  intro s t h
  obtain ⟨rest, hs, -⟩ := reaches_char.mp h
  rw [hs]
  rfl

theorem captured_of_passedSummary {s t : Spot} (h : passedSummary.Reaches s t) :
    t.captured 1 = ((s.after.dropWhile (· != ',')).drop 1).takeWhile notNewline := by
  obtain ⟨m₃, ⟨m₂, ⟨m₁, hlead, hword⟩, hbreakdown⟩, hend⟩ := h
  -- The comma is the last character of the word before the breakdown.
  obtain ⟨m, hpassed, hcomma⟩ := reaches_caseless_append.mp
    (show (caseless ("passed" ++ ",")).Reaches m₁ m₂ from hword)
  have hcomma : (char ',').Reaches m m₂ := by
    rw [caseless, show ",".toList = [','] from rfl] at hcomma
    obtain ⟨-, ⟨c, rest, hafter, hc, rfl⟩, rfl⟩ := hcomma
    obtain rfl : c = ',' := by simpa [isCaseless] using hc
    exact reaches_char.mpr ⟨rest, hafter, rfl⟩
  have hall : (_ ++ caseless "passed" ++ char ',' ++ capture 1 inLine ++ lineEnd).Reaches s t :=
    ⟨m₃, ⟨m₂, ⟨m, ⟨m₁, hlead, hpassed⟩, hcomma⟩, hbreakdown⟩, hend⟩
  refine captured_delimited ?_ rfl ?_ hall
  · decide +kernel
  · rintro s t ⟨hend, -⟩
    cases hs : s.after with
    | nil => rfl
    | cons c rest =>
      rw [hs] at hend
      obtain rfl : c = '\n' := by simpa using hend
      rfl

end Grammar

/-! ## Summaries in a transcript -/

/-- A line with what is before and after it in a text. -/
structure LineBetween (u line w : List Char) : Prop where
  feedless : '\n' ∉ line
  opened : ∀ c ∈ u.getLast?, c = '\n'
  closed : ∀ c ∈ w.head?, c = '\n'

namespace SummaryRule

/-- A summary with a breakdown starts between two pieces of a text. -/
def StandsAt (rule : SummaryRule) (u v b : List Char) : Prop :=
  ∃ t, rule.pattern.Reaches (.between u v) t ∧ t.captured 1 = b

/-- No summary of the text starts before that one. -/
def IsFirst (rule : SummaryRule) (u v b : List Char) : Prop :=
  rule.StandsAt u v b ∧ ∀ u' v' b', u' ++ v' = u ++ v → rule.StandsAt u' v' b' → u.length ≤ u'.length

/-- A breakdown states a positive number of undefined steps, and its numbers can be read. -/
def StatesUndefined (rule : SummaryRule) (b : List Char) : Prop :=
  ∃ undefinedSteps pendingSteps, Grammar.labelSum b rule.undefinedLabels = .ok undefinedSteps ∧
    Grammar.labelSum b rule.pendingLabels = .ok pendingSteps ∧ 0 < undefinedSteps

/-- The shape of a summary: it starts a line, is one in whatever text its line is part of, and has one breakdown. -/
structure Shaped (rule : SummaryRule) : Prop where
  fromLineStart : rule.pattern.FromLineStart
  stable : ∀ u w, (∀ c ∈ u.getLast?, c = '\n') → (∀ c ∈ w.head?, c = '\n') → rule.pattern.Stable u w
  captured_unique : ∀ s t t', rule.pattern.Reaches s t → rule.pattern.Reaches s t' → t.captured 1 = t'.captured 1

theorem shaped_bracketSummary (undefinedLabels pendingLabels : List String) :
    Shaped ⟨Grammar.bracketSummary, undefinedLabels, pendingLabels⟩ where
  fromLineStart := by
    unfold Grammar.bracketSummary
    repeat apply FromLineStart.append
    exact fromLineStart_lineStart
  stable u w hu hw := by
    simp [Grammar.bracketSummary, stable_lineStart hu, Stable, blanks, digits, blanks1, many1, opt, char]
  captured_unique _ _ _ h h' :=
    (Grammar.captured_of_bracketSummary h).trans (Grammar.captured_of_bracketSummary h').symm

theorem shaped_passedSummary (undefinedLabels pendingLabels : List String) :
    Shaped ⟨Grammar.passedSummary, undefinedLabels, pendingLabels⟩ where
  fromLineStart := by
    unfold Grammar.passedSummary
    repeat apply FromLineStart.append
    exact fromLineStart_lineStart
  stable u w hu hw := by
    simp [Grammar.passedSummary, stable_lineStart hu, stable_lineEnd hw, Stable, blanks, digits, blanks1, many1, opt,
      inLine]
  captured_unique _ _ _ h h' :=
    (Grammar.captured_of_passedSummary h).trans (Grammar.captured_of_passedSummary h').symm

theorem shaped_of_mem_table {g : Grammar} (hg : g ∈ Grammar.table) {rule : SummaryRule}
    (hrule : g.summary = some rule) : rule.Shaped := by
  simp only [Grammar.table, List.mem_cons, List.not_mem_nil, or_false] at hg
  rcases hg with rfl | rfl | rfl | rfl | rfl | rfl | rfl
  · cases hrule
  · cases hrule
    exact shaped_passedSummary _ _
  · cases hrule
    exact shaped_bracketSummary _ _
  · cases hrule
    exact shaped_bracketSummary _ _
  · cases hrule
    exact shaped_bracketSummary _ _
  · cases hrule
    exact shaped_bracketSummary _ _
  · cases hrule

variable {rule : SummaryRule} {u v b : List Char}

theorem Shaped.breakdown_unique (h : rule.Shaped) {b' : List Char} (hb : rule.StandsAt u v b)
    (hb' : rule.StandsAt u v b') : b = b' := by
  obtain ⟨t, ht, rfl⟩ := hb
  obtain ⟨t', ht', rfl⟩ := hb'
  exact h.captured_unique _ t t' ht ht'

theorem Shaped.first_unique (h : rule.Shaped) {u' v' b' : List Char} (hb : rule.IsFirst u v b)
    (hb' : rule.IsFirst u' v' b') (htext : u ++ v = u' ++ v') : b = b' := by
  have hle := hb.2 u' v' b' htext.symm hb'.1
  have hge := hb'.2 u v b htext hb.1
  obtain ⟨rfl, rfl⟩ := List.append_inj htext (Nat.le_antisymm hle hge)
  exact h.breakdown_unique hb.1 hb'.1

theorem isFirst_of_find {output : List Char} {m : Match} (h : rule.pattern.find output = some m) :
    ∃ u v, output = u ++ v ∧ rule.IsFirst u v (m.captured 1) := by
  obtain ⟨u, v, rfl, hreaches, hmin⟩ := find_eq_some h
  refine ⟨u, v, rfl, ⟨m.stop, hreaches, rfl⟩, ?_⟩
  rintro u' v' b' huv ⟨t, ht, -⟩
  exact hmin u' v' t huv.symm ht

theorem find_eq_none_iff {output : List Char} :
    rule.pattern.find output = none ↔ ∀ u v b, output = u ++ v → ¬ rule.StandsAt u v b := by
  rw [← Option.not_isSome_iff_eq_none]
  change ¬ rule.pattern.occurs output = true ↔ _
  rw [occurs_iff]
  constructor
  · rintro h u v b huv ⟨t, ht, -⟩
    exact h ⟨u, v, huv, t, ht⟩
  · rintro h ⟨u, v, huv, t, ht⟩
    exact h u v _ huv ⟨t, ht, rfl⟩

theorem Shaped.exists_isFirst (h : rule.Shaped) (hb : rule.StandsAt u v b) :
    ∃ u' v' b', u ++ v = u' ++ v' ∧ rule.IsFirst u' v' b' ∧ u'.length ≤ u.length ∧ (u'.length = u.length → b' = b) := by
  cases hfind : rule.pattern.find (u ++ v) with
  | none => exact absurd hb (find_eq_none_iff.mp hfind u v b rfl)
  | some m =>
    obtain ⟨u', v', htext, hfirst⟩ := isFirst_of_find hfind
    refine ⟨u', v', m.captured 1, htext, hfirst, hfirst.2 u v b htext hb, ?_⟩
    intro hlength
    obtain ⟨rfl, rfl⟩ := List.append_inj htext hlength.symm
    exact h.breakdown_unique hfirst.1 hb

theorem Shaped.standsAt_of_line (h : rule.Shaped) {line w : List Char} (hline : LineBetween u line w)
    (hfind : (rule.pattern.find line).map (·.captured 1) = some b) : rule.StandsAt u (line ++ w) b := by
  obtain ⟨m, hm, rfl⟩ := Option.map_eq_some_iff.mp hfind
  obtain ⟨x, y, rfl, hreaches, -⟩ := find_eq_some hm
  -- Within the line there is no start of a line but its own.
  have hx : x = [] := by
    rcases List.eq_nil_or_concat x with hx | ⟨x', c, rfl⟩
    · exact hx
    · have hc : c = '\n' := h.fromLineStart _ _ hreaches c (by simp [Spot.between])
      exact absurd (by simp [hc]) hline.feedless
  subst hx
  refine ⟨m.stop.widen u w, ?_, captured_widen hreaches rfl 1⟩
  have hwide := reaches_widen (h.stable u w hline.opened hline.closed) hreaches
  rwa [widen_between, List.append_nil] at hwide

end SummaryRule

/-! ## What is seen -/

namespace Grammar

variable {g : Grammar} {rule : SummaryRule} {output : List Char}

theorem read_pos_of_find (hrule : g.summary = some rule) {m : Match} (hm : rule.pattern.find output = some m) :
    (∃ c, g.read output = .ok c ∧ 0 < c.undefinedSteps) ↔ rule.StatesUndefined (m.captured 1) := by
  have hcounts : g.counts output (splitLines output) = do
      return (← labelSum (m.captured 1) rule.undefinedLabels, ← labelSum (m.captured 1) rule.pendingLabels) := by
    simp only [counts, hrule, hm, Option.bind_some, Option.map_some]
  constructor
  · rintro ⟨c, h, hpos⟩
    obtain ⟨⟨n, k⟩, hread, h⟩ := bind_eq_ok h
    cases h
    rw [hcounts] at hread
    obtain ⟨n', hn, hread⟩ := bind_eq_ok hread
    obtain ⟨k', hk, hread⟩ := bind_eq_ok hread
    cases hread
    exact ⟨n, k, hn, hk, hpos⟩
  · rintro ⟨n, k, hn, hk, hpos⟩
    have hread : g.counts output (splitLines output) = .ok (n, k) := by
      rw [hcounts, hn, hk]
      rfl
    rw [read]
    simp only [hread]
    exact ⟨_, rfl, hpos⟩

theorem read_pos_of_find_none (hrule : g.summary = some rule) (hnone : rule.pattern.find output = none) :
    (∃ c, g.read output = .ok c ∧ 0 < c.undefinedSteps) ↔
      ∃ line ∈ splitLines output, g.undefinedMark.occurs line = true := by
  obtain ⟨k, hcounts⟩ : ∃ k, g.counts output (splitLines output) =
      .ok (countLines g.undefinedMark (splitLines output), k) := by
    simp only [counts, hrule, hnone, Option.bind_some, Option.map_none]
    exact ⟨_, rfl⟩
  have hpos : 0 < countLines g.undefinedMark (splitLines output) ↔
      ∃ line ∈ splitLines output, g.undefinedMark.occurs line = true := by
    rw [countLines, Int.natCast_pos, List.length_pos_iff_exists_mem]
    simp only [List.mem_filter]
  rw [← hpos, read]
  simp only [hcounts]
  constructor
  · rintro ⟨c, h, hc⟩
    cases h
    exact hc
  · intro hc
    exact ⟨_, rfl, hc⟩

/-- **Which undefined steps are seen.** Reading a transcript finds undefined steps exactly if the first summary of it
states a positive number of them, or there is no summary but some line has the marker. Every line between line feeds
that is a summary by itself is one in the transcript, so there is a first one no later than that line, and if it is that
line, its breakdown is the same. -/
theorem undefined_seen_iff (hg : g ∈ table) (hrule : g.summary = some rule) (output : List Char) :
    ((∃ c, g.read output = .ok c ∧ 0 < c.undefinedSteps) ↔
      (∃ u v b, output = u ++ v ∧ rule.IsFirst u v b ∧ rule.StatesUndefined b) ∨
      (∀ u v b, output = u ++ v → ¬ rule.StandsAt u v b) ∧
        ∃ line ∈ splitLines output, g.undefinedMark.occurs line = true) ∧
    ∀ u line w b, output = u ++ line ++ w → LineBetween u line w →
      (rule.pattern.find line).map (·.captured 1) = some b →
      ∃ u' v' b', output = u' ++ v' ∧ rule.IsFirst u' v' b' ∧ u'.length ≤ u.length ∧
        (u'.length = u.length → b' = b) := by
  have hshape := SummaryRule.shaped_of_mem_table hg hrule
  constructor
  · cases hfind : rule.pattern.find output with
    | some m =>
      obtain ⟨u, v, rfl, hfirst⟩ := SummaryRule.isFirst_of_find hfind
      rw [read_pos_of_find hrule hfind]
      constructor
      · intro hstates
        exact Or.inl ⟨u, v, _, rfl, hfirst, hstates⟩
      · rintro (⟨u', v', b, htext, hfirst', hstates⟩ | ⟨hnone, -⟩)
        · rwa [hshape.first_unique hfirst hfirst' htext]
        · exact absurd hfirst.1 (hnone u v _ rfl)
    | none =>
      have hnone := SummaryRule.find_eq_none_iff.mp hfind
      rw [read_pos_of_find_none hrule hfind]
      constructor
      · intro hmarked
        exact Or.inr ⟨hnone, hmarked⟩
      · rintro (⟨u, v, b, htext, hfirst, -⟩ | ⟨-, hmarked⟩)
        · exact absurd hfirst.1 (hnone u v b htext)
        · exact hmarked
  · intro u line w b htext hline hfind
    rw [htext, List.append_assoc]
    exact hshape.exists_isFirst (hshape.standsAt_of_line hline hfind)

theorem undefined_seen_single :
    ∃ g ∈ table, ∃ rule, g.name = "godog" ∧ g.summary = some rule ∧
      ∃ u v b, "ok\n2 steps (2 undefined)\n".toList = u ++ v ∧ rule.IsFirst u v b ∧ u.length ≤ 3 ∧
        (u.length = 3 → b = "2 undefined".toList) := by
  have hmem : table[3] ∈ table := List.getElem_mem _
  have hrule : table[3].summary = some ⟨bracketSummary, ["undefined"], ["pending"]⟩ := rfl
  obtain ⟨-, hseen⟩ := undefined_seen_iff hmem hrule "ok\n2 steps (2 undefined)\n".toList
  have hline : LineBetween "ok\n".toList "2 steps (2 undefined)".toList ['\n'] := ⟨by decide, by simp, by simp⟩
  exact ⟨_, hmem, _, rfl, rfl, hseen _ _ _ "2 undefined".toList rfl hline (by decide +kernel)⟩

/-- What the second summary states is overlooked: with one summary for each package, the steps of the first one have
passed, the second one states two undefined steps, and none is seen. -/
theorem later_summary_overlooked :
    ∃ g ∈ table, ∃ rule, g.name = "godog" ∧ g.summary = some rule ∧
      LineBetween "1 steps (1 passed)\n".toList "2 steps (2 undefined)".toList ['\n'] ∧
      (∃ b, (rule.pattern.find "2 steps (2 undefined)".toList).map (·.captured 1) = some b ∧ rule.StatesUndefined b) ∧
      ∃ c, g.read ("1 steps (1 passed)\n".toList ++ "2 steps (2 undefined)".toList ++ ['\n']) = .ok c ∧
        c.undefinedSteps = 0 := by
  refine ⟨table[3], List.getElem_mem _, ⟨bracketSummary, ["undefined"], ["pending"]⟩, rfl, rfl,
    ⟨by decide, by simp, by simp⟩, ⟨"2 undefined".toList, by decide +kernel, ?_⟩, ?_⟩
  · obtain ⟨n, hn, rfl⟩ := exists_of_toOption_map (x := labelSum "2 undefined".toList ["undefined"]) (f := id) (b := 2)
      (by decide +kernel)
    obtain ⟨k, hk, rfl⟩ := exists_of_toOption_map (x := labelSum "2 undefined".toList ["pending"]) (f := id) (b := 0)
      (by decide +kernel)
    exact ⟨2, 0, hn, hk, by decide⟩
  · exact exists_of_toOption_map (f := DryRunCounts.undefinedSteps) (b := 0) (by decide +kernel)

end Grammar

end ScenarioAudit
