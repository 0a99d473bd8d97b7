import ScenarioAudit.Proofs.Execution.Cover
import ScenarioAudit.Proofs.Pattern.Search
import ScenarioAudit.Proofs.Pattern.Widen

/-! # The shapes of run summaries

Four of the runners are read by one summary of theirs, the first one of the output or the last one, and by what its
pattern captures there (`RunSummary`, `table_eq`). What is captured is determined by the text from the start of the
summary on (`captured_of_behave`, `captured_of_cucumberJs`, `gapless_of_jest`), and so are the counts (`counts_unique`).
The number that is read in front of a label is the last one there is, found by passing over everything that is no such
number (`lastCount_eq`).
-/

namespace ScenarioAudit

open ScenarioAudit.Text ScenarioAudit.Number Pattern

/-- The summary of a runner: its shape, the counts by what the shape captures, and whether the last one of an output
counts or the first one. -/
structure RunSummary where
  name : String
  pattern : Pattern
  counts : (Nat → List Char) → Except Trouble RunCounts
  latest : Bool := false

namespace Runner

theorem readFirst_append {rs rs' : List Runner} {output : List Char} (hnone : ∀ r ∈ rs, r.read output = .ok none) :
    readFirst (rs ++ rs') output = readFirst rs' output := by
  induction rs with
  | nil => rfl
  | cons r rs ih =>
    rw [List.forall_mem_cons] at hnone
    rw [List.cons_append, readFirst, hnone.1]
    exact ih hnone.2

/-! ## Numbers in front of labels -/

variable {label : String}

theorem reaches_counted {s t : Spot} (h : (counted label).Reaches s t) :
    ∃ ds, ds ≠ [] ∧ (∀ c ∈ ds, isDecimalDigit c = true) ∧ s.after = ds ++ ' ' :: (label.toList ++ t.after) ∧
      t.captured 1 = ds ∧ s.position < t.position := by
  obtain ⟨m, ⟨m', hnumber, hspace⟩, hlabel⟩ := h
  obtain ⟨hds, htakes⟩ := skipped_of_capture hnumber
  obtain ⟨rest, hm, rfl⟩ := reaches_char.mp hspace
  obtain ⟨rest', hrest, rfl⟩ := reaches_word.mp hlabel
  obtain rfl : rest = label.toList ++ rest' := hrest
  refine ⟨m'.captured 1, htakes.ne_nil, ?_, ?_, rfl, ?_⟩
  · exact htakes.forall_mem
  · rw [hds.1, hm]
    rfl
  · have hposition := hds.2.2
    simp only [Spot.skip, Spot.next]
    omega

theorem closed_counted (u : List Char) : (counted label).Closed u [] := by
  have hlabel : (word label).Closed u [] := closed_word (by simp)
  simp [counted, digits, many1, char, Closed, hlabel]

theorem avoids_counted_of_no_digit {x rest : List Char} (hx : ∀ c ∈ x, isDecimalDigit c = false) :
    (counted label).Avoids x rest := by
  refine avoids_of_head (q := isDecimalDigit) ?_ hx
  intro s t ht
  obtain ⟨ds, hne, hds, hs, -⟩ := reaches_counted ht
  obtain ⟨d, ds, rfl⟩ := List.exists_cons_of_ne_nil hne
  rw [hs]
  exact hds d List.mem_cons_self

/-- **What has no digits changes no count** in front of a text. -/
theorem lastCount_append {x rest : List Char} (hx : ∀ c ∈ x, isDecimalDigit c = false) :
    lastCount label (x ++ rest) = lastCount label rest := by
  have hplace : (Spot.start (x ++ rest)).skip x rest = (Spot.start rest).widen x [] := by
    simp [Spot.start, Spot.skip, Spot.widen]
  have hmatches : (counted label).findAll (x ++ rest) =
      ((counted label).findAll rest).map fun m => ⟨m.start.widen x [], m.stop.widen x []⟩ := by
    rw [findAll_eq, findAll_eq, allAfter_skip (avoids_counted_of_no_digit hx) rfl, hplace,
      allAfter_widen (closed_counted x)]
  unfold lastCount
  rw [hmatches, List.getLast?_map]
  cases hlast : ((counted label).findAll rest).getLast? with
  | none => rfl
  | some m =>
    obtain ⟨hstart, hreaches⟩ := reaches_of_mem_findAll (List.mem_of_getLast? hlast)
    show Grammar.numberOf ((m.stop.widen x []).captured 1) = Grammar.numberOf (m.stop.captured 1)
    rw [captured_widen hreaches hstart]

section Single

variable {first : Char} {others : List Char} (hlabel : label.toList = first :: others)

include hlabel

/-- No number of a label starts in a piece without the first letter of the label, if the piece does not end within a
number. -/
theorem avoids_counted {x rest : List Char} {d : Char} (hfirst : isDecimalDigit first = false) (hx : first ∉ x)
    (hlast : ∀ c ∈ x.getLast?, isDecimalDigit c = false) (hd : isDecimalDigit d = true) :
    (counted label).Avoids x (d :: rest) := by
  intro y z hyz hz s t hs ht
  obtain ⟨ds, -, hds, hafter, -⟩ := reaches_counted ht
  rw [hs, hlabel, List.cons_append] at hafter
  have hz' : first ∉ z := fun hmem => hx (hyz ▸ List.mem_append_right y hmem)
  have hsplit : z ++ d :: rest = (ds ++ [' ']) ++ first :: (others ++ t.after) := by
    rw [hafter]
    simp
  obtain ⟨z', hz'', hrest⟩ := exists_append_of_not_mem hsplit hz'
  cases z' with
  | nil =>
    -- The letter would be the digit after the piece.
    obtain ⟨rfl, -⟩ := List.cons.inj hrest
    rw [hfirst] at hd
    cases hd
  | cons c z' =>
    -- The piece would end with a digit.
    have hfront : z <+: ds := by
      obtain ⟨z', c', hconcat⟩ := (List.eq_nil_or_concat (c :: z')).resolve_left (List.cons_ne_nil c z')
      rw [hconcat, List.concat_eq_append, ← List.append_assoc] at hz''
      exact ⟨z', (List.append_inj' hz'' rfl).1.symm⟩
    have hdigit : ∀ c ∈ z.getLast?, isDecimalDigit c = true :=
      fun c hc => hds c (hfront.subset (List.mem_of_getLast? hc))
    obtain ⟨z, c, rfl⟩ := (List.eq_nil_or_concat z).resolve_left hz
    have hc := hdigit c (by simp)
    rw [hlast c (by simp [hyz])] at hc
    cases hc

/-- **The number in front of a label is the one that is read,** if the first letter of the label is nowhere else. -/
theorem lastCount_eq {x rest : List Char} {n : ℕ} (hn : Readable n) (hfirst : isDecimalDigit first = false)
    (hx : first ∉ x) (hlast : ∀ c ∈ x.getLast?, isDecimalDigit c = false) (hrest : first ∉ rest) :
    lastCount label (x ++ (numeral n ++ ' ' :: (label.toList ++ rest))) = .ok n := by
  obtain ⟨d, ds, hds, hd⟩ := numeral_eq_cons n
  let s : Spot := (Spot.start (x ++ (numeral n ++ ' ' :: (label.toList ++ rest)))).skip x
    (numeral n ++ ' ' :: (label.toList ++ rest))
  have hskip : (counted label).Avoids x (numeral n ++ ' ' :: (label.toList ++ rest)) := by
    rw [hds]
    exact avoids_counted hlabel hfirst hx hlast hd
  have hleads : (counted label).LeadsOver (numeral n ++ [' '] ++ label.toList) s.forget :=
    (((leadsOver_many1 (numeral_ne_nil n) isDecimalDigit_of_mem_numeral _).capture 1).append
      (leadsOver_char ' ')).append (leadsOver_word label)
  obtain ⟨t, ht, -⟩ := hleads rest (by simp [s, Spot.skip, Spot.forget])
  obtain ⟨m, hm⟩ := Option.isSome_iff_exists.mp (matchAt_isSome.mpr ⟨t, ht⟩)
  obtain ⟨hstart, hreaches⟩ := reaches_of_matchAt hm
  obtain ⟨ds', -, hds', hafter, hcaptured, hlt⟩ := reaches_counted hreaches
  -- The number that is taken is the whole one.
  obtain ⟨hsame, -, hrest'⟩ :=
    until_cons_inj isDecimalDigit_of_mem_numeral hds' (by decide) (by decide) hafter
  have hstop : m.stop.after = rest := (List.append_cancel_left hrest').symm
  have hneeds : Needs first (counted label) := by
    intro s t ht
    obtain ⟨ds, -, -, hs, -⟩ := reaches_counted ht
    rw [hs, hlabel]
    simp
  have hnone : (counted label).findAfter m.stop = none := findAfter_of_needs hneeds (by rwa [hstop])
  have hall : (counted label).allAfter s = [m] :=
    allAfter_singleton (findAfter_of_matchAt hm) (by rwa [hstart]) hnone
  rw [lastCount, findAll_eq, allAfter_skip hskip rfl, hall, List.getLast?_singleton]
  show Grammar.numberOf (m.stop.captured 1) = .ok (n : Int)
  rw [hcaptured, ← hsame, Grammar.numberOf_numeral hn]

end Single

end Runner

namespace RunSummary

def deciding? (s : RunSummary) (output : List Char) : Option Match :=
  if s.latest then (s.pattern.findAll output).getLast? else s.pattern.find output

def read (s : RunSummary) (output : List Char) : Except Trouble (Option RunCounts) :=
  match s.deciding? output with
  | none => .ok none
  | some m => (s.counts m.captured).map some

/-! ## The runners -/

/-- The counts of two rows of digits. -/
def numberCounts (captured : Nat → List Char) : Except Trouble RunCounts := do
  return Runner.summed (← Grammar.numberOf (captured 1)) (← Grammar.numberOf (captured 2))

/-- The counts of a list of numbers in front of labels. -/
def listCounts (captured : Nat → List Char) : Except Trouble RunCounts := do
  return Runner.summed (← Runner.lastCount "passed" (captured 1)) (← Runner.lastCount "failed" (captured 1))

/-- The counts of a list of numbers in front of labels, with a total of its own. -/
def totalCounts (captured : Nat → List Char) : Except Trouble RunCounts := do
  let passed ← Runner.lastCount "passed" (captured 2)
  let failed ← Runner.lastCount "failed" (captured 2)
  return { passed := passed, failed := failed, total := ← Grammar.numberOf (captured 1) }

/-- What the summaries of behave and of cucumber-js start with. -/
def scenarios : Pattern :=
  lineStart ++ blanks ++ capture 1 digits ++ word " scenario" ++ opt (word "s")

def behave : RunSummary where
  name := "behave"
  pattern := scenarios ++ word " passed, " ++ capture 2 digits ++ word " failed"
  counts := numberCounts

def cucumberJs : RunSummary where
  name := "cucumber-js"
  pattern := scenarios ++ word " (" ++ capture 2 (many true (· != ')')) ++ char ')'
  counts := totalCounts

def jest : RunSummary where
  name := "jest"
  pattern := lineStart ++ blanks ++ word "Tests" ++ opt (char ':') ++ blanks1
    ++ capture 1 (inLine ++ edge ++ word "passed" ++ edge ++ inLine) ++ lineEnd
  counts := listCounts

def pytest : RunSummary where
  name := "pytest"
  pattern := lineStart ++ many1 (· == '=') ++ char ' '
    ++ capture 1 (inLine ++ edge ++ oneOf ["passed", "failed"] ++ edge ++ inLine) ++ word " in "
    ++ many1 (fun c => isDecimalDigit c || c == '.') ++ char 's'
  counts := listCounts
  latest := true

def all : List RunSummary :=
  [behave, cucumberJs, jest, pytest]

def runner (s : RunSummary) : Runner :=
  ⟨s.name, s.read⟩

theorem fromLineStart_of_mem {s : RunSummary} (hs : s ∈ all) : s.pattern.FromLineStart := by
  simp only [all, List.mem_cons, List.not_mem_nil, or_false] at hs
  rcases hs with rfl | rfl | rfl | rfl
  all_goals
    repeat apply FromLineStart.append
    exact fromLineStart_lineStart

theorem map_numberCounts (captured : Nat → List Char) : (numberCounts captured).map some = do
    return some (Runner.summed (← Grammar.numberOf (captured 1)) (← Grammar.numberOf (captured 2))) := by
  unfold numberCounts
  cases Grammar.numberOf (captured 1) with
  | error e => rfl
  | ok i =>
    cases Grammar.numberOf (captured 2) with
    | error e => rfl
    | ok j => rfl

theorem map_listCounts (captured : Nat → List Char) :
    (listCounts captured).map some = Runner.summedLast "passed" "failed" (captured 1) := by
  unfold listCounts Runner.summedLast
  cases Runner.lastCount "passed" (captured 1) with
  | error e => rfl
  | ok i =>
    cases Runner.lastCount "failed" (captured 1) with
    | error e => rfl
    | ok j => rfl

theorem map_totalCounts (captured : Nat → List Char) : (totalCounts captured).map some = do
    return some
      { passed := ← Runner.lastCount "passed" (captured 2)
        failed := ← Runner.lastCount "failed" (captured 2)
        total := ← Grammar.numberOf (captured 1) } := by
  unfold totalCounts
  cases Runner.lastCount "passed" (captured 2) with
  | error e => rfl
  | ok i =>
    cases Runner.lastCount "failed" (captured 2) with
    | error e => rfl
    | ok j =>
      cases Grammar.numberOf (captured 1) with
      | error e => rfl
      | ok k => rfl

/-- **The first four runners are read by their summaries.** -/
theorem table_eq : Runner.table = all.map runner ++
    [⟨"go", Runner.goTest⟩, ⟨"playwright", Runner.playwright⟩, ⟨"mocha", Runner.mocha⟩] := by
  have hbehave : Runner.behave = behave.read := by
    ext1 output
    show (match behave.pattern.find output with | none => _ | some m => _) = _
    rw [read, deciding?, if_neg (by decide)]
    cases behave.pattern.find output with
    | none => rfl
    | some m => exact (map_numberCounts m.captured).symm
  have hcucumberJs : Runner.cucumberJs = cucumberJs.read := by
    ext1 output
    show (match cucumberJs.pattern.find output with | none => _ | some m => _) = _
    rw [read, deciding?, if_neg (by decide)]
    cases cucumberJs.pattern.find output with
    | none => rfl
    | some m => exact (map_totalCounts m.captured).symm
  have hjest : Runner.jest = jest.read := by
    ext1 output
    show (match jest.pattern.find output with | none => _ | some m => _) = _
    rw [read, deciding?, if_neg (by decide)]
    cases jest.pattern.find output with
    | none => rfl
    | some m => exact (map_listCounts m.captured).symm
  have hpytest : Runner.pytest = pytest.read := by
    ext1 output
    show (match (pytest.pattern.findAll output).getLast? with | none => _ | some m => _) = _
    rw [read, deciding?, if_pos (by rfl)]
    cases (pytest.pattern.findAll output).getLast? with
    | none => rfl
    | some m => exact (map_listCounts m.captured).symm
  rw [Runner.table, hbehave, hcucumberJs, hjest, hpytest]
  rfl

theorem read_of_not_occurs {s : RunSummary} {output : List Char} (h : s.pattern.occurs output = false) :
    s.read output = .ok none := by
  have hnone : s.deciding? output = none := by
    unfold deciding?
    split
    · rw [findAll_eq_nil h]
      rfl
    · exact Option.isNone_iff_eq_none.mp (Option.isSome_eq_false_iff.mp h)
  rw [read, hnone]

theorem read_of_reaches {s : RunSummary} (hlatest : s.latest = false) {text : List Char} {t : Spot}
    (h : s.pattern.Reaches (.between [] text) t) {c : RunCounts}
    (hcounts : ∀ t, s.pattern.Reaches (.between [] text) t → s.counts t.captured = .ok c) :
    s.read text = .ok (some c) := by
  have hsome : (s.pattern.matchAt (Spot.start text)).isSome := matchAt_isSome.mpr ⟨t, h⟩
  obtain ⟨m, hm⟩ := Option.isSome_iff_exists.mp hsome
  have hread : s.deciding? text = some m := by
    rw [deciding?, hlatest, if_neg Bool.false_ne_true]
    exact findAfter_of_matchAt hm
  rw [read, hread]
  show (s.counts m.stop.captured).map some = _
  rw [hcounts m.stop (reaches_of_matchAt hm).2]
  rfl

/-! ## What is captured -/

/-- The number of scenarios is the row of digits after blanks, and what is taken in has no comma and no bracket. -/
theorem captured_of_scenarios {s t : Spot} (h : scenarios.Reaches s t) :
    t.captured 1 = (s.after.dropWhile isBlank).takeWhile isDecimalDigit ∧
      ∃ z, s.after = z ++ t.after ∧ ',' ∉ z ∧ '(' ∉ z := by
  have hnot {c : Char} (hc : scenarios.admits c = false) {z : List Char} (hz : ∀ d ∈ z, scenarios.admits d = true) :
      c ∉ z := by
    intro hmem
    rw [hz c hmem] at hc
    cases hc
  obtain ⟨z, hz, hadmits⟩ := exists_skipped_admits h
  refine ⟨?_, z, hz.1, hnot (by decide) hadmits, hnot (by decide) hadmits⟩
  obtain ⟨m₃, ⟨m₂, ⟨m₁, ⟨m, hstart, hblanks⟩, hnumber⟩, hword⟩, hletter⟩ := h
  obtain ⟨-, rfl⟩ := reaches_lineStart.mp hstart
  obtain ⟨x, rest', hx, hblank, rfl⟩ := hblanks
  obtain ⟨hds, htakes⟩ := skipped_of_capture hnumber
  obtain ⟨rest, hafter, rfl⟩ := reaches_word.mp hword
  rw [captured_eq_of_reaches (by simp) hletter]
  show m₂.captured 1 = _
  have hdigits : ∀ c ∈ m₂.captured 1, isDecimalDigit c = true := htakes.forall_mem
  obtain ⟨d, ds, hd⟩ := List.exists_cons_of_ne_nil htakes.ne_nil
  have hfirst : isBlank d = false := not_isBlank_of_isDecimalDigit (hdigits d (by simp [hd]))
  have hspace : m₂.after = ' ' :: ("scenario".toList ++ rest) := hafter
  calc m₂.captured 1 = (m₂.captured 1 ++ m₂.after).takeWhile isDecimalDigit := by
        rw [hspace, takeWhile_until_cons hdigits (by decide)]
    _ = ((m₂.captured 1 ++ m₂.after).dropWhile isBlank).takeWhile isDecimalDigit := by
        rw [hd, List.cons_append, List.dropWhile_cons_of_neg (by simp [hfirst])]
    _ = ((x ++ (m₂.captured 1 ++ m₂.after)).dropWhile isBlank).takeWhile isDecimalDigit := by
        rw [List.dropWhile_append_of_pos hblank]
    _ = (m.after.dropWhile isBlank).takeWhile isDecimalDigit := by
        rw [hx, show rest' = m₂.captured 1 ++ m₂.after from hds.1]

theorem captured_of_behave {s t : Spot} (h : behave.pattern.Reaches s t) :
    t.captured 1 = (s.after.dropWhile isBlank).takeWhile isDecimalDigit ∧
      t.captured 2 = ((s.after.dropWhile (· != ',')).drop 2).takeWhile isDecimalDigit := by
  obtain ⟨m₃, ⟨m₂, ⟨m₁, hlead, hpassed⟩, hnumber⟩, hfailed⟩ := h
  obtain ⟨hfirst, z, hz, hcomma, -⟩ := captured_of_scenarios hlead
  obtain ⟨rest, hafter, rfl⟩ := reaches_word.mp hpassed
  obtain ⟨hds, htakes⟩ := skipped_of_capture hnumber
  obtain ⟨rest', hafter', rfl⟩ := reaches_word.mp hfailed
  refine ⟨?_, ?_⟩
  · show m₃.captured 1 = _
    rw [captured_eq_of_reaches (by simp [digits]) hnumber]
    exact hfirst
  · show m₃.captured 2 = _
    have hrest : rest = m₃.captured 2 ++ (" failed".toList ++ rest') := by
      rw [← hafter']
      exact hds.1
    have htext : s.after = z ++ " passed".toList ++ ',' :: ' ' :: (m₃.captured 2 ++ (" failed".toList ++ rest')) := by
      rw [hz, hafter, ← hrest, List.append_assoc]
      rfl
    have hlead' : ∀ c ∈ z ++ " passed".toList, (c != ',') = true := by
      apply bne_of_not_mem
      simp [hcomma]
    have hspace : " failed".toList ++ rest' = ' ' :: ("failed".toList ++ rest') := rfl
    rw [htext, List.dropWhile_append_of_pos hlead', List.dropWhile_cons_of_neg (by simp), List.drop_succ_cons,
      List.drop_one, List.tail_cons, hspace, takeWhile_until_cons htakes.forall_mem (by decide)]

theorem captured_of_cucumberJs {s t : Spot} (h : cucumberJs.pattern.Reaches s t) :
    t.captured 1 = (s.after.dropWhile isBlank).takeWhile isDecimalDigit ∧
      t.captured 2 = ((s.after.dropWhile (· != '(')).drop 1).takeWhile (· != ')') := by
  obtain ⟨m₃, ⟨m₂, ⟨m₁, hlead, hopen⟩, hbreakdown⟩, hclose⟩ := h
  obtain ⟨hfirst, z, hz, -, hbracket⟩ := captured_of_scenarios hlead
  obtain ⟨rest, hafter, rfl⟩ := reaches_word.mp hopen
  obtain ⟨hb, htakes⟩ := skipped_of_capture hbreakdown
  obtain ⟨rest', hafter', rfl⟩ := reaches_char.mp hclose
  refine ⟨?_, ?_⟩
  · show m₃.captured 1 = _
    rw [captured_eq_of_reaches (by simp) hbreakdown]
    exact hfirst
  · show m₃.captured 2 = _
    have hrest : rest = m₃.captured 2 ++ ')' :: rest' := by
      rw [← hafter']
      exact hb.1
    have htext : s.after = z ++ [' '] ++ '(' :: (m₃.captured 2 ++ ')' :: rest') := by
      rw [hz, hafter, ← hrest, List.append_assoc]
      rfl
    rw [htext]
    exact (takeWhile_enclosed (by simp [hbracket]) htakes.admits rfl).symm

/-- A blank or a colon, as they stand between the heading of jest and its numbers. -/
def isGap (c : Char) : Bool :=
  isBlank c || c == ':'

theorem takes_numbers {x : List Char} (h : (inLine ++ edge ++ word "passed" ++ edge ++ inLine).Takes x) :
    (∀ c ∈ x, notNewline c = true) ∧ 'p' ∈ x := by
  constructor
  · intro c hc
    have hadmits := h.admits c hc
    rw [notNewline, bne_iff_ne]
    rintro rfl
    exact absurd hadmits (by decide)
  · obtain ⟨s, t, ⟨m, ⟨m', ⟨m'', ⟨o, hbefore, -, rfl⟩, hword⟩, -, rfl⟩, hafter⟩, hx⟩ := h
    obtain ⟨z, hz⟩ := hbefore.exists_skipped
    obtain ⟨rest, hrest, rfl⟩ := reaches_word.mp hword
    obtain ⟨z', hz'⟩ := hafter.exists_skipped
    have htext : x ++ t.after = z ++ ("passed".toList ++ (z' ++ t.after)) := by
      rw [← hx.1, hz.1, hrest, ← hz'.1]
      rfl
    have hsame : x = z ++ ("passed".toList ++ z') := by
      have htext' : x ++ t.after = z ++ ("passed".toList ++ z') ++ t.after := by
        rw [htext]
        simp only [List.append_assoc]
      exact List.append_cancel_right htext'
    rw [hsame]
    simp

/-- **What jest captures,** gaps aside, is the rest of the line after its heading. -/
theorem gapless_of_jest {s t : Spot} (h : jest.pattern.Reaches s t) :
    (t.captured 1).dropWhile isGap =
      (((s.after.dropWhile isBlank).drop 5).dropWhile isGap).takeWhile notNewline := by
  obtain ⟨_, ⟨m₄, ⟨m₃, ⟨m₂, ⟨m₁, ⟨m, hstart, hblanks⟩, hheading⟩, hcolon⟩, hgap⟩, hnumbers⟩, hend, rfl⟩ := h
  obtain ⟨-, rfl⟩ := reaches_lineStart.mp hstart
  obtain ⟨x, rest, hx, hblank, rfl⟩ := hblanks
  obtain ⟨rest', hrest, rfl⟩ := reaches_word.mp hheading
  obtain ⟨colon, hcolon', hadmits⟩ := exists_skipped_admits hcolon
  obtain ⟨gap, hgap', hblank'⟩ := exists_skipped_admits hgap
  obtain ⟨hb, htakes⟩ := skipped_of_capture hnumbers
  obtain ⟨hclean, hmem⟩ := takes_numbers htakes
  generalize t.captured 1 = b at hb hclean hmem ⊢
  have hopening : ∀ c ∈ colon ++ gap, isGap c = true := by
    rw [List.forall_mem_append]
    constructor
    · intro c hc
      have hc' : c = ':' := by simpa [opt, char, admits] using hadmits c hc
      rw [hc']
      decide
    · intro c hc
      have hc' : isBlank c = true := by simpa [blanks1, many1, admits] using hblank' c hc
      rw [isGap, hc', Bool.true_or]
  have hkept : (b.dropWhile isGap).isEmpty = false := by
    rw [List.isEmpty_eq_false_iff]
    intro hnil
    have hall := List.takeWhile_append_dropWhile (p := isGap) (l := b)
    rw [hnil, List.append_nil] at hall
    rw [← hall] at hmem
    exact absurd (List.all_eq_true.mp List.all_takeWhile _ hmem) (by decide)
  have hstop : t.after.head?.any notNewline = false := by
    cases hafter : t.after with
    | nil => rfl
    | cons c after =>
      rw [hafter] at hend
      obtain rfl : c = '\n' := by simpa using hend
      rfl
  have hline : ((b ++ t.after).dropWhile isGap).takeWhile notNewline = b.dropWhile isGap := by
    rw [List.dropWhile_append, if_neg (by simp [hkept]),
      takeWhile_until (fun c hc => hclean c (List.dropWhile_subset _ hc)) hstop]
  have hrest' : rest' = colon ++ gap ++ (b ++ t.after) := by
    rw [← hb.1, List.append_assoc, ← hgap'.1]
    exact hcolon'.1
  have hheading' : rest = 'T' :: 'e' :: 's' :: 't' :: 's' :: rest' := hrest
  rw [hx, List.dropWhile_append_of_pos hblank, hheading', List.dropWhile_cons_of_neg (by decide)]
  show _ = (rest'.dropWhile isGap).takeWhile notNewline
  rw [hrest', List.dropWhile_append_of_pos hopening, hline]

theorem lastCount_dropWhile_isGap (label : String) (x : List Char) :
    Runner.lastCount label (x.dropWhile isGap) = Runner.lastCount label x := by
  have hgap : ∀ c ∈ x.takeWhile isGap, isDecimalDigit c = false := by
    intro c hc
    have hc' : isGap c = true := List.all_eq_true.mp List.all_takeWhile c hc
    rw [isGap, Bool.or_eq_true, beq_iff_eq] at hc'
    rcases hc' with hblank | rfl
    · exact not_isDecimalDigit_of_isBlank hblank
    · decide
  conv_rhs => rw [← List.takeWhile_append_dropWhile (p := isGap) (l := x)]
  exact (Runner.lastCount_append hgap).symm

theorem listCounts_captured (captured : Nat → List Char) :
    listCounts captured = listCounts fun _ => (captured 1).dropWhile isGap := by
  rw [listCounts, listCounts, lastCount_dropWhile_isGap, lastCount_dropWhile_isGap]

/-- Blanks in front of a text are passed over together with what is passed over anyway. -/
theorem dropWhile_dropWhile_isBlank {q : Char → Bool} (hq : ∀ c, isBlank c = true → q c = true) (x : List Char) :
    (x.dropWhile isBlank).dropWhile q = x.dropWhile q := by
  conv_rhs => rw [← List.takeWhile_append_dropWhile (p := isBlank) (l := x)]
  rw [List.dropWhile_append_of_pos]
  intro c hc
  exact hq c (List.all_eq_true.mp List.all_takeWhile c hc)

theorem bne_of_isBlank {d : Char} (hd : isBlank d = false) (c : Char) (hc : isBlank c = true) : (c != d) = true := by
  rw [bne_iff_ne]
  rintro rfl
  rw [hd] at hc
  cases hc

/-- **The counts of a summary are those of its place,** blanks in front of it aside: all ways to match it there count
the same. -/
theorem counts_unique {s : RunSummary} (hs : s ∈ [behave, cucumberJs, jest]) {a a' t t' : Spot}
    (h : s.pattern.Reaches a t) (h' : s.pattern.Reaches a' t')
    (hafter : a.after.dropWhile isBlank = a'.after.dropWhile isBlank) : s.counts t.captured = s.counts t'.captured := by
  -- What follows a mark that is no blank is the same too.
  have hmark {d : Char} (hd : isBlank d = false) : a.after.dropWhile (· != d) = a'.after.dropWhile (· != d) := by
    rw [← dropWhile_dropWhile_isBlank (bne_of_isBlank hd) a.after, hafter,
      dropWhile_dropWhile_isBlank (bne_of_isBlank hd) a'.after]
  simp only [List.mem_cons, List.not_mem_nil, or_false] at hs
  rcases hs with rfl | rfl | rfl
  · show numberCounts t.captured = numberCounts t'.captured
    obtain ⟨hfirst, hsecond⟩ := captured_of_behave h
    obtain ⟨hfirst', hsecond'⟩ := captured_of_behave h'
    rw [numberCounts, numberCounts, hfirst, hfirst', hsecond, hsecond', hafter, hmark (by decide)]
  · show totalCounts t.captured = totalCounts t'.captured
    obtain ⟨hfirst, hsecond⟩ := captured_of_cucumberJs h
    obtain ⟨hfirst', hsecond'⟩ := captured_of_cucumberJs h'
    rw [totalCounts, totalCounts, hfirst, hfirst', hsecond, hsecond', hafter, hmark (by decide)]
  · show listCounts t.captured = listCounts t'.captured
    rw [listCounts_captured, listCounts_captured t'.captured, gapless_of_jest h, gapless_of_jest h', hafter]

end RunSummary

end ScenarioAudit
