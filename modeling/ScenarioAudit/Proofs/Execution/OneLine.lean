import ScenarioAudit.Proofs.Execution.Runners
import ScenarioAudit.Proofs.Text.Lines

/-! # Summaries on one line

The summaries of behave, of cucumber-js, of jest and of pytest are lines with numbers in front of labels. Each is read
as its numbers, whatever they are: what the shape captures is the number or the list of numbers that is written there,
for pytest since a letter of its is nowhere else in the line (`captured_of_pytest`), and the first letter of a label is
nowhere else in the list.
-/

namespace ScenarioAudit

open ScenarioAudit.Text ScenarioAudit.Number Pattern

/-! ## The texts -/

namespace Runner

def behaveText (p f : ℕ) : List Char :=
  numeral p ++ " scenarios passed, ".toList ++ numeral f ++ " failed, 0 skipped".toList

def cucumberJsText (t p f : ℕ) : List Char :=
  numeral t ++ " scenarios (".toList ++ numeral p ++ " passed, ".toList ++ numeral f ++ " failed)".toList

def jestText (f p t : ℕ) : List Char :=
  "Tests: ".toList ++ numeral f ++ " failed, ".toList ++ numeral p ++ " passed, ".toList ++ numeral t ++
    " total".toList

def pytestText (f p : ℕ) : List Char :=
  "=== ".toList ++ numeral f ++ " failed, ".toList ++ numeral p ++ " passed in 0.12s ===".toList

end Runner

open Runner RunSummary

variable {p f t : ℕ} {close : List Char}

/-! ## Characters -/

theorem not_occurs_of_letters {q : Pattern} (letters : List Char) {text : List Char}
    (hq : q.possible ("0123456789".toList ++ letters) = false)
    (htext : ∀ c ∈ text, c ∈ "0123456789".toList ∨ c ∈ letters) : q.occurs text = false :=
  occurs_of_not_possible hq fun c hc => List.mem_append.mpr (htext c hc)

theorem takeWhile_numeral (n : ℕ) (rest : List Char) :
    (numeral n ++ ' ' :: rest).takeWhile isDecimalDigit = numeral n :=
  takeWhile_until_cons isDecimalDigit_of_mem_numeral (by decide)

theorem dropWhile_numeral {q : Char → Bool} (hq : ∀ d, isDecimalDigit d = true → q d = false) (n : ℕ)
    (rest : List Char) : (numeral n ++ rest).dropWhile q = numeral n ++ rest := by
  obtain ⟨d, ds, hds, hd⟩ := numeral_eq_cons n
  rw [hds, List.cons_append, List.dropWhile_cons_of_neg]
  rw [hq d hd]
  exact Bool.false_ne_true

theorem dropWhile_isBlank_numeral (n : ℕ) (rest : List Char) :
    (numeral n ++ rest).dropWhile isBlank = numeral n ++ rest :=
  dropWhile_numeral (fun _ => not_isBlank_of_isDecimalDigit) n rest

/-! ## behave -/

/-- A number of scenarios opens a summary at the start of a line. -/
theorem leadsOver_scenarios (n : ℕ) {s : Spot} (hs : ∀ c ∈ s.before.head?, c = '\n') :
    scenarios.LeadsOver (numeral n ++ " scenarios".toList) s := by
  have hnone : ∀ m, blanks.LeadsOver [] m := leadsOver_many (by simp)
  have hnumber : ∀ m, digits.LeadsOver (numeral n) m :=
    leadsOver_many1 (numeral_ne_nil n) isDecimalDigit_of_mem_numeral
  have hall : scenarios.LeadsOver _ s := ((((leadsOver_lineStart hs).append hnone).append fun m =>
    (hnumber m).capture 1).append (leadsOver_word " scenario")).append fun m => (leadsOver_word "s" m).opt
  simpa using hall

theorem read_behaveText (hp : Readable p) (hf : Readable f) :
    behave.read (behaveText p f ++ close) = .ok (some (summed p f)) := by
  have htext : behaveText p f ++ close = numeral p ++ " scenarios".toList ++ " passed, ".toList ++ numeral f ++
      " failed".toList ++ (", 0 skipped".toList ++ close) := by
    simp [behaveText]
  have hstart : ∀ c ∈ (Spot.between [] (behaveText p f ++ close)).before.head?, c = '\n' := by simp [Spot.between]
  have hnumber : ∀ m, digits.LeadsOver (numeral f) m :=
    leadsOver_many1 (numeral_ne_nil f) isDecimalDigit_of_mem_numeral
  have hall : behave.pattern.LeadsOver _ _ := (((leadsOver_scenarios p hstart).append
    (leadsOver_word " passed, ")).append fun m => (hnumber m).capture 2).append (leadsOver_word " failed")
  obtain ⟨t, ht, -⟩ := hall (", 0 skipped".toList ++ close) htext
  refine read_of_reaches rfl ht ?_
  intro t ht
  obtain ⟨hfirst, hsecond⟩ := captured_of_behave ht
  have hafter : (Spot.between [] (behaveText p f ++ close)).after = numeral p ++ ' ' ::
      ("scenarios passed, ".toList ++ (numeral f ++ ' ' :: ("failed, 0 skipped".toList ++ close))) := by
    simp [Spot.between, behaveText]
  have hcomma : ((numeral p ++ ' ' :: ("scenarios passed, ".toList ++ (numeral f ++ ' ' ::
      ("failed, 0 skipped".toList ++ close)))).dropWhile (· != ',')).drop 2 = numeral f ++ ' ' ::
      ("failed, 0 skipped".toList ++ close) := by
    have hlead : ∀ c ∈ numeral p, (c != ',') = true := bne_of_not_mem (not_mem_numeral (by decide))
    rw [List.dropWhile_append_of_pos hlead]
    rfl
  rw [hafter, dropWhile_isBlank_numeral, takeWhile_numeral] at hfirst
  rw [hafter, hcomma, takeWhile_numeral] at hsecond
  show numberCounts t.captured = _
  rw [numberCounts, hfirst, hsecond, Grammar.numberOf_numeral hp, Grammar.numberOf_numeral hf]
  rfl

/-! ## cucumber-js -/

theorem lastCount_passed (hp : Readable p) {x rest : List Char} (hx : 'p' ∉ x)
    (hlast : ∀ c ∈ x.getLast?, isDecimalDigit c = false) (hrest : 'p' ∉ rest) :
    lastCount "passed" (x ++ (numeral p ++ ' ' :: ("passed".toList ++ rest))) = .ok p :=
  lastCount_eq (show "passed".toList = 'p' :: "assed".toList from rfl) hp (by decide) hx hlast hrest

theorem lastCount_failed (hf : Readable f) {x rest : List Char} (hx : 'f' ∉ x)
    (hlast : ∀ c ∈ x.getLast?, isDecimalDigit c = false) (hrest : 'f' ∉ rest) :
    lastCount "failed" (x ++ (numeral f ++ ' ' :: ("failed".toList ++ rest))) = .ok f :=
  lastCount_eq (show "failed".toList = 'f' :: "ailed".toList from rfl) hf (by decide) hx hlast hrest

theorem read_cucumberJsText (ht : Readable t) (hp : Readable p) (hf : Readable f) :
    cucumberJs.read (cucumberJsText t p f ++ close) = .ok (some { passed := p, failed := f, total := t }) := by
  let b := numeral p ++ " passed, ".toList ++ numeral f ++ " failed".toList
  have htext : cucumberJsText t p f ++ close =
      numeral t ++ " scenarios".toList ++ " (".toList ++ b ++ [')'] ++ close := by
    simp [cucumberJsText, b]
  have hb : ')' ∉ b := by
    simp [b, not_mem_numeral]
  have hstart : ∀ c ∈ (Spot.between [] (cucumberJsText t p f ++ close)).before.head?, c = '\n' := by
    simp [Spot.between]
  have hall : cucumberJs.pattern.LeadsOver _ _ := (((leadsOver_scenarios t hstart).append
    (leadsOver_word " (")).append fun m => (leadsOver_many (bne_of_not_mem hb) m).capture 2).append
    (leadsOver_char ')')
  obtain ⟨o, ho, -⟩ := hall close htext
  refine read_of_reaches rfl ho ?_
  intro o ho
  obtain ⟨hfirst, hsecond⟩ := captured_of_cucumberJs ho
  have hafter : (Spot.between [] (cucumberJsText t p f ++ close)).after =
      numeral t ++ ' ' :: ("scenarios (".toList ++ b ++ ')' :: close) := by
    simp [Spot.between, cucumberJsText, b]
  have hbracket : numeral t ++ ' ' :: ("scenarios (".toList ++ b ++ ')' :: close) =
      numeral t ++ " scenarios ".toList ++ '(' :: (b ++ ')' :: close) := by
    simp
  have hlead : '(' ∉ numeral t ++ " scenarios ".toList := by
    simp [not_mem_numeral]
  rw [hafter, dropWhile_isBlank_numeral, takeWhile_numeral] at hfirst
  rw [hafter, hbracket, takeWhile_enclosed hlead (bne_of_not_mem hb) rfl] at hsecond
  have hpassed : lastCount "passed" b = .ok (p : Int) := by
    have hrest : 'p' ∉ ", ".toList ++ numeral f ++ " failed".toList := by simp [not_mem_numeral]
    simpa [b] using lastCount_passed hp (x := []) (by simp) (by simp) hrest
  have hfailed : lastCount "failed" b = .ok (f : Int) := by
    have hx : 'f' ∉ numeral p ++ " passed, ".toList := by simp [not_mem_numeral]
    have hlast : ∀ c ∈ (numeral p ++ " passed, ".toList).getLast?, isDecimalDigit c = false := by
      simp
      decide
    simpa [b] using lastCount_failed hf hx hlast List.not_mem_nil
  show totalCounts o.captured = _
  rw [totalCounts, hfirst, hsecond, hpassed, hfailed, Grammar.numberOf_numeral ht]
  rfl

/-- The summary of cucumber-js is none of behave: the bracket comes before the comma. -/
theorem not_occurs_behave_cucumberJsText (hclose : close = [] ∨ close = ['\n']) :
    behave.pattern.occurs (cucumberJsText t p f ++ close) = false := by
  have hclean : '\n' ∉ cucumberJsText t p f := by
    simp [cucumberJsText, not_mem_numeral]
  refine occurs_of_line (fromLineStart_of_mem (by simp [RunSummary.all])) (by decide) hclean hclose ?_
  rintro o ⟨m₃, ⟨m₂, ⟨m₁, hlead, hpassed⟩, -⟩, -⟩
  obtain ⟨-, z, hz, -, hbracket⟩ := captured_of_scenarios hlead
  obtain ⟨rest, hafter, -⟩ := reaches_word.mp hpassed
  let breakdown := numeral p ++ " passed, ".toList ++ numeral f ++ " failed)".toList ++ close
  have htext : z ++ m₁.after = (numeral t ++ " scenarios ".toList) ++ '(' :: breakdown := by
    rw [← hz]
    simp [Spot.between, cucumberJsText, breakdown]
  obtain ⟨x, hx, hm₁⟩ := exists_append_of_not_mem htext hbracket
  rw [hafter] at hm₁
  obtain ⟨y, rfl, -⟩ := exists_append_of_not_mem hm₁ (by decide)
  -- The word of behave would be in front of the bracket.
  have hmem : 'd' ∈ numeral t ++ " scenarios ".toList := by
    rw [hx]
    simp
  exact absurd hmem (by simp [not_mem_numeral])

/-! ## jest -/

/-- A list with the word between other characters is what jest and pytest capture. -/
theorem exists_reaches_numbers {q : Pattern} {x y rest : List Char} (hq : ∀ s, q.LeadsOver "passed".toList s)
    (hx : ∀ c ∈ x, notNewline c = true) (hy : ∀ c ∈ y, notNewline c = true)
    (hrest : (y ++ rest).head?.any isWordChar = false) {s : Spot}
    (hs : s.after = x ++ [' '] ++ ("passed".toList ++ (y ++ rest))) :
    ∃ t, (inLine ++ edge ++ q ++ edge ++ inLine).Reaches s t ∧ t.after = rest := by
  have hx' : ∀ c ∈ x ++ [' '], notNewline c = true := by
    rw [List.forall_mem_append]
    exact ⟨hx, by decide⟩
  let m := s.skip (x ++ [' ']) ("passed".toList ++ (y ++ rest))
  obtain ⟨m', hm', hafter⟩ := hq m (y ++ rest) rfl
  obtain ⟨z, hz⟩ := hm'.exists_skipped
  obtain rfl : z = "passed".toList := by
    have hword : m.after = "passed".toList ++ m'.after := congrArg ("passed".toList ++ ·) hafter.symm
    exact List.append_cancel_right (hz.1.symm.trans hword)
  have hopen : isEdge m.before m.after = true := by
    have hbefore : m.before = ' ' :: (x.reverse ++ s.before) := by simp [m, Spot.skip]
    rw [hbefore]
    rfl
  have hclose : isEdge m'.before m'.after = true := by
    rw [hz.2.1, hafter, isEdge, hrest]
    rfl
  exact ⟨m'.skip y rest, ⟨m', ⟨m', ⟨m, ⟨m, ⟨x ++ [' '], _, hs, hx', rfl⟩, reaches_edge.mpr ⟨hopen, rfl⟩⟩, hm'⟩,
    reaches_edge.mpr ⟨hclose, rfl⟩⟩, y, rest, hafter, hy, rfl⟩, rfl⟩

theorem listCounts_failedFirst (hf : Readable f) (hp : Readable p) {rest : List Char} (hp' : 'p' ∉ rest)
    (hf' : 'f' ∉ rest) {captured : Nat → List Char}
    (h : captured 1 = numeral f ++ " failed, ".toList ++ numeral p ++ " passed".toList ++ rest) :
    listCounts captured = .ok (summed p f) := by
  have hpassed : lastCount "passed" (captured 1) = .ok (p : Int) := by
    have hx : 'p' ∉ numeral f ++ " failed, ".toList := by simp [not_mem_numeral]
    have hlast : ∀ c ∈ (numeral f ++ " failed, ".toList).getLast?, isDecimalDigit c = false := by
      simp
      decide
    rw [h]
    simpa using lastCount_passed hp hx hlast hp'
  have hfailed : lastCount "failed" (captured 1) = .ok (f : Int) := by
    have hrest : 'f' ∉ ", ".toList ++ numeral p ++ " passed".toList ++ rest := by simp [not_mem_numeral, hf']
    rw [h]
    simpa using lastCount_failed hf (x := []) (by simp) (by simp) hrest
  rw [listCounts, hpassed, hfailed]
  rfl

theorem read_jestText (hf : Readable f) (hp : Readable p) (hclose : close = [] ∨ close = ['\n']) :
    jest.read (jestText f p t ++ close) = .ok (some (summed p f)) := by
  let b := numeral f ++ " failed, ".toList ++ numeral p ++ " passed".toList ++ (", ".toList ++ numeral t ++
    " total".toList)
  have hb : ∀ c ∈ b, notNewline c = true := notNewline_of_not_mem (by simp [b, not_mem_numeral])
  have htext : (Spot.between [] (jestText f p t ++ close)).after = "Tests: ".toList ++ (b ++ close) := by
    unfold jestText
    simp [Spot.between, b]
  have hstart : ∀ c ∈ (Spot.between [] (jestText f p t ++ close)).before.head?, c = '\n' := by simp [Spot.between]
  have hnone : ∀ m, blanks.LeadsOver [] m := leadsOver_many (by simp)
  have hgap : ∀ m, blanks1.LeadsOver [' '] m := leadsOver_many1 (by simp) (by decide)
  have hheading := ((((leadsOver_lineStart hstart).append hnone).append (leadsOver_word "Tests")).append fun m =>
    (leadsOver_char ':' m).opt).append hgap
  obtain ⟨m, hm, hafter⟩ := hheading (b ++ close) (by simpa using htext)
  have hstop : (", ".toList ++ numeral t ++ " total".toList ++ close).head?.any isWordChar = false := rfl
  obtain ⟨m', hm', hrest⟩ := exists_reaches_numbers (x := numeral f ++ " failed, ".toList ++ numeral p)
    (leadsOver_word "passed") (notNewline_of_not_mem (by simp [not_mem_numeral]))
    (notNewline_of_not_mem (by simp [not_mem_numeral])) hstop (s := m) (by simp [hafter, b])
  have hend : m'.after.head?.all (· == '\n') = true := by
    rw [hrest]
    rcases hclose with rfl | rfl
    · rfl
    · rfl
  have hall : jest.pattern.Reaches (.between [] (jestText f p t ++ close)) _ := ⟨_, ⟨m, hm, m', hm', rfl⟩, hend, rfl⟩
  refine read_of_reaches rfl hall ?_
  intro o ho
  -- What is captured is the list, gaps aside.
  have hkept : (b ++ close).dropWhile isGap = b ++ close := by
    have hdigit : ∀ d, isDecimalDigit d = true → isGap d = false := by
      intro d hd
      rw [isGap, not_isBlank_of_isDecimalDigit hd, Bool.false_or, beq_eq_false_iff_ne]
      rintro rfl
      exact absurd hd (by decide)
    simp only [b, List.append_assoc]
    exact dropWhile_numeral hdigit f _
  have hline : (b ++ close).takeWhile notNewline = b := by
    apply takeWhile_until hb
    rcases hclose with rfl | rfl
    · rfl
    · rfl
  have hgapless := gapless_of_jest ho
  have hdrop : (("Tests: ".toList ++ (b ++ close)).dropWhile isBlank).drop 5 = ':' :: ' ' :: (b ++ close) := rfl
  have hcolon : (':' :: ' ' :: (b ++ close)).dropWhile isGap = (b ++ close).dropWhile isGap := rfl
  rw [htext, hdrop, hcolon, hkept, hline] at hgapless
  show listCounts o.captured = _
  rw [listCounts_captured]
  exact listCounts_failedFirst hf hp (by simp [not_mem_numeral]) (by simp [not_mem_numeral]) hgapless

/-! ## pytest -/

/-- A character that is neither in one front nor in the other rest is in the same place. -/
theorem append_cons_inj {a b a' b' : List Char} {d : Char} (h : a ++ d :: b = a' ++ d :: b') (ha' : d ∉ a')
    (hb' : d ∉ b') : a = a' ∧ b = b' := by
  obtain ⟨x, rfl, hx⟩ := exists_append_of_not_mem h.symm ha'
  cases x with
  | nil => simpa using hx.symm
  | cons c x =>
    obtain ⟨-, hrest⟩ := List.cons.inj hx
    exact absurd (by simp [hrest]) hb'

/-- What pytest captures is what is between the bar and the time, if the letter n is in the word between them only. -/
theorem captured_of_pytest {bar x rest : List Char} (hbar : ∀ c ∈ bar, (c == '=') = true) (hx : 'n' ∉ x)
    (hrest : 'n' ∉ rest) {s o : Spot} (hs : s.after = bar ++ ' ' :: (x ++ " in ".toList ++ rest))
    (h : pytest.pattern.Reaches s o) : o.captured 1 = x ∧ 'n' ∉ o.after := by
  obtain ⟨m₅, ⟨m₄, ⟨m₃, ⟨m₂, ⟨m₁, ⟨m, hstart, heqs⟩, hspace⟩, hlist⟩, hin⟩, htime⟩, hunit⟩ := h
  obtain ⟨-, rfl⟩ := reaches_lineStart.mp hstart
  obtain ⟨bar', hbar', hadmits⟩ := exists_skipped_admits heqs
  obtain ⟨rest₁, hafter₁, rfl⟩ := reaches_char.mp hspace
  obtain ⟨hb, -⟩ := skipped_of_capture hlist
  obtain ⟨rest₃, hafter₃, rfl⟩ := reaches_word.mp hin
  have hsame : bar = bar' ∧ x ++ " in ".toList ++ rest = rest₁ := by
    have htext : bar ++ ' ' :: (x ++ " in ".toList ++ rest) = bar' ++ ' ' :: rest₁ := by
      rw [← hs, ← hafter₁]
      exact hbar'.1
    have hadmits' : ∀ c ∈ bar', (c == '=') = true := by simpa [many1, admits] using hadmits
    obtain ⟨hbars, -, hlists⟩ := until_cons_inj hbar hadmits' (by decide) (by decide) htext
    exact ⟨hbars, hlists⟩
  have htext : (m₃.captured 1 ++ " i".toList) ++ 'n' :: (' ' :: rest₃) =
      (x ++ " i".toList) ++ 'n' :: (' ' :: rest) := by
    have hlist' : rest₁ = m₃.captured 1 ++ (" in ".toList ++ rest₃) := by
      rw [← hafter₃]
      exact hb.1
    rw [← hsame.2] at hlist'
    simpa using hlist'.symm
  obtain ⟨hcaptured, htail⟩ := append_cons_inj htext (by simp [hx]) (by simp [hrest])
  obtain rfl : rest₃ = rest := (List.cons.inj htail).2
  constructor
  · rw [captured_eq_of_reaches (by simp) hunit, captured_eq_of_reaches (by simp) htime]
    exact List.append_cancel_right hcaptured
  · obtain ⟨u, hu⟩ := htime.exists_skipped
    obtain ⟨v, hv⟩ := hunit.exists_skipped
    intro hmem
    refine hrest ?_
    have hafter : rest₃ = u ++ (v ++ o.after) := by
      rw [← hv.1]
      exact hu.1
    rw [hafter]
    simp [hmem]

theorem needs_pytest : Needs 'n' pytest.pattern := by
  rintro s t ⟨m, ⟨m', ⟨m'', hlist, hin⟩, -⟩, -⟩
  obtain ⟨u, hu⟩ := hlist.exists_skipped
  obtain ⟨rest, hrest, -⟩ := reaches_word.mp hin
  rw [hu.1, hrest]
  simp

def pytestList (f p : ℕ) : List Char :=
  numeral f ++ " failed, ".toList ++ numeral p ++ " passed".toList

theorem after_pytestText : (Spot.between [] (pytestText f p ++ close)).after =
    "===".toList ++ ' ' :: (pytestList f p ++ " in ".toList ++ ("0.12s ===".toList ++ close)) := by
  unfold pytestText pytestList
  simp [Spot.between]

theorem exists_reaches_pytestText : ∃ o, pytest.pattern.Reaches (.between [] (pytestText f p ++ close)) o := by
  have hstart : ∀ c ∈ (Spot.between [] (pytestText f p ++ close)).before.head?, c = '\n' := by simp [Spot.between]
  have hbar : ∀ m, (many1 (· == '=')).LeadsOver "===".toList m := leadsOver_many1 (by decide) (by decide)
  have htime : ∀ o, (many1 fun c => isDecimalDigit c || c == '.').LeadsOver "0.12".toList o :=
    leadsOver_many1 (by decide) (by decide)
  have hword : ∀ o, (oneOf ["passed", "failed"]).LeadsOver "passed".toList o := leadsOver_oneOf (by simp)
  have hopening := ((leadsOver_lineStart hstart).append hbar).append (leadsOver_char ' ')
  obtain ⟨m, hm, hafter⟩ := hopening (pytestList f p ++ " in ".toList ++ ("0.12s ===".toList ++ close))
    (by simpa using after_pytestText)
  have hlist : m.after = numeral f ++ " failed, ".toList ++ numeral p ++ [' '] ++
      ("passed".toList ++ ([] ++ (" in 0.12s ===".toList ++ close))) := by simp [hafter, pytestList]
  obtain ⟨m', hm', hafter'⟩ :=
    exists_reaches_numbers hword (notNewline_of_not_mem (by simp [not_mem_numeral])) (List.forall_mem_nil _) rfl hlist
  let caught : Spot := { m' with captures := (1, ⟨m.after, m'.position - m.position⟩) :: m'.captures }
  have hclosing := ((leadsOver_word " in " caught).append htime).append (leadsOver_char 's')
  obtain ⟨o, ⟨m₂, ⟨m₁, hin, htime'⟩, hunit⟩, -⟩ := hclosing (" ===".toList ++ close) (by simpa using hafter')
  exact ⟨o, m₂, ⟨m₁, ⟨caught, ⟨m, hm, m', hm', rfl⟩, hin⟩, htime'⟩, hunit⟩

theorem read_pytestText (hf : Readable f) (hp : Readable p) (hclose : close = [] ∨ close = ['\n']) :
    pytest.read (pytestText f p ++ close) = .ok (some (summed p f)) := by
  have hclose' : 'n' ∉ close := by
    rcases hclose with rfl | rfl
    · simp
    · simp
  have hmatch : (pytest.pattern.matchAt (Spot.start (pytestText f p ++ close))).isSome :=
    matchAt_isSome.mpr exists_reaches_pytestText
  obtain ⟨first, hfirst⟩ := Option.isSome_iff_exists.mp hmatch
  obtain ⟨hplace, hreaches⟩ := reaches_of_matchAt hfirst
  -- The match at the start is the only one, since the letter n does not come again.
  obtain ⟨hlist, hafter⟩ := captured_of_pytest (by decide) (by simp [pytestList, not_mem_numeral])
    (by simp [hclose']) after_pytestText hreaches
  have hlt : first.start.position < first.stop.position := by
    obtain ⟨z, hz⟩ := hreaches.exists_skipped
    rw [hplace, hz.2.2]
    apply Nat.lt_add_of_pos_right
    apply List.length_pos_of_ne_nil
    rintro rfl
    apply hafter
    rw [← show _ = first.stop.after from hz.1]
    show 'n' ∈ (Spot.between [] (pytestText f p ++ close)).after
    rw [after_pytestText]
    simp
  have hone : pytest.deciding? (pytestText f p ++ close) = some first := by
    have hall : pytest.pattern.findAll (pytestText f p ++ close) = [first] :=
      allAfter_singleton (findAfter_of_matchAt hfirst) hlt (findAfter_of_needs needs_pytest hafter)
    show (pytest.pattern.findAll (pytestText f p ++ close)).getLast? = _
    rw [hall]
    rfl
  have hcounts : listCounts first.captured = .ok (summed p f) :=
    listCounts_failedFirst hf hp (by simp) (by simp) (hlist.trans (List.append_nil _).symm)
  rw [RunSummary.read, hone]
  show (listCounts first.captured).map some = _
  rw [hcounts]
  rfl

end ScenarioAudit
