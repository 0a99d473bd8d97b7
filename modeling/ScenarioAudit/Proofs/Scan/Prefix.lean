import ScenarioAudit.Proofs.Scan.Stripping
import ScenarioAudit.Proofs.Text.Lines
import ScenarioAudit.Scan.Body

/-! # The front of a body

What a reader of source text has to remember at the end of a piece is its mode (`modeAfter`). A piece that ends outside
strings and block comments is read in the same way whatever stands on the lines below it (`markFrom_append_feed`), so its
lines stay the first lines of the whole, each with the nesting that it had (`braceLines_isPrefix`).
-/

namespace ScenarioAudit

open ScenarioAudit.Text

namespace Scan

variable {quotes : List Char}

/-- Where a reader is after a piece of text. -/
def modeAfter (quotes : List Char) : Mode → List Char → Mode
  | mode, [] => mode
  | .code, c :: s =>
    if quotes.contains c then
      modeAfter quotes (.quoted c) s
    else
      match c, s with
      | '/', '/' :: t => modeAfter quotes .lineComment t
      | '/', '*' :: t => modeAfter quotes .blockComment t
      | _c, s => modeAfter quotes .code s
  | .quoted q, c :: s =>
    if c = '\\' ∧ q ≠ backquote then
      match s with
      | [] => .quoted q
      | _d :: t => modeAfter quotes (.quoted q) t
    else if c = q then
      modeAfter quotes .code s
    else if c = '\n' ∧ q ≠ backquote then
      modeAfter quotes (feedMode quotes) s
    else
      modeAfter quotes (.quoted q) s
  | .lineComment, c :: s =>
    if c = '\n' then modeAfter quotes (feedMode quotes) s else modeAfter quotes .lineComment s
  | .blockComment, c :: s =>
    match c, s with
    | '*', '/' :: t => modeAfter quotes .code t
    | _c, s => modeAfter quotes .blockComment s

def Mode.EndsWithLine : Mode → Prop
  | .code | .lineComment => True
  | .quoted _ | .blockComment => False

/-- A text that ends neither inside a string nor inside a block comment. -/
def EndsOutside (quotes text : List Char) : Prop :=
  modeAfter quotes .code text ≠ .blockComment ∧ ∀ q, modeAfter quotes .code text ≠ .quoted q

theorem EndsOutside.endsWithLine {text : List Char} (h : EndsOutside quotes text) :
    (modeAfter quotes .code text).EndsWithLine := by
  obtain ⟨hblock, hquoted⟩ := h
  cases hmode : modeAfter quotes .code text with
  | code => trivial
  | lineComment => trivial
  | blockComment => exact hblock hmode
  | quoted q => exact hquoted q hmode

/-! ## What stands behind -/

/-- A text that goes on with another one starts as it did, except for what follows its end. -/
theorem head?_append_ne {s t : List Char} {c : Char} (hs : s.head? ≠ some c) (ht : t.head? ≠ some c) :
    (s ++ t).head? ≠ some c := by
  cases s with
  | nil => exact ht
  | cons d s => exact hs

/-- **A text is read on from where the reader is at its end**, unless it ends within a string or what comes next makes a
pair with its last character. -/
theorem markFrom_append {mode : Mode} {s t : List Char} (h : ∀ q, modeAfter quotes mode s ≠ .quoted q)
    (ht : t.head? ≠ some '/' ∧ t.head? ≠ some '*') :
    markFrom quotes mode (s ++ t) = markFrom quotes mode s ++ markFrom quotes (modeAfter quotes mode s) t := by
  fun_induction modeAfter quotes mode s with
  | case1 mode => simp [markFrom]
  | case2 c s hc ih =>
    have hmem : c ∈ quotes := by simpa using hc
    rw [List.cons_append, markFrom_quote hmem, markFrom_quote hmem, ih h, List.cons_append]
  | case3 s hc ih => simp [markFrom, ih h, show '/' ∉ quotes by simpa using hc]
  | case4 s hc ih => simp [markFrom, ih h, show '/' ∉ quotes by simpa using hc]
  | case5 c s hline hblock hc ih =>
    have hmem : c ∉ quotes := by simpa using hc
    have hnone (d : Char) (hd : ∀ s', c = '/' → s = d :: s' → False) (hslash : c = '/') : s.head? ≠ some d := by
      intro hhead
      obtain ⟨s', hs'⟩ := List.head?_eq_some_iff.mp hhead
      exact hd s' hslash hs'
    have hopens : c = '/' → s.head? ≠ some '/' ∧ s.head? ≠ some '*' := fun hslash =>
      ⟨hnone '/' hline hslash, hnone '*' hblock hslash⟩
    rw [List.cons_append, markFrom_code hmem hopens, markFrom_code hmem, ih h, List.cons_append]
    intro hslash
    exact ⟨head?_append_ne (hopens hslash).1 ht.1, head?_append_ne (hopens hslash).2 ht.2⟩
  | case6 q c hc => exact absurd rfl (h q)
  | case7 q c hc d s ih => simp [markFrom, ih h, hc]
  | case8 c s hc ih =>
    rw [List.cons_append, markFrom_quoted hc, markFrom_quoted hc, if_pos rfl, if_pos rfl, ih h, List.cons_append]
  | case9 q c s hc hq hfeed ih =>
    rw [List.cons_append, markFrom_quoted hc, markFrom_quoted hc, if_neg hq, if_neg hq, if_pos hfeed, if_pos hfeed,
      ih h, List.cons_append]
  | case10 q c s hc hq hfeed ih =>
    rw [List.cons_append, markFrom_quoted hc, markFrom_quoted hc, if_neg hq, if_neg hq, if_neg hfeed, if_neg hfeed,
      ih h, List.cons_append]
  | case11 s ih => simp [markFrom, ih h]
  | case12 c s hc ih => simp [markFrom, ih h, hc]
  | case13 s ih => simp [markFrom, ih h]
  | case14 c s hc ih =>
    have hopens : c = '*' → s.head? ≠ some '/' := by
      intro hstar hhead
      obtain ⟨s', hs'⟩ := List.head?_eq_some_iff.mp hhead
      exact hc s' hstar hs'
    rw [List.cons_append, markFrom_blockComment hopens, markFrom_blockComment, ih h, List.cons_append]
    intro hstar
    exact head?_append_ne (hopens hstar) ht.1

/-- **What stands below a line does not change how it is read**, unless the line ends inside of something. -/
theorem markFrom_append_feed (hquotes : '\n' ∉ quotes) {mode : Mode} {s : List Char}
    (h : (modeAfter quotes mode s).EndsWithLine) (t : List Char) :
    markFrom quotes mode (s ++ '\n' :: t) = markFrom quotes mode s ++ ⟨'\n', .code⟩ :: markFrom quotes .code t := by
  have hquoted : ∀ q, modeAfter quotes mode s ≠ .quoted q := by
    intro q hq
    rw [hq] at h
    exact h
  rw [markFrom_append hquoted (by simp)]
  congr 1
  cases hmode : modeAfter quotes mode s with
  | code => rw [markFrom_code hquotes fun h => absurd h (by decide)]
  | lineComment => rw [markFrom, if_pos rfl, feedPart_of_not_mem hquotes, feedMode_of_not_mem hquotes]
  | quoted q => exact absurd hmode (hquoted q)
  | blockComment =>
    rw [hmode] at h
    exact h.elim

/-- A text that ends outside is left as it is by what stands on the lines below it. -/
theorem withoutComments_append_feed (hquotes : '\n' ∉ quotes) {s : List Char} (h : EndsOutside quotes s)
    (t : List Char) :
    withoutComments quotes (s ++ '\n' :: t) = withoutComments quotes s ++ '\n' :: withoutComments quotes t := by
  rw [withoutComments_eq, withoutComments_eq, withoutComments_eq, mark, markFrom_append_feed hquotes h.endsWithLine,
    bare_append, bare_cons_code]
  rfl

end Scan

namespace Text

theorem splitLines_isPrefix (s t : List Char) : splitLines s <+: splitLines (s ++ '\n' :: t) := by
  induction s using splitLines.induct with
  | case1 => exact List.nil_prefix
  | case2 s ih =>
    simp only [List.cons_append, splitLines]
    exact List.cons_prefix_cons.mpr ⟨rfl, ih⟩
  | case3 c s hcrlf hbreak ih =>
    have hhead : c = '\r' → s.head? ≠ some '\n' := by
      intro hc hfeed
      obtain ⟨s', hs'⟩ := List.head?_eq_some_iff.mp hfeed
      exact hcrlf s' hc hs'
    rw [splitLines_break hbreak hhead, List.cons_append]
    by_cases hreturn : c = '\r' ∧ s = []
    · obtain ⟨rfl, rfl⟩ := hreturn
      simp [splitLines]
    · rw [splitLines_break hbreak]
      · exact List.cons_prefix_cons.mpr ⟨rfl, ih⟩
      · intro hc
        cases s with
        | nil => exact absurd ⟨hc, rfl⟩ hreturn
        | cons d s => exact hhead hc
  | case4 c s hcrlf hbreak hnil ih =>
    obtain rfl : s = [] := Classical.byContradiction fun hne => splitLines_ne_nil hne hnil
    rw [Bool.not_eq_true] at hbreak
    rw [List.cons_append, splitLines_char hbreak, splitLines_char hbreak, List.nil_append, splitLines_feed]
    exact ⟨splitLines t, rfl⟩
  | case5 c s hcrlf hbreak l ls hcons ih =>
    rw [Bool.not_eq_true] at hbreak
    obtain ⟨rest, hrest⟩ := ih
    rw [hcons, List.cons_append] at hrest
    rw [List.cons_append, splitLines_char hbreak, splitLines_char hbreak, hcons, ← hrest]
    exact ⟨rest, rfl⟩

end Text

namespace Scan

variable {quotes : List Char}

theorem levelled_isPrefix {ls ls' : List (List Char)} (h : ls <+: ls') (depth : Nat) :
    levelled quotes depth ls <+: levelled quotes depth ls' := by
  obtain ⟨rest, rfl⟩ := h
  induction ls generalizing depth with
  | nil => exact List.nil_prefix
  | cons l ls ih => exact List.cons_prefix_cons.mpr ⟨rfl, ih _⟩

/-- **The lines of a body that ends outside stay the first lines of the body that goes on below it.** -/
theorem braceLines_isPrefix (hquotes : '\n' ∉ quotes) {s : List Char} (h : EndsOutside quotes s) (t : List Char) :
    braceLines quotes s <+: braceLines quotes (s ++ '\n' :: t) := by
  unfold braceLines
  rw [withoutComments_append_feed hquotes h]
  exact levelled_isPrefix (splitLines_isPrefix _ _) 0

end Scan

end ScenarioAudit
