import ScenarioAudit.Proofs.Pattern.Absence
import ScenarioAudit.Proofs.Quality.Plain
import ScenarioAudit.Proofs.Text.Lines
import ScenarioAudit.Scan.Languages

/-! # Lines of plain statements

The line of a plain statement opens with a word (`PlainStatement.opening`), and a pattern that looks for words at the
start of a line finds that one only (`startsAt_startsWithWord`). So the scanner sees where a body is left
(`PlainStatement.isTerminal_line`).
-/

namespace ScenarioAudit

open ScenarioAudit.Text ScenarioAudit.Syntax Pattern Scan

namespace Scan

/-! ## Letters of names -/

structure Letter (c : Char) : Prop where
  word : isWordChar c = true
  blank : isBlank c = false
  separator : isSeparator c = false
  mark : c ∉ ['"', '\'', '(', ')', '.', '=', '@', '#', ':', '\n', ',']

instance (c : Char) : Decidable (Letter c) :=
  decidable_of_iff (isWordChar c = true ∧ isBlank c = false ∧ isSeparator c = false ∧
      c ∉ ['"', '\'', '(', ')', '.', '=', '@', '#', ':', '\n', ','])
    ⟨fun h => ⟨h.1, h.2.1, h.2.2.1, h.2.2.2⟩, fun h => ⟨h.word, h.blank, h.separator, h.mark⟩⟩

theorem letter_of_nameLetter {c : Char} (h : isNameLetter c = true) : Letter c := by
  have hall : ∀ n < 128, isNameLetter (Char.ofNat n) = true → Letter (Char.ofNat n) := by decide +kernel
  have hchar := hall c.toNat (nameLetter_ascii h)
  rw [Char.ofNat_toNat] at hchar
  exact hchar h

/-! ## The word that a line opens with -/

/-- A line is a word and a rest that does not go on with it. -/
structure OpensWith (word rest : List Char) : Prop where
  word : ∀ c ∈ word, isWordChar c = true
  rest : rest.head?.any isWordChar = false

theorem OpensWith.unique {a b r r' : List Char} (h : OpensWith a r) (h' : OpensWith b r') (heq : a ++ r = b ++ r') :
    a = b ∧ r = r' := by
  have htake {a r : List Char} (h : OpensWith a r) : (a ++ r).takeWhile isWordChar = a := by
    rw [List.takeWhile_append_of_pos h.word]
    cases r with
    | nil => exact List.append_nil a
    | cons c r =>
      have hc : ¬ isWordChar c = true := by simpa using h.rest
      rw [List.takeWhile_cons_of_neg hc, List.append_nil]
  have hab : a = b := by rw [← htake h, heq, htake h']
  subst hab
  exact ⟨rfl, List.append_cancel_left heq⟩

def AreWords (ws : List String) : Prop :=
  ∀ w ∈ ws, w.toList ≠ [] ∧ ∀ c ∈ w.toList, isWordChar c = true

theorem fromStart_startsWithWord (ws : List String) : FromStart (startsWithWord ws) :=
  (fromStart_textStart.append _).append _

theorem reaches_startsWithWord {ws : List String} (hws : AreWords ws) {word rest : List Char}
    (h : OpensWith word rest) :
    (∃ t, (startsWithWord ws).Reaches (.between [] (word ++ rest)) t) ↔ ∃ w ∈ ws, w.toList = word := by
  have hlast {w : String} (hw : w ∈ ws) : (w.toList.reverse ++ []).head?.any isWordChar = true := by
    obtain ⟨hne, hall⟩ := hws w hw
    rw [List.append_nil, List.head?_reverse, List.getLast?_eq_some_getLast hne]
    exact hall _ (List.getLast_mem hne)
  constructor
  · rintro ⟨t, m, ⟨m', hstart, hone⟩, hedge⟩
    obtain ⟨-, rfl⟩ := reaches_textStart.mp hstart
    obtain ⟨w, hw, rest', hafter, rfl⟩ := reaches_oneOf.mp hone
    obtain ⟨hedge, -⟩ := reaches_edge.mp hedge
    have hnot : rest'.head?.any isWordChar = false := by
      have hsides : ((w.toList.reverse ++ []).head?.any isWordChar != rest'.head?.any isWordChar) = true := hedge
      rw [hlast hw] at hsides
      simpa using hsides
    exact ⟨w, hw, (OpensWith.unique ⟨(hws w hw).2, hnot⟩ h hafter.symm).1⟩
  · rintro ⟨w, hw, rfl⟩
    refine ⟨_, _, ⟨_, reaches_textStart.mpr ⟨rfl, rfl⟩, reaches_oneOf.mpr ⟨w, hw, rest, rfl, rfl⟩⟩,
      reaches_edge.mpr ⟨?_, rfl⟩⟩
    show ((w.toList.reverse ++ []).head?.any isWordChar != rest.head?.any isWordChar) = true
    rw [hlast hw, h.rest]
    rfl

theorem occurs_startsWithWord {ws : List String} (hws : AreWords ws) {word rest : List Char} (h : OpensWith word rest) :
    (startsWithWord ws).occurs (word ++ rest) = true ↔ ∃ w ∈ ws, w.toList = word := by
  rw [occurs_fromStart (fromStart_startsWithWord ws), reaches_startsWithWord hws h]

theorem startsAt_startsWithWord {ws : List String} (hws : AreWords ws) {word rest : List Char}
    (h : OpensWith word rest) : (startsWithWord ws).startsAt (word ++ rest) = true ↔ ∃ w ∈ ws, w.toList = word := by
  rw [startsAt_iff, reaches_startsWithWord hws h]

/-! ## How plain statements open -/

end Scan

theorem PlainName.letter (x : PlainName) : ∀ c ∈ x.chars, Letter c :=
  fun c hc => letter_of_nameLetter (x.letters c hc)

theorem PlainName.ne_keyword (x : PlainName) {w : String} (hw : w ∈ Syntax.keywords) : w.toList ≠ x.chars := by
  intro heq
  refine x.free ?_
  rwa [← heq, String.ofList_toList]

theorem PlainName.ne_nil (x : PlainName) : x.chars ≠ [] := by
  obtain ⟨c, rest, heq, -⟩ := x.start
  rw [heq]
  exact List.cons_ne_nil _ _

namespace PlainStatement

/-- The word that the line of a statement opens with, and what is left. -/
def opening : PlainStatement → List Char × List Char
  | pass => ("pass".toList, [])
  | ellipsis => ([], "...".toList)
  | text s => ([], '"' :: (s.chars ++ ['"']))
  | returnBare => ("return".toList, [])
  | returnNone => ("return".toList, " None".toList)
  | returnName x => ("return".toList, ' ' :: x.chars)
  | assertLiteral l => ("assert".toList, ' ' :: l.text.toList)
  | assertName x => ("assert".toList, ' ' :: x.chars)
  | assign x y => (x.chars, " = ".toList ++ y.chars)
  | call f x => (f.chars, '(' :: (x.chars ++ [')']))
  | raised e => ("raise".toList, ' ' :: e.chars)

theorem line_eq (s : PlainStatement) : s.line = s.opening.1 ++ s.opening.2 := by
  cases s <;> rfl

theorem opensWith (s : PlainStatement) : OpensWith s.opening.1 s.opening.2 := by
  have hname (x : PlainName) : ∀ c ∈ x.chars, isWordChar c = true := fun c hc => (x.letter c hc).word
  have hwords : ∀ w ∈ ["pass", "return", "assert", "raise"], ∀ c ∈ w.toList, isWordChar c = true := by decide
  cases s with
  | pass => exact ⟨hwords "pass" (by decide), rfl⟩
  | ellipsis => exact ⟨nofun, rfl⟩
  | text s => exact ⟨nofun, rfl⟩
  | assign x y => exact ⟨hname x, rfl⟩
  | call f x => exact ⟨hname f, rfl⟩
  | assertLiteral l => exact ⟨hwords "assert" (by decide), rfl⟩
  | assertName x => exact ⟨hwords "assert" (by decide), rfl⟩
  | raised e => exact ⟨hwords "raise" (by decide), rfl⟩
  | _ => exact ⟨hwords "return" (by decide), rfl⟩

theorem exists_first (s : PlainStatement) : ∃ c rest, s.line = c :: rest ∧ (Letter c ∨ c ∈ ['"', '.']) := by
  have hname (x : PlainName) (l : List Char) : ∃ c rest, x.chars ++ l = c :: rest ∧ (Letter c ∨ c ∈ ['"', '.']) := by
    obtain ⟨c, rest, hx, -⟩ := x.start
    exact ⟨c, rest ++ l, by rw [hx]; rfl, Or.inl (x.letter c (hx ▸ List.mem_cons_self))⟩
  cases s with
  | assign x y => exact hname x _
  | call f x => exact hname f _
  | _ => exact ⟨_, _, rfl, by decide⟩

theorem exists_last (s : PlainStatement) : ∃ l c, s.line = l ++ [c] ∧ (Letter c ∨ c ∈ ['"', '.', ')']) := by
  have hname (l : List Char) (x : PlainName) :
      ∃ l' c, l ++ x.chars = l' ++ [c] ∧ (Letter c ∨ c ∈ ['"', '.', ')']) := by
    have hx := List.dropLast_concat_getLast x.ne_nil
    exact ⟨l ++ x.chars.dropLast, _, by rw [List.append_assoc, hx], Or.inl (x.letter _ (List.getLast_mem x.ne_nil))⟩
  have hclosed {l : List Char} (c : Char) (hl : l.getLast? = some c) (hc : Letter c ∨ c ∈ ['"', '.', ')']) :
      ∃ l' c, l = l' ++ [c] ∧ (Letter c ∨ c ∈ ['"', '.', ')']) := by
    obtain ⟨l', rfl⟩ := List.getLast?_eq_some_iff.mp hl
    exact ⟨l', c, rfl, hc⟩
  cases s with
  | pass => exact hclosed 's' (by decide) (by decide)
  | ellipsis => exact hclosed '.' (by decide) (by decide)
  | text s => exact ⟨'"' :: s.chars, '"', rfl, by decide⟩
  | returnBare => exact hclosed 'n' (by decide) (by decide)
  | returnNone => exact hclosed 'e' (by decide) (by decide)
  | returnName x => exact hname _ x
  | assertLiteral l =>
    cases l with
    | true => exact hclosed 'e' (by decide) (by decide)
    | one => exact hclosed '1' (by decide) (by decide)
    | notFalse => exact hclosed 'e' (by decide) (by decide)
    | notZero => exact hclosed '0' (by decide) (by decide)
  | assertName x => exact hname _ x
  | raised e => exact hname _ e
  | assign x y =>
    obtain ⟨l, c, hl, hc⟩ := hname (x.chars ++ " = ".toList) y
    exact ⟨l, c, (List.append_assoc _ _ _).symm.trans hl, hc⟩
  | call f x =>
    have hline := (List.append_assoc f.chars ('(' :: x.chars) [')']).symm
    exact ⟨f.chars ++ '(' :: x.chars, ')', hline, Or.inr (by decide)⟩

theorem not_isBare (s : PlainStatement) : ScanRules.isBare s.line = false := by
  obtain ⟨c, rest, hline, hc⟩ := s.exists_first
  have hseparator : isSeparator c = false := by
    rcases hc with hc | hc
    · exact hc.separator
    · have hall : ∀ c ∈ ['"', '.'], isSeparator c = false := by decide
      exact hall c hc
  rw [ScanRules.isBare, hline, List.all_cons, hseparator]
  rfl

/-! ## Words that the rules look for -/

/-- A word that a rule looks for at the start of lines is found where a line opens with it. -/
theorem anyOccurs_startsWithWord (s : PlainStatement) {w : String} (hw : AreWords [w]) :
    ScanRules.anyOccurs [startsWithWord [w]] s.line = decide (s.opening.1 = w.toList) := by
  have h := occurs_startsWithWord hw s.opensWith
  rw [ScanRules.anyOccurs, List.any_cons, List.any_nil, Bool.or_false, Bool.eq_iff_iff, decide_eq_true_eq, line_eq, h]
  simp [eq_comm]

theorem isTerminal_line (s : PlainStatement) : python.isTerminal ⟨0, s.line⟩ = s.isFinal := by
  have hwords : AreWords ["return", "raise"] := by
    unfold AreWords
    decide
  have hstarts := startsAt_startsWithWord hwords s.opensWith
  rw [← line_eq] at hstarts
  have hterminal : python.isTerminal ⟨0, s.line⟩ = (startsWithWord ["return", "raise"]).startsAt s.line := by
    rw [ScanRules.isTerminal, s.not_isBare]
    rfl
  rw [hterminal, Bool.eq_iff_iff, hstarts]
  have hname (x : PlainName) : ¬ ∃ w ∈ ["return", "raise"], w.toList = x.chars := by
    rintro ⟨w, hw, heq⟩
    have hkeywords : ∀ w ∈ ["return", "raise"], w ∈ Syntax.keywords := by decide
    exact x.ne_keyword (hkeywords w hw) heq
  have hassert : ¬ ∃ w ∈ ["return", "raise"], w.toList = "assert".toList := by decide
  cases s with
  | assign x y => exact iff_of_false (hname x) nofun
  | call f x => exact iff_of_false (hname f) nofun
  | returnBare => exact iff_of_true ⟨"return", by decide, rfl⟩ rfl
  | returnNone => exact iff_of_true ⟨"return", by decide, rfl⟩ rfl
  | returnName x => exact iff_of_true ⟨"return", by decide, rfl⟩ rfl
  | raised e => exact iff_of_true ⟨"raise", by decide, rfl⟩ rfl
  | assertLiteral l => exact iff_of_false hassert nofun
  | assertName x => exact iff_of_false hassert nofun
  | pass => exact iff_of_false (by decide) nofun
  | ellipsis => exact iff_of_false (by decide) nofun
  | text s => exact iff_of_false (by show ¬ ∃ w ∈ ["return", "raise"], w.toList = []; decide) nofun

/-! ## Characters of a line -/

/-- The characters of the line of a statement that are no letters of names. -/
def marks : PlainStatement → List Char
  | pass => []
  | ellipsis => ['.']
  | text s => '"' :: s.chars
  | returnBare => []
  | returnNone | returnName _ | assertLiteral _ | assertName _ | raised _ => [' ']
  | assign _ _ => [' ', '=']
  | call _ _ => ['(', ')']

theorem mem_line {s : PlainStatement} {c : Char} (h : c ∈ s.line) : Letter c ∨ c ∈ s.marks := by
  have hclosed {w : String} {ms : List Char} (hw : ∀ d ∈ w.toList, Letter d ∨ d ∈ ms) (hc : c ∈ w.toList) :
      Letter c ∨ c ∈ ms := hw c hc
  have hafter {l : List Char} (w : String) (ms : List Char) (hw : ∀ d ∈ w.toList, Letter d ∨ d ∈ ms)
      (hl : ∀ d ∈ l, Letter d ∨ d ∈ ms) (hc : c ∈ w.toList ++ l) : Letter c ∨ c ∈ ms := by
    rcases List.mem_append.mp hc with hc | hc
    · exact hw c hc
    · exact hl c hc
  have hname (x : PlainName) (ms : List Char) : ∀ d ∈ x.chars, Letter d ∨ d ∈ ms := fun d hd => Or.inl (x.letter d hd)
  cases s with
  | pass => exact hclosed (by decide) h
  | ellipsis => exact hclosed (by decide) h
  | text s =>
    refine Or.inr ?_
    rcases List.mem_cons.mp h with rfl | h
    · exact List.mem_cons_self
    · rcases List.mem_append.mp h with h | h
      · exact List.mem_cons_of_mem _ h
      · rw [List.mem_singleton.mp h]
        exact List.mem_cons_self
  | returnBare => exact hclosed (by decide) h
  | returnNone => exact hclosed (by decide) h
  | returnName x => exact hafter "return " [' '] (by decide) (hname x _) h
  | assertLiteral l =>
    have hl : ∀ d ∈ l.text.toList, Letter d ∨ d ∈ [' '] := by
      cases l
      all_goals decide
    exact hafter "assert " [' '] (by decide) hl h
  | assertName x => exact hafter "assert " [' '] (by decide) (hname x _) h
  | raised e => exact hafter "raise " [' '] (by decide) (hname e _) h
  | assign x y =>
    rcases List.mem_append.mp h with h | h
    · exact hname x _ c h
    · exact hafter " = " [' ', '='] (by decide) (hname y _) h
  | call f x =>
    rcases List.mem_append.mp h with h | h
    · exact hname f _ c h
    · rcases List.mem_cons.mp h with rfl | h
      · exact Or.inr List.mem_cons_self
      · rcases List.mem_append.mp h with h | h
        · exact hname x _ c h
        · rw [List.mem_singleton.mp h]
          exact Or.inr (List.mem_cons_of_mem _ List.mem_cons_self)

theorem not_mem_line {s : PlainStatement} {c : Char} (hc : ¬ Letter c) (h : c ∉ s.marks) : c ∉ s.line :=
  fun hmem => (mem_line hmem).elim hc h

theorem clean_line (s : PlainStatement) : ∀ c ∈ s.line, isLineBreak c = false := by
  intro c hc
  rcases mem_line hc with hc | hc
  · exact isLineBreak_of_not_isBlank hc.blank
  · cases s with
    | text s =>
      rcases List.mem_cons.mp hc with rfl | hc
      · decide
      · exact (s.clean c hc).2.2.2
    | pass => cases hc
    | returnBare => cases hc
    | assign x y =>
      have hall : ∀ c ∈ [' ', '='], isLineBreak c = false := by decide
      exact hall c hc
    | call f x =>
      have hall : ∀ c ∈ ['(', ')'], isLineBreak c = false := by decide
      exact hall c hc
    | ellipsis =>
      have hall : ∀ c ∈ ['.'], isLineBreak c = false := by decide
      exact hall c hc
    | _ =>
      have hall : ∀ c ∈ [' '], isLineBreak c = false := by decide
      exact hall c hc

theorem feed_not_mem_line (s : PlainStatement) : '\n' ∉ s.line :=
  fun h => absurd (s.clean_line _ h) (by decide)

end PlainStatement

end ScenarioAudit
