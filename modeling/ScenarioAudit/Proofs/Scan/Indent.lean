import ScenarioAudit.Proofs.Corpus.Reformat
import ScenarioAudit.Proofs.Scan.Bindings
import ScenarioAudit.Proofs.Scan.Body

/-! # The body of a function by its indentation

What belongs to a function is indented deeper than its head: blank lines and comments aside, its body goes on up to the
next line at or before the column of the head (`ownLines`). The scanner counts columns at the head only. Below it takes
the number of blanks in front of a line, and lines of comments end the body as well (`deeperLines`). So it reads the
first lines of the body (`deeperLines_isPrefix`), and all of it exactly if no line of code is among the others
(`linesRead_eq_iff`).
-/

namespace ScenarioAudit

open ScenarioAudit.Text Pattern

namespace Scan

/-! ## The lines of a body -/

/-- The lines below the head of a function that belong to it: those in front of the next line of code at or before the
column of the head. Blank lines are kept as empty ones. -/
def ownLines (column : Nat) : List (List Char) → List (List Char)
  | [] => []
  | l :: ls =>
    if isAllBlank l then [] :: ownLines column ls
    else if isCodeLine l && indentOf l ≤ column then []
    else l :: ownLines column ls

theorem length_le_columnAfter (n : Nat) (s : List Char) : n + s.length ≤ columnAfter n s := by
  induction s generalizing n with
  | nil => exact Nat.le_refl _
  | cons c s ih =>
    have hstep : n + 1 ≤ if c = '\t' then n + (8 - n % 8) else n + 1 := by
      split
      · omega
      · exact Nat.le_refl _
    rw [columnAfter, List.length_cons]
    have hrest := ih (if c = '\t' then n + (8 - n % 8) else n + 1)
    omega

theorem length_le_indentOf (line : List Char) : (line.takeWhile isBlank).length ≤ indentOf line := by
  have h := length_le_columnAfter 0 (line.takeWhile isBlank)
  rwa [Nat.zero_add] at h

/-- **The lines that are taken for the body are the first ones of the body.** -/
theorem deeperLines_isPrefix (column : Nat) (ls : List (List Char)) : deeperLines column ls <+: ownLines column ls := by
  induction ls with
  | nil => exact List.nil_prefix
  | cons l ls ih =>
    rw [deeperLines, ownLines]
    by_cases hblank : isAllBlank l = true
    · rw [if_pos hblank, if_pos hblank]
      exact List.cons_prefix_cons.mpr ⟨rfl, ih⟩
    · rw [if_neg hblank, if_neg hblank]
      by_cases hshallow : (l.takeWhile isBlank).length ≤ column
      · rw [if_pos hshallow]
        exact List.nil_prefix
      · have hdeep : ¬ (isCodeLine l && decide (indentOf l ≤ column)) = true := by
          rw [Bool.and_eq_true, decide_eq_true_eq]
          rintro ⟨-, hle⟩
          exact hshallow (Nat.le_trans (length_le_indentOf l) hle)
        rw [if_neg hshallow, if_neg hdeep]
        exact List.cons_prefix_cons.mpr ⟨rfl, ih⟩

def hiddenLines (column : Nat) (ls : List (List Char)) : List (List Char) :=
  (ownLines column ls).drop (deeperLines column ls).length

theorem deeperLines_append_hiddenLines (column : Nat) (ls : List (List Char)) :
    deeperLines column ls ++ hiddenLines column ls = ownLines column ls := by
  obtain ⟨rest, hrest⟩ := deeperLines_isPrefix column ls
  rw [hiddenLines, ← hrest, List.drop_left]

theorem clean_ownLines {column : Nat} {ls : List (List Char)} (h : ∀ l ∈ ls, ∀ c ∈ l, isLineBreak c = false) :
    ∀ l ∈ ownLines column ls, ∀ c ∈ l, isLineBreak c = false := by
  induction ls with
  | nil => nofun
  | cons l ls ih =>
    rw [List.forall_mem_cons] at h
    rw [ownLines]
    split
    · exact List.forall_mem_cons.mpr ⟨nofun, ih h.2⟩
    · split
      · nofun
      · exact List.forall_mem_cons.mpr ⟨h.1, ih h.2⟩

/-! ## The code among lines -/

/-- The lines of code, without the doc text in front of them. -/
def codeOf (body : List (List Char)) : List (List Char) :=
  (splitLines (withoutDoc (joinLines body))).filter isCodeLine

theorem length_codeLines (body : List (List Char)) : (codeLines body).length = (codeOf body).length := by
  rw [codeLines, codeOf]
  split
  next h => rw [h]; rfl
  next l ls h => rw [h, List.length_map]

theorem codeLines_congr {body body' : List (List Char)} (h : codeOf body = codeOf body') :
    codeLines body = codeLines body' := by
  have h : (splitLines (withoutDoc (joinLines body))).filter isCodeLine =
      (splitLines (withoutDoc (joinLines body'))).filter isCodeLine := h
  rw [codeLines, codeLines, h]

theorem filter_splitLines_joinLines {ls : List (List Char)} (h : ∀ l ∈ ls, ∀ c ∈ l, isLineBreak c = false) :
    (splitLines (joinLines ls)).filter isCodeLine = ls.filter isCodeLine := by
  have hempty : isCodeLine [] = false := rfl
  induction ls with
  | nil => rfl
  | cons l ls ih =>
    rw [List.forall_mem_cons] at h
    have hline : (splitLines l).filter isCodeLine = [l].filter isCodeLine := by
      rw [filter_splitLines_line hempty h.1, List.filter_singleton, cond_eq_ite]
    cases ls with
    | nil => exact hline
    | cons l' ls =>
      rw [joinLines_cons (List.cons_ne_nil _ _), filter_splitLines_append hempty (by decide), hline, ih h.2,
        ← List.filter_append, List.singleton_append]

theorem joinLines_append {ls ls' : List (List Char)} (h : ls ≠ []) (h' : ls' ≠ []) :
    joinLines (ls ++ ls') = joinLines ls ++ '\n' :: joinLines ls' := by
  induction ls with
  | nil => exact absurd rfl h
  | cons l ls ih =>
    cases ls with
    | nil => exact joinLines_cons h' l
    | cons k ls =>
      have hne : k :: ls ++ ls' ≠ [] := List.append_ne_nil_of_right_ne_nil _ h'
      rw [List.cons_append, joinLines_cons hne, ih (List.cons_ne_nil k ls), joinLines_cons (List.cons_ne_nil k ls) l,
        List.append_assoc, List.cons_append]

theorem docText_local : docText.Local false := by
  simp [docText, blanks]

/-- A doc text that ends among the first lines is the doc text of these lines. -/
theorem withoutDoc_append {text rest : List Char}
    (hdoc : ∀ m, docText.matchAt (Spot.start (text ++ rest)) = some m → m.stop.position ≤ text.length) :
    withoutDoc (text ++ rest) = withoutDoc text ++ rest := by
  have hcut : (Spot.start (text ++ rest)).forget.Cut rest (Spot.start text).forget :=
    ⟨rfl, rfl, fun _ => rfl⟩
  obtain ⟨hnone, hsome⟩ := matchAt_cut docText_local hcut
  rw [withoutDoc, withoutDoc]
  cases hmatch : docText.matchAt (Spot.start (text ++ rest)) with
  | none => rw [hnone hmatch]
  | some m =>
    obtain ⟨hstart, hreaches⟩ := reaches_of_matchAt hmatch
    obtain ⟨u, hafter, -, hposition⟩ := hreaches.exists_skipped
    have hlong : rest.length ≤ m.stop.after.length := by
      have hlength := congrArg List.length hafter
      have htext : (Spot.start (text ++ rest)).forget.after = text ++ rest := rfl
      have hzero : (Spot.start (text ++ rest)).forget.position = 0 := rfl
      rw [htext, List.length_append, List.length_append] at hlength
      have hle := hdoc m hmatch
      omega
    obtain ⟨m', hm', hstop⟩ := hsome m hmatch hlong
    rw [hm']
    exact hstop.after

/-- The doc text in front of a body ends among its first lines. -/
def DocWithin (first body : List (List Char)) : Prop :=
  ∀ m, docText.matchAt (Spot.start (joinLines body)) = some m → m.stop.position ≤ (joinLines first).length

/-- **More lines below a body add their code to it**, if its doc text ends before them. -/
theorem codeOf_append {first more : List (List Char)} (hdoc : DocWithin first (first ++ more))
    (hmore : ∀ l ∈ more, ∀ c ∈ l, isLineBreak c = false) :
    codeOf (first ++ more) = codeOf first ++ more.filter isCodeLine := by
  have hempty : isCodeLine [] = false := rfl
  cases more with
  | nil => rw [List.append_nil, List.filter_nil, List.append_nil]
  | cons l more =>
    cases first with
    | nil =>
      -- No doc text fits in front of the first line.
      have hrest : withoutDoc (joinLines (l :: more)) = joinLines (l :: more) :=
        @withoutDoc_append [] _ hdoc
      rw [List.nil_append, codeOf, hrest, filter_splitLines_joinLines hmore]
      rfl
    | cons l' first =>
      have hjoin := joinLines_append (List.cons_ne_nil l' first) (List.cons_ne_nil l more)
      have hdoc' : ∀ m, docText.matchAt (Spot.start (joinLines (l' :: first) ++ '\n' :: joinLines (l :: more))) = some m →
          m.stop.position ≤ (joinLines (l' :: first)).length := by
        rw [← hjoin]
        exact hdoc
      rw [codeOf, hjoin, withoutDoc_append hdoc', filter_splitLines_append hempty (by decide),
        filter_splitLines_joinLines hmore, codeOf]

/-- The lines that are taken for the body hold all of its code exactly if there is none among the others. -/
theorem codeLines_deeperLines_iff {column : Nat} {ls : List (List Char)}
    (hclean : ∀ l ∈ ls, ∀ c ∈ l, isLineBreak c = false)
    (hdoc : DocWithin (deeperLines column ls) (ownLines column ls)) :
    codeLines (deeperLines column ls) = codeLines (ownLines column ls) ↔
      ∀ l ∈ hiddenLines column ls, isCodeLine l = false := by
  have hown := deeperLines_append_hiddenLines column ls
  have hhidden : ∀ l ∈ hiddenLines column ls, ∀ c ∈ l, isLineBreak c = false :=
    fun l hl => clean_ownLines hclean l (List.mem_of_mem_drop hl)
  rw [← hown] at hdoc ⊢
  have hcode := codeOf_append hdoc hhidden
  constructor
  · intro heq
    have hlength := congrArg List.length heq
    rw [length_codeLines, length_codeLines, hcode, List.length_append] at hlength
    have hnil : (hiddenLines column ls).filter isCodeLine = [] := List.length_eq_zero_iff.mp (by omega)
    intro l hl
    exact Bool.eq_false_iff.mpr (List.filter_eq_nil_iff.mp hnil l hl)
  · intro hnone
    have hnil : (hiddenLines column ls).filter isCodeLine = [] :=
      List.filter_eq_nil_iff.mpr fun l hl => Bool.eq_false_iff.mp (hnone l hl)
    apply codeLines_congr
    rw [hcode, hnil, List.append_nil]

/-! ## The head of the function -/

theorem columnAfter_captured {line : List Char} {m : Match} (h : definitionHead.matchAt (Spot.start line) = some m) :
    columnAfter 0 (m.captured 1) = indentOf line := by
  obtain ⟨-, hreaches⟩ := reaches_of_matchAt h
  obtain ⟨m₅, ⟨m₄, ⟨m₃, ⟨m₂, ⟨m₁, hstart, hindent⟩, hasync⟩, hdef⟩, hblanks⟩, hname⟩ := hreaches
  obtain ⟨-, rfl⟩ := reaches_textStart.mp hstart
  obtain ⟨hskipped, htakes⟩ := skipped_of_capture hindent
  have hline : line = m₂.captured 1 ++ m₂.after := hskipped.1
  have hblank : ∀ c ∈ m₂.captured 1, isBlank c = true := by
    intro c hc
    have hadmits := htakes.admits c hc
    rw [admits, Bool.or_eq_true, beq_iff_eq, beq_iff_eq] at hadmits
    rcases hadmits with rfl | rfl
    · decide
    · decide
  -- What follows the indentation is a word.
  have hword : m₂.after.head?.any isBlank = false := by
    rcases hasync with ⟨m, hasync, -⟩ | rfl
    · obtain ⟨rest, hrest, -⟩ := reaches_word.mp hasync
      rw [hrest]
      rfl
    · obtain ⟨rest, hrest, -⟩ := reaches_word.mp hdef
      rw [hrest]
      rfl
  have hcaptured : m.captured 1 = m₂.captured 1 := by
    have hafter : ((opt (word "async" ++ blanks1) ++ word "def") ++ blanks1 ++ capture 2 wordChars1).Reaches m₂ m.stop :=
      ⟨m₅, ⟨m₄, ⟨m₃, hasync, hdef⟩, hblanks⟩, hname⟩
    exact captured_eq_of_reaches (by simp [blanks1, wordChars1]) hafter
  rw [hcaptured, indentOf, hline, takeWhile_until hblank hword]

theorem findDefinition_append {above : List (List Char)} (h : ∀ l ∈ above, definitionHead.startsAt l = false)
    (ls : List (List Char)) : findDefinition (above ++ ls) = findDefinition ls := by
  induction above with
  | nil => rfl
  | cons l above ih =>
    rw [List.forall_mem_cons] at h
    have hnone : definitionHead.matchAt (Spot.start l) = none :=
      Option.isNone_iff_eq_none.mp (Option.isSome_eq_false_iff.mp h.1)
    rw [List.cons_append, findDefinition, hnone]
    exact ih h.2

/-- **The lines below the first head are read as its body**, if it ends its line. -/
theorem indentBody_head {lookahead : Nat} {above below : List (List Char)} {head : List Char}
    (hnear : above.length < lookahead) (hfirst : ∀ l ∈ above, definitionHead.startsAt l = false)
    (hhead : definitionHead.startsAt head = true) (hends : (stripRight head).getLast? = some ':') :
    (indentBody lookahead (above ++ head :: below)).1 = codeLines (deeperLines (indentOf head) below) := by
  obtain ⟨m, hm⟩ := Option.isSome_iff_exists.mp hhead
  obtain ⟨n, hn⟩ : ∃ n, lookahead = above.length + (n + 1) := ⟨lookahead - above.length - 1, by omega⟩
  have htake : (above ++ head :: below).take lookahead = above ++ head :: below.take n := by
    rw [hn, List.take_append, List.take_of_length_le (by omega), Nat.add_sub_cancel_left, List.take_succ_cons]
  have hfound : findDefinition (above ++ head :: below.take n) = some (m, head :: below.take n) := by
    rw [findDefinition_append hfirst, findDefinition, hm]
  have hdrop : (above ++ head :: below).drop ((above ++ head :: below.take n).length - (head :: below.take n).length) =
      head :: below := by
    rw [List.length_append, Nat.add_sub_cancel, List.drop_left]
  have hbelow : headEnd (head :: below.take n).length (head :: below) = .below below := by
    rw [List.length_cons, headEnd, if_pos hends]
  rw [indentBody, htake, hfound]
  dsimp only
  rw [hdrop, hbelow, columnAfter_captured hm]

/-! ## The lines of a registration -/

/-- Lines end at more characters than the line feeds that are counted. These are the last lines of a text that are not
counted. -/
def uncountedLines (text : List Char) : List (List Char) :=
  (splitLines text).drop (countNewlines text)

theorem countNewlines_le (text : List Char) : countNewlines text ≤ (splitLines text).length := by
  induction text using splitLines.induct with
  | case1 => exact Nat.le_refl _
  | case2 s ih =>
    rw [splitLines, List.length_cons]
    simpa [countNewlines] using ih
  | case3 c s hcrlf hbreak ih =>
    rw [splitLines, if_pos hbreak, List.length_cons]
    · have hcount : countNewlines (c :: s) ≤ countNewlines s + 1 := by
        rw [countNewlines, List.count_cons, countNewlines]
        split <;> omega
      omega
    · exact hcrlf
  | case4 c s hcrlf hbreak hnil ih =>
    have hfeed : c ≠ '\n' := by
      rintro rfl
      exact hbreak (by decide)
    have hcount : countNewlines (c :: s) = countNewlines s := List.count_cons_of_ne hfeed
    rw [splitLines, if_neg hbreak, hnil, hcount]
    · rw [hnil] at ih
      exact Nat.le_succ_of_le ih
    · exact hcrlf
  | case5 c s hcrlf hbreak l ls hcons ih =>
    have hfeed : c ≠ '\n' := by
      rintro rfl
      exact hbreak (by decide)
    have hcount : countNewlines (c :: s) = countNewlines s := List.count_cons_of_ne hfeed
    rw [splitLines, if_neg hbreak, hcons, hcount]
    · rw [hcons] at ih
      exact ih
    · exact hcrlf

/-- The lines that the facts of a registration are counted from. -/
def linesRead (lookahead : Int) (text : List Char) (m : Match) : List BodyLine :=
  (indentBody lookahead.toNat ((splitLines text).drop (countNewlines (text.take m.start.position)))).1

theorem drop_splitLines {text : List Char} {m : Match} (h : m ∈ python.registration.findAll text) :
    (splitLines text).drop (countNewlines (text.take m.start.position)) =
      uncountedLines (text.take m.start.position) ++ splitLines (text.drop m.start.position) := by
  obtain ⟨u, v, rfl, hstart, hmatch⟩ := exists_between h
  obtain ⟨-, hreaches⟩ := reaches_of_matchAt hmatch
  obtain ⟨hline, b, rest, hv, hb⟩ := PlainStep.registration_opens hreaches
  have hposition : m.start.position = u.length := by rw [hstart]; rfl
  replace hv : v = b ++ '@' :: rest := hv
  have hsplit : splitLines (u ++ v) = splitLines u ++ splitLines v := by
    rcases List.eq_nil_or_concat u with rfl | ⟨w, c, rfl⟩
    · rfl
    · obtain rfl : c = '\n' := hline c (by simp [Spot.between, Spot.forget])
      have hhead : v.head? ≠ some '\n' := by
        rw [hv]
        cases b with
        | nil => simp
        | cons d b =>
          rcases hb d List.mem_cons_self with rfl | rfl
          · simp
          · simp
      rw [List.concat_eq_append, List.append_assoc, List.singleton_append, splitLines_append_break (by decide) w hhead]
  rw [hposition, List.take_left, List.drop_left, hsplit, uncountedLines, List.drop_append_of_le_length]
  exact countNewlines_le u

/-- The function of a registration: its head is the first one within the lookahead and ends its line. -/
structure HeadBelow (lookahead : Nat) (text : List Char) (m : Match) (above : List (List Char)) (head : List Char)
    (below : List (List Char)) : Prop where
  lines : splitLines (text.drop m.start.position) = above ++ head :: below
  near : (uncountedLines (text.take m.start.position) ++ above).length < lookahead
  first : ∀ l ∈ uncountedLines (text.take m.start.position) ++ above, definitionHead.startsAt l = false
  isHead : definitionHead.startsAt head = true
  ends : (stripRight head).getLast? = some ':'

/-- **The body of a step function is read line by line exactly if the scanner overlooks no line of its code**: no line
behind a comment that is not indented deeper than the head, and none with fewer blanks in front of it than the head has
columns. The facts of the registration are those of the lines that are read. -/
theorem linesRead_eq_iff (keywords : List String) (lookahead : Int) (file : String) {text : List Char} {i : Nat}
    {m : Match} (hm : (python.registration.findAll text)[i]? = some m) {above below : List (List Char)}
    {head : List Char} (h : HeadBelow lookahead.toNat text m above head below)
    (hdoc : DocWithin (deeperLines (indentOf head) below) (ownLines (indentOf head) below)) :
    ((scan python keywords lookahead file text)[i]?.map fun b => b.body) =
        some (python.facts keywords (linesRead lookahead text m)) ∧
      (linesRead lookahead text m = codeLines (ownLines (indentOf head) below) ↔
        ∀ l ∈ hiddenLines (indentOf head) below, isCodeLine l = false) := by
  constructor
  · rw [getElem?_scan, hm]
    rfl
  · have hread : linesRead lookahead text m = codeLines (deeperLines (indentOf head) below) := by
      rw [linesRead, drop_splitLines (List.mem_of_getElem? hm), h.lines, ← List.append_assoc]
      exact indentBody_head h.near h.first h.isHead h.ends
    have hclean : ∀ l ∈ below, ∀ c ∈ l, isLineBreak c = false := by
      intro l hl
      apply mem_splitLines (s := text.drop m.start.position)
      rw [h.lines]
      exact List.mem_append_right above (List.mem_cons_of_mem head hl)
    rw [hread]
    exact codeLines_deeperLines_iff hclean hdoc

/-- A step function with a doc text, a comment and a branch. -/
def spacedStep : List Char :=
  "@then('x')\ndef f(c):\n    \"\"\"Doc.\"\"\"\n    # Why.\n    if c:\n        assert c.ok\n\nx = 1\n".toList

theorem linesRead_eq_iff_spaced : ∃ m, (python.registration.findAll spacedStep)[0]? = some m ∧
    ∃ above head below, HeadBelow 30 spacedStep m above head below ∧
      DocWithin (deeperLines (indentOf head) below) (ownLines (indentOf head) below) ∧
      codeLines (ownLines (indentOf head) below) = [⟨0, "if c:".toList⟩, ⟨1, "assert c.ok".toList⟩] ∧
      linesRead 30 spacedStep m = codeLines (ownLines (indentOf head) below) := by
  have hplace : ((python.registration.findAll spacedStep)[0]?.map fun m => m.start.position) = some 0 := by
    decide +kernel
  obtain ⟨m, hm, hstart⟩ := Option.map_eq_some_iff.mp hplace
  let above : List (List Char) := ["@then('x')".toList]
  let head : List Char := "def f(c):".toList
  let below : List (List Char) := (splitLines spacedStep).drop 2
  have hhead : HeadBelow 30 spacedStep m above head below := by
    refine ⟨?_, ?_, ?_, by decide +kernel, by decide +kernel⟩
    all_goals rw [hstart]
    all_goals decide +kernel
  have hdoc : DocWithin (deeperLines (indentOf head) below) (ownLines (indentOf head) below) := by
    have hsame : ownLines (indentOf head) below = deeperLines (indentOf head) below := by decide +kernel
    intro doc hmatch
    rw [hsame] at hmatch
    obtain ⟨hplace, hreaches⟩ := reaches_of_matchAt hmatch
    obtain ⟨u, hu⟩ := hreaches.exists_skipped
    have hlength := congrArg List.length hu.1
    have hposition := hu.2.2
    simp [Spot.start, Spot.forget] at hlength hposition
    omega
  refine ⟨m, hm, above, head, below, hhead, hdoc, by decide +kernel, ?_⟩
  have hnone : ∀ l ∈ hiddenLines (indentOf head) below, isCodeLine l = false := by decide +kernel
  exact (linesRead_eq_iff [] 30 "steps.py" hm hhead hdoc).2.mpr hnone

/-- A step function in a class that is indented by tabs. -/
def tabbedStep : List Char :=
  "class S:\n\t@then('x')\n\tdef f(self, c):\n\t\tassert c.ok\n".toList

/-- **The body of a method that is indented by tabs is overlooked:** its two tabs are not more than the column of the
head, which is eight. -/
theorem linesRead_tabbed : ∃ m, (python.registration.findAll tabbedStep)[0]? = some m ∧
    ∃ above head below, HeadBelow 30 tabbedStep m above head below ∧ indentOf head = 8 ∧
      codeLines (ownLines (indentOf head) below) = [⟨0, "assert c.ok".toList⟩] ∧ linesRead 30 tabbedStep m = [] := by
  have hplace : ((python.registration.findAll tabbedStep)[0]?.map fun m => m.start.position) = some 9 := by
    decide +kernel
  obtain ⟨m, hm, hstart⟩ := Option.map_eq_some_iff.mp hplace
  refine ⟨m, hm, ["\t@then('x')".toList], "\tdef f(self, c):".toList, ["\t\tassert c.ok".toList], ?_, ?_, ?_, ?_⟩
  · refine ⟨?_, ?_, ?_, by decide +kernel, by decide +kernel⟩
    all_goals rw [hstart]
    all_goals decide +kernel
  · decide +kernel
  · decide +kernel
  · rw [linesRead, hstart]
    decide +kernel

end Scan

end ScenarioAudit
