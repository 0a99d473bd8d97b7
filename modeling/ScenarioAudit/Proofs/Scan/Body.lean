import ScenarioAudit.Proofs.Scan.Registration

/-! # The body of a plain step definition

The scanner takes the second line of a plain step definition for the head of its function (`findDefinition_lines`) and
the lines below it for its body, one statement on each (`indentBody_lines`). So it finds one binding, with what the
statements do for its facts (`scan_source`).
-/

namespace ScenarioAudit

open ScenarioAudit.Text ScenarioAudit.Syntax Pattern Scan

/-- What a head has in front of the name of the function. -/
def Scan.beforeName : Pattern :=
  textStart ++ capture 1 (many true fun c => c == ' ' || c == '\t') ++ opt (word "async" ++ blanks1)
    ++ word "def" ++ blanks1

namespace PlainStep

variable (f : PlainStep)

/-! ## The head of the function -/

theorem definitionHead_opens {s t : Spot} (h : definitionHead.Reaches s t) :
    ∃ b w rest, s.after = b ++ (w.toList ++ rest) ∧ (∀ c ∈ b, c = ' ' ∨ c = '\t') ∧ w ∈ ["async", "def"] := by
  obtain ⟨m₅, ⟨m₄, ⟨m₃, ⟨m₂, ⟨m₁, hstart, m, ⟨b, after, hafter, hb, rfl⟩, rfl⟩, hasync⟩, hdef⟩, -⟩, -⟩ := h
  obtain ⟨-, rfl⟩ := reaches_textStart.mp hstart
  have hb : ∀ c ∈ b, c = ' ' ∨ c = '\t' := fun c hc => by simpa using hb c hc
  rcases hasync with ⟨m, hword, -⟩ | rfl
  · obtain ⟨rest, hrest, -⟩ := reaches_word.mp hword
    obtain rfl : after = "async".toList ++ rest := hrest
    exact ⟨b, "async", rest, hafter, hb, by decide⟩
  · obtain ⟨rest, hrest, -⟩ := reaches_word.mp hdef
    obtain rfl : after = "def".toList ++ rest := hrest
    exact ⟨b, "def", rest, hafter, hb, by decide⟩

theorem matchAt_decoratorLine : definitionHead.matchAt (Spot.start f.decoratorLine) = none := by
  rw [← Option.isNone_iff_eq_none, ← Option.isSome_eq_false_iff, Bool.eq_false_iff]
  intro hsome
  obtain ⟨t, ht⟩ := matchAt_isSome.mp hsome
  obtain ⟨b, w, rest, hline, hb, hw⟩ := definitionHead_opens ht
  have hline : f.decoratorLine = b ++ (w.toList ++ rest) := hline
  cases b with
  | nil =>
    rcases List.mem_cons.mp hw with rfl | hw
    · cases hline
    · rw [List.mem_singleton.mp hw] at hline
      cases hline
  | cons c b =>
    obtain rfl : '@' = c := (List.cons.inj hline).1
    exact absurd (hb _ List.mem_cons_self) (by decide)

/-- What stands behind the name of the function. -/
def afterName : List Char :=
  '(' :: (f.parameter.chars ++ [')', ':'])

/-- Nothing but the word stands in front of the name of the function. -/
theorem afterName_of_reaches {t : Spot} (h : beforeName.Reaches (.between [] f.headLine) t) :
    t.after = f.name.chars ++ f.afterName ∧ t.captured 1 = [] := by
  obtain ⟨m₄, ⟨m₃, ⟨m₂, ⟨m₁, hstart, m, ⟨b, after, hafter, hb, rfl⟩, rfl⟩, hasync⟩, hdef⟩, hblanks⟩ := h
  obtain ⟨-, rfl⟩ := reaches_textStart.mp hstart
  have hline : f.headLine = 'd' :: 'e' :: 'f' :: ' ' :: (f.name.chars ++ f.afterName) := rfl
  have hafter : f.headLine = b ++ after := hafter
  obtain rfl : b = [] := by
    cases b with
    | nil => rfl
    | cons c b =>
      obtain rfl : 'd' = c := (List.cons.inj (hline.symm.trans hafter)).1
      exact absurd (hb _ List.mem_cons_self) (by decide)
  obtain rfl : f.headLine = after := hafter
  have hnot : m₃ = _ := hasync.resolve_left fun ⟨m, hword, _⟩ => by
    obtain ⟨rest, hrest, -⟩ := reaches_word.mp hword
    have hrest : f.headLine = "async".toList ++ rest := hrest
    rw [hline] at hrest
    cases hrest
  subst hnot
  obtain ⟨after, hafter, rfl⟩ := reaches_word.mp hdef
  have hsame : "def".toList ++ after = "def".toList ++ ' ' :: (f.name.chars ++ f.afterName) := hafter.symm.trans hline
  obtain rfl : after = ' ' :: (f.name.chars ++ f.afterName) := List.append_cancel_left hsame
  obtain ⟨c, b, rest, hafter, hb, rfl⟩ := reaches_blanks1.mp hblanks
  have hrest : f.name.chars ++ f.afterName = b ++ rest := (List.cons.inj hafter).2
  obtain ⟨d, u, hd, -⟩ := f.name.start
  obtain rfl : b = [] := by
    cases b with
    | nil => rfl
    | cons e b =>
      rw [hd] at hrest
      obtain rfl : d = e := (List.cons.inj hrest).1
      have hblank := hb d (List.mem_cons_of_mem _ List.mem_cons_self)
      rw [(f.name.letter d (hd ▸ List.mem_cons_self)).blank] at hblank
      cases hblank
  exact ⟨hrest.symm, rfl⟩

theorem exists_reaches_beforeName : ∃ t, beforeName.Reaches (.between [] f.headLine) t := by
  let start : Spot := .between [] f.headLine
  let caught : Spot := { start with captures := [(1, ⟨f.headLine, 0⟩)] }
  let behind := caught.skip "def".toList (' ' :: (f.name.chars ++ f.afterName))
  have hstart : textStart.Reaches start start := reaches_textStart.mpr ⟨rfl, rfl⟩
  have hindent : (many true fun c => c == ' ' || c == '\t').Reaches start start := reaches_many.mpr (Or.inl rfl)
  have hplain : (opt (Pattern.word "async" ++ blanks1)).Reaches caught caught := reaches_opt.mpr (Or.inr rfl)
  have hdef : (Pattern.word "def").Reaches caught behind := reaches_word.mpr ⟨_, rfl, rfl⟩
  have hblank : blanks1.Reaches behind (behind.skip [' '] (f.name.chars ++ f.afterName)) :=
    reaches_blanks1.mpr ⟨' ', [], _, rfl, by decide, rfl⟩
  exact ⟨_, _, ⟨_, ⟨_, ⟨_, hstart, _, hindent, rfl⟩, hplain⟩, hdef⟩, hblank⟩

/-- **The head of the function is found with its name.** -/
theorem matchAt_headLine : ∃ m, definitionHead.matchAt (Spot.start f.headLine) = some m ∧ m.captured 1 = [] ∧
    m.captured 2 = f.name.chars := by
  have hword : ∀ c ∈ f.name.chars, isWordChar c = true := fun c hc => (f.name.letter c hc).word
  -- Whichever way the name is reached, it is taken as a whole.
  have hname {t : Spot} (ht : beforeName.Reaches (.between [] f.headLine) t) :
      ∃ t', (capture 2 wordChars1).run t some = some t' ∧ t'.captured 1 = [] ∧ t'.captured 2 = f.name.chars := by
    obtain ⟨hafter, hindent⟩ := f.afterName_of_reaches ht
    obtain ⟨t', hrun, hcaptures⟩ := run_capture_wordChars1 (n := 2) f.name.ne_nil hword rfl hafter
    refine ⟨t', hrun, ?_, ?_⟩
    · rw [Spot.captured, hcaptures]
      exact hindent
    · rw [Spot.captured, hcaptures]
      show t.after.take f.name.chars.length = f.name.chars
      rw [hafter, List.take_left]
  let stop (t : Spot) : Option Spot := (capture 2 wordChars1).run t some
  obtain ⟨t, ht⟩ := f.exists_reaches_beforeName
  obtain ⟨t₁, hrun, -⟩ := hname ht
  have hsome : (beforeName.run (.between [] f.headLine) stop).isSome :=
    isSome_run ht (Option.isSome_iff_exists.mpr ⟨t₁, hrun⟩)
  obtain ⟨t₂, hmatch⟩ := Option.isSome_iff_exists.mp hsome
  obtain ⟨t', ht', hstop⟩ := exists_reaches hmatch
  obtain ⟨t₃, hrun', hindent, hcaptured⟩ := hname ht'
  obtain rfl : t₂ = t₃ := Option.some.inj (hstop.symm.trans hrun')
  refine ⟨⟨(Spot.start f.headLine).forget, t₂⟩, ?_, hindent, hcaptured⟩
  exact congrArg (Option.map _) hmatch

theorem findDefinition_lines (ls : List (List Char)) :
    ∃ m, findDefinition (f.decoratorLine :: f.headLine :: ls) = some (m, f.headLine :: ls) ∧ m.captured 1 = [] ∧
      m.captured 2 = f.name.chars := by
  obtain ⟨m, hm, hcaptured⟩ := f.matchAt_headLine
  refine ⟨m, ?_, hcaptured⟩
  rw [findDefinition, f.matchAt_decoratorLine, findDefinition, hm]

/-! ## The lines below it -/

theorem exists_solid (s : PlainStatement) : ∃ c rest, s.line = c :: rest ∧ isBlank c = false ∧ c ≠ '#' := by
  obtain ⟨c, rest, hline, hc⟩ := s.exists_first
  refine ⟨c, rest, hline, ?_⟩
  rcases hc with hc | hc
  · refine ⟨hc.blank, ?_⟩
    rintro rfl
    exact absurd (by decide) hc.mark
  · have hall : ∀ c ∈ ['"', '.'], isBlank c = false ∧ c ≠ '#' := by decide
    exact hall c hc

theorem stripLeft_bodyLine (s : PlainStatement) (tail : List Char) :
    stripLeft (f.indent ++ (s.line ++ tail)) = s.line ++ tail := by
  obtain ⟨c, rest, hline, hc, -⟩ := exists_solid s
  rw [stripLeft_append f.indent_isBlank, hline, List.cons_append, stripLeft_cons hc]

theorem strip_bodyLine (s : PlainStatement) : strip (f.indent ++ s.line) = s.line := by
  have hleft := f.stripLeft_bodyLine s []
  rw [List.append_nil] at hleft
  obtain ⟨l, c, hline, hc⟩ := s.exists_last
  have hblank : isBlank c = false := by
    rcases hc with hc | hc
    · exact hc.blank
    · have hall : ∀ c ∈ ['"', '.', ')'], isBlank c = false := by decide
      exact hall c hc
  rw [strip, hleft, hline]
  exact stripRight_append hblank l []

theorem takeWhile_bodyLine (s : PlainStatement) : (f.indent ++ s.line).takeWhile isBlank = f.indent := by
  obtain ⟨c, rest, hline, hc, -⟩ := exists_solid s
  rw [List.takeWhile_append_of_pos f.indent_isBlank, hline, List.takeWhile_cons_of_neg (Bool.eq_false_iff.mp hc),
    List.append_nil]

theorem isAllBlank_bodyLine (s : PlainStatement) : isAllBlank (f.indent ++ s.line) = false := by
  obtain ⟨c, rest, hline, hc, -⟩ := exists_solid s
  rw [isAllBlank, List.all_append, hline, List.all_cons, hc, Bool.false_and, Bool.and_false]

theorem isCodeLine_bodyLine (s : PlainStatement) : isCodeLine (f.indent ++ s.line) = true := by
  obtain ⟨c, rest, hline, -, hc⟩ := exists_solid s
  have hleft := f.stripLeft_bodyLine s []
  rw [List.append_nil] at hleft
  rw [isCodeLine, hleft, hline]
  exact bne_iff_ne.mpr hc

theorem getLast_headLine : (stripRight f.headLine).getLast? = some ':' := by
  have hline : f.headLine = ("def ".toList ++ (f.name.chars ++ '(' :: (f.parameter.chars ++ [')']))) ++ [':'] := by
    simp [headLine]
  have hstrip := stripRight_append (c := ':') (by decide)
    ("def ".toList ++ (f.name.chars ++ '(' :: (f.parameter.chars ++ [')']))) []
  rw [hline, hstrip]
  exact List.getLast?_concat

theorem deeperLines_bodyLines (ss : List PlainStatement) :
    deeperLines 0 (ss.map fun s => f.indent ++ s.line) = ss.map fun s => f.indent ++ s.line := by
  induction ss with
  | nil => rfl
  | cons s ss ih =>
    have hdeep : ¬ ((f.indent ++ s.line).takeWhile isBlank).length ≤ 0 := by
      rw [f.takeWhile_bodyLine, Nat.not_le]
      exact List.length_pos_iff.mpr f.indent_ne_nil
    rw [List.map_cons, deeperLines, f.isAllBlank_bodyLine, if_neg Bool.false_ne_true, if_neg hdeep, ih]

theorem docText_opens {s t : Spot} (h : docText.Reaches s t) :
    ∃ b marks q rest, s.after = b ++ (marks ++ (q :: q :: q :: rest)) ∧ (∀ c ∈ b, isBlank c = true) ∧
      (∀ c ∈ marks, isStringMark c = true) ∧ q ∈ ['"', '\''] := by
  obtain ⟨m₅, ⟨m₄, ⟨m₃, ⟨m₂, ⟨m₁, hstart, b, after, hafter, hb, rfl⟩, marks, after', hafter', hmarks, rfl⟩,
    m, hquotes, rfl⟩, -⟩, -⟩ := h
  obtain ⟨-, rfl⟩ := reaches_textStart.mp hstart
  obtain rfl : after = marks ++ after' := hafter'
  obtain ⟨w, hw, rest, hrest, -⟩ := reaches_oneOf.mp hquotes
  obtain rfl : after' = w.toList ++ rest := hrest
  rcases List.mem_cons.mp hw with rfl | hw
  · exact ⟨b, marks, '"', rest, hafter, hb, hmarks, by decide⟩
  · obtain rfl := List.mem_singleton.mp hw
    exact ⟨b, marks, '\'', rest, hafter, hb, hmarks, by decide⟩

/-- Triple quotes in front of a line end stand on the line. -/
theorem quote_mem_line {l tail marks rest : List Char} {q : Char} (htail : ∀ c ∈ tail.head?, c = '\n')
    (hmarks : ∀ c ∈ marks, isStringMark c = true) (hq : q ≠ '\n') (heq : l ++ tail = marks ++ q :: rest) : q ∈ l := by
  have hfeed {r : List Char} : tail ≠ q :: r := by
    rintro rfl
    exact hq (htail q rfl)
  rcases List.append_eq_append_iff.mp heq with ⟨a, hmarks', htail'⟩ | ⟨a, hline, hrest⟩
  · cases a with
    | nil => exact absurd htail' hfeed
    | cons c a =>
      rw [List.cons_append] at htail'
      obtain rfl : c = '\n' := htail c (by rw [htail']; rfl)
      have hmark := hmarks '\n' (hmarks' ▸ List.mem_append_right _ List.mem_cons_self)
      exact absurd hmark (by decide)
  · cases a with
    | nil => exact absurd hrest.symm hfeed
    | cons c a =>
      obtain rfl : q = c := (List.cons.inj hrest).1
      exact hline ▸ List.mem_append_right _ List.mem_cons_self

theorem not_docText (s : PlainStatement) {tail marks rest : List Char} {q : Char} (htail : ∀ c ∈ tail.head?, c = '\n')
    (hmarks : ∀ c ∈ marks, isStringMark c = true) (hq : q ∈ ['"', '\'']) :
    s.line ++ tail ≠ marks ++ q :: q :: q :: rest := by
  have hnot : ∀ q ∈ ['"', '\''], q ≠ '\n' ∧ ¬ Letter q := by
    intro q hq
    refine ⟨?_, fun h => h.mark ?_⟩
    · rintro rfl
      exact absurd hq (by decide)
    · have hall : ∀ q ∈ ['"', '\''], q ∈ ['"', '\'', '(', ')', '.', '=', '@', '#', ':', '\n', ','] := by decide
      exact hall q hq
  intro heq
  have hquote : q ∈ s.line := quote_mem_line htail hmarks (hnot q hq).1 heq
  have hmark : q ∈ s.marks := (PlainStatement.mem_line hquote).resolve_left (hnot q hq).2
  have hother {u : List Char} (hu : ∀ q ∈ ['"', '\''], q ∉ u) (hmark : q ∈ u) : False := hu q hq hmark
  cases s with
  | text x =>
    cases marks with
    | nil =>
      have heq : '"' :: (x.chars ++ ['"'] ++ tail) = q :: q :: q :: rest := heq
      obtain ⟨rfl, hinside⟩ := List.cons.inj heq
      cases hx : x.chars with
      | nil =>
        rw [hx] at hinside
        obtain rfl : tail = '"' :: rest := (List.cons.inj hinside).2
        exact (hnot '"' hq).1 (htail '"' rfl)
      | cons c l =>
        rw [hx] at hinside
        obtain rfl : c = '"' := (List.cons.inj hinside).1
        exact (x.clean '"' (hx ▸ List.mem_cons_self)).1 rfl
    | cons c marks =>
      obtain rfl : '"' = c := (List.cons.inj heq).1
      exact absurd (hmarks '"' List.mem_cons_self) (by decide)
  | assign x y => exact hother (u := [' ', '=']) (by decide) hmark
  | call g x => exact hother (u := ['(', ')']) (by decide) hmark
  | ellipsis => exact hother (u := ['.']) (by decide) hmark
  | pass => cases hmark
  | returnBare => cases hmark
  | _ => exact hother (u := [' ']) (by decide) hmark

theorem withoutDoc_bodyLines : withoutDoc (joinLines f.bodyLines) = joinLines f.bodyLines := by
  obtain ⟨s, tail, hlines, htail⟩ : ∃ s tail, joinLines f.bodyLines = f.indent ++ (PlainStatement.line s ++ tail) ∧
      ∀ c ∈ tail.head?, c = '\n' := by
    obtain ⟨s, ss, hbody⟩ := List.exists_cons_of_ne_nil f.body_ne_nil
    rw [bodyLines, hbody]
    cases ss with
    | nil => exact ⟨s, [], by rw [List.append_nil]; rfl, nofun⟩
    | cons s' ss =>
      refine ⟨s, '\n' :: joinLines ((s' :: ss).map fun s => f.indent ++ s.line), ?_,
        fun c hc => (Option.some.inj hc).symm⟩
      show f.indent ++ s.line ++ ['\n'] ++ joinLines ((s' :: ss).map fun s => f.indent ++ s.line) = _
      simp
  have hnone : docText.matchAt (Spot.start (joinLines f.bodyLines)) = none := by
    rw [← Option.isNone_iff_eq_none, ← Option.isSome_eq_false_iff, Bool.eq_false_iff]
    intro hsome
    obtain ⟨t, ht⟩ := matchAt_isSome.mp hsome
    obtain ⟨b, marks, q, rest, hopens, hb, hmarks, hq⟩ := docText_opens ht
    have hopens : f.indent ++ (s.line ++ tail) = b ++ (marks ++ (q :: q :: q :: rest)) := hlines.symm.trans hopens
    have hsolid : stripLeft (marks ++ (q :: q :: q :: rest)) = marks ++ (q :: q :: q :: rest) := by
      cases marks with
      | nil =>
        have hall : ∀ q ∈ ['"', '\''], isBlank q = false := by decide
        exact stripLeft_cons (hall q hq) _
      | cons c marks =>
        have hall : ∀ c ∈ "rbuRBU".toList, isBlank c = false := by decide
        exact stripLeft_cons (hall c (by simpa [isStringMark] using hmarks c List.mem_cons_self)) _
    have hstrip := congrArg stripLeft hopens
    rw [f.stripLeft_bodyLine, stripLeft_append hb, hsolid] at hstrip
    exact not_docText s htail hmarks hq hstrip
  rw [withoutDoc, hnone]

/-- **Every line below the head is a line of code of its own.** -/
theorem codeLines_bodyLines : codeLines f.bodyLines = f.body.map fun s => ⟨0, s.line⟩ := by
  have hclean : ∀ l ∈ f.bodyLines, l ≠ [] ∧ ∀ c ∈ l, isLineBreak c = false :=
    fun l hl => f.lines_clean l (List.mem_cons_of_mem _ (List.mem_cons_of_mem _ hl))
  have hne : f.bodyLines ≠ [] := List.map_eq_nil_iff.not.mpr f.body_ne_nil
  have hsplit := splitLines_joinLines hne hclean false
  rw [if_neg Bool.false_ne_true, List.append_nil] at hsplit
  have hcode : f.bodyLines.filter isCodeLine = f.bodyLines := by
    rw [List.filter_eq_self]
    intro l hl
    obtain ⟨s, -, rfl⟩ := List.mem_map.mp hl
    exact f.isCodeLine_bodyLine s
  obtain ⟨s, ss, hbody⟩ := List.exists_cons_of_ne_nil f.body_ne_nil
  have hlines : f.bodyLines = (f.indent ++ s.line) :: ss.map fun s => f.indent ++ s.line := by
    rw [bodyLines, hbody, List.map_cons]
  rw [codeLines, withoutDoc_bodyLines, hsplit, hcode, hbody, hlines]
  have hindent (s : PlainStatement) : indentOf (f.indent ++ s.line) = columnAfter 0 f.indent := by
    rw [indentOf, takeWhile_bodyLine]
  show ((s :: ss).map fun s => f.indent ++ s.line).map (fun l : List Char =>
    BodyLine.mk (if indentOf l ≤ indentOf (f.indent ++ s.line) then 0 else 1) (strip l)) = _
  rw [List.map_map]
  refine List.map_congr_left fun s' _ => ?_
  show BodyLine.mk (if indentOf (f.indent ++ s'.line) ≤ indentOf (f.indent ++ s.line) then 0 else 1)
    (strip (f.indent ++ s'.line)) = _
  rw [hindent, hindent, if_pos (Nat.le_refl _), strip_bodyLine]

/-- **The body is found line by line, with the name of the function.** -/
theorem indentBody_lines {lookahead : Nat} (h : 2 ≤ lookahead) :
    indentBody lookahead f.lines = (f.body.map fun s => ⟨0, s.line⟩, f.name.chars) := by
  obtain ⟨n, rfl⟩ := Nat.exists_eq_add_of_le' h
  obtain ⟨m, hm, hindent, hname⟩ := f.findDefinition_lines (f.bodyLines.take n)
  have hnear : f.lines.take (n + 2) = f.decoratorLine :: f.headLine :: f.bodyLines.take n := rfl
  have hrest : f.lines.drop ((f.decoratorLine :: f.headLine :: f.bodyLines.take n).length -
      (f.headLine :: f.bodyLines.take n).length) = f.headLine :: f.bodyLines := by
    rw [List.length_cons, Nat.add_sub_cancel_left]
    rfl
  have hbelow : headEnd (f.headLine :: f.bodyLines.take n).length (f.headLine :: f.bodyLines) = .below f.bodyLines := by
    rw [List.length_cons, headEnd, getLast_headLine, if_pos rfl]
  have hdeeper : deeperLines 0 f.bodyLines = f.bodyLines := f.deeperLines_bodyLines f.body
  rw [indentBody, hnear, hm]
  dsimp only
  rw [hrest, hbelow, hindent, hname]
  show (codeLines (deeperLines 0 f.bodyLines), f.name.chars) = _
  rw [hdeeper, codeLines_bodyLines]

/-! ## The binding -/

/-- The binding of a plain step definition, apart from its line. -/
def binding (keywords : List String) (file : String) (line : Int) : StepBinding where
  kind := StepKind.ofKeyword f.word.toList
  text := codePoints f.text.chars
  function := f.name.chars
  file := file
  line := line
  body := plainFacts (keywords.map fun k => lower k.toList) f.body

/-- **The scanner finds one binding, on the line of the decorator**, if it looks at two lines at least. -/
theorem scan_source (keywords : List String) {lookahead : Int} (h : 2 ≤ lookahead) (file : String) :
    scan python keywords lookahead file f.source = [f.binding keywords file 1] := by
  obtain ⟨m, rest, hm, hstart, hstop⟩ := f.findAll_registration
  have hbefore : countNewlines (f.source.take m.start.position) = 0 := by
    rw [hstart]
    rfl
  have hkind : m.captured 1 = f.word.toList := hstop.kind
  have hbody : indentBody lookahead.toNat f.lines = (f.body.map fun s => ⟨0, s.line⟩, f.name.chars) :=
    f.indentBody_lines (by omega)
  rw [scan, hm, splitLines_source, bindingsOf, bindingsOf, bindingOf, hbefore, List.drop_zero, hkind,
    f.stepText_source hstart hstop]
  have hstyle : python.style = .indented := rfl
  rw [if_pos hstyle, hbody]
  dsimp only
  rw [PlainStatement.facts_lines]
  rfl

end PlainStep

end ScenarioAudit
