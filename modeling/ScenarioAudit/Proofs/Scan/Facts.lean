import ScenarioAudit.Proofs.Scan.Line
import ScenarioAudit.Proofs.Text.Words

/-! # What the scanner makes of plain statements

Each pattern of the scanner is settled on the lines of plain statements: which of them are placeholders, which calls
they hold, and which assertions test a literal truth. From these follow the facts of one line
(`PlainStatement.lineFacts_line`), and of a body (`PlainStatement.facts_lines`).
-/

namespace ScenarioAudit

open ScenarioAudit.Text ScenarioAudit.Syntax Pattern Scan

namespace Pattern

theorem reaches_blanks {s t : Spot} :
    blanks.Reaches s t ↔ ∃ b rest, s.after = b ++ rest ∧ (∀ c ∈ b, isBlank c = true) ∧ t = s.skip b rest :=
  Iff.rfl

theorem reaches_blanks1 {s t : Spot} :
    blanks1.Reaches s t ↔
      ∃ c b rest, s.after = c :: b ++ rest ∧ (∀ d ∈ c :: b, isBlank d = true) ∧ t = s.skip (c :: b) rest := by
  constructor
  · rintro ⟨m, ⟨c, _, hs, hc, rfl⟩, b, rest, rfl, hb, rfl⟩
    exact ⟨c, b, rest, hs, List.forall_mem_cons.mpr ⟨hc, hb⟩, Spot.skip_cons s c b rest⟩
  · rintro ⟨c, b, rest, hs, hall, rfl⟩
    rw [List.forall_mem_cons] at hall
    exact ⟨_, ⟨c, b ++ rest, hs, hall.1, rfl⟩, b, rest, rfl, hall.2, (Spot.skip_cons s c b rest).symm⟩

theorem reaches_charBlanks {c : Char} {s t : Spot} :
    (charBlanks c).Reaches s t ↔
      ∃ b rest, s.after = c :: (b ++ rest) ∧ (∀ d ∈ b, isBlank d = true) ∧ t = s.skip (c :: b) rest := by
  constructor
  · rintro ⟨m, hm, b, rest, hrest, hb, rfl⟩
    obtain ⟨after, hs, rfl⟩ := reaches_char.mp hm
    obtain rfl : after = b ++ rest := hrest
    exact ⟨b, rest, hs, hb, Spot.skip_cons s c b rest⟩
  · rintro ⟨b, rest, hs, hb, rfl⟩
    exact ⟨_, reaches_char.mpr ⟨b ++ rest, hs, rfl⟩, b, rest, rfl, hb, (Spot.skip_cons s c b rest).symm⟩

theorem occurs_whole_word {w : String} {text : List Char} (h : '\n' ∉ text) :
    (whole (word w)).occurs text = true ↔ text = w.toList := by
  rw [occurs_whole h]
  constructor
  · rintro ⟨t, ht, hafter⟩
    obtain ⟨rest, htext, rfl⟩ := reaches_word.mp ht
    obtain rfl : rest = [] := hafter
    exact htext.trans (List.append_nil _)
  · rintro rfl
    exact ⟨_, reaches_word.mpr ⟨[], (List.append_nil _).symm, rfl⟩, rfl⟩

end Pattern

namespace PlainStatement

/-! ## Placeholders -/

def isPlaceholder : PlainStatement → Bool
  | pass | ellipsis | text _ | returnBare | returnNone => true
  | _ => false

def quotedLine : Pattern :=
  whole (many true isStringMark ++ capture 1 anyQuote ++ inLine ++ same 1)

def emptyReturn : Pattern :=
  whole (word "return" ++ opt (blanks1 ++ word "None"))

theorem occurs_quotedLine_text (s : PlainText) : quotedLine.occurs (text s).line = true := by
  rw [quotedLine, occurs_whole (text s).feed_not_mem_line]
  have hline : ∀ c ∈ s.chars, notNewline c = true := by
    intro c hc
    have hbreak := (s.clean c hc).2.2.2
    rw [notNewline, bne_iff_ne]
    rintro rfl
    exact absurd hbreak (by decide)
  let before : Spot := .between [] (text s).line
  let opened : Spot := { before.next '"' (s.chars ++ ['"']) with captures := [(1, ⟨before.after, 1⟩)] }
  have hmarks : (many true isStringMark).Reaches before before := reaches_many.mpr (Or.inl rfl)
  have hquote : (capture 1 anyQuote).Reaches before opened := ⟨_, ⟨'"', _, rfl, rfl, rfl⟩, rfl⟩
  have hinside : inLine.Reaches opened (opened.skip s.chars ['"']) := ⟨s.chars, ['"'], rfl, hline, rfl⟩
  have hsame : (same 1).Reaches (opened.skip s.chars ['"']) ((opened.skip s.chars ['"']).skip ['"'] []) :=
    runText_eq_some.mpr ⟨[], rfl, rfl⟩
  exact ⟨_, ⟨_, ⟨_, ⟨_, hmarks, hquote⟩, hinside⟩, hsame⟩, rfl⟩

theorem occurs_quotedLine_false {l : List Char} (hfeed : '\n' ∉ l) (h : ∀ c ∈ l, c ≠ '\'' ∧ c ≠ '"') :
    quotedLine.occurs l = false := by
  rw [Bool.eq_false_iff, quotedLine, ne_eq, occurs_whole hfeed]
  rintro ⟨t, ⟨m, ⟨m', ⟨m'', hmarks, hquote⟩, -⟩, -⟩, -⟩
  obtain ⟨m₁, ⟨c, rest, hafter, hc, -⟩, -⟩ := hquote
  obtain ⟨u, hu, -⟩ := hmarks.exists_skipped
  have hmem : c ∈ l := by
    have hl : l = u ++ m''.after := hu
    rw [hl, hafter]
    exact List.mem_append_right u List.mem_cons_self
  rw [Bool.or_eq_true, beq_iff_eq, beq_iff_eq] at hc
  exact hc.elim (h c hmem).1 (h c hmem).2

theorem occurs_emptyReturn {l : List Char} (hfeed : '\n' ∉ l) :
    emptyReturn.occurs l = true ↔ l = "return".toList ∨
      ∃ c b, (∀ d ∈ c :: b, isBlank d = true) ∧ l = "return".toList ++ (c :: b ++ "None".toList) := by
  rw [emptyReturn, occurs_whole hfeed]
  constructor
  · rintro ⟨t, ⟨m, hword, hopt⟩, hend⟩
    obtain ⟨rest, hl, rfl⟩ := reaches_word.mp hword
    have hl : l = "return".toList ++ rest := hl
    rcases hopt with ⟨m, hblanks, hnone⟩ | hstop
    · obtain ⟨c, b, rest', hrest, hblank, rfl⟩ := reaches_blanks1.mp hblanks
      obtain ⟨rest'', hafter, rfl⟩ := reaches_word.mp hnone
      obtain rfl : rest = c :: b ++ rest' := hrest
      obtain rfl : rest' = "None".toList ++ rest'' := hafter
      obtain rfl : rest'' = [] := hend
      rw [List.append_nil] at hl
      exact Or.inr ⟨c, b, hblank, hl⟩
    · obtain rfl := hstop
      obtain rfl : rest = [] := hend
      exact Or.inl (hl.trans (List.append_nil _))
  · rintro (rfl | ⟨c, b, hblank, rfl⟩)
    · exact ⟨_, ⟨_, reaches_word.mpr ⟨[], rfl, rfl⟩, reaches_opt.mpr (Or.inr rfl)⟩, rfl⟩
    · refine ⟨_, ⟨_, reaches_word.mpr ⟨c :: b ++ "None".toList, rfl, rfl⟩, Or.inl ⟨_, reaches_blanks1.mpr
        ⟨c, b, "None".toList, rfl, hblank, rfl⟩, reaches_word.mpr ⟨[], rfl, rfl⟩⟩⟩, rfl⟩

theorem name_ne_none (x : PlainName) {c : Char} {b : List Char} (hb : ∀ d ∈ c :: b, isBlank d = true) :
    ' ' :: x.chars ≠ c :: b ++ "None".toList := by
  intro heq
  rw [List.cons_append, List.cons.injEq] at heq
  obtain ⟨rfl, heq⟩ := heq
  cases b with
  | nil => exact x.ne_keyword (w := "None") (by decide) heq.symm
  | cons d b =>
    have hd : d ∈ x.chars := heq ▸ List.mem_cons_self
    have hblank := hb d (List.mem_cons_of_mem _ List.mem_cons_self)
    rw [(x.letter d hd).blank] at hblank
    cases hblank

/-- A line that opens with a word and goes on is no placeholder, unless it returns nothing. -/
theorem placeholders_false {s : PlainStatement} (hfirst : s.opening.1 ≠ []) (hrest : s.opening.2 ≠ [])
    (hmarks : ∀ c ∈ s.marks, c ∈ [' ', '=', '(', ')'])
    (hreturn : ∀ c b, (∀ d ∈ c :: b, isBlank d = true) → s.opening ≠ ("return".toList, c :: b ++ "None".toList)) :
    ScanRules.anyOccurs python.placeholders s.line = false := by
  have hunique {a r : List Char} (h : OpensWith a r) (hline : s.line = a ++ r) : s.opening = (a, r) := by
    obtain ⟨ha, hr⟩ := s.opensWith.unique h (s.line_eq.symm.trans hline)
    exact Prod.ext ha hr
  have hword {w : String} (hw : ∀ c ∈ w.toList, isWordChar c = true) : s.line ≠ w.toList := by
    intro hline
    rw [hunique ⟨hw, rfl⟩ (hline.trans (List.append_nil _).symm)] at hrest
    exact hrest rfl
  have hpass : (whole (word "pass")).occurs s.line = false := by
    rw [Bool.eq_false_iff, ne_eq, occurs_whole_word s.feed_not_mem_line]
    exact hword (by decide)
  have hdots : (whole (word "...")).occurs s.line = false := by
    rw [Bool.eq_false_iff, ne_eq, occurs_whole_word s.feed_not_mem_line]
    intro hline
    have hdots : OpensWith [] "...".toList := ⟨nofun, rfl⟩
    rw [hunique hdots (hline.trans (List.nil_append _).symm)] at hfirst
    exact hfirst rfl
  have hquoted : quotedLine.occurs s.line = false := by
    refine occurs_quotedLine_false s.feed_not_mem_line fun c hc => ?_
    rcases mem_line hc with hletter | hmark
    · have hnot := hletter.mark
      simp only [List.mem_cons, not_or] at hnot
      exact ⟨hnot.2.1, hnot.1⟩
    · have hall : ∀ c ∈ [' ', '=', '(', ')'], c ≠ '\'' ∧ c ≠ '"' := by decide
      exact hall c (hmarks c hmark)
  have hempty : emptyReturn.occurs s.line = false := by
    rw [Bool.eq_false_iff, ne_eq, occurs_emptyReturn s.feed_not_mem_line]
    rintro (hline | ⟨c, b, hblank, hline⟩)
    · exact hword (by decide) hline
    · have hc : c ∈ s.line := by
        rw [hline]
        exact List.mem_append_right _ List.mem_cons_self
      -- The blank is none of a letter, so it is one of the marks of the line.
      have hnot : isWordChar c = false := by
        rcases mem_line hc with hletter | hmark
        · exact absurd (hblank c List.mem_cons_self) (by simp [hletter.blank])
        · have hall : ∀ c ∈ [' ', '=', '(', ')'], isWordChar c = false := by decide
          exact hall c (hmarks c hmark)
      exact hreturn c b hblank (hunique ⟨by decide, hnot⟩ hline)
  have hrules : ScanRules.anyOccurs python.placeholders s.line =
      ((whole (word "pass")).occurs s.line || ((whole (word "...")).occurs s.line ||
        (quotedLine.occurs s.line || (emptyReturn.occurs s.line || false)))) := rfl
  rw [hrules, hpass, hdots, hquoted, hempty]
  rfl

theorem anyOccurs_placeholders (s : PlainStatement) :
    ScanRules.anyOccurs python.placeholders s.line = s.isPlaceholder := by
  have hspace : ∀ c ∈ [' '], c ∈ [' ', '=', '(', ')'] := by decide
  have hassign : ∀ c ∈ [' ', '='], c ∈ [' ', '=', '(', ')'] := by decide
  have hcall : ∀ c ∈ ['(', ')'], c ∈ [' ', '=', '(', ')'] := by decide
  have hword {w : String} {l : List Char} (hw : w ≠ "return") (c : Char) (b : List Char) :
      (w.toList, l) ≠ ("return".toList, c :: b ++ "None".toList) :=
    fun heq => hw (String.toList_inj.mp (Prod.mk.inj heq).1)
  have hname (x : PlainName) (l : List Char) (c : Char) (b : List Char) :
      (x.chars, l) ≠ ("return".toList, c :: b ++ "None".toList) :=
    fun heq => x.ne_keyword (by decide) (Prod.mk.inj heq).1.symm
  cases s with
  | text s =>
    have hrules : ScanRules.anyOccurs python.placeholders (text s).line =
        ((whole (word "pass")).occurs (text s).line || ((whole (word "...")).occurs (text s).line ||
          (quotedLine.occurs (text s).line || (emptyReturn.occurs (text s).line || false)))) := rfl
    rw [hrules, occurs_quotedLine_text]
    simp [isPlaceholder]
  | pass => decide +kernel
  | ellipsis => decide +kernel
  | returnBare => decide +kernel
  | returnNone => decide +kernel
  | assertLiteral l => exact placeholders_false (List.cons_ne_nil _ _) nofun hspace fun c b _ => hword (by decide) c b
  | returnName x =>
    exact placeholders_false (List.cons_ne_nil _ _) nofun hspace fun c b hb heq => name_ne_none x hb (Prod.mk.inj heq).2
  | assertName x => exact placeholders_false (List.cons_ne_nil _ _) nofun hspace fun c b _ => hword (by decide) c b
  | raised e => exact placeholders_false (List.cons_ne_nil _ _) nofun hspace fun c b _ => hword (by decide) c b
  | assign x y => exact placeholders_false x.ne_nil nofun hassign fun c b _ => hname x _ c b
  | call f x => exact placeholders_false f.ne_nil nofun hcall fun c b _ => hname f _ c b

/-! ## Calls -/

theorem not_isBlank_call {f x : PlainName} {c : Char} (hc : c ∈ (call f x).line) : isBlank c = false := by
  rcases mem_line hc with hletter | hmark
  · exact hletter.blank
  · have hall : ∀ c ∈ ['(', ')'], isBlank c = false := by decide
    exact hall c hmark

theorem nil_of_blanks {f x : PlainName} {u b rest : List Char} (hb : ∀ c ∈ b, isBlank c = true)
    (h : (call f x).line = u ++ (b ++ rest)) : b = [] := by
  cases b with
  | nil => rfl
  | cons c b =>
    have hc : c ∈ (call f x).line := by
      rw [h]
      exact List.mem_append_right u List.mem_cons_self
    have hblank := hb c List.mem_cons_self
    rw [not_isBlank_call hc] at hblank
    cases hblank

theorem needs_callName : Needs '(' callName :=
  (needs_char '(').append_right _

theorem findAll_callName_nil {s : PlainStatement} (h : '(' ∉ s.marks) : callName.findAll s.line = [] :=
  findAll_eq_nil (needs_callName.occurs (not_mem_line (by decide) h))

theorem reaches_callName {f x : PlainName} {t : Spot} (h : callName.Reaches (.between [] (call f x).line) t) :
    t.captured 1 = f.chars ∧ t.after = x.chars ++ [')'] ∧ 0 < t.position := by
  obtain ⟨m₄, ⟨m₃, ⟨m₂, ⟨m₁, ⟨m₀, ⟨n, ⟨c, r₁, hline, hc, rfl⟩, u, r₂, hr₁, hword, rfl⟩, rfl⟩, hblanks⟩, hopt⟩,
    hblanks'⟩, hchar⟩ := h
  have hline : (call f x).line = c :: r₁ := hline
  obtain rfl : r₁ = u ++ r₂ := hr₁
  obtain ⟨b, r₃, hr₂, hb, rfl⟩ := hblanks
  obtain rfl : r₂ = b ++ r₃ := hr₂
  obtain rfl := nil_of_blanks (u := c :: u) hb hline
  rcases hopt with hbang | rfl
  · obtain ⟨rest, hr₃, -⟩ := reaches_char.mp hbang
    obtain rfl : r₃ = '!' :: rest := hr₃
    have hmem : '!' ∈ (call f x).line := by
      rw [hline]
      exact List.mem_cons_of_mem _ (List.mem_append_right u List.mem_cons_self)
    have hmarks : '!' ∉ (call f x).marks := by
      show '!' ∉ ['(', ')']
      decide
    exact absurd hmem (not_mem_line (by decide) hmarks)
  obtain ⟨b', r₄, hr₃, hb', rfl⟩ := hblanks'
  obtain rfl : r₃ = b' ++ r₄ := hr₃
  obtain rfl := nil_of_blanks (u := c :: u) hb' hline
  obtain ⟨rest, hr₄, rfl⟩ := reaches_char.mp hchar
  obtain rfl : r₄ = '(' :: rest := hr₄
  have hfirst : isWordChar c = true := by
    rcases mem_line (hline ▸ List.mem_cons_self : c ∈ (call f x).line) with hletter | hmark
    · exact hletter.word
    · have hall : ∀ c ∈ ['(', ')'], ¬ (('A' ≤ c && c ≤ 'Z') || ('a' ≤ c && c ≤ 'z') || c == '_') = true := by decide
      exact absurd hc (hall c hmark)
  obtain ⟨hname, hrest⟩ := OpensWith.unique ⟨List.forall_mem_cons.mpr ⟨hfirst, hword⟩, rfl⟩ (call f x).opensWith
    (hline.symm.trans (line_eq _))
  have hname : c :: u = f.chars := hname
  refine ⟨?_, ?_, ?_⟩
  · show (call f x).line.take (0 + 1 + u.length - 0) = f.chars
    rw [hline, ← hname, Nat.sub_zero, Nat.zero_add, Nat.add_comm 1, List.take_succ_cons, List.take_left]
  · exact (List.cons.inj hrest).2
  · exact Nat.succ_pos _

theorem exists_reaches_callName (f x : PlainName) : ∃ t, callName.Reaches (.between [] (call f x).line) t := by
  obtain ⟨c, u, hf, hdigit⟩ := f.start
  have hall : ∀ n < 128, isNameLetter (Char.ofNat n) = true → (Char.ofNat n).isDigit = false →
      (('A' ≤ Char.ofNat n && Char.ofNat n ≤ 'Z') || ('a' ≤ Char.ofNat n && Char.ofNat n ≤ 'z') ||
        Char.ofNat n == '_') = true := by
    decide +kernel
  have hc : (('A' ≤ c && c ≤ 'Z') || ('a' ≤ c && c ≤ 'z') || c == '_') = true := by
    have hletter := f.letters c (hf ▸ List.mem_cons_self)
    have h := hall c.toNat (nameLetter_ascii hletter)
    rw [Char.ofNat_toNat] at h
    exact h hletter hdigit
  have hword : ∀ d ∈ u, isWordChar d = true := fun d hd => (f.letter d (hf ▸ List.mem_cons_of_mem c hd)).word
  have hline : (call f x).line = c :: (u ++ '(' :: (x.chars ++ [')'])) := by
    show f.chars ++ ('(' :: (x.chars ++ [')'])) = _
    rw [hf, List.cons_append]
  rw [hline]
  let before : Spot := .between [] (c :: (u ++ '(' :: (x.chars ++ [')'])))
  let named := (before.next c (u ++ '(' :: (x.chars ++ [')']))).skip u ('(' :: (x.chars ++ [')']))
  let caught : Spot := { named with captures := [(1, ⟨before.after, named.position - before.position⟩)] }
  have hname : (capture 1
      (one (fun c => ('A' ≤ c && c ≤ 'Z') || ('a' ≤ c && c ≤ 'z') || c == '_') ++ wordChars)).Reaches
      before caught :=
    ⟨named, ⟨_, ⟨c, _, rfl, hc, rfl⟩, u, _, rfl, hword, rfl⟩, rfl⟩
  have hblanks : blanks.Reaches caught caught := reaches_many.mpr (Or.inl rfl)
  have hopt : (opt (char '!')).Reaches caught caught := reaches_opt.mpr (Or.inr rfl)
  exact ⟨_, _, ⟨_, ⟨_, ⟨_, hname, hblanks⟩, hopt⟩, hblanks⟩, reaches_char.mpr ⟨x.chars ++ [')'], rfl, rfl⟩⟩

/-- **A call calls the name in front of its parenthesis** and nothing else. -/
theorem findAll_callName (f x : PlainName) :
    (callName.findAll (call f x).line).map (fun m => m.captured 1) = [f.chars] := by
  have hsome : (callName.matchAt (Spot.start (call f x).line)).isSome :=
    matchAt_isSome.mpr (exists_reaches_callName f x)
  obtain ⟨m, hm⟩ := Option.isSome_iff_exists.mp hsome
  obtain ⟨hstart, hstop⟩ := reaches_of_matchAt hm
  obtain ⟨hname, hafter, hposition⟩ := reaches_callName hstop
  have hnone : callName.findAfter m.stop = none := by
    rw [findAfter, ← Option.isNone_iff_eq_none, ← Option.isSome_eq_false_iff, Bool.eq_false_iff]
    intro hfound
    obtain ⟨u, v, huv, t, ht⟩ := (findFrom_isSome rfl).mp hfound
    have hmem : '(' ∈ x.chars ++ [')'] := by
      rw [← hafter, huv]
      exact List.mem_append_right u (needs_callName _ t ht)
    rcases List.mem_append.mp hmem with h | h
    · exact (x.letter _ h).mark (by decide)
    · exact absurd h (by decide)
  have hlt : m.start.position < m.stop.position := by
    rw [hstart]
    exact hposition
  rw [findAll_eq_singleton hm hlt hnone]
  exact congrArg (fun n => [n]) hname

/-! ## Tautologies -/

def literalAssertion : Pattern :=
  textStart ++ word "assert" ++ blanks1
    ++ (oneOf ["True", "1"] ||| (word "not" ++ blanks1 ++ oneOf ["False", "0"]))
    ++ blanks ++ (char ',' ||| textEnd)

/-- A call that asserts that the literal truth is true. -/
def trueCall : Pattern :=
  edge ++ word "assert" ++ opt (char '_') ++ oneOf ["True", "true"] ++ blanks ++ charBlanks '('
    ++ spaced ["True", ")"]

theorem needs_trueCall : Needs '(' trueCall := by
  have hparen : Needs '(' (charBlanks '(') := (needs_char '(').append_left _
  exact (hparen.append_right _).append_left _

theorem exists_of_literalAssertion {l : List Char} (h : literalAssertion.occurs l = true) :
    ∃ c b rest, (∀ d ∈ c :: b, isBlank d = true) ∧ l = "assert".toList ++ (c :: b ++ rest) ∧
      ((∃ w ∈ ["True", "1"], ∃ b' r, (∀ d ∈ b', isBlank d = true) ∧ rest = w.toList ++ (b' ++ r) ∧
        ∀ d ∈ r.head?, d = ',' ∨ d = '\n') ∨
      ∃ d r, isBlank d = true ∧ rest = "not".toList ++ d :: r) := by
  have hstart : FromStart literalAssertion :=
    ((((fromStart_textStart.append _).append _).append _).append _).append _
  obtain ⟨t, m₅, ⟨m₄, ⟨m₃, ⟨m₂, ⟨m₁, hstart, hword⟩, hblanks⟩, hliteral⟩, hblanks'⟩, hend⟩ :=
    (occurs_fromStart hstart).mp h
  obtain ⟨-, rfl⟩ := reaches_textStart.mp hstart
  obtain ⟨after, hline, rfl⟩ := reaches_word.mp hword
  obtain ⟨c, b, rest, hafter, hblank, rfl⟩ := reaches_blanks1.mp hblanks
  obtain rfl : after = c :: b ++ rest := hafter
  refine ⟨c, b, rest, hblank, hline, ?_⟩
  rcases hliteral with hliteral | ⟨n₁, ⟨n₂, hnot, hnotBlanks⟩, -⟩
  · obtain ⟨w, hw, after, hrest, rfl⟩ := reaches_oneOf.mp hliteral
    obtain ⟨b', r, hafter, hb', rfl⟩ := reaches_blanks.mp hblanks'
    obtain rfl : after = b' ++ r := hafter
    refine Or.inl ⟨w, hw, b', r, hb', hrest, ?_⟩
    rcases hend with hcomma | hend
    · obtain ⟨r', hr, -⟩ := reaches_char.mp hcomma
      have hr : r = ',' :: r' := hr
      rw [hr]
      exact fun d hd => Or.inl (Option.some.inj hd).symm
    · have hr : r = [] ∨ r = ['\n'] := (reaches_textEnd.mp hend).1
      rcases hr with hr | hr
      · rw [hr]
        nofun
      · rw [hr]
        exact fun d hd => Or.inr (Option.some.inj hd).symm
  · obtain ⟨after, hrest, rfl⟩ := reaches_word.mp hnot
    obtain ⟨d, b', r, hafter, hb', -⟩ := reaches_blanks1.mp hnotBlanks
    obtain rfl : after = d :: (b' ++ r) := hafter
    exact Or.inr ⟨d, b' ++ r, hb' d List.mem_cons_self, hrest⟩

theorem literalAssertion_name (x : PlainName) : literalAssertion.occurs (assertName x).line = false := by
  rw [Bool.eq_false_iff]
  intro h
  obtain ⟨c, b, rest, hb, hline, hrest⟩ := exists_of_literalAssertion h
  have hx : ' ' :: x.chars = c :: (b ++ rest) :=
    List.append_cancel_left (show "assert".toList ++ ' ' :: x.chars = _ from hline)
  have hx : x.chars = b ++ rest := (List.cons.inj hx).2
  have hsolid {u v w : List Char} (hu : ∀ d ∈ u, isBlank d = true) (h : x.chars = v ++ (u ++ w)) : u = [] := by
    cases u with
    | nil => rfl
    | cons d u =>
      have hd := hu d List.mem_cons_self
      rw [(x.letter d (h ▸ List.mem_append_right v List.mem_cons_self)).blank] at hd
      cases hd
  obtain rfl := hsolid (v := []) (fun d hd => hb d (List.mem_cons_of_mem _ hd)) hx
  rcases hrest with ⟨w, hw, b', r, hb', hrest, hhead⟩ | ⟨d, r, hd, hrest⟩
  · have hx : x.chars = w.toList ++ (b' ++ r) := hx.trans hrest
    obtain rfl := hsolid hb' hx
    -- Nothing is left of the name, since a comma and a line feed are no letters.
    obtain rfl : r = [] := by
      cases r with
      | nil => rfl
      | cons d r =>
        have hnot := (x.letter d (hx ▸ List.mem_append_right _ List.mem_cons_self)).mark
        rcases hhead d rfl with rfl | rfl
        · exact absurd (by decide) hnot
        · exact absurd (by decide) hnot
    rw [List.append_nil, List.append_nil] at hx
    rcases List.mem_cons.mp hw with rfl | hw
    · exact x.ne_keyword (by decide) hx.symm
    · obtain rfl := List.mem_singleton.mp hw
      obtain ⟨d, u, hd, hdigit⟩ := x.start
      rw [hd] at hx
      cases hx
      exact absurd hdigit (by decide)
  · have hx : x.chars = "not".toList ++ ([d] ++ r) := hx.trans hrest
    cases hsolid (List.forall_mem_singleton.mpr hd) hx

theorem literalAssertion_call (f x : PlainName) : literalAssertion.occurs (call f x).line = false := by
  rw [Bool.eq_false_iff]
  intro h
  obtain ⟨c, b, rest, hb, hline, -⟩ := exists_of_literalAssertion h
  cases nil_of_blanks hb hline

theorem trueCall_call (f x : PlainName) : trueCall.occurs (call f x).line = false := by
  rw [Bool.eq_false_iff]
  intro h
  obtain ⟨u, v, hline, t, m, ⟨m', hname, hparen⟩, htrue⟩ := occurs_iff.mp h
  obtain ⟨u', hu', -⟩ := hname.exists_skipped
  obtain ⟨b, rest, hopen, hb, rfl⟩ := reaches_charBlanks.mp hparen
  have hv : v = u' ++ m'.after := hu'
  have hline : (call f x).line = (u ++ u') ++ '(' :: (b ++ rest) := by
    rw [hline, hv, hopen, List.append_assoc]
  -- The parenthesis is the one behind the name.
  have hnot : '(' ∉ f.chars := fun h => (f.letter _ h).mark (by decide)
  obtain ⟨w, -, hw⟩ := exists_append_of_not_mem hnot hline
  have hargument : x.chars ++ [')'] = b ++ rest := by
    cases w with
    | nil => exact (List.cons.inj hw).2
    | cons d w =>
      have hmem : '(' ∈ x.chars ++ [')'] := by
        rw [(List.cons.inj hw).2]
        exact List.mem_append_right w List.mem_cons_self
      rcases List.mem_append.mp hmem with h | h
      · exact absurd (by decide) (x.letter _ h).mark
      · exact absurd h (by decide)
  have hblanks {b r : List Char} (hb : ∀ d ∈ b, isBlank d = true) (a : List Char)
      (h : x.chars ++ [')'] = a ++ (b ++ r)) :
      b = [] := by
    have hline : (call f x).line = f.chars ++ '(' :: a ++ (b ++ r) := by
      show f.chars ++ ('(' :: (x.chars ++ [')'])) = _
      rw [h, List.append_assoc, List.cons_append]
    exact nil_of_blanks hb hline
  obtain rfl := hblanks hb [] hargument
  obtain ⟨n, ⟨n', hword, hinner⟩, hclose⟩ := htrue
  obtain ⟨after, hafter, rfl⟩ := reaches_word.mp hword
  obtain rfl : rest = "True".toList ++ after := hafter
  obtain ⟨b', after', hafter', hb', rfl⟩ := reaches_blanks.mp hinner
  obtain rfl : after = b' ++ after' := hafter'
  obtain rfl := hblanks hb' "True".toList hargument
  obtain ⟨after'', hafter'', -⟩ := reaches_word.mp hclose
  obtain rfl : after' = ')' :: after'' := hafter''
  have hx : OpensWith x.chars [')'] := ⟨fun c hc => (x.letter c hc).word, rfl⟩
  have htrue : OpensWith "True".toList (')' :: after'') := ⟨by decide, rfl⟩
  exact x.ne_keyword (by decide) (hx.unique htrue hargument).1.symm

/-! ## Facts -/

theorem namesKeyword_nil {s : PlainStatement} (keywords : List String) (h : '(' ∉ s.marks) :
    namesKeyword keywords ((callName.findAll s.line).map fun m => m.captured 1) = false := by
  rw [findAll_callName_nil h]
  rfl

theorem namesKeyword_call (keywords : List String) (f x : PlainName) :
    namesKeyword keywords ((callName.findAll (call f x).line).map fun m => m.captured 1) =
      (keywords.map fun k => lower k.toList).any (isInside · (lower f.chars)) := by
  rw [findAll_callName, namesKeyword, List.any_cons, List.any_nil, Bool.or_false, List.any_map]
  rfl

theorem lineFacts_of_statement {s : PlainStatement} (keywords : List String) (h : s.isPlaceholder = false) :
    python.lineFacts keywords s.line =
      { statements := 1
        assertions := if python.isAssertion keywords s.line then 1 else 0
        tautologies :=
          if python.isAssertion keywords s.line && ScanRules.anyOccurs python.tautologies s.line then 1 else 0
        raises := decide (s.opening.1 = "raise".toList) } := by
  have hraise : AreWords ["raise"] := by
    unfold AreWords
    decide
  rw [ScanRules.lineFacts, s.not_isBare, anyOccurs_placeholders, h, ← s.anyOccurs_startsWithWord hraise]
  rfl

theorem isAssertion_line (keywords : List String) (s : PlainStatement) :
    python.isAssertion keywords s.line = (decide (s.opening.1 = "assert".toList) ||
      namesKeyword keywords ((callName.findAll s.line).map fun m => m.captured 1)) := by
  have hassert : AreWords ["assert"] := by
    unfold AreWords
    decide
  rw [ScanRules.isAssertion, ← s.anyOccurs_startsWithWord hassert]
  rfl

theorem anyOccurs_tautologies (l : List Char) :
    ScanRules.anyOccurs python.tautologies l = (literalAssertion.occurs l || (trueCall.occurs l || false)) :=
  rfl

/-- **The line of a plain statement is seen to do what the statement does.** -/
theorem lineFacts_line (keywords : List String) (s : PlainStatement) :
    python.lineFacts keywords s.line = s.facts (keywords.map fun k => lower k.toList) := by
  by_cases hplaceholder : s.isPlaceholder = true
  · rw [ScanRules.lineFacts, anyOccurs_placeholders, hplaceholder, Bool.or_true]
    cases s
    all_goals first | rfl | cases hplaceholder
  rw [Bool.not_eq_true] at hplaceholder
  rw [lineFacts_of_statement keywords hplaceholder, isAssertion_line, anyOccurs_tautologies]
  have hname {x : PlainName} {w : String} (hw : w ∈ Syntax.keywords) : decide (x.chars = w.toList) = false :=
    decide_eq_false fun heq => x.ne_keyword hw heq.symm
  cases s with
  | returnName x =>
    rw [namesKeyword_nil keywords (by show '(' ∉ [' ']; decide)]
    rfl
  | raised e =>
    rw [namesKeyword_nil keywords (by show '(' ∉ [' ']; decide)]
    rfl
  | assign x y =>
    rw [namesKeyword_nil keywords (by show '(' ∉ [' ', '=']; decide)]
    show BodyFacts.mk 1 (if decide (x.chars = "assert".toList) || false then 1 else 0)
      (if (decide (x.chars = "assert".toList) || false) && _ then 1 else 0) (decide (x.chars = "raise".toList)) = _
    rw [hname (by decide), hname (by decide)]
    rfl
  | assertName x =>
    have htrue : trueCall.occurs (assertName x).line = false :=
      needs_trueCall.occurs (not_mem_line (by decide) (by show '(' ∉ [' ']; decide))
    rw [literalAssertion_name, htrue]
    rfl
  | assertLiteral l =>
    have hliteral : literalAssertion.occurs (assertLiteral l).line = true := by
      cases l
      all_goals decide +kernel
    rw [hliteral]
    rfl
  | call f x =>
    rw [namesKeyword_call, literalAssertion_call, trueCall_call, Bool.or_false, Bool.or_false, Bool.and_false]
    show BodyFacts.mk 1 (if decide (f.chars = "assert".toList) || _ then 1 else 0) 0
      (decide (f.chars = "raise".toList)) = _
    rw [hname (by decide), hname (by decide)]
    rfl
  | _ => cases hplaceholder

/-- **A body of plain statements is seen to do what its statements do.** -/
theorem facts_lines (keywords : List String) (ss : List PlainStatement) :
    python.facts keywords (ss.map fun s => ⟨0, s.line⟩) = plainFacts (keywords.map fun k => lower k.toList) ss := by
  induction ss with
  | nil => rfl
  | cons s ss ih =>
    rw [List.map_cons, ScanRules.facts, plainFacts, isTerminal_line, lineFacts_line, ih]

end PlainStatement

end ScenarioAudit
