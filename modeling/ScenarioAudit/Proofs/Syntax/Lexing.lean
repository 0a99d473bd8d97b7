import ScenarioAudit.Proofs.Quality.Plain

/-! # Reading tokens one by one

A text is read as a row of lexemes if it is with all fuel beyond what its length asks for (`Lexes`). Then one token in
front of a text that is read is read as well: a blank, a line end, a word, a delimiter, a quoted text.
-/

namespace ScenarioAudit.Syntax

open ScenarioAudit.Text

/-- A text is read as a row of lexemes, from the start of a line or from within one. -/
def Lexes (atStart : Bool) (n : Nesting) (s : List Char) (ls : List Lexeme) : Prop :=
  ∀ fuel, 2 * s.length + (if atStart then 2 else 1) ≤ fuel → lexemesFrom? fuel atStart n s = some ls

theorem Lexes.lexemes? {source : List Char} {ls : List Lexeme} (h : Lexes true {} (completed source) ls) :
    lexemes? source = some ls :=
  h _ (by simp only [if_true]; omega)

theorem Lexes.of_step {n m : Nesting} {s rest : List Char} {ls ls' : List Lexeme} {start : Bool}
    (hlength : 2 * rest.length + (if start then 2 else 1) + 1 ≤ 2 * s.length + 1) (h : Lexes start m rest ls)
    (hstep : ∀ fuel, lexemesFrom? fuel start m rest = some ls → lexemesFrom? (fuel + 1) false n s = some ls') :
    Lexes false n s ls' := by
  intro fuel hfuel
  obtain ⟨fuel, rfl⟩ := Nat.exists_eq_add_of_le' (Nat.le_trans (Nat.le_add_left 1 _) hfuel)
  have hfuel : 2 * s.length + 1 ≤ fuel + 1 := hfuel
  exact hstep fuel (h fuel (by omega))

/-! ## Blanks and line ends -/

theorem Lexes.space {n : Nesting} {s : List Char} {ls : List Lexeme} (h : Lexes false n s ls) :
    Lexes false n (' ' :: s) ls := by
  refine Lexes.of_step ?_ h fun fuel hrest => ?_
  · simp only [List.length_cons, Bool.false_eq_true, if_false]
    omega
  · rw [lexemesFrom?.eq_def]
    exact hrest

/-- Outside brackets the end of a line ends a row of tokens. -/
theorem Lexes.newline {n : Nesting} {s : List Char} {ls : List Lexeme} (hn : n.brackets = [])
    (h : Lexes true { n with line := n.line + 1 } s ls) : Lexes false n ('\n' :: s) (⟨n.line, .newline⟩ :: ls) := by
  refine Lexes.of_step ?_ h fun fuel hrest => ?_
  · simp only [List.length_cons, if_true]
    omega
  · rw [lexemesFrom?.eq_def]
    show (if n.brackets.isEmpty then
      (lexemesFrom? fuel true { n with line := n.line + 1 } s).map (⟨n.line, .newline⟩ :: ·) else _) = _
    rw [hrest, hn]
    rfl

/-! ## Words -/

/-- What a letter of a name is to a reader of tokens. -/
structure NameLetter (c : Char) : Prop where
  name : isNameChar c = true
  quote : isQuote c = false
  other : c ∉ [' ', '\t', '\x0c', '#', '\n', '\\', '.']

instance (c : Char) : Decidable (NameLetter c) :=
  decidable_of_iff (isNameChar c = true ∧ isQuote c = false ∧ c ∉ [' ', '\t', '\x0c', '#', '\n', '\\', '.'])
    ⟨fun h => ⟨h.1, h.2.1, h.2.2⟩, fun h => ⟨h.name, h.quote, h.other⟩⟩

theorem nameLetter {c : Char} (h : isNameLetter c = true) : NameLetter c := by
  have hall : ∀ n < 128, isNameLetter (Char.ofNat n) = true → NameLetter (Char.ofNat n) := by decide +kernel
  have hchar := hall c.toNat (nameLetter_ascii h)
  rw [Char.ofNat_toNat] at hchar
  exact hchar h

theorem literalStart?_eq_none {w rest : List Char} (hw : ∀ c ∈ w, isQuote c = false)
    (hquote : rest.head?.any isQuote = false) (halpha : rest.head?.any Char.isAlpha = false) :
    literalStart? (w ++ rest) = none := by
  have hdrop : ∀ w : List Char, (∀ c ∈ w, isQuote c = false) →
      ((w ++ rest).drop ((w ++ rest).takeWhile Char.isAlpha).length).head?.any isQuote = false := by
    intro w hw
    induction w with
    | nil =>
      cases rest with
      | nil => rfl
      | cons c rest =>
        have hc : ¬ c.isAlpha = true := by simpa using halpha
        rw [List.nil_append, List.takeWhile_cons_of_neg hc]
        exact hquote
    | cons c w ih =>
      rw [List.forall_mem_cons] at hw
      by_cases hc : c.isAlpha = true
      · rw [List.cons_append, List.takeWhile_cons_of_pos hc]
        exact ih hw.2
      · rw [List.cons_append, List.takeWhile_cons_of_neg hc]
        exact hw.1
  rw [literalStart?, hdrop w hw, if_neg Bool.false_ne_true]

theorem Lexes.word {n : Nesting} {c : Char} {u rest : List Char} {t : Token} {ls : List Lexeme}
    (hw : ∀ d ∈ c :: u, isNameLetter d = true) (hdigit : c.isDigit = false) (hrest : rest.head?.any isNameChar = false)
    (hquote : rest.head?.any isQuote = false) (ht : nameToken? (c :: u) = some t) (h : Lexes false n rest ls) :
    Lexes false n (c :: u ++ rest) (⟨n.line, t⟩ :: ls) := by
  have hletter := nameLetter (hw c List.mem_cons_self)
  have hother := hletter.other
  simp only [List.mem_cons, List.not_mem_nil, or_false, not_or] at hother
  -- Letters in front of a quote would be its marks: the word has to end before any letter or quote.
  have halpha : rest.head?.any Char.isAlpha = false := by
    cases rest with
    | nil => rfl
    | cons d rest =>
      have hd : isNameChar d = false := hrest
      rw [isNameChar, Char.isAlphanum, Bool.or_eq_false_iff, Bool.or_eq_false_iff, Bool.or_eq_false_iff] at hd
      exact hd.1.1.1
  have hliteral : literalStart? (c :: u ++ rest) = none :=
    literalStart?_eq_none (fun d hd => (nameLetter (hw d hd)).quote) hquote halpha
  have htake : (c :: u ++ rest).takeWhile isNameChar = c :: u := by
    rw [List.takeWhile_append_of_pos fun d hd => (nameLetter (hw d hd)).name]
    cases rest with
    | nil => exact List.append_nil _
    | cons d rest =>
      have hd : ¬ isNameChar d = true := by simpa using hrest
      rw [List.takeWhile_cons_of_neg hd, List.append_nil]
  refine Lexes.of_step ?_ h fun fuel hls => ?_
  · simp only [List.length_append, List.length_cons, Bool.false_eq_true, if_false]
    omega
  · rw [List.cons_append] at hliteral htake ⊢
    rw [lexemesFrom?.eq_def]
    simp only [hother, or_self, if_false]
    rw [hliteral]
    simp only [hdigit, hletter.name, Bool.false_eq_true, false_and, or_self, if_false, if_true, htake, ht]
    rw [List.length_cons, List.drop_succ_cons, List.drop_left, hls]
    rfl

theorem nameToken?_name (x : PlainName) : nameToken? x.chars = some (.name x.chars true) := by
  have hascii : x.chars.all (fun c => c.toNat < 128) = true :=
    List.all_eq_true.mpr fun c hc => decide_eq_true (nameLetter_ascii (x.letters c hc))
  have hfree : keywords.contains (String.ofList x.chars) = false := by
    rw [← Bool.not_eq_true, List.contains_iff_mem]
    exact x.free
  rw [nameToken?.eq_def, if_pos hascii]
  dsimp only
  rw [hfree]
  rfl

theorem Lexes.name {n : Nesting} (x : PlainName) {rest : List Char} {ls : List Lexeme}
    (hrest : rest.head?.any isNameChar = false) (hquote : rest.head?.any isQuote = false) (h : Lexes false n rest ls) :
    Lexes false n (x.chars ++ rest) (⟨n.line, .name x.chars true⟩ :: ls) := by
  have ht := nameToken?_name x
  obtain ⟨c, u, hx, hdigit⟩ := x.start
  have hletters := x.letters
  rw [hx] at ht hletters ⊢
  exact Lexes.word hletters hdigit hrest hquote ht h

theorem Lexes.keyword {n : Nesting} {w : String} (hw : w ∈ keywords) {rest : List Char} {ls : List Lexeme}
    (hrest : rest.head?.any isNameChar = false) (hquote : rest.head?.any isQuote = false) (h : Lexes false n rest ls) :
    Lexes false n (w.toList ++ rest) (⟨n.line, .keyword w⟩ :: ls) := by
  have hall : ∀ w ∈ keywords, (∀ d ∈ w.toList, isNameLetter d = true) ∧ w.toList.head?.any Char.isDigit = false ∧
      w.toList ≠ [] := by decide +kernel
  obtain ⟨hletters, hdigit, hne⟩ := hall w hw
  have hascii : w.toList.all (fun c => c.toNat < 128) = true :=
    List.all_eq_true.mpr fun c hc => decide_eq_true (nameLetter_ascii (hletters c hc))
  have ht : nameToken? w.toList = some (.keyword w) := by
    rw [nameToken?.eq_def, if_pos hascii]
    dsimp only
    rw [String.ofList_toList, List.contains_iff_mem.mpr hw]
    rfl
  obtain ⟨c, u, hcu⟩ := List.exists_cons_of_ne_nil hne
  rw [hcu] at hletters hdigit ht ⊢
  exact Lexes.word hletters hdigit hrest hquote ht h

/-! ## Numbers -/

theorem Lexes.digit {n : Nesting} {c : Char} (hc : c = '0' ∨ c = '1') {s : List Char} {ls : List Lexeme}
    (h : Lexes false n ('\n' :: s) ls) :
    Lexes false n (c :: '\n' :: s) (⟨n.line, .number (.whole (if c = '0' then 0 else 1))⟩ :: ls) := by
  refine Lexes.of_step ?_ h fun fuel hls => ?_
  · simp only [List.length_cons, Bool.false_eq_true, if_false]
    omega
  · rw [lexemesFrom?.eq_def]
    rcases hc with rfl | rfl
    · show (lexemesFrom? fuel false n ('\n' :: s)).map (⟨n.line, .number (.whole 0)⟩ :: ·) = _
      rw [hls]
      rfl
    · show (lexemesFrom? fuel false n ('\n' :: s)).map (⟨n.line, .number (.whole 1)⟩ :: ·) = _
      rw [hls]
      rfl

/-! ## Delimiters -/

/-- A delimiter of one character is read if it is not the start of a longer one. -/
theorem markAt?_single {c : Char} {s : List Char} (hc : c ∈ singleMarks)
    (hlong : ∀ w ∈ longMarks, w.toList.head? ≠ some c)
    (hdouble : ∀ w ∈ doubleMarks, w.toList ≠ c :: s.take 1) : markAt? (c :: s) = some (String.singleton c) := by
  have hlong' : longMarks.contains (String.ofList ((c :: s).take 3)) = false := by
    rw [← Bool.not_eq_true, List.contains_iff_mem]
    intro hmem
    refine hlong _ hmem ?_
    rw [String.toList_ofList]
    rfl
  have hdouble' : doubleMarks.contains (String.ofList ((c :: s).take 2)) = false := by
    rw [← Bool.not_eq_true, List.contains_iff_mem]
    intro hmem
    refine hdouble _ hmem ?_
    rw [String.toList_ofList]
    rfl
  rw [markAt?, hlong', hdouble']
  simp [hc]

/-- A character that is neither blank nor part of a word, a number or a literal. -/
def isDelimiter (c : Char) : Bool :=
  ['(', ')', ':', '=', '@'].contains c

theorem Lexes.delimiter {n m : Nesting} {c : Char} {s : List Char} {ls : List Lexeme} (hc : isDelimiter c = true)
    (hdouble : ∀ w ∈ doubleMarks, w.toList ≠ c :: s.take 1) (hturn : n.turn? (String.singleton c) = some m)
    (h : Lexes false m s ls) : Lexes false n (c :: s) (⟨n.line, .mark (String.singleton c)⟩ :: ls) := by
  have hall : ∀ c ∈ ['(', ')', ':', '=', '@'], c ∈ singleMarks ∧ (∀ w ∈ longMarks, w.toList.head? ≠ some c) ∧
      c ∉ [' ', '\t', '\x0c', '#', '\n', '\\', '.'] ∧ c.isAlpha = false ∧ c.isDigit = false ∧ isQuote c = false ∧
      isNameChar c = false := by decide +kernel
  obtain ⟨hsingle, hlong, hother, halpha, hdigit, hquote, hname⟩ := hall c (by simpa [isDelimiter] using hc)
  simp only [List.mem_cons, List.not_mem_nil, or_false, not_or] at hother
  have hliteral : literalStart? (c :: s) = none :=
    literalStart?_eq_none (w := []) nofun hquote halpha
  refine Lexes.of_step ?_ h fun fuel hls => ?_
  · simp only [List.length_cons, Bool.false_eq_true, if_false]
    omega
  · rw [lexemesFrom?.eq_def]
    simp only [hother, or_self, if_false]
    rw [hliteral]
    simp only [hdigit, hname, Bool.false_eq_true, false_and, or_self, if_false, markAt?_single hsingle hlong hdouble,
      hturn]
    rw [String.length_singleton, List.drop_succ_cons, List.drop_zero, hls]
    rfl

theorem Lexes.parenthesised {n : Nesting} (hn : n.brackets = []) {inside rest : List Char} {ts : List Token}
    {ls : List Lexeme}
    (hinside : ∀ ls, Lexes false { n with brackets := ['('] } (')' :: rest) ls →
      Lexes false { n with brackets := ['('] } (inside ++ ')' :: rest) (ts.map (⟨n.line, ·⟩) ++ ls))
    (h : Lexes false n rest ls) :
    Lexes false n ('(' :: (inside ++ ')' :: rest))
      (⟨n.line, .mark "("⟩ :: (ts.map (⟨n.line, ·⟩) ++ ⟨n.line, .mark ")"⟩ :: ls)) := by
  obtain ⟨line, brackets, blocks⟩ := n
  obtain rfl : brackets = [] := hn
  have hdouble {c : Char} (hc : c ∈ ['(', ')']) (s : List Char) : ∀ w ∈ doubleMarks, w.toList ≠ c :: s.take 1 := by
    have hall : ∀ c ∈ ['(', ')'], ∀ w ∈ doubleMarks, w.toList.head? ≠ some c := by decide +kernel
    intro w hw heq
    exact hall c hc w hw (by rw [heq]; rfl)
  have hclose : Lexes false ⟨line, ['('], blocks⟩ (')' :: rest) (⟨line, .mark ")"⟩ :: ls) :=
    Lexes.delimiter (c := ')') (by decide) (hdouble (by decide) rest) rfl h
  exact Lexes.delimiter (c := '(') (by decide) (hdouble (by decide) _) rfl (hinside _ hclose)

theorem Lexes.ellipsis {n : Nesting} {s : List Char} {ls : List Lexeme} (h : Lexes false n ('\n' :: s) ls) :
    Lexes false n ("...".toList ++ '\n' :: s) (⟨n.line, .mark "..."⟩ :: ls) := by
  refine Lexes.of_step ?_ h fun fuel hls => ?_
  · have hdots : "...".toList.length = 3 := rfl
    simp only [List.length_append, List.length_cons, hdots, Bool.false_eq_true, if_false]
    omega
  · have hmark : markAt? ('.' :: '.' :: '.' :: '\n' :: s) = some "..." := by
      have hlong : longMarks.contains "..." = true := by decide
      have htake : String.ofList (('.' :: '.' :: '.' :: '\n' :: s).take 3) = "..." := rfl
      rw [markAt?, htake, if_pos hlong]
    have hliteral : literalStart? ('.' :: '.' :: '.' :: '\n' :: s) = none := rfl
    have hturn : n.turn? "..." = some n := rfl
    show lexemesFrom? (fuel + 1) false n ('.' :: '.' :: '.' :: '\n' :: s) = _
    rw [lexemesFrom?.eq_def]
    have hlength : "...".length = 3 := by decide
    simp [hliteral, isNameChar, hmark, hturn, hlength, hls]

/-! ## Quoted texts -/

/-- The inside of a quoted text without quotes, backslashes and line ends. -/
theorem plainInside?_text (x : PlainText) (s : List Char) :
    plainInside? '"' (x.chars ++ '"' :: s) = some (x.chars, s) := by
  have hinside : ∀ l : List Char, (∀ c ∈ l, c ≠ '"' ∧ c ≠ '\n' ∧ c ≠ '\\') →
      plainInside? '"' (l ++ '"' :: s) = some (l, s) := by
    intro l hl
    induction l with
    | nil =>
      rw [List.nil_append, plainInside?.eq_def]
      exact if_pos rfl
    | cons c l ih =>
      rw [List.forall_mem_cons] at hl
      obtain ⟨⟨hquote, hfeed, hbackslash⟩, hl⟩ := hl
      rw [List.cons_append, plainInside?.eq_def]
      simp only [hquote, hfeed, hbackslash, if_false, ih hl]
      rfl
  refine hinside x.chars fun c hc => ?_
  obtain ⟨hquote, -, hbackslash, hbreak⟩ := x.clean c hc
  refine ⟨hquote, ?_, hbackslash⟩
  rintro rfl
  exact absurd hbreak (by decide)

theorem inside?_text (x : PlainText) {d : Char} (hd : d ≠ '"') (s : List Char) :
    inside? ('"' :: (x.chars ++ '"' :: d :: s)) = some (x.chars, d :: s) := by
  have htriple : ['"', '"'].isPrefixOf (x.chars ++ '"' :: d :: s) = false := by
    cases hx : x.chars with
    | nil => simp [List.isPrefixOf, hd.symm]
    | cons c l =>
      have hc := (x.clean c (hx ▸ List.mem_cons_self)).1
      simp [List.isPrefixOf, hc.symm]
  rw [inside?, htriple, if_neg Bool.false_ne_true]
  exact plainInside?_text x (d :: s)

theorem decodeInside_text (named? : List Char → Option Nat) (x : PlainText) :
    decodeInside named? {} x.chars = some (codePoints x.chars) := by
  have hdecode : ∀ l : List Char, '\\' ∉ l → decodeFrom named? false .outside l = some (codePoints l) := by
    intro l hl
    induction l with
    | nil => rfl
    | cons c l ih =>
      rw [List.mem_cons, not_or] at hl
      rw [decodeFrom, escapeStep, if_neg (Ne.symm hl.1)]
      dsimp only
      rw [ih hl.2]
      rfl
  exact hdecode x.chars fun hmem => (x.clean _ hmem).2.2.1 rfl

theorem Lexes.text {n : Nesting} (x : PlainText) {d : Char} (hd : d ≠ '"') {s : List Char} {ls : List Lexeme}
    (h : Lexes false n (d :: s) ls) :
    Lexes false n ('"' :: (x.chars ++ '"' :: d :: s)) (⟨n.line, .text (codePoints x.chars)⟩ :: ls) := by
  -- The text ends on the line where it starts.
  have hfeeds : x.chars.count '\n' = 0 := by
    refine List.count_eq_zero.mpr fun hmem => ?_
    exact absurd (x.clean _ hmem).2.2.2 (by decide)
  refine Lexes.of_step ?_ h fun fuel hls => ?_
  · simp only [List.length_append, List.length_cons, Bool.false_eq_true, if_false]
    omega
  · have hstart : literalStart? ('"' :: (x.chars ++ '"' :: d :: s)) = some ({}, '"' :: (x.chars ++ '"' :: d :: s)) := by
      have hmarks : marksOf? [] = some {} := by decide
      have htake : ('"' :: (x.chars ++ '"' :: d :: s)).takeWhile Char.isAlpha = [] := rfl
      rw [literalStart?, htake, List.length_nil, List.drop_zero, hmarks]
      rfl
    have hliteral (inner? : List Char → Option (List Token)) :
        literalToken? inner? {} ('"' :: (x.chars ++ '"' :: d :: s)) = some (.text (codePoints x.chars), d :: s, 0) := by
      rw [literalToken?, inside?_text x hd]
      show ((decodeInside characterNamed? {} x.chars).bind fun codes =>
        some (Token.text codes, d :: s, x.chars.count '\n')) = _
      rw [decodeInside_text, hfeeds]
      rfl
    rw [lexemesFrom?.eq_def]
    simp [hstart, hliteral, hls]

/-! ## Starts of lines -/

def Columns.after (columns : Columns) (c : Char) : Columns :=
  if c = ' ' then ⟨columns.wide + 1, columns.narrow + 1⟩ else ⟨(columns.wide / 8 + 1) * 8, columns.narrow + 1⟩

/-- The columns of a text behind blanks. -/
def columnsOf (indent : List Char) : Columns :=
  indent.foldl Columns.after ⟨0, 0⟩

/-- Whatever stands behind blanks is deeper than a text at the start of its line. -/
theorem columnsOf_pos {indent : List Char} (h : indent ≠ []) :
    0 < (columnsOf indent).wide ∧ 0 < (columnsOf indent).narrow := by
  have hafter (columns : Columns) (c : Char) : 0 < (columns.after c).wide ∧ 0 < (columns.after c).narrow := by
    rw [Columns.after]
    split
    · exact ⟨Nat.succ_pos _, Nat.succ_pos _⟩
    · exact ⟨Nat.mul_pos (Nat.succ_pos _) (by decide), Nat.succ_pos _⟩
  obtain ⟨l, c, rfl⟩ : ∃ l c, indent = l ++ [c] := ⟨_, _, (List.dropLast_concat_getLast h).symm⟩
  rw [columnsOf, List.foldl_append]
  exact hafter _ c

theorem lineStart?_indent {indent : List Char} (hindent : ∀ c ∈ indent, c = ' ' ∨ c = '\t') {c : Char}
    (hc : c ∉ [' ', '\t', '\x0c', '\\']) (s : List Char) (columns : Columns) :
    lineStart? 0 0 columns (indent ++ c :: s) = some ⟨indent.foldl Columns.after columns, c :: s, 0⟩ := by
  induction indent generalizing columns with
  | nil =>
    simp only [List.mem_cons, List.not_mem_nil, or_false, not_or] at hc
    rw [List.nil_append, lineStart?.eq_def]
    simp [hc]
  | cons d indent ih =>
    rw [List.forall_mem_cons] at hindent
    rw [List.cons_append, List.foldl_cons, ← ih hindent.2, lineStart?.eq_def]
    rcases hindent.1 with rfl | rfl
    · rfl
    · rfl

theorem Lexes.line {n : Nesting} (hn : n.brackets = []) {indent : List Char}
    (hindent : ∀ c ∈ indent, c = ' ' ∨ c = '\t')
    {c : Char} (hc : c ∉ [' ', '\t', '\x0c', '\\', '\n', '#']) {tokens : List Token} {blocks : List Columns}
    (hblocks : reblock? (columnsOf indent) n.blocks = some (tokens, blocks)) {s : List Char} {ls : List Lexeme}
    (h : Lexes false { n with blocks := blocks } (c :: s) ls) :
    Lexes true n (indent ++ c :: s) (tokens.map (⟨n.line, ·⟩) ++ ls) := by
  simp only [List.mem_cons, List.not_mem_nil, or_false, not_or] at hc
  intro fuel hfuel
  obtain ⟨fuel, rfl⟩ := Nat.exists_eq_add_of_le' (Nat.le_trans (Nat.le_add_left 2 _) hfuel)
  -- The start of a line takes a step and no character, which is why it is worth one more than the rest of the line.
  have hlength : 2 * (indent ++ c :: s).length + 2 ≤ fuel + 2 := hfuel
  rw [List.length_append] at hlength
  have hls : lexemesFrom? (fuel + 1) false { n with blocks := blocks } (c :: s) = some ls := by
    refine h _ ?_
    show 2 * (c :: s).length + 1 ≤ fuel + 1
    omega
  have hstart : lineStart? 0 0 ⟨0, 0⟩ (indent ++ c :: s) = some ⟨columnsOf indent, c :: s, 0⟩ := by
    refine lineStart?_indent hindent ?_ s ⟨0, 0⟩
    simp [hc]
  rw [lexemesFrom?.eq_def]
  simp only [hstart, hc, hn, hblocks, if_false, List.isEmpty_nil, Bool.not_true, Bool.false_eq_true, Nat.add_zero]
  rw [hn] at hls
  rw [hls]
  rfl

/-- Outside blocks a line without indentation is read as it is. -/
theorem Lexes.unindented {n : Nesting} (hn : n.brackets = []) (hblocks : n.blocks = []) {c : Char}
    (hc : c ∉ [' ', '\t', '\x0c', '\\', '\n', '#']) {s : List Char} {ls : List Lexeme} (h : Lexes false n (c :: s) ls) :
    Lexes true n (c :: s) ls := by
  obtain ⟨line, brackets, blocks⟩ := n
  obtain rfl : blocks = [] := hblocks
  have hnone : ∀ c ∈ ([] : List Char), c = ' ' ∨ c = '\t' := fun _ h => absurd h List.not_mem_nil
  exact Lexes.line hn hnone hc (show reblock? (columnsOf []) [] = some ([], []) from rfl) h

theorem Lexes.finish {n : Nesting} (hn : n.brackets = []) :
    Lexes true n [] (n.blocks.map fun _ => ⟨n.line, .dedent⟩) := by
  intro fuel hfuel
  obtain ⟨fuel, rfl⟩ := Nat.exists_eq_add_of_le' (Nat.le_trans (Nat.le_add_left 1 _) hfuel)
  rw [lexemesFrom?.eq_def]
  show (if n.brackets.isEmpty then some (n.blocks.map fun _ => (⟨n.line, .dedent⟩ : Lexeme)) else none) = _
  rw [hn]
  rfl

end ScenarioAudit.Syntax
