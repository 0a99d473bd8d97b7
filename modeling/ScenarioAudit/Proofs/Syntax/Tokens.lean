import ScenarioAudit.Proofs.Syntax.Lexing
import ScenarioAudit.Proofs.Scan.Registration

/-! # The tokens of a plain step definition

Every statement is a row of tokens (`PlainStatement.tokens`), and so is a step definition: those of its decorator,
those of its head, and a block with those of its statements (`PlainStep.lexemes`). These are the tokens that its source
is read as (`PlainStep.lexemes?_source`).
-/

namespace ScenarioAudit

open ScenarioAudit.Text ScenarioAudit.Syntax

/-! ## Statements -/

def TrueLiteral.tokens : TrueLiteral → List Token
  | true => [.keyword "True"]
  | one => [.number (.whole 1)]
  | notFalse => [.keyword "not", .keyword "False"]
  | notZero => [.keyword "not", .number (.whole 0)]

namespace PlainStatement

def tokens : PlainStatement → List Token
  | pass => [.keyword "pass"]
  | ellipsis => [.mark "..."]
  | text s => [.text (codePoints s.chars)]
  | returnBare => [.keyword "return"]
  | returnNone => [.keyword "return", .keyword "None"]
  | returnName x => [.keyword "return", .name x.chars true]
  | assertLiteral l => .keyword "assert" :: l.tokens
  | assertName x => [.keyword "assert", .name x.chars true]
  | assign x y => [.name x.chars true, .mark "=", .name y.chars true]
  | call f x => [.name f.chars true, .mark "(", .name x.chars true, .mark ")"]
  | raised e => [.keyword "raise", .name e.chars true]

def lexemes (s : PlainStatement) (line : Nat) : List Lexeme :=
  s.tokens.map (⟨line, ·⟩) ++ [⟨line, .newline⟩]

theorem lexes_line (s : PlainStatement) {n : Nesting} (hn : n.brackets = []) {rest : List Char} {ls : List Lexeme}
    (h : Lexes true { n with line := n.line + 1 } rest ls) :
    Lexes false n (s.line ++ '\n' :: rest) (s.lexemes n.line ++ ls) := by
  have hend : Lexes false n ('\n' :: rest) (⟨n.line, .newline⟩ :: ls) := h.newline hn
  have hword {w : String} (hw : w ∈ keywords) :
      Lexes false n (w.toList ++ '\n' :: rest) (⟨n.line, .keyword w⟩ :: ⟨n.line, .newline⟩ :: ls) :=
    hend.keyword hw rfl rfl
  have hname (x : PlainName) :
      Lexes false n (x.chars ++ '\n' :: rest) (⟨n.line, .name x.chars true⟩ :: ⟨n.line, .newline⟩ :: ls) :=
    hend.name x rfl rfl
  have hafter {w : String} (hw : w ∈ keywords) {l : List Char} {ls : List Lexeme} (h : Lexes false n l ls) :
      Lexes false n (w.toList ++ ' ' :: l) (⟨n.line, .keyword w⟩ :: ls) :=
    h.space.keyword hw rfl rfl
  cases s with
  | pass => exact hword (by decide)
  | ellipsis => exact hend.ellipsis
  | text s =>
    have htext := hend.text s (by decide)
    show Lexes false n ('"' :: (s.chars ++ ['"'] ++ '\n' :: rest)) _
    rw [List.append_assoc]
    exact htext
  | returnBare => exact hword (by decide)
  | returnNone => exact hafter (w := "return") (by decide) (hword (w := "None") (by decide))
  | returnName x => exact hafter (w := "return") (by decide) (hname x)
  | assertLiteral l =>
    cases l with
    | true => exact hafter (w := "assert") (by decide) (hword (w := "True") (by decide))
    | one => exact hafter (w := "assert") (by decide) (hend.digit (Or.inr rfl))
    | notFalse =>
      have hfalse := hword (w := "False") (by decide)
      exact hafter (w := "assert") (by decide) (hafter (w := "not") (by decide) hfalse)
    | notZero =>
      have hzero := hend.digit (Or.inl rfl)
      exact hafter (w := "assert") (by decide) (hafter (w := "not") (by decide) hzero)
  | assertName x => exact hafter (w := "assert") (by decide) (hname x)
  | assign x y =>
    have hdouble : ∀ w ∈ doubleMarks, w.toList ≠ ['=', ' '] := by decide
    have hvalue : Lexes false n ('=' :: ' ' :: (y.chars ++ '\n' :: rest))
        (⟨n.line, .mark "="⟩ :: ⟨n.line, .name y.chars true⟩ :: ⟨n.line, .newline⟩ :: ls) :=
      Lexes.delimiter (c := '=') (by decide) hdouble rfl (hname y).space
    have h := hvalue.space.name x rfl rfl
    show Lexes false n (x.chars ++ (" = ".toList ++ y.chars) ++ '\n' :: rest) _
    rw [List.append_assoc, List.append_assoc]
    exact h
  | call f x =>
    have hargument (ls : List Lexeme) (h : Lexes false { n with brackets := ['('] } (')' :: '\n' :: rest) ls) :
        Lexes false { n with brackets := ['('] } (x.chars ++ ')' :: '\n' :: rest)
          ([.name x.chars true].map (⟨n.line, ·⟩) ++ ls) :=
      h.name x rfl rfl
    have h := (hend.parenthesised hn hargument).name f rfl rfl
    show Lexes false n (f.chars ++ '(' :: (x.chars ++ [')']) ++ '\n' :: rest) _
    rw [List.append_assoc, List.cons_append, List.append_assoc]
    exact h
  | raised e => exact hafter (w := "raise") (by decide) (hname e)

theorem exists_lexical (s : PlainStatement) :
    ∃ c rest, s.line = c :: rest ∧ c ∉ [' ', '\t', '\x0c', '\\', '\n', '#'] := by
  obtain ⟨c, rest, hline, hc⟩ := s.exists_first
  refine ⟨c, rest, hline, fun hmem => ?_⟩
  have hall : ∀ c ∈ [' ', '\t', '\x0c', '\\', '\n', '#'], ¬ Scan.Letter c ∧ c ∉ ['"', '.'] := by decide +kernel
  exact hc.elim (hall c hmem).1 (hall c hmem).2

end PlainStatement

/-! ## Bodies -/

/-- The tokens of statements on lines of their own, from a line on. -/
def bodyLexemes : Nat → List PlainStatement → List Lexeme
  | _, [] => []
  | line, s :: ss => s.lexemes line ++ bodyLexemes (line + 1) ss

def bodyText (indent : List Char) (ss : List PlainStatement) : List Char :=
  ss.flatMap fun s => indent ++ s.line ++ ['\n']

theorem PlainStatement.lexes_indented (s : PlainStatement) {indent : List Char}
    (hindent : ∀ c ∈ indent, c = ' ' ∨ c = '\t') {line : Nat} {blocks blocks' : List Columns} {tokens : List Token}
    (hblocks : reblock? (columnsOf indent) blocks = some (tokens, blocks')) {rest : List Char} {ls : List Lexeme}
    (h : Lexes true ⟨line + 1, [], blocks'⟩ rest ls) :
    Lexes true ⟨line, [], blocks⟩ (indent ++ s.line ++ '\n' :: rest)
      (tokens.map (⟨line, ·⟩) ++ (s.lexemes line ++ ls)) := by
  obtain ⟨c, l, hline, hc⟩ := s.exists_lexical
  have hstatement := s.lexes_line (n := ⟨line, [], blocks'⟩) rfl h
  rw [hline, List.cons_append] at hstatement
  rw [hline, List.append_assoc, List.cons_append]
  exact Lexes.line (n := ⟨line, [], blocks⟩) rfl hindent hc hblocks hstatement

theorem bodyText_cons (indent : List Char) (s : PlainStatement) (ss : List PlainStatement) :
    bodyText indent (s :: ss) = indent ++ s.line ++ '\n' :: bodyText indent ss := by
  simp [bodyText]

/-- Lines of the same depth stay in their block. -/
theorem lexes_body {indent : List Char} (hindent : ∀ c ∈ indent, c = ' ' ∨ c = '\t') (ss : List PlainStatement)
    (line : Nat) :
    Lexes true ⟨line, [], [columnsOf indent]⟩ (bodyText indent ss)
      (bodyLexemes line ss ++ [⟨line + ss.length, .dedent⟩]) := by
  induction ss generalizing line with
  | nil => exact Lexes.finish rfl
  | cons s ss ih =>
    have hsame : reblock? (columnsOf indent) [columnsOf indent] = some ([], [columnsOf indent]) := by
      rw [reblock?, if_pos rfl]
    have hrest := ih (line + 1)
    rw [Nat.add_assoc, Nat.add_comm 1] at hrest
    rw [bodyLexemes, List.append_assoc, bodyText_cons]
    exact s.lexes_indented hindent hsame hrest

theorem lexes_block {indent : List Char} (hindent : ∀ c ∈ indent, c = ' ' ∨ c = '\t') (hne : indent ≠ [])
    {ss : List PlainStatement} (hss : ss ≠ []) (line : Nat) :
    Lexes true ⟨line, [], []⟩ (bodyText indent ss)
      (⟨line, .indent⟩ :: (bodyLexemes line ss ++ [⟨line + ss.length, .dedent⟩])) := by
  obtain ⟨s, ss, rfl⟩ := List.exists_cons_of_ne_nil hss
  obtain ⟨hwide, hnarrow⟩ := columnsOf_pos hne
  have hdeeper : reblock? (columnsOf indent) [] = some ([.indent], [columnsOf indent]) := by
    have hzero : columnsOf indent ≠ ⟨0, 0⟩ := by
      intro heq
      rw [heq] at hwide
      exact Nat.lt_irrefl 0 hwide
    rw [reblock?, if_neg hzero, if_pos ⟨hwide, hnarrow⟩]
  have hrest := lexes_body hindent ss (line + 1)
  rw [Nat.add_assoc, Nat.add_comm 1] at hrest
  rw [bodyLexemes, List.append_assoc, bodyText_cons]
  exact s.lexes_indented hindent hdeeper hrest

/-! ## Step definitions -/

namespace PlainStep

variable (f : PlainStep)

def wordName : PlainName where
  chars := f.word.toList
  start := by
    have hall : ∀ w ∈ stepDecorators, w.toList ≠ [] ∧ w.toList.head?.all (fun c => !c.isDigit) = true := by
      decide +kernel
    obtain ⟨hne, hdigit⟩ := hall f.word f.isStep
    obtain ⟨c, l, hw⟩ := List.exists_cons_of_ne_nil hne
    rw [hw] at hdigit
    exact ⟨c, l, hw, by simpa using hdigit⟩
  letters := by
    have hall : ∀ w ∈ stepDecorators, ∀ c ∈ w.toList, isNameLetter c = true := by decide +kernel
    exact hall f.word f.isStep
  free := by
    have hall : ∀ w ∈ stepDecorators, w ∉ Syntax.keywords := by decide +kernel
    rw [String.ofList_toList]
    exact hall f.word f.isStep

def decoratorLexemes : List Lexeme :=
  [.mark "@", .name f.word.toList true, .mark "(", .text (codePoints f.text.chars), .mark ")", .newline].map (⟨1, ·⟩)

def headLexemes : List Lexeme :=
  [.keyword "def", .name f.name.chars true, .mark "(", .name f.parameter.chars true, .mark ")", .mark ":",
    .newline].map (⟨2, ·⟩)

/-- The step definition as a row of tokens. -/
def lexemes : List Lexeme :=
  f.decoratorLexemes ++
    (f.headLexemes ++ ⟨3, .indent⟩ :: (bodyLexemes 3 f.body ++ [⟨3 + f.body.length, .dedent⟩]))

theorem completed_source :
    completed f.source = f.decoratorLine ++ '\n' :: (f.headLine ++ '\n' :: bodyText f.indent f.body) := by
  have hne : f.lines ≠ [] := List.cons_ne_nil _ _
  have hended : joinLines f.lines ++ ['\n'] =
      f.decoratorLine ++ '\n' :: (f.headLine ++ '\n' :: bodyText f.indent f.body) := by
    rw [joinLines_feed hne, lines, List.flatMap_cons, List.flatMap_cons, bodyLines, List.flatMap_map]
    simp [bodyText]
  rw [← hended, completed, source]
  cases f.ended with
  | true =>
    rw [if_pos rfl]
    exact if_pos List.getLast?_concat
  | false =>
    obtain ⟨c, hlast, hc⟩ := getLast?_joinLines hne fun l hl =>
      ⟨(f.lines_clean l hl).1, fun hmem => absurd ((f.lines_clean l hl).2 _ hmem) (by decide)⟩
    rw [if_neg Bool.false_ne_true, List.append_nil, hlast, if_neg (fun heq => hc (Option.some.inj heq))]

theorem lexes_decoratorLine {rest : List Char} {ls : List Lexeme} (h : Lexes true ⟨2, [], []⟩ rest ls) :
    Lexes true {} (f.decoratorLine ++ '\n' :: rest) (f.decoratorLexemes ++ ls) := by
  have hfeed : Lexes false {} ('\n' :: rest) (⟨1, .newline⟩ :: ls) := h.newline rfl
  have htext (ls : List Lexeme) (h : Lexes false ⟨1, ['('], []⟩ (')' :: '\n' :: rest) ls) :
      Lexes false ⟨1, ['('], []⟩ ('"' :: (f.text.chars ++ ['"']) ++ ')' :: '\n' :: rest)
        ([.text (codePoints f.text.chars)].map (⟨1, ·⟩) ++ ls) := by
    rw [List.cons_append, List.append_assoc]
    exact h.text f.text (by decide)
  have hargument := (hfeed.parenthesised rfl htext).name f.wordName rfl rfl
  -- No word of a step makes a longer operator of the mark in front of it.
  have hmark (l : List Char) : ∀ w ∈ doubleMarks, w.toList ≠ '@' :: (f.word.toList ++ l).take 1 := by
    have hall : ∀ v ∈ stepDecorators, ∀ w ∈ doubleMarks, w.toList ≠ '@' :: v.toList.take 1 := by decide +kernel
    intro w hw
    obtain ⟨c, l', hcl⟩ := List.exists_cons_of_ne_nil f.word_ne_nil
    have h := hall f.word f.isStep w hw
    rw [hcl] at h ⊢
    exact h
  have hat := Lexes.delimiter (c := '@') (by decide) (hmark _) rfl hargument
  have h := hat.unindented rfl rfl (by decide)
  have hline : f.decoratorLine ++ '\n' :: rest =
      '@' :: (f.word.toList ++ '(' :: ('"' :: (f.text.chars ++ ['"']) ++ ')' :: '\n' :: rest)) := by
    simp [decoratorLine]
  rw [hline]
  exact h

theorem lexes_headLine {rest : List Char} {ls : List Lexeme} (h : Lexes true ⟨3, [], []⟩ rest ls) :
    Lexes true ⟨2, [], []⟩ (f.headLine ++ '\n' :: rest) (f.headLexemes ++ ls) := by
  have hfeed : Lexes false ⟨2, [], []⟩ ('\n' :: rest) (⟨2, .newline⟩ :: ls) := Lexes.newline rfl h
  have hdouble : ∀ w ∈ doubleMarks, w.toList ≠ [':', '\n'] := by decide
  have hcolon : Lexes false ⟨2, [], []⟩ (':' :: '\n' :: rest) (⟨2, .mark ":"⟩ :: ⟨2, .newline⟩ :: ls) :=
    Lexes.delimiter (c := ':') (by decide) hdouble rfl hfeed
  have hparameter (ls : List Lexeme) (h : Lexes false ⟨2, ['('], []⟩ (')' :: ':' :: '\n' :: rest) ls) :
      Lexes false ⟨2, ['('], []⟩ (f.parameter.chars ++ ')' :: ':' :: '\n' :: rest)
        ([.name f.parameter.chars true].map (⟨2, ·⟩) ++ ls) :=
    h.name f.parameter rfl rfl
  have hname := (hcolon.parenthesised rfl hparameter).name f.name rfl rfl
  have hdef := hname.space.keyword (w := "def") (by decide) rfl rfl
  have hline : f.headLine ++ '\n' :: rest =
      'd' :: ("ef".toList ++ ' ' :: (f.name.chars ++ '(' :: (f.parameter.chars ++ ')' :: ':' :: '\n' :: rest))) := by
    simp [headLine]
  rw [hline]
  exact Lexes.unindented rfl rfl (by decide) hdef

/-- **The source of a step definition is read as its tokens.** -/
theorem lexemes?_source : lexemes? f.source = some f.lexemes := by
  have hbody := lexes_block f.indent_blank f.indent_ne_nil f.body_ne_nil 3
  have h := f.lexes_decoratorLine (f.lexes_headLine hbody)
  rw [← completed_source] at h
  exact h.lexemes?

end PlainStep

end ScenarioAudit
