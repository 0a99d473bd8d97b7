import ScenarioAudit.Proofs.Syntax.Reading
import ScenarioAudit.Proofs.Syntax.Tokens

/-! # The tree of a plain step definition

The tokens of a plain statement are read as its tree (`PlainStatement.statement_lexemes`), those of a body as the trees of
its statements (`readBlock_body`), and the source of a plain step definition as its tree (`PlainStep.ofSource?_source`).
-/

namespace ScenarioAudit

open ScenarioAudit.Text ScenarioAudit.Syntax Reader

/-! ## Expressions -/

section Expressions

variable (depth line : Nat) {ls rest : List Lexeme}

theorem expression_name (x : PlainName) (hrest : Ends rest) :
    Expr.read (depth + 1) .expression (⟨line, .name x.chars true⟩ :: rest) = some (.name x.chars, rest) :=
  expression_of_primary (primary_eq rfl hrest) ⟨rfl, rfl, rfl, rfl⟩ hrest

theorem expression_ellipsis (hrest : Ends rest) :
    Expr.read (depth + 1) .expression (⟨line, .mark "..."⟩ :: rest) = some (.constant .ellipsis, rest) :=
  expression_of_primary (primary_eq rfl hrest) ⟨rfl, rfl, rfl, rfl⟩ hrest

theorem expression_text (c : CodePoints) (hrest : Ends rest) :
    Expr.read (depth + 1) .expression (⟨line, .text c⟩ :: rest) = some (.constant (.text c), rest) := by
  have hliterals : literalTokens (⟨line, .text c⟩ :: rest) = some ([.text c], rest) := by
    refine (bind_eq (a := .text c) rfl).trans (bind_eq (many_eq_nil ?_))
    cases hrest
    all_goals rfl
  have hatom : atom (Expr.read depth) (⟨line, .text c⟩ :: rest) = some (.constant (.text (c ++ [])), rest) :=
    (bind_eq (a := some (.text c)) rfl).trans (bind_eq hliterals)
  rw [List.append_nil] at hatom
  exact expression_of_primary (primary_eq hatom hrest) ⟨rfl, rfl, rfl, rfl⟩ hrest

theorem trailer_argument {t : Token} {e : Expr}
    (h : Expr.read (depth + 1) .expression (⟨line, t⟩ :: ⟨line, .mark ")"⟩ :: ls) = some (e, ⟨line, .mark ")"⟩ :: ls))
    (hstar : isMark "*" t = false) (hdouble : isMark "**" t = false) (hclose : isMark ")" t = false) :
    trailer (Expr.read (depth + 1)) (⟨line, .mark "("⟩ :: ⟨line, t⟩ :: ⟨line, .mark ")"⟩ :: ls) =
      some (fun f => .call f [e] [], ls) := by
  have hassigned : seesAssigned (⟨line, t⟩ :: ⟨line, .mark ")"⟩ :: ls) =
      some (false, ⟨line, t⟩ :: ⟨line, .mark ")"⟩ :: ls) := by
    cases t
    all_goals rfl
  exact trailer_call (argument_eq (named_eq h hassigned (.closing line ls)) hstar hdouble) hclose

theorem expression_call (f : PlainName) {t : Token} {k : Expr → Expr}
    (h : trailer (Expr.read depth) (⟨line, .mark "("⟩ :: ⟨line, t⟩ :: ⟨line, .mark ")"⟩ :: rest) = some (k, rest))
    (hrest : Ends rest) :
    Expr.read (depth + 1) .expression
        (⟨line, .name f.chars true⟩ :: ⟨line, .mark "("⟩ :: ⟨line, t⟩ :: ⟨line, .mark ")"⟩ :: rest) =
      some (k (.name f.chars), rest) := by
  have hprimary : primary (Expr.read depth)
      (⟨line, .name f.chars true⟩ :: ⟨line, .mark "("⟩ :: ⟨line, t⟩ :: ⟨line, .mark ")"⟩ :: rest) =
        some (k (.name f.chars), rest) :=
    (bind_eq (a := .name f.chars) rfl).trans (bind_eq (many_eq_singleton h (trailer_ends hrest)))
  exact expression_of_primary hprimary ⟨rfl, rfl, rfl, rfl⟩ hrest

theorem expression_parenthesised (x : PlainName) (hrest : Ends rest) :
    Expr.read (depth + 2) .expression
        (⟨line, .mark "("⟩ :: ⟨line, .name x.chars true⟩ :: ⟨line, .mark ")"⟩ :: rest) =
      some (.name x.chars, rest) := by
  have hclose : Ends (⟨line, .mark ")"⟩ :: rest) := .closing line rest
  have hinside : starredOrNamed (Expr.read (depth + 1)) (⟨line, .name x.chars true⟩ :: ⟨line, .mark ")"⟩ :: rest) =
      some (.name x.chars, ⟨line, .mark ")"⟩ :: rest) :=
    (bind_eq (takes_eq_false rfl)).trans (named_eq (expression_name depth line x hclose) rfl hclose)
  have hatom : atom (Expr.read (depth + 1))
      (⟨line, .mark "("⟩ :: ⟨line, .name x.chars true⟩ :: ⟨line, .mark ")"⟩ :: rest) =
        some (.name x.chars, rest) := by
    refine (bind_eq (a := some (Token.mark "(")) rfl).trans ((bind_eq (a := ()) rfl).trans ?_)
    refine (bind_eq (takes_eq_false rfl)).trans ((bind_eq (sees_eq rfl)).trans ((bind_eq hinside).trans ?_))
    refine (bind_eq (takes_eq_false rfl)).trans ((bind_eq (a := ()) rfl).trans ((bind_eq (sees_eq rfl)).trans ?_))
    exact bind_eq (a := ()) rfl
  exact expression_of_primary (primary_eq hatom hrest) ⟨rfl, rfl, rfl, rfl⟩ hrest

end Expressions

/-! ## Statements -/

theorem assignment_expression {expr : Inner} {ls : List Lexeme} {e : Expr} {line : Nat} {rest : List Lexeme}
    (h : assignedValue expr ls = some (e, ⟨line, .newline⟩ :: rest)) :
    assignment expr ls = some (.expression e, ⟨line, .newline⟩ :: rest) := by
  have hequals : mark "=" (⟨line, .newline⟩ :: rest) = none := expect_eq_none rfl
  exact (bind_eq h).trans ((bind_eq (takes_eq_false rfl)).trans ((bind_eq (sees_eq rfl)).trans
    (bind_eq (many_eq_nil (bind_eq_none hequals)))))

theorem simpleStatement_name (expr : Inner) (line : Nat) (x : PlainName) (ls : List Lexeme) :
    simpleStatement expr (⟨line, .name x.chars true⟩ :: ls) = assignment expr (⟨line, .name x.chars true⟩ :: ls) :=
  bind_eq (a := some (Token.name x.chars true)) rfl

namespace PlainStatement

variable (depth width : Nat) (block : Reader (List Stmt)) (s : PlainStatement) (line : Nat) (ls : List Lexeme)

theorem simpleStatement_lexemes :
    simpleStatement (Expr.read (depth + 4)) (s.lexemes line ++ ls) = some (s.tree, ⟨line, .newline⟩ :: ls) := by
  have hend : Ends (⟨line, .newline⟩ :: ls) := .newline line ls
  have hname (x : PlainName) := expression_name (depth + 3) line x hend
  cases s with
  | pass => rfl
  | ellipsis =>
    exact assignment_expression (assignedValue_eq (expression_ellipsis (depth + 3) line hend) rfl rfl hend)
  | text s =>
    have htext := expression_text (depth + 3) line (codePoints s.chars) hend
    exact assignment_expression (assignedValue_eq htext rfl rfl hend)
  | returnBare => rfl
  | returnNone => rfl
  | returnName x =>
    refine (bind_eq (a := some (.keyword "return")) rfl).trans ((bind_eq (a := ()) rfl).trans ?_)
    exact bind_eq (maybe_eq (row_eq (hname x) rfl hend))
  | assertLiteral l =>
    cases l
    all_goals rfl
  | assertName x =>
    refine (bind_eq (a := some (.keyword "assert")) rfl).trans ((bind_eq (a := ()) rfl).trans ?_)
    exact (bind_eq (hname x)).trans (bind_eq (takes_eq_false rfl))
  | assign x y =>
    let value : List Lexeme := ⟨line, .name y.chars true⟩ :: ⟨line, .newline⟩ :: ls
    have hequals : Ends (⟨line, .mark "="⟩ :: value) := .equals line value
    have hplace := assignedValue_eq (expression_name (depth + 3) line x hequals) rfl rfl hequals
    have hvalue := assignedValue_eq (hname y) rfl rfl hend
    have hassigned : Reader.many (do mark "="; assignedValue (Expr.read (depth + 4))) (⟨line, .mark "="⟩ :: value) =
        some ([.name y.chars], ⟨line, .newline⟩ :: ls) :=
      many_eq_singleton ((bind_eq (a := ()) rfl).trans hvalue) (bind_eq_none (expect_eq_none rfl))
    refine (simpleStatement_name (Expr.read (depth + 4)) line x _).trans ((bind_eq hplace).trans ?_)
    refine (bind_eq (takes_eq_false rfl)).trans ((bind_eq (sees_eq rfl)).trans ?_)
    exact bind_eq hassigned
  | call f x =>
    have hargument := expression_name (depth + 2) line x (.closing line (⟨line, .newline⟩ :: ls))
    have htrailer := trailer_argument (depth + 2) line hargument rfl rfl rfl
    have hcall := expression_call (depth + 3) line f htrailer hend
    have hvalue := assignedValue_eq hcall rfl rfl hend
    exact (simpleStatement_name (Expr.read (depth + 4)) line f _).trans (assignment_expression hvalue)
  | raised e =>
    refine (bind_eq (a := some (.keyword "raise")) rfl).trans ((bind_eq (a := ()) rfl).trans ?_)
    exact (bind_eq (maybe_eq (hname e))).trans (bind_eq (takes_eq_false rfl))

theorem simpleStatements_lexemes :
    simpleStatements (Expr.read (depth + 4)) (s.lexemes line ++ ls) = some ([s.tree], ls) := by
  have hsemicolon : mark ";" (⟨line, .newline⟩ :: ls) = none := expect_eq_none rfl
  have hone : separated ";" (simpleStatement (Expr.read (depth + 4))) (s.lexemes line ++ ls) =
      some ([s.tree], ⟨line, .newline⟩ :: ls) :=
    (bind_eq (s.simpleStatement_lexemes depth line ls)).trans (bind_eq (many_eq_nil (bind_eq_none hsemicolon)))
  exact (bind_eq hone).trans ((bind_eq (takes_eq_false rfl)).trans (bind_eq (a := ()) rfl))

theorem selection_call (x : PlainName) :
    selection (Expr.read (depth + 4)) width block (⟨line, .name "match".toList true⟩ :: ⟨line, .mark "("⟩ ::
      ⟨line, .name x.chars true⟩ :: ⟨line, .mark ")"⟩ :: ⟨line, .newline⟩ :: ls) = none := by
  have hend : Ends (⟨line, .newline⟩ :: ls) := .newline line ls
  have hsubject : starredOrNamed (Expr.read (depth + 4)) (⟨line, .mark "("⟩ :: ⟨line, .name x.chars true⟩ ::
      ⟨line, .mark ")"⟩ :: ⟨line, .newline⟩ :: ls) = some (.name x.chars, ⟨line, .newline⟩ :: ls) :=
    (bind_eq (takes_eq_false rfl)).trans (named_eq (expression_parenthesised (depth + 2) line x hend) rfl hend)
  have hcolon : mark ":" (⟨line, .newline⟩ :: ls) = none := expect_eq_none rfl
  refine (bind_eq (a := ()) rfl).trans ((bind_eq (map_eq (commaList_eq hsubject hend) rowOf)).trans ?_)
  exact (bind_eq (a := ()) rfl).trans (bind_eq_none hcolon)

/-- No plain statement is a selection, whatever it calls or assigns to. -/
theorem selection_lexemes : selection (Expr.read (depth + 4)) width block (s.lexemes line ++ ls) = none := by
  have hname {x : PlainName} {rest : List Lexeme} (hx : x.chars ≠ "match".toList) :
      selection (Expr.read (depth + 4)) width block (⟨line, .name x.chars true⟩ :: rest) = none := by
    have hsoft : isSoftKeyword "match" (.name x.chars true) = false := by
      rw [isSoftKeyword, Bool.true_and, beq_eq_false_iff_ne]
      exact hx
    exact bind_eq_none (expect_eq_none hsoft)
  -- Only a name can be taken for the word that opens a selection. What follows it decides then.
  cases s with
  | assign x y =>
    by_cases hx : x.chars = "match".toList
    · show selection _ width block (⟨line, .name x.chars true⟩ :: ⟨line, .mark "="⟩ :: ⟨line, .name y.chars true⟩ ::
        ⟨line, .newline⟩ :: ls) = none
      rw [hx]
      rfl
    · exact hname hx
  | call f x =>
    by_cases hf : f.chars = "match".toList
    · show selection _ width block (⟨line, .name f.chars true⟩ :: ⟨line, .mark "("⟩ :: ⟨line, .name x.chars true⟩ ::
        ⟨line, .mark ")"⟩ :: ⟨line, .newline⟩ :: ls) = none
      rw [hf]
      exact selection_call depth width block line ls x
    · exact hname hf
  | assertLiteral l =>
    cases l
    all_goals exact bind_eq_none (expect_eq_none rfl)
  | _ => exact bind_eq_none (expect_eq_none rfl)

/-- **The tokens of a plain statement are read as its tree.** -/
theorem statement_lexemes :
    statement (Expr.read (depth + 4)) width block (s.lexemes line ++ ls) = some ([s.tree], ls) := by
  have hselection := maybe_eq_none (s.selection_lexemes depth width block line ls)
  have hsimple := s.simpleStatements_lexemes depth line ls
  cases s with
  | assertLiteral l =>
    cases l
    all_goals exact (bind_eq (a := some _) rfl).trans ((bind_eq hselection).trans hsimple)
  | call f x =>
    refine (bind_eq (a := some (Token.name f.chars true)) rfl).trans ?_
    exact (bind_eq hselection).trans hsimple
  | _ => exact (bind_eq (a := some _) rfl).trans ((bind_eq hselection).trans hsimple)

end PlainStatement

/-! ## Blocks -/

theorem statement_dedent (depth width : Nat) (block : Reader (List Stmt)) (line : Nat) (ls : List Lexeme) :
    statement (Expr.read (depth + 1)) width block (⟨line, .dedent⟩ :: ls) = none :=
  rfl

theorem statement_end (depth width : Nat) (block : Reader (List Stmt)) :
    statement (Expr.read (depth + 1)) width block [] = none :=
  rfl

theorem length_bodyLexemes (ss : List PlainStatement) (line : Nat) : ss.length ≤ (bodyLexemes line ss).length := by
  induction ss generalizing line with
  | nil => exact Nat.le_refl 0
  | cons s ss ih =>
    have h := ih (line + 1)
    simp only [bodyLexemes, PlainStatement.lexemes, List.length_append, List.length_cons]
    omega

section Blocks

variable {r : Reader (List Stmt)} (hr : ∀ (s : PlainStatement) line ls, r (s.lexemes line ++ ls) = some ([s.tree], ls))
  {rest : List Lexeme} (hrest : r rest = none)

include hr hrest

theorem upTo_body (ss : List PlainStatement) (line : Nat) {us : List Lexeme} (hus : ss.length ≤ us.length) :
    upTo r us (bodyLexemes line ss ++ rest) = some (ss.map fun s => [s.tree], rest) := by
  induction ss generalizing line us with
  | nil => exact upTo_eq_nil hrest us
  | cons s ss ih =>
    obtain ⟨u, us, rfl⟩ := List.exists_cons_of_length_pos (Nat.lt_of_lt_of_le (Nat.succ_pos _) hus)
    rw [bodyLexemes, List.append_assoc]
    exact upTo_eq_cons (hr s line _) (ih (line + 1) (Nat.le_of_succ_le_succ hus)) u

theorem some1_body {ss : List PlainStatement} (hss : ss ≠ []) (line : Nat) :
    some1 r (bodyLexemes line ss ++ rest) = some (ss.map fun s => [s.tree], rest) := by
  obtain ⟨s, ss, rfl⟩ := List.exists_cons_of_ne_nil hss
  -- Repetition is bounded by the tokens that are left, and each statement has one at least.
  have hbound : ss.length ≤ (bodyLexemes (line + 1) ss ++ rest).length := by
    rw [List.length_append]
    exact Nat.le_add_right_of_le (length_bodyLexemes ss (line + 1))
  have hmany : many r (bodyLexemes (line + 1) ss ++ rest) = some (ss.map fun s => [s.tree], rest) :=
    upTo_body hr hrest ss (line + 1) hbound
  rw [bodyLexemes, List.append_assoc]
  exact (bind_eq (hr s line _)).trans (bind_eq hmany)

end Blocks

/-- **The block of a body is read as the trees of its statements.** -/
theorem readBlock_body (depth width limit : Nat) {ss : List PlainStatement} (hss : ss ≠ []) (line : Nat)
    (ls : List Lexeme) :
    readBlock (Expr.read (depth + 4)) width (limit + 1) (⟨line, .newline⟩ :: ⟨line + 1, .indent⟩ ::
        (bodyLexemes (line + 1) ss ++ ⟨line + 1 + ss.length, .dedent⟩ :: ls)) =
      some (ss.map PlainStatement.tree, ls) := by
  let block : Reader (List Stmt) := readBlock (Expr.read (depth + 4)) width limit
  have hend := statement_dedent (depth + 3) width block (line + 1 + ss.length) ls
  have hstatements := some1_body (fun s => s.statement_lexemes depth width block) hend hss (line + 1)
  have hflat : (ss.map fun s => [s.tree]).flatten = ss.map PlainStatement.tree := by
    rw [← List.flatMap_def, List.map_eq_flatMap]
  rw [← hflat]
  refine (bind_eq (a := true) rfl).trans ((bind_eq (a := ()) rfl).trans ?_)
  exact (bind_eq hstatements).trans (bind_eq (a := ()) rfl)

/-! ## Step definitions -/

namespace PlainStep

variable (f : PlainStep)

theorem decorator_lexemes (depth : Nat) (ls : List Lexeme) :
    some1 (do mark "@"; let e ← named (Expr.read (depth + 4)); expect isNewline; return e)
        (f.decoratorLexemes ++ (f.headLexemes ++ ls)) =
      some ([f.decorator], f.headLexemes ++ ls) := by
  let ended : List Lexeme := ⟨1, .newline⟩ :: (f.headLexemes ++ ls)
  have hargument := expression_text (depth + 2) 1 (codePoints f.text.chars) (.closing 1 ended)
  have htrailer := trailer_argument (depth + 2) 1 hargument rfl rfl rfl
  have hend : Ends ended := .newline 1 (f.headLexemes ++ ls)
  have hcall := expression_call (depth + 3) 1 f.wordName htrailer hend
  have hnone : mark "@" (f.headLexemes ++ ls) = none := expect_eq_none rfl
  refine (bind_eq (a := f.decorator) ?_).trans (bind_eq (many_eq_nil (bind_eq_none hnone)))
  exact (bind_eq (a := ()) rfl).trans ((bind_eq (named_eq hcall rfl hend)).trans (bind_eq (a := ()) rfl))

section Definition

variable {block : Reader (List Stmt)} {ls rest : List Lexeme} {body : List Stmt}
  (h : block (⟨2, .newline⟩ :: ls) = some (body, rest))

include h

theorem functionDefinition_lexemes (depth : Nat) (decorators : List Expr) :
    functionDefinition (Expr.read (depth + 1)) block decorators 2 (f.headLexemes ++ ls) =
      some (.function 2 f.name.chars decorators (.compound .parameters [.compound .parameter []]) none body,
        rest) := by
  refine (bind_eq (a := ()) rfl).trans ((bind_eq (a := f.name.chars) rfl).trans ((bind_eq (a := ()) rfl).trans ?_))
  refine (bind_eq (a := .compound .parameters [.compound .parameter []]) rfl).trans ((bind_eq (a := ()) rfl).trans ?_)
  refine (bind_eq (a := false) rfl).trans ((bind_eq (a := none) rfl).trans ((bind_eq (a := ()) rfl).trans ?_))
  exact bind_eq h

theorem decorated_lexemes (depth : Nat) :
    decorated (Expr.read (depth + 4)) block (f.decoratorLexemes ++ (f.headLexemes ++ ls)) =
      some (.function 2 f.name.chars [f.decorator] (.compound .parameters [.compound .parameter []]) none body,
        rest) := by
  refine (bind_eq (f.decorator_lexemes depth ls)).trans ((bind_eq (a := 2) rfl).trans ?_)
  refine (bind_eq (a := false) rfl).trans ((bind_eq (a := false) rfl).trans ?_)
  exact f.functionDefinition_lexemes h (depth + 3) [f.decorator]

end Definition

/-- **The source of a plain step definition is read as its tree.** -/
theorem ofSource?_source : Module.ofSource? f.source = some [f.tree] := by
  let depth := f.source.length + 8
  let module := statement (Expr.read depth) depth (readBlock (Expr.read depth) depth (blockLimit + 1))
  have hblock := readBlock_body (f.source.length + 4) depth blockLimit f.body_ne_nil 2 []
  have hone : module f.lexemes = some ([f.tree], []) :=
    (bind_eq (a := some (Token.mark "@")) rfl).trans (bind_eq (f.decorated_lexemes hblock (f.source.length + 4)))
  have hall : (many module).run f.lexemes = some ([[f.tree]], []) := many_eq_singleton hone (statement_end _ _ _)
  simp only [Module.ofSource?, f.lexemes?_source, Option.bind_eq_bind, Option.bind_some]
  rw [hall]
  rfl

end PlainStep

end ScenarioAudit
