import ScenarioAudit.Syntax.Statement

/-! # Running the readers of the grammar

What a reader made of others gives follows from what these give (`bind_eq`, `many_eq_nil` and the others). An expression
that starts with no operator and stands in front of a token that ends it (`Ends`) is read alike on all levels of the
grammar, from `primary_eq` to `row_eq`.
-/

namespace ScenarioAudit

open ScenarioAudit.Text

/-! ## Readers made of others -/

namespace Syntax.Reader

variable {α β : Type} {r : Reader α} {k : α → Reader β} {ls ls' rest : List Lexeme} {a : α}

theorem bind_eq (h : r ls = some (a, ls')) : (r >>= k) ls = k a ls' := by
  show (r ls).bind (fun p => k p.1 p.2) = _
  rw [h]
  rfl

theorem bind_eq_none (h : r ls = none) : (r >>= k) ls = none := by
  show (r ls).bind (fun p => k p.1 p.2) = _
  rw [h]
  rfl

theorem map_eq (h : r ls = some (a, ls')) (g : α → β) : (g <$> r) ls = some (g a, ls') := by
  show (r ls).bind (fun p => some (g p.1, p.2)) = _
  rw [h]
  rfl

theorem maybe_eq (h : r ls = some (a, ls')) : maybe r ls = some (some a, ls') := by
  rw [maybe, h]

theorem maybe_eq_none (h : r ls = none) : maybe r ls = some (none, ls) := by
  rw [maybe, h]

theorem upTo_eq_nil (h : r ls = none) (us : List Lexeme) : upTo r us ls = some ([], ls) := by
  cases us with
  | nil => rfl
  | cons u us => exact bind_eq (maybe_eq_none h)

theorem upTo_eq_cons {as : List α} {us : List Lexeme} (h : r ls = some (a, ls'))
    (hrest : upTo r us ls' = some (as, rest)) (u : Lexeme) : upTo r (u :: us) ls = some (a :: as, rest) :=
  (bind_eq (maybe_eq h)).trans (bind_eq hrest)

theorem many_eq_nil (h : r ls = none) : many r ls = some ([], ls) :=
  upTo_eq_nil h ls

theorem many_eq_singleton {l : Lexeme} (h : r (l :: ls) = some (a, ls')) (hrest : r ls' = none) :
    many r (l :: ls) = some ([a], ls') :=
  upTo_eq_cons h (upTo_eq_nil hrest ls) l

theorem takes_eq_false {p : Token → Bool} {l : Lexeme} (h : p l.token = false) :
    takes p (l :: ls) = some (false, l :: ls) := by
  have hsees : sees p (l :: ls) = some (false, l :: ls) := by rw [← h]; rfl
  exact bind_eq hsees

theorem expect_eq_none {p : Token → Bool} {l : Lexeme} (h : p l.token = false) : expect p (l :: ls) = none :=
  bind_eq (takes_eq_false h)

theorem sees_eq {p : Token → Bool} {l : Lexeme} {b : Bool} (h : p l.token = b) :
    sees p (l :: ls) = some (b, l :: ls) := by
  rw [← h]
  rfl

theorem joined_eq {operator : Token → Option String} (h : r ls = some (a, ls'))
    (hrest : (ls'.head?.map Lexeme.token).bind operator = none) :
    joined operator r ls = some ((a, []), ls') := by
  refine (bind_eq h).trans (bind_eq (many_eq_nil ?_))
  refine (bind_eq (a := ls'.head?.map Lexeme.token) rfl).trans ?_
  rw [hrest]
  rfl

end Syntax.Reader

namespace Syntax

open Reader

/-! ## Levels of the grammar -/

/-- A token that ends the expression in front of it. -/
inductive Ends : List Lexeme → Prop
  | newline (line : Nat) (ls : List Lexeme) : Ends (⟨line, .newline⟩ :: ls)
  | closing (line : Nat) (ls : List Lexeme) : Ends (⟨line, .mark ")"⟩ :: ls)
  | equals (line : Nat) (ls : List Lexeme) : Ends (⟨line, .mark "="⟩ :: ls)

/-- A token that is no operator in front of an expression. -/
structure Opens (t : Token) : Prop where
  await : isKeyword "await" t = false
  sign : operatorOf ["+", "-", "~"] t = none
  negation : isKeyword "not" t = false
  lambda : isKeyword "lambda" t = false

variable {inner : Inner} {l : Lexeme} {ls rest : List Lexeme} {e : Expr}

theorem trailer_ends (h : Ends rest) : trailer inner rest = none := by
  cases h
  all_goals rfl

theorem primary_eq (h : atom inner ls = some (e, rest)) (hrest : Ends rest) : primary inner ls = some (e, rest) :=
  (bind_eq h).trans (bind_eq (many_eq_nil (trailer_ends hrest)))

theorem takesMark_ends {m : String} (hm : m ∉ [")", "="]) (h : Ends rest) : takesMark m rest = some (false, rest) := by
  have hne (w : String) (hw : w ∈ [")", "="]) : isMark m (.mark w) = false := by
    rw [isMark, beq_eq_false_iff_ne]
    rintro rfl
    exact hm hw
  cases h with
  | newline line ls => exact takes_eq_false rfl
  | closing line ls => exact takes_eq_false (hne ")" (by decide))
  | equals line ls => exact takes_eq_false (hne "=" (by decide))

theorem power_eq (h : primary inner (l :: ls) = some (e, rest)) (hl : Opens l.token) (hrest : Ends rest) :
    power inner (l :: ls) = some (e, rest) :=
  (bind_eq (takes_eq_false hl.await)).trans ((bind_eq h).trans (bind_eq (takesMark_ends (by decide) hrest)))

theorem factor_eq (h : power inner (l :: ls) = some (e, rest)) (hl : Opens l.token) :
    factor inner (l :: ls) = some (e, rest) := by
  have hsigns : (l :: ls).head?.map Lexeme.token = some l.token := rfl
  refine (bind_eq (many_eq_nil ?_)).trans (bind_eq h)
  refine (bind_eq (a := some l.token) rfl).trans ?_
  rw [Option.bind_some, hl.sign]
  rfl

theorem leftGrouped_eq {operand : Reader Expr} (h : operand ls = some (e, rest)) (hrest : Ends rest)
    (opss : List (List String)) (hops : ∀ ops ∈ opss, ")" ∉ ops ∧ "=" ∉ ops) :
    leftGrouped operand opss ls = some (e, rest) := by
  induction opss with
  | nil => exact h
  | cons ops opss ih =>
    rw [List.forall_mem_cons] at hops
    -- What ends an expression is an operator on none of the levels.
    have hnone : (rest.head?.map Lexeme.token).bind (operatorOf ops) = none := by
      cases hrest with
      | newline line ls => rfl
      | closing line ls =>
        show (if ops.contains ")" then some ")" else none) = none
        simp [hops.1.1]
      | equals line ls =>
        show (if ops.contains "=" then some "=" else none) = none
        simp [hops.1.2]
    exact bind_eq (joined_eq (ih hops.2) hnone)

theorem sum_eq (h : factor inner ls = some (e, rest)) (hrest : Ends rest) : sum inner ls = some (e, rest) :=
  leftGrouped_eq h hrest leftOperators (by decide)

theorem comparison_eq (h : sum inner ls = some (e, rest)) (hrest : Ends rest) :
    comparison inner ls = some (e, rest) := by
  have hnone : comparator rest = none := by
    cases hrest
    all_goals rfl
  exact (bind_eq h).trans (bind_eq (many_eq_nil (bind_eq_none hnone)))

theorem inversion_eq (h : comparison inner (l :: ls) = some (e, rest)) (hl : Opens l.token) :
    inversion inner (l :: ls) = some (e, rest) :=
  (bind_eq (many_eq_nil (expect_eq_none hl.negation))).trans (bind_eq h)

theorem joinedBy_eq {w : String} {operand : Reader Expr} (h : operand ls = some (e, rest)) (hrest : Ends rest) :
    joinedBy w operand ls = some (e, rest) := by
  have hnone : keyword w rest = none := by
    cases hrest
    all_goals exact expect_eq_none rfl
  exact (bind_eq h).trans (bind_eq (many_eq_nil (bind_eq_none hnone)))

theorem disjunction_eq (h : inversion inner ls = some (e, rest)) (hrest : Ends rest) :
    disjunction inner ls = some (e, rest) :=
  joinedBy_eq (joinedBy_eq h hrest) hrest

theorem expression_eq (h : disjunction inner (l :: ls) = some (e, rest)) (hl : Opens l.token) (hrest : Ends rest) :
    expression inner (l :: ls) = some (e, rest) := by
  have hnone : keyword "if" rest = none := by
    cases hrest
    all_goals exact expect_eq_none rfl
  exact (bind_eq (sees_eq hl.lambda)).trans ((bind_eq h).trans (bind_eq (maybe_eq_none (bind_eq_none hnone))))

theorem expression_of_primary (h : primary inner (l :: ls) = some (e, rest)) (hl : Opens l.token) (hrest : Ends rest) :
    expression inner (l :: ls) = some (e, rest) := by
  have hsum := sum_eq (factor_eq (power_eq h hl hrest) hl) hrest
  exact expression_eq (disjunction_eq (inversion_eq (comparison_eq hsum hrest) hl) hrest) hl hrest

theorem named_eq (h : inner .expression ls = some (e, rest)) (hassigned : seesAssigned ls = some (false, ls))
    (hrest : Ends rest) : named inner ls = some (e, rest) := by
  have hnot : seesMark ":=" rest = some (false, rest) := by
    cases hrest
    all_goals exact sees_eq rfl
  exact (bind_eq hassigned).trans ((bind_eq h).trans (bind_eq hnot))

theorem commaList_eq {α : Type} {r : Reader α} {a : α} (h : r ls = some (a, rest)) (hrest : Ends rest) :
    commaList r ls = some (([a], false), rest) := by
  have hcomma : mark "," rest = none := by
    cases hrest
    all_goals exact expect_eq_none rfl
  have hone : separated "," r ls = some ([a], rest) := (bind_eq h).trans (bind_eq (many_eq_nil (bind_eq_none hcomma)))
  exact (bind_eq hone).trans (bind_eq (takesMark_ends (by decide) hrest))

theorem row_eq (h : inner .expression (l :: ls) = some (e, rest)) (hl : isMark "*" l.token = false)
    (hrest : Ends rest) : row inner (l :: ls) = some (e, rest) := by
  have hplain : starredOrPlain inner (l :: ls) = some (e, rest) := (bind_eq (takes_eq_false hl)).trans h
  exact map_eq (commaList_eq hplain hrest) rowOf

theorem assignedValue_eq (h : inner .expression (l :: ls) = some (e, rest)) (hl : isMark "*" l.token = false)
    (hyield : isKeyword "yield" l.token = false) (hrest : Ends rest) : assignedValue inner (l :: ls) = some (e, rest) :=
  (bind_eq (sees_eq hyield)).trans (row_eq h hl hrest)

/-! ## Calls -/

theorem argument_eq {t : Token} {line : Nat}
    (h : named inner (⟨line, t⟩ :: ⟨line, .mark ")"⟩ :: ls) = some (e, ⟨line, .mark ")"⟩ :: ls))
    (hstar : isMark "*" t = false) (hdouble : isMark "**" t = false) :
    argument inner (⟨line, t⟩ :: ⟨line, .mark ")"⟩ :: ls) = some (.positional e, ⟨line, .mark ")"⟩ :: ls) := by
  refine (bind_eq (takes_eq_false hstar)).trans ((bind_eq (takes_eq_false hdouble)).trans ?_)
  refine (bind_eq (a := some t) rfl).trans ((bind_eq (a := some (.mark ")")) rfl).trans ?_)
  cases t
  all_goals exact (bind_eq h).trans (bind_eq (sees_eq rfl))

theorem trailer_call {t : Token} {line : Nat}
    (h : argument inner (⟨line, t⟩ :: ⟨line, .mark ")"⟩ :: ls) = some (.positional e, ⟨line, .mark ")"⟩ :: ls))
    (hclose : isMark ")" t = false) :
    trailer inner (⟨line, .mark "("⟩ :: ⟨line, t⟩ :: ⟨line, .mark ")"⟩ :: ls) = some (fun f => .call f [e] [], ls) := by
  have hcomma : mark "," (⟨line, .mark ")"⟩ :: ls) = none := expect_eq_none rfl
  have harguments : arguments inner true (⟨line, .mark "("⟩ :: ⟨line, t⟩ :: ⟨line, .mark ")"⟩ :: ls) =
      some (([e], []), ls) := by
    refine (bind_eq (a := ()) rfl).trans ((bind_eq (takes_eq_false hclose)).trans ((bind_eq h).trans ?_))
    refine (bind_eq (a := false) rfl).trans ((bind_eq (many_eq_nil (bind_eq_none hcomma))).trans ?_)
    exact (bind_eq (takes_eq_false rfl)).trans (bind_eq (a := ()) rfl)
  exact (bind_eq (takes_eq_false rfl)).trans ((bind_eq (sees_eq rfl)).trans (bind_eq harguments))

end Syntax

end ScenarioAudit
