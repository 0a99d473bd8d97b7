import ScenarioAudit.Proofs.Quality.Plain
import ScenarioAudit.Quality.Structural

/-! # What the tree of plain statements does

The facts of a body are those of its first statement and, unless that leaves the body, those of the others
(`bodyFacts_cons`). So the tree of plain statements does what the statements do (`bodyFacts_tree`).
-/

namespace ScenarioAudit

open ScenarioAudit.Text ScenarioAudit.Syntax

/-! ## Facts in a row -/

theorem BodyFacts.add_def (a b : BodyFacts) :
    a + b = ⟨a.statements + b.statements, a.assertions + b.assertions, a.tautologies + b.tautologies,
      a.raises || b.raises⟩ :=
  rfl

theorem BodyFacts.add_assoc (a b c : BodyFacts) : a + b + c = a + (b + c) := by
  simp only [BodyFacts.add_def, Int.add_assoc, Bool.or_assoc]

theorem BodyFacts.zero_add (a : BodyFacts) : {} + a = a := by
  simp only [BodyFacts.add_def, Int.zero_add, Bool.false_or]

theorem BodyFacts.add_zero (a : BodyFacts) : a + {} = a := by
  simp only [BodyFacts.add_def, Int.add_zero, Bool.or_false]

def checkFacts (keywords : List (List Char)) (cs : List Check) : BodyFacts :=
  (cs.map (Check.facts keywords)).foldr BodyFacts.add {}

theorem checkFacts_append (keywords : List (List Char)) (cs ds : List Check) :
    checkFacts keywords (cs ++ ds) = checkFacts keywords cs + checkFacts keywords ds := by
  induction cs with
  | nil => exact (BodyFacts.zero_add _).symm
  | cons c cs ih =>
    have hcons (cs : List Check) : checkFacts keywords (c :: cs) = c.facts keywords + checkFacts keywords cs := rfl
    rw [List.cons_append, hcons, hcons, ih, BodyFacts.add_assoc]

def stmtFacts (keywords : List (List Char)) (s : Stmt) : BodyFacts :=
  { checkFacts keywords s.checks with statements := if s.isPlaceholder then 0 else 1 }

theorem bodyFacts_cons (keywords : List (List Char)) (s : Stmt) (ss : List Stmt) :
    bodyFacts keywords (s :: ss) =
      if s.isTerminal then stmtFacts keywords s else stmtFacts keywords s + bodyFacts keywords ss := by
  have hbody (ss : List Stmt) : bodyFacts keywords ss =
      { checkFacts keywords (Stmt.allChecks (reachable ss)) with
        statements := (reachable ss).countP fun s => !s.isPlaceholder } := rfl
  have hchecks (ss : List Stmt) : Stmt.allChecks (s :: ss) = s.checks ++ Stmt.allChecks ss := rfl
  rw [hbody, reachable]
  split
  · rw [hchecks, checkFacts_append, List.countP_singleton, stmtFacts]
    simp only [Stmt.allChecks, checkFacts, List.map_nil, List.foldr_nil, BodyFacts.add_zero]
    cases s.isPlaceholder
    all_goals rfl
  · rw [hchecks, checkFacts_append, List.countP_cons, hbody, stmtFacts]
    simp only [BodyFacts.add_def]
    cases s.isPlaceholder
    all_goals simp [Int.add_comm]

/-! ## Plain statements -/

namespace PlainStatement

theorem isTerminal_tree (s : PlainStatement) : s.tree.isTerminal = s.isFinal := by
  cases s
  all_goals rfl

theorem isTrueLiteral_tree (l : TrueLiteral) : l.tree.isTrueLiteral = true := by
  cases l
  all_goals decide

theorem isTautologicalCall_name (f x : PlainName) : isTautologicalCall f.chars [.name x.chars] = false := by
  rw [isTautologicalCall]
  simp [Expr.isTrueLiteral, Expr.isFalseLiteral, Expr.constant?]

/-- **The tree of a plain statement does what the statement does.** -/
theorem stmtFacts_tree (keywords : List (List Char)) (s : PlainStatement) :
    stmtFacts keywords s.tree = s.facts keywords := by
  cases s with
  | assertLiteral l =>
    have hchecks : l.tree.checks = [] := by
      cases l
      all_goals rfl
    have hfacts : checkFacts keywords (assertLiteral l).tree.checks = { assertions := 1, tautologies := 1 } := by
      show checkFacts keywords (.assertion l.tree :: (l.tree.checks ++ [])) = _
      rw [hchecks, List.append_nil, checkFacts, List.map_singleton, Check.facts, isTrueLiteral_tree]
      rfl
    rw [stmtFacts, hfacts]
    rfl
  | call f x =>
    have hname : f.chars.isEmpty = false := by
      obtain ⟨c, rest, hf, -⟩ := f.start
      rw [hf]
      rfl
    have hcheck : Check.facts keywords (.call (.name f.chars) [.name x.chars]) =
        { assertions := if keywords.any (isInside · (lower f.chars)) then 1 else 0 } := by
      rw [Check.facts]
      simp only [Expr.calledName, hname, isTautologicalCall_name, Bool.not_false, Bool.true_and, Bool.false_eq_true,
        if_false]
      cases keywords.any (isInside · (lower f.chars))
      all_goals rfl
    have hfacts : checkFacts keywords (call f x).tree.checks =
        { assertions := if keywords.any (isInside · (lower f.chars)) then 1 else 0 } := by
      show checkFacts keywords [.call (.name f.chars) [.name x.chars]] = _
      rw [checkFacts, List.map_singleton, hcheck]
      exact BodyFacts.add_zero _
    rw [stmtFacts, hfacts]
    rfl
  | _ => rfl

/-- **The tree of a body of plain statements does what the statements do.** -/
theorem bodyFacts_tree (keywords : List (List Char)) (ss : List PlainStatement) :
    bodyFacts keywords (ss.map tree) = plainFacts keywords ss := by
  induction ss with
  | nil => rfl
  | cons s ss ih => rw [List.map_cons, bodyFacts_cons, isTerminal_tree, stmtFacts_tree, plainFacts, ih]

end PlainStatement

end ScenarioAudit
