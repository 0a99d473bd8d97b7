import ScenarioAudit.Proofs.Syntax.Places

/-! # The nodes of a tree

A tree is made of statements and expressions, its nodes. A node is within another one if it is that node, or is within
one of those that it is made of. The checks of a tree are those that its nodes make (`mem_checks_iff`): none is left
out, however deep it stands, and none is added.
-/

namespace ScenarioAudit.Syntax

/-- A statement or an expression. -/
inductive Node where
  | stmt (s : Stmt)
  | expr (e : Expr)

/-- The expressions that an expression is made of. -/
def Expr.operands : Expr → List Expr
  | .constant _ | .name _ => []
  | .attribute e _ | .negation e | .starred e => [e]
  | .subscript e i => [e, i]
  | .call f arguments keywords => f :: (arguments ++ keywords)
  | .comparison e _ es => e :: es
  | .tuple es | .list es | .formatted es | .compound _ es => es

/-- The expressions of a statement that stand outside its blocks. -/
def Stmt.expressions : Stmt → List Expr
  | .function _ _ decorators parameters result _ => decorators ++ parameters :: result.toList
  | .classDef _ decorators bases _ => decorators ++ bases
  | .returned e => e.toList
  | .raised es | .plain es | .compound _ es _ => es
  | .assertion test message => test :: message.toList
  | .expression e => [e]
  | .pass => []

namespace Node

def children : Node → List Node
  | stmt s => s.expressions.map expr ++ s.children.map stmt
  | expr e => e.operands.map expr

/-- A node is within another one at any depth. -/
inductive Within : Node → Node → Prop where
  | self (n : Node) : Within n n
  | child {m c n : Node} (h : Within m c) (hc : c ∈ n.children) : Within m n

/-- What a node itself checks: it asserts, it calls or it raises. -/
def check? : Node → Option Check
  | stmt (.assertion test _) => some (.assertion test)
  | stmt (.raised _) => some .raising
  | expr (.call f arguments _) => some (.call f arguments)
  | _ => none

def checks : Node → List Check
  | stmt s => s.checks
  | expr e => e.checks

end Node

/-! ## Parts are smaller -/

theorem Expr.sizeOf_lt_of_mem_operands {e x : Expr} (h : x ∈ e.operands) : sizeOf x < sizeOf e := by
  cases e with
  | constant | name => cases h
  | subscript value index =>
    rw [subscript.sizeOf_spec]
    rcases List.mem_cons.mp h with rfl | h
    · omega
    · obtain rfl := List.mem_singleton.mp h
      omega
  | call f arguments keywords =>
    rw [call.sizeOf_spec]
    rcases List.mem_cons.mp h with rfl | h
    · omega
    · rcases List.mem_append.mp h with h | h
      all_goals
        have hlt := List.sizeOf_lt_of_mem h
        omega
  | comparison first links others =>
    rw [comparison.sizeOf_spec]
    rcases List.mem_cons.mp h with rfl | h
    · omega
    · have hlt := List.sizeOf_lt_of_mem h
      omega
  | tuple es | list es | formatted es | compound _ es =>
    have hlt := List.sizeOf_lt_of_mem (show x ∈ es from h)
    simp only [tuple.sizeOf_spec, list.sizeOf_spec, formatted.sizeOf_spec, compound.sizeOf_spec]
    omega
  | _ =>
    -- The operand of an attribute, of a negation or of a star is its only one.
    obtain rfl := List.mem_singleton.mp h
    simp only [attribute.sizeOf_spec, negation.sizeOf_spec, starred.sizeOf_spec]
    omega

theorem Stmt.sizeOf_lt_of_mem_expressions {s : Stmt} {x : Expr} (h : x ∈ s.expressions) : sizeOf x < sizeOf s := by
  cases s with
  | pass => cases h
  | function line name decorators parameters result body =>
    rw [function.sizeOf_spec]
    rcases List.mem_append.mp h with h | h
    · have hlt := List.sizeOf_lt_of_mem h
      omega
    · rcases List.mem_cons.mp h with rfl | h
      · omega
      · obtain rfl := Option.mem_toList.mp h
        rw [Option.some.sizeOf_spec]
        omega
  | classDef =>
    rw [classDef.sizeOf_spec]
    rcases List.mem_append.mp h with h | h
    all_goals
      have hlt := List.sizeOf_lt_of_mem h
      omega
  | returned value =>
    obtain rfl := Option.mem_toList.mp h
    simp only [returned.sizeOf_spec, Option.some.sizeOf_spec]
    omega
  | assertion test message =>
    rw [assertion.sizeOf_spec]
    rcases List.mem_cons.mp h with rfl | h
    · omega
    · obtain rfl := Option.mem_toList.mp h
      rw [Option.some.sizeOf_spec]
      omega
  | expression value =>
    obtain rfl := List.mem_singleton.mp h
    rw [expression.sizeOf_spec]
    omega
  | raised es | plain es | compound _ es =>
    have hlt := List.sizeOf_lt_of_mem (show x ∈ es from h)
    simp only [raised.sizeOf_spec, plain.sizeOf_spec, compound.sizeOf_spec]
    omega

theorem Node.sizeOf_lt_of_mem_children {m n : Node} (h : m ∈ n.children) : sizeOf m < sizeOf n := by
  cases n with
  | stmt s =>
    rw [stmt.sizeOf_spec]
    rcases List.mem_append.mp h with h | h
    · obtain ⟨x, hx, rfl⟩ := List.mem_map.mp h
      have hlt := Stmt.sizeOf_lt_of_mem_expressions hx
      rw [expr.sizeOf_spec]
      omega
    · obtain ⟨t, ht, rfl⟩ := List.mem_map.mp h
      have hlt := Stmt.sizeOf_lt_of_mem_children ht
      rw [stmt.sizeOf_spec]
      omega
  | expr e =>
    obtain ⟨x, hx, rfl⟩ := List.mem_map.mp h
    have hlt := Expr.sizeOf_lt_of_mem_operands hx
    rw [expr.sizeOf_spec, expr.sizeOf_spec]
    omega

/-- What holds of a node if it holds of those that it is made of, holds of every node. -/
theorem Node.children_induction {P : Node → Prop} (step : ∀ n, (∀ m ∈ n.children, P m) → P n) (n : Node) : P n :=
  step n fun m _ => children_induction step m
termination_by sizeOf n
decreasing_by exact sizeOf_lt_of_mem_children ‹_›

/-! ## Checks of nodes -/

theorem Expr.allChecks_eq (es : List Expr) : allChecks es = es.flatMap checks := by
  induction es with
  | nil => rw [allChecks, List.flatMap_nil]
  | cons e es ih => rw [allChecks, ih, List.flatMap_cons]

theorem Stmt.allChecks_eq (ss : List Stmt) : allChecks ss = ss.flatMap checks := by
  induction ss with
  | nil => rw [allChecks, List.flatMap_nil]
  | cons s ss ih => rw [allChecks, ih, List.flatMap_cons]

theorem Stmt.blockChecks_eq (bs : List (List Stmt)) : blockChecks bs = bs.flatten.flatMap checks := by
  induction bs with
  | nil => rw [blockChecks, List.flatten_nil, List.flatMap_nil]
  | cons b bs ih => rw [blockChecks, ih, allChecks_eq, List.flatten_cons, List.flatMap_append]

theorem Expr.checks_eq (e : Expr) : e.checks = (Node.expr e).check?.toList ++ e.operands.flatMap checks := by
  cases e
  all_goals simp [checks, allChecks_eq, operands, Node.check?]

theorem Stmt.checks_eq (s : Stmt) : s.checks =
    (Node.stmt s).check?.toList ++ (s.expressions.flatMap Expr.checks ++ s.children.flatMap checks) := by
  cases s
  all_goals simp [checks, allChecks_eq, blockChecks_eq, Expr.allChecks_eq, expressions, children, Node.check?]

namespace Node

theorem checks_eq (n : Node) : n.checks = n.check?.toList ++ n.children.flatMap checks := by
  cases n with
  | stmt s =>
    rw [children, List.flatMap_append, List.flatMap_map, List.flatMap_map]
    exact s.checks_eq
  | expr e =>
    rw [children, List.flatMap_map]
    exact e.checks_eq

/-- **The checks of a tree are those of its nodes.** -/
theorem mem_checks_iff {n : Node} {c : Check} : c ∈ n.checks ↔ ∃ m : Node, m.Within n ∧ m.check? = some c := by
  induction n using children_induction with
  | step n ih =>
    rw [checks_eq, List.mem_append, Option.mem_toList, List.mem_flatMap]
    constructor
    · rintro (hown | ⟨d, hd, hc⟩)
      · exact ⟨n, .self n, hown⟩
      · obtain ⟨m, hm, hcheck⟩ := (ih d hd).mp hc
        exact ⟨m, .child hm hd, hcheck⟩
    · rintro ⟨m, hm, hcheck⟩
      cases hm with
      | self => exact Or.inl hcheck
      | child hm hd => exact Or.inr ⟨_, hd, (ih _ hd).mpr ⟨m, hm, hcheck⟩⟩

end Node

theorem mem_allChecks_iff {ss : List Stmt} {c : Check} :
    c ∈ Stmt.allChecks ss ↔ ∃ s ∈ ss, ∃ m : Node, m.Within (.stmt s) ∧ m.check? = some c := by
  rw [Stmt.allChecks_eq, List.mem_flatMap]
  exact exists_congr fun s => and_congr_right fun _ => Node.mem_checks_iff (n := .stmt s)

end ScenarioAudit.Syntax
