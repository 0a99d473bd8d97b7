import ScenarioAudit.Syntax.Constant

/-!
# Syntax trees

The tree keeps what an analysis of step definitions looks at: constants, names, calls, comparisons, assertions,
raised errors, functions and classes. Every other form is `compound`: a kind and its parts in order, so that no
part of the source is lost from the tree, and nothing in it is nested less deeply than in the source.
-/

namespace ScenarioAudit.Syntax

open ScenarioAudit.Text

/-- How two neighbours in a comparison are compared. -/
inductive Comparison where
  | equal
  | notEqual
  | less
  | lessOrEqual
  | greater
  | greaterOrEqual
  | same
  | notSame
  | member
  | notMember
  deriving DecidableEq, Repr

/-- The expressions that are known by their parts only, and the parts of larger forms that stand for themselves. -/
inductive Form where
  /-- An arithmetic or logical operator. -/
  | operator (text : String)
  | conditional
  | lambda
  | assigned
  | slice
  | dictionary
  | set
  | comprehension
  /-- The target, the source and the conditions of a comprehension. -/
  | clause
  | awaited
  | yielded
  /-- An argument of a call that is not given by position. -/
  | keyword
  | parameters
  /-- A parameter without its default value. -/
  | parameter
  /-- An expression in a formatted literal, and its format description. -/
  | field
  /-- A resource, and the target that it is bound to. -/
  | resource
  | pattern
  /-- A name that is imported. -/
  | imported
  deriving DecidableEq, Repr

inductive Expr where
  | constant (value : Constant)
  | name (id : List Char)
  | attribute (value : Expr) (id : List Char)
  | subscript (value index : Expr)
  | call (function : Expr) (arguments : List Expr) (keywords : List Expr)
  | negation (operand : Expr)
  /-- A chain: the first operand, the comparisons, the operands after them. -/
  | comparison (first : Expr) (links : List Comparison) (others : List Expr)
  | starred (value : Expr)
  | tuple (items : List Expr)
  | list (items : List Expr)
  /-- A formatted literal: texts and fields. -/
  | formatted (parts : List Expr)
  | compound (form : Form) (parts : List Expr)
  deriving Repr

/-- The statements with blocks that are known by their parts only. -/
inductive BlockForm where
  | branch
  | loop
  | attempt
  /-- What an attempt does about some errors. -/
  | handler
  | context
  | selection
  /-- One case of a selection. -/
  | choice
  deriving DecidableEq, Repr

inductive Stmt where
  /-- A function, asynchronous or not. -/
  | function (line : Nat) (name : List Char) (decorators : List Expr) (parameters : Expr) (result : Option Expr)
      (body : List Stmt)
  | classDef (name : List Char) (decorators bases : List Expr) (body : List Stmt)
  | returned (value : Option Expr)
  | raised (parts : List Expr)
  | assertion (test : Expr) (message : Option Expr)
  | expression (value : Expr)
  | pass
  /-- Any other statement without blocks. -/
  | plain (parts : List Expr)
  /-- A statement with blocks: the expressions around them, and the blocks in order. -/
  | compound (form : BlockForm) (parts : List Expr) (blocks : List (List Stmt))
  deriving Repr

end ScenarioAudit.Syntax
