import ScenarioAudit.Proofs.Number.Value
import ScenarioAudit.Syntax.Tree

/-! # What expressions evaluate to

Constants stand for values, whatever kind they are of: `1`, `1.0` and `True` for the same number, `0.0` and `0j` for
zero. Equality of constants is that of their values (`sameWorth_of_equal`). In a state of a program an expression
evaluates to a constant or to some other object, if it raises no error (`ProgramState.eval`). A chain of comparisons is
the conjunction of its links, evaluated from the left up to the first one that does not hold.
-/

namespace ScenarioAudit

open ScenarioAudit.Number ScenarioAudit.Number.Binary64 ScenarioAudit.Text

/-! ## Values of constants -/

/-- What a constant is worth; a number is complex. -/
inductive Worth where
  | nothing
  | ellipsis
  | number (re im : Extended)
  | text (value : CodePoints)
  | bytes (value : List Nat)
  deriving DecidableEq

namespace Syntax.Constant

/-- What a constant is worth. What is no number is not worth anything, not even the same as itself. -/
def worth? : Constant → Option Worth
  | nothing => some .nothing
  | ellipsis => some .ellipsis
  | truth b => some (.number (.finite (if b then 1 else 0)) (.finite 0))
  | whole n => some (.number (.finite n) (.finite 0))
  | real x => x.extended?.map (.number · (.finite 0))
  | imaginary x => x.extended?.map (.number (.finite 0) ·)
  | text s => some (.text s)
  | bytes s => some (.bytes s)

def SameWorth (a b : Constant) : Prop :=
  ∃ w, a.worth? = some w ∧ b.worth? = some w

theorem SameWorth.symm {a b : Constant} (h : a.SameWorth b) : b.SameWorth a := by
  obtain ⟨w, ha, hb⟩ := h
  exact ⟨w, hb, ha⟩

theorem SameWorth.trans {a b c : Constant} (h : a.SameWorth b) (h' : b.SameWorth c) : a.SameWorth c := by
  obtain ⟨w, ha, hb⟩ := h
  obtain ⟨w', hb', hc⟩ := h'
  rw [hb] at hb'
  cases hb'
  exact ⟨w, ha, hc⟩

instance (a b : Constant) : Decidable (a.SameWorth b) :=
  decidable_of_iff (a.worth?.isSome = true ∧ a.worth? = b.worth?) (by
    constructor
    · rintro ⟨hsome, heq⟩
      obtain ⟨w, hw⟩ := Option.isSome_iff_exists.mp hsome
      exact ⟨w, hw, heq ▸ hw⟩
    · rintro ⟨w, ha, hb⟩
      rw [ha, hb]
      exact ⟨rfl, rfl⟩)

end Syntax.Constant

/-! ## Equality is equality of values -/

namespace Syntax.Constant

theorem worth?_of_whole? {c : Constant} {n : Nat} (h : c.whole? = some n) :
    c.worth? = some (.number (.finite n) (.finite 0)) := by
  cases c with
  | truth b =>
    cases h
    cases b with
    | false => simp [worth?]
    | true => simp [worth?]
  | whole m =>
    cases h
    rfl
  | nothing => cases h
  | ellipsis => cases h
  | real x => cases h
  | imaginary x => cases h
  | text s => cases h
  | bytes s => cases h

theorem worth?_real {x : Binary64} {v : Extended} (h : x.extended? = some v) :
    (real x).worth? = some (.number v (.finite 0)) := by
  rw [worth?, h]
  rfl

theorem worth?_imaginary {x : Binary64} {v : Extended} (h : x.extended? = some v) :
    (imaginary x).worth? = some (.number (.finite 0) v) := by
  rw [worth?, h]
  rfl

/-- A whole number is worth the same as a number that has its value, and as an imaginary one if both are zero. -/
theorem sameWorth_of_whole? {a : Constant} {n : Nat} (ha : a.whole? = some n) {x : Binary64} :
    (x.equalInt n = true → a.SameWorth (real x)) ∧
      ((n == 0 && x.isZero) = true → a.SameWorth (imaginary x)) := by
  constructor
  · intro h
    exact ⟨_, worth?_of_whole? ha, worth?_real (extended?_of_equalInt h)⟩
  · intro h
    rw [Bool.and_eq_true, beq_iff_eq] at h
    obtain ⟨rfl, hx⟩ := h
    exact ⟨_, worth?_of_whole? ha, worth?_imaginary (extended?_of_isZero hx)⟩

/-- **Constants that are equal are worth the same.** -/
theorem sameWorth_of_equal {a b : Constant} (h : a.equal b = true) : a.SameWorth b := by
  have hzeros {x y : Binary64} (h : (x.isZero && y.isZero) = true) : (real x).SameWorth (imaginary y) := by
    rw [Bool.and_eq_true] at h
    exact ⟨_, worth?_real (extended?_of_isZero h.1), worth?_imaginary (extended?_of_isZero h.2)⟩
  unfold equal at h
  split at h
  · next m n hm hn =>
    obtain rfl : m = n := by simpa using h
    exact ⟨_, worth?_of_whole? hm, worth?_of_whole? hn⟩
  · next m hm hn =>
    split at h
    · exact (sameWorth_of_whole? hm).1 h
    · exact (sameWorth_of_whole? hm).2 h
    · cases h
  · next n hm hn =>
    split at h
    · exact ((sameWorth_of_whole? hn).1 h).symm
    · exact ((sameWorth_of_whole? hn).2 h).symm
    · cases h
  · split at h
    · exact ⟨_, rfl, rfl⟩
    · exact ⟨_, rfl, rfl⟩
    · obtain ⟨v, hx, hy⟩ := extended?_of_equal h
      exact ⟨_, worth?_real hx, worth?_real hy⟩
    · obtain ⟨v, hx, hy⟩ := extended?_of_equal h
      exact ⟨_, worth?_imaginary hx, worth?_imaginary hy⟩
    · exact hzeros h
    · rw [Bool.and_comm] at h
      exact (hzeros h).symm
    · next s t _ _ =>
      obtain rfl : s = t := by simpa using h
      exact ⟨_, rfl, rfl⟩
    · next s t _ _ =>
      obtain rfl : s = t := by simpa using h
      exact ⟨_, rfl, rfl⟩
    · cases h

/-! ## Kinds of constants -/

inductive Kind where
  | nothing
  | ellipsis
  | truth
  | whole
  | real
  | imaginary
  | text
  | bytes
  deriving DecidableEq

def kind : Constant → Kind
  | nothing => .nothing
  | ellipsis => .ellipsis
  | truth _ => .truth
  | whole _ => .whole
  | real _ => .real
  | imaginary _ => .imaginary
  | text _ => .text
  | bytes _ => .bytes

def isSingle : Constant → Bool
  | nothing | ellipsis | truth _ => true
  | _ => false

end Syntax.Constant

/-! ## Evaluation -/

namespace Syntax

/-- What an expression evaluates to: a constant, or an object that no constant stands for. -/
inductive Value (Object : Type) where
  | constant (c : Constant)
  | object (o : Object)

/-- A state of a program, as far as the evaluation of expressions depends on it. Whether two constants are the same
object may depend on the state, but they are not if they are of different kinds, and there is one object only for
`None`, for `...`, and for each truth value. -/
structure ProgramState where
  Object : Type
  /-- What the other expressions evaluate to; `none` if an error is raised. -/
  other : Expr → Option (Value Object)
  /-- Whether an object counts as true. -/
  isTrue : Object → Option Bool
  /-- What the other comparisons give. -/
  compare : Comparison → Value Object → Value Object → Option (Value Object)
  identical : Constant → Constant → Bool
  kind_eq : ∀ {a b}, identical a b = true → a.kind = b.kind
  identical_single : ∀ {a b}, a.isSingle = true → (identical a b = true ↔ a = b)

namespace ProgramState

variable (st : ProgramState)

def truth : Value st.Object → Option Bool
  | .constant c => some c.isTrue
  | .object o => st.isTrue o

theorem truth_true : st.truth (.constant (.truth true)) = some true :=
  rfl

/-- The result of one comparison: `==` compares the values of constants, and `is` their objects. -/
def link : Comparison → Value st.Object → Value st.Object → Option (Value st.Object)
  | .equal, .constant a, .constant b => some (.constant (.truth (decide (a.SameWorth b))))
  | .same, .constant a, .constant b => some (.constant (.truth (st.identical a b)))
  | l, a, b => st.compare l a b

mutual

/-- What an expression evaluates to; `none` if an error is raised. -/
def eval : Expr → Option (Value st.Object)
  | .constant c => some (.constant c)
  | .negation e => do
    let b ← st.truth (← eval e)
    return .constant (.truth !b)
  | .comparison first links others => do evalChain (.constant (.truth true)) (← eval first) links others
  | e => st.other e

/-- What a chain evaluates to, with the result so far and the operand on the left: the result of the first link that
does not hold, or else of the last one. -/
def evalChain (result left : Value st.Object) : List Comparison → List Expr → Option (Value st.Object)
  | l :: links, e :: es => do
    let right ← eval e
    let result ← st.link l left right
    if ← st.truth result then evalChain result right links es else return result
  | _, _ => some result

end

/-- An expression evaluates to a value, and that value counts as true or as false. -/
def CountsAs (e : Expr) (b : Bool) : Prop :=
  ∃ v, st.eval e = some v ∧ st.truth v = some b

variable {st}

theorem CountsAs.unique {e : Expr} {b b' : Bool} (h : st.CountsAs e b) (h' : st.CountsAs e b') : b = b' := by
  obtain ⟨v, hv, hb⟩ := h
  obtain ⟨v', hv', hb'⟩ := h'
  rw [hv] at hv'
  cases hv'
  rw [hb] at hb'
  exact Option.some.inj hb'

theorem countsAs_constant (c : Constant) : st.CountsAs (.constant c) c.isTrue :=
  ⟨.constant c, by rw [eval], rfl⟩

theorem countsAs_negation {e : Expr} {b : Bool} (h : st.CountsAs e b) : st.CountsAs (.negation e) !b := by
  obtain ⟨v, hv, hb⟩ := h
  refine ⟨.constant (.truth !b), ?_, rfl⟩
  rw [eval, hv]
  simp [hb]

theorem countsAs_equal (a b : Constant) :
    st.CountsAs (.comparison (.constant a) [.equal] [.constant b]) (decide (a.SameWorth b)) := by
  refine ⟨.constant (.truth (decide (a.SameWorth b))), ?_, rfl⟩
  simp [eval, evalChain, link, truth]

end ProgramState

end Syntax

end ScenarioAudit
