import ScenarioAudit.Proofs.Syntax.Evaluation
import ScenarioAudit.Quality.Structural

/-! # Which tautologies cannot fail

A test that is taken for a tautology is made of constants, and each `==` in it holds in every state. An `is` is taken
for an `==`, so such a test holds in a state exactly if each `is` in it joins constants that are the same object there
(`tautology_holds_iff`). Constants of different kinds never are, though they may be equal. Of the assertions by call
that are taken for tautologies, those that two constants are not equal always fail.
-/

namespace ScenarioAudit.Syntax

open ScenarioAudit.Text

/-! ## Tests -/

def identityPairs : Constant → List Comparison → List Expr → List (Constant × Constant)
  | c, l :: links, .constant d :: es => (if l = .same then [(c, d)] else []) ++ identityPairs d links es
  | _, _, _ => []

/-- The constants that are joined by `is` in an expression that is a chain of constants. -/
def Expr.identityPairs : Expr → List (Constant × Constant)
  | .comparison (.constant c) links others => Syntax.identityPairs c links others
  | _ => []

theorem exists_constant {e : Expr} {p : Constant → Bool} (h : e.constant?.any p = true) :
    ∃ c, e = .constant c ∧ p c = true := by
  cases e with
  | constant c => exact ⟨c, rfl, h⟩
  | _ => cases h

namespace ProgramState

variable {st : ProgramState}

def Identifies (st : ProgramState) (pairs : List (Constant × Constant)) : Prop :=
  ∀ p ∈ pairs, st.identical p.1 p.2 = true

theorem identifies_append {pairs pairs' : List (Constant × Constant)} :
    st.Identifies (pairs ++ pairs') ↔ st.Identifies pairs ∧ st.Identifies pairs' :=
  List.forall_mem_append

theorem identifies_nil : st.Identifies [] :=
  nofun

theorem countsAs_chain {links : List Comparison} {es : List Expr} {c : Constant} {result : Value st.Object}
    (hlinks : ∀ l ∈ links, l = .equal ∨ l = .same) (hes : ∀ e ∈ es, ∃ d, e = .constant d ∧ d.SameWorth c)
    (hresult : st.truth result = some true) :
    ∃ v b, st.evalChain result (.constant c) links es = some v ∧ st.truth v = some b ∧
      (b = true ↔ st.Identifies (identityPairs c links es)) := by
  induction es generalizing links c result with
  | nil =>
    have hpairs : identityPairs c links [] = [] := by cases links <;> rfl
    have hchain : st.evalChain result (.constant c) links [] = some result := by cases links <;> simp [evalChain]
    rw [hpairs]
    exact ⟨result, true, hchain, hresult, iff_of_true rfl identifies_nil⟩
  | cons e es ih =>
    cases links with
    | nil => exact ⟨result, true, by simp [evalChain], hresult, iff_of_true rfl identifies_nil⟩
    | cons l links =>
      rw [List.forall_mem_cons] at hlinks hes
      obtain ⟨⟨d, rfl, hd⟩, hes⟩ := hes
      -- The operands after this one are worth the same as it is.
      have hes' : ∀ e ∈ es, ∃ d', e = .constant d' ∧ d'.SameWorth d := by
        intro e he
        obtain ⟨d', rfl, hd'⟩ := hes e he
        exact ⟨d', rfl, hd'.trans hd.symm⟩
      rw [evalChain, identityPairs, identifies_append]
      rcases hlinks.1 with rfl | rfl
      · obtain ⟨v, b, hv, hb, hidentifies⟩ := ih hlinks.2 hes' st.truth_true
        refine ⟨v, b, ?_, hb, hidentifies.trans (and_iff_right identifies_nil).symm⟩
        simp [eval, link, hd.symm, truth, Constant.isTrue, hv]
      · cases hidentical : st.identical c d with
        | true =>
          obtain ⟨v, b, hv, hb, hidentifies⟩ := ih hlinks.2 hes' st.truth_true
          refine ⟨v, b, ?_, hb, hidentifies.trans (and_iff_right ?_).symm⟩
          · simp [eval, link, hidentical, truth, Constant.isTrue, hv]
          · simpa [Identifies] using hidentical
        | false =>
          refine ⟨.constant (.truth false), false, ?_, rfl, iff_of_false Bool.false_ne_true ?_⟩
          · simp [eval, link, hidentical, truth, Constant.isTrue]
          · rintro ⟨hpair, -⟩
            have hsame := hpair (c, d) (by simp)
            rw [hidentical] at hsame
            cases hsame

theorem countsAs_of_isFalseLiteral {e : Expr} (h : e.isFalseLiteral = true) : st.CountsAs e false := by
  obtain ⟨c, rfl, hfalse⟩ := exists_constant h
  have hcounts : st.CountsAs (.constant c) c.isTrue := countsAs_constant c
  rwa [show c.isTrue = false by simpa using hfalse] at hcounts

/-- **A test taken for a tautology raises no error, and it holds if its constants are identified.** -/
theorem countsAs_of_isTrueLiteral (st : ProgramState) {e : Expr} (h : e.isTrueLiteral = true) :
    ∃ b, st.CountsAs e b ∧ (b = true ↔ st.Identifies e.identityPairs) := by
  unfold Expr.isTrueLiteral at h
  split at h
  · next c => exact ⟨c.isTrue, countsAs_constant c, iff_of_true h identifies_nil⟩
  · next e => exact ⟨true, countsAs_negation (countsAs_of_isFalseLiteral h), iff_of_true rfl identifies_nil⟩
  · next c links others =>
    rw [Bool.and_eq_true, List.all_eq_true, List.all_eq_true] at h
    obtain ⟨hlinks, hothers⟩ := h
    have hes : ∀ e ∈ others, ∃ d, e = .constant d ∧ d.SameWorth c := by
      intro e he
      obtain ⟨d, rfl, hequal⟩ := exists_constant (hothers e he)
      exact ⟨d, rfl, Constant.sameWorth_of_equal hequal⟩
    obtain ⟨v, b, hv, hb, hidentifies⟩ :=
      countsAs_chain (fun l hl => of_decide_eq_true (hlinks l hl)) hes st.truth_true
    refine ⟨b, ⟨v, ?_, hb⟩, hidentifies⟩
    rw [eval]
    simp [eval, hv]
  · cases h

theorem countsAs_true_iff {e : Expr} (h : e.isTrueLiteral = true) :
    st.CountsAs e true ↔ st.Identifies e.identityPairs := by
  obtain ⟨b, hb, hidentifies⟩ := countsAs_of_isTrueLiteral st h
  constructor
  · intro htrue
    exact hidentifies.mp (hb.unique htrue)
  · intro hpairs
    rwa [hidentifies.mpr hpairs] at hb

end ProgramState

/-- A state in which constants are the same object only where they have to be. -/
def apartState : ProgramState where
  Object := Empty
  other _ := none
  isTrue _ := none
  compare _ _ _ := none
  identical a b := a.isSingle && decide (a = b)
  kind_eq := by
    intro a b h
    rw [Bool.and_eq_true, decide_eq_true_eq] at h
    rw [h.2]
  identical_single := by
    intro a b ha
    rw [ha, Bool.true_and, decide_eq_true_eq]

/-! ## Assertions by call -/

/-- The assertions of a test case that test a value, or two values for equality. -/
inductive UnitCall where
  | assertTrue (e : Expr)
  | assertFalse (e : Expr)
  | assertEqual (a b : Expr)
  | assertNotEqual (a b : Expr)

namespace UnitCall

def method : UnitCall → List Char
  | assertTrue _ => "assertTrue".toList
  | assertFalse _ => "assertFalse".toList
  | assertEqual _ _ => "assertEqual".toList
  | assertNotEqual _ _ => "assertNotEqual".toList

def arguments (call : UnitCall) (message : Option Expr) : List Expr :=
  match call with
  | assertTrue e | assertFalse e => e :: message.toList
  | assertEqual a b | assertNotEqual a b => a :: b :: message.toList

/-- The call is taken for one that cannot fail. -/
def IsTautology (call : UnitCall) (message : Option Expr) : Prop :=
  isTautologicalCall call.method (call.arguments message) = true

/-- The constants that are joined by `is` in what is tested for truth. -/
def identityPairs : UnitCall → List (Constant × Constant)
  | assertTrue e => e.identityPairs
  | _ => []

def IsNegated : UnitCall → Prop
  | assertNotEqual _ _ => True
  | _ => False

end UnitCall

namespace ProgramState

variable {st : ProgramState}

def Passes (st : ProgramState) : UnitCall → Prop
  | .assertTrue e => st.CountsAs e true
  | .assertFalse e => st.CountsAs e false
  | .assertEqual a b => st.CountsAs (.comparison a [.equal] [b]) true
  | .assertNotEqual a b => st.CountsAs (.comparison a [.equal] [b]) false

end ProgramState

/-! ## What is taken for a tautology -/

section Names

variable {name : List Char} {others : List Expr}

theorem isTautologicalCall_true (htrue : "true".toList.isSuffixOf (lower name) = true) {e : Expr} :
    isTautologicalCall name (e :: others) = e.isTrueLiteral := by
  simp only [isTautologicalCall, htrue, if_true]

theorem isTautologicalCall_false (htrue : "true".toList.isSuffixOf (lower name) = false)
    (hfalse : "false".toList.isSuffixOf (lower name) = true) {e : Expr} :
    isTautologicalCall name (e :: others) = e.isFalseLiteral := by
  simp only [isTautologicalCall, htrue, hfalse, Bool.false_eq_true, if_false, if_true]

/-- A name with `equal` in it and neither `true` nor `false` at its end has two equal constants compared. -/
theorem isTautologicalCall_equal (htrue : "true".toList.isSuffixOf (lower name) = false)
    (hfalse : "false".toList.isSuffixOf (lower name) = false) (hequal : isInside "equal".toList (lower name) = true)
    {a b : Expr} (h : isTautologicalCall name (a :: b :: others) = true) :
    ∃ c d, a = .constant c ∧ b = .constant d ∧ c.equal d = true := by
  simp only [isTautologicalCall, htrue, hfalse, hequal, Bool.false_eq_true, if_false] at h
  cases a with
  | constant c =>
    cases b with
    | constant d => exact ⟨c, d, rfl, rfl, h⟩
    | _ => cases h
  | _ => cases h

end Names

namespace ProgramState

variable {st : ProgramState} {call : UnitCall} {message : Option Expr}

/-- **An assertion taken for a tautology passes, unless its constants are not identified or it is a negated one.** -/
theorem passes_iff (h : call.IsTautology message) :
    st.Passes call ↔ ¬ call.IsNegated ∧ st.Identifies call.identityPairs := by
  have hequal {a b : Expr} {c d : Constant} (ha : a = .constant c) (hb : b = .constant d) (hcd : c.equal d = true) :
      st.CountsAs (.comparison a [.equal] [b]) true := by
    rw [ha, hb, ← decide_eq_true (Constant.sameWorth_of_equal hcd)]
    exact countsAs_equal c d
  cases call with
  | assertTrue e =>
    have hname : "true".toList.isSuffixOf (lower "assertTrue".toList) = true := by decide +kernel
    have htrue : e.isTrueLiteral = true := (isTautologicalCall_true hname).symm.trans h
    exact (countsAs_true_iff htrue).trans (and_iff_right id).symm
  | assertFalse e =>
    have hnames : "true".toList.isSuffixOf (lower "assertFalse".toList) = false ∧
        "false".toList.isSuffixOf (lower "assertFalse".toList) = true := by decide +kernel
    have hfalse : e.isFalseLiteral = true := (isTautologicalCall_false hnames.1 hnames.2).symm.trans h
    exact iff_of_true (countsAs_of_isFalseLiteral hfalse) ⟨id, identifies_nil⟩
  | assertEqual a b =>
    have hnames : "true".toList.isSuffixOf (lower "assertEqual".toList) = false ∧
        "false".toList.isSuffixOf (lower "assertEqual".toList) = false ∧
        isInside "equal".toList (lower "assertEqual".toList) = true := by decide +kernel
    obtain ⟨c, d, ha, hb, hcd⟩ := isTautologicalCall_equal hnames.1 hnames.2.1 hnames.2.2 h
    exact iff_of_true (hequal ha hb hcd) ⟨id, identifies_nil⟩
  | assertNotEqual a b =>
    have hnames : "true".toList.isSuffixOf (lower "assertNotEqual".toList) = false ∧
        "false".toList.isSuffixOf (lower "assertNotEqual".toList) = false ∧
        isInside "equal".toList (lower "assertNotEqual".toList) = true := by decide +kernel
    obtain ⟨c, d, ha, hb, hcd⟩ := isTautologicalCall_equal hnames.1 hnames.2.1 hnames.2.2 h
    refine iff_of_false ?_ fun hnegated => hnegated.1 trivial
    intro hfails
    have hunique := (hequal ha hb hcd).unique hfails
    cases hunique

end ProgramState

/-- **When a tautology cannot fail.** A test that is taken for one holds in a state if and only if each `is` in it joins
constants that are the same object there, so it holds in every state if and only if each `is` joins one of the single
objects with itself, and in none if some `is` joins constants of different kinds. An assertion by call that is taken for
one passes under the same condition on what it tests for truth, but it always fails if it asserts that two values are
not equal. -/
theorem tautology_holds_iff (e : Expr) (call : UnitCall) (message : Option Expr) :
    (e.isTrueLiteral = true →
      (∀ st : ProgramState, st.CountsAs e true ↔ st.Identifies e.identityPairs) ∧
      ((∀ st : ProgramState, st.CountsAs e true) ↔ ∀ p ∈ e.identityPairs, p.1.isSingle = true ∧ p.1 = p.2) ∧
      ((∃ p ∈ e.identityPairs, p.1.kind ≠ p.2.kind) → ∀ st : ProgramState, st.CountsAs e false)) ∧
    (call.IsTautology message → ∀ st : ProgramState,
      (st.Passes call ↔ ¬ call.IsNegated ∧ st.Identifies call.identityPairs)) := by
  constructor
  · intro he
    refine ⟨fun st => ProgramState.countsAs_true_iff he, ⟨fun hall p hp => ?_, fun hpairs st => ?_⟩, ?_⟩
    · -- In a state that identifies no more than it has to, a pair that is identified is a single object.
      have happart := (ProgramState.countsAs_true_iff he).mp (hall apartState) p hp
      simpa [apartState] using happart
    · refine (ProgramState.countsAs_true_iff he).mpr fun p hp => ?_
      obtain ⟨hsingle, hsame⟩ := hpairs p hp
      exact (st.identical_single hsingle).mpr hsame
    · rintro ⟨p, hp, hkind⟩ st
      obtain ⟨b, hb, hidentifies⟩ := ProgramState.countsAs_of_isTrueLiteral st he
      cases b with
      | false => exact hb
      | true => exact absurd (st.kind_eq (hidentifies.mp rfl p hp)) hkind
  · intro hcall st
    exact ProgramState.passes_iff hcall

def oneEqualsTrue : Expr :=
  .comparison (.constant (.whole 1)) [.equal] [.constant (.truth true)]

def assertOneEqualsTrue : UnitCall :=
  .assertEqual (.constant (.whole 1)) (.constant (.truth true))

theorem tautology_holds_equal :
    (∀ st : ProgramState, st.CountsAs oneEqualsTrue true) ∧ ∀ st : ProgramState, st.Passes assertOneEqualsTrue := by
  have hcall : assertOneEqualsTrue.IsTautology none :=
    show isTautologicalCall "assertEqual".toList [.constant (.whole 1), .constant (.truth true)] = true by
      decide +kernel
  obtain ⟨htest, hpasses⟩ := tautology_holds_iff oneEqualsTrue assertOneEqualsTrue none
  constructor
  · refine (htest (by decide +kernel)).2.1.mpr ?_
    simp [oneEqualsTrue, Expr.identityPairs, identityPairs]
  · intro st
    exact (hpasses hcall st).mpr ⟨id, ProgramState.identifies_nil⟩

def oneIsTrue : Expr :=
  .comparison (.constant (.whole 1)) [.same] [.constant (.truth true)]

def assertOneIsNotOne : UnitCall :=
  .assertNotEqual (.constant (.whole 1)) (.constant (.whole 1))

theorem tautologies_that_fail :
    (oneIsTrue.isTrueLiteral = true ∧ ∀ st : ProgramState, st.CountsAs oneIsTrue false) ∧
    assertOneIsNotOne.IsTautology none ∧ ∀ st : ProgramState, ¬ st.Passes assertOneIsNotOne := by
  have htest : oneIsTrue.isTrueLiteral = true := by decide +kernel
  have hcall : assertOneIsNotOne.IsTautology none :=
    show isTautologicalCall "assertNotEqual".toList [.constant (.whole 1), .constant (.whole 1)] = true by
      decide +kernel
  refine ⟨⟨htest, fun st => ?_⟩, hcall, fun st hpasses => ?_⟩
  · obtain ⟨b, hb, hidentifies⟩ := ProgramState.countsAs_of_isTrueLiteral st htest
    cases b with
    | false => exact hb
    | true =>
      have hkind := st.kind_eq (hidentifies.mp rfl (.whole 1, .truth true) (by simp [oneIsTrue, Expr.identityPairs,
        identityPairs]))
      cases hkind
  · exact ((ProgramState.passes_iff hcall).mp hpasses).1 trivial

end ScenarioAudit.Syntax
