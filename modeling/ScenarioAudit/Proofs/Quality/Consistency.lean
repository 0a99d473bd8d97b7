import ScenarioAudit.Proofs.Quality.Decorated
import ScenarioAudit.Proofs.Quality.Structure
import ScenarioAudit.Proofs.Scan.Bindings
import ScenarioAudit.Proofs.Syntax.Nodes
import ScenarioAudit.Proofs.Text.LineEnds
import ScenarioAudit.Quality.Analysis

/-! # Facts that agree with each other

The facts of a body are counts. In a scanned body all of them count lines that are reached (`ScanRules.facts_eq`). In a
tree the statements are counted at the top level, and the assertions among the checks of all nodes below
(`bodyFacts_eq`); the two levels agree since a placeholder has no check in it. So in both tiers a body without
statements has no assertions, and a defect means what its name says (`bindings_consistent`).
-/

namespace ScenarioAudit

open ScenarioAudit.Text ScenarioAudit.Syntax

/-! ## Counts of assertions -/

/-- Facts that do not contradict each other. -/
structure BodyFacts.Consistent (f : BodyFacts) : Prop where
  tautologies_le : f.tautologies ≤ f.assertions
  assertions_eq_zero : f.statements = 0 → f.assertions = 0
  raises_eq_false : f.statements = 0 → f.raises = false

/-- The assertions of a body are those of some things that assert, and its tautologies are those of them that are taken
for one. -/
structure BodyFacts.Counts {α : Type} (f : BodyFacts) (things : List α) (asserts tautological : α → Bool) : Prop where
  assertions : f.assertions = things.countP asserts
  tautologies : f.tautologies = things.countP fun x => asserts x && tautological x

namespace BodyFacts.Counts

variable {α : Type} {f : BodyFacts} {things : List α} {asserts tautological : α → Bool}

theorem tautologies_le (h : f.Counts things asserts tautological) : f.tautologies ≤ f.assertions := by
  rw [h.assertions, h.tautologies, Int.ofNat_le]
  exact List.countP_mono_left fun x _ hx => (Bool.and_eq_true_iff.mp hx).1

theorem assertions_pos_iff (h : f.Counts things asserts tautological) :
    0 < f.assertions ↔ ∃ x ∈ things, asserts x = true := by
  rw [h.assertions, Int.natCast_pos, List.countP_pos_iff]

theorem assertions_le_iff (h : f.Counts things asserts tautological) :
    f.assertions ≤ f.tautologies ↔ ∀ x ∈ things, asserts x = true → tautological x = true := by
  have hfilter : (things.filter asserts).countP tautological = things.countP fun x => asserts x && tautological x := by
    rw [List.countP_filter]
    exact List.countP_congr fun x _ => by rw [Bool.and_comm]
  have hle : (things.filter asserts).countP tautological ≤ (things.filter asserts).length := List.countP_le_length
  rw [h.assertions, h.tautologies, Int.ofNat_le, ← hfilter, List.countP_eq_length_filter (p := asserts),
    hle.ge_iff_eq, List.countP_eq_length]
  simp only [List.mem_filter, and_imp]

end BodyFacts.Counts

/-! ## Defects -/

namespace StepBinding

variable {b : StepBinding}

theorem defect_eq_emptyBody_iff : b.defect = some .emptyBody ↔ b.body.statements = 0 := by
  unfold defect
  split_ifs with hempty htautology hmissing
  all_goals simp [hempty]

theorem defect_eq_tautology_iff (h : b.body.Consistent) :
    b.defect = some .tautology ↔ 0 < b.body.assertions ∧ b.body.assertions ≤ b.body.tautologies := by
  unfold defect
  split_ifs with hempty htautology hmissing
  · have hzero := h.assertions_eq_zero hempty
    simp [hzero]
  all_goals simp [htautology]

/-- **A tautology has an assertion, and each one that it has is taken for a tautology.** -/
theorem defect_eq_tautology_iff_of_counts {α : Type} {things : List α} {asserts tautological : α → Bool}
    (h : b.body.Consistent) (hcounts : b.body.Counts things asserts tautological) :
    b.defect = some .tautology ↔
      (∃ x ∈ things, asserts x = true) ∧ ∀ x ∈ things, asserts x = true → tautological x = true := by
  rw [defect_eq_tautology_iff h, hcounts.assertions_pos_iff, hcounts.assertions_le_iff]

end StepBinding

/-! ## Lines -/

namespace Scan

namespace ScanRules

variable (r : ScanRules) (keywords : List String)

/-- A line that is no placeholder and more than brackets. -/
def isStatement (line : List Char) : Bool :=
  !(isBare line || anyOccurs r.placeholders line)

def asserts (line : List Char) : Bool :=
  r.isStatement line && r.isAssertion keywords line

def reached : List BodyLine → List BodyLine
  | [] => []
  | l :: ls => if r.isTerminal l then [l] else l :: reached ls

theorem lineFacts_eq (line : List Char) : r.lineFacts keywords line =
    { statements := if r.isStatement line then 1 else 0
      assertions := if r.asserts keywords line then 1 else 0
      tautologies := if r.asserts keywords line && anyOccurs r.tautologies line then 1 else 0
      raises := r.isStatement line && anyOccurs r.raises line } := by
  unfold lineFacts asserts isStatement
  cases isBare line || anyOccurs r.placeholders line
  all_goals rfl

/-- **The facts of lines are counts of those that are reached.** -/
theorem facts_eq (ls : List BodyLine) : r.facts keywords ls =
    { statements := (r.reached ls).countP fun l => r.isStatement l.text
      assertions := (r.reached ls).countP fun l => r.asserts keywords l.text
      tautologies := (r.reached ls).countP fun l => r.asserts keywords l.text && anyOccurs r.tautologies l.text
      raises := (r.reached ls).any fun l => r.isStatement l.text && anyOccurs r.raises l.text } := by
  induction ls with
  | nil => rfl
  | cons l ls ih =>
    rw [facts, reached, lineFacts_eq]
    split
    · simp [List.countP_singleton]
    · rw [ih, BodyFacts.add_def]
      simp [List.countP_cons, Int.add_comm]

theorem counts_facts (ls : List BodyLine) : (r.facts keywords ls).Counts (r.reached ls)
    (fun l => r.asserts keywords l.text) fun l => anyOccurs r.tautologies l.text := by
  rw [facts_eq]
  exact ⟨rfl, rfl⟩

theorem assertions_le_statements (ls : List BodyLine) :
    (r.facts keywords ls).assertions ≤ (r.facts keywords ls).statements := by
  rw [facts_eq]
  dsimp only
  rw [Int.ofNat_le]
  exact List.countP_mono_left fun l _ hl => (Bool.and_eq_true_iff.mp hl).1

theorem statements_eq_zero_iff {ls : List BodyLine} :
    (r.facts keywords ls).statements = 0 ↔ ∀ l ∈ r.reached ls, r.isStatement l.text = false := by
  rw [facts_eq]
  simp

theorem consistent_facts (ls : List BodyLine) : (r.facts keywords ls).Consistent where
  tautologies_le := (r.counts_facts keywords ls).tautologies_le
  assertions_eq_zero hzero := by
    have hle := r.assertions_le_statements keywords ls
    have hcount := (r.counts_facts keywords ls).assertions
    omega
  raises_eq_false hzero := by
    have hnone := (r.statements_eq_zero_iff keywords).mp hzero
    rw [facts_eq, List.any_eq_false]
    intro l hl
    simp [hnone l hl]

end ScanRules

end Scan

/-! ## Trees -/

namespace Syntax

/-- A check that is counted as an assertion: an `assert`, or a call of a name that holds a keyword. -/
def Check.asserts (keywords : List (List Char)) : Check → Bool
  | .assertion _ => true
  | .call f _ => !f.calledName.isEmpty && keywords.any fun k => isInside k (lower f.calledName)
  | .raising => false

/-- A check that would be taken for a tautology if it were an assertion. -/
def Check.isTautology : Check → Bool
  | .assertion test => test.isTrueLiteral
  | .call f arguments => isTautologicalCall f.calledName arguments
  | .raising => false

def Check.isRaising : Check → Bool
  | .raising => true
  | _ => false

theorem Check.facts_eq (keywords : List (List Char)) (c : Check) : c.facts keywords =
    { assertions := if c.asserts keywords then 1 else 0
      tautologies := if c.asserts keywords && c.isTautology then 1 else 0
      raises := c.isRaising } := by
  cases c with
  | assertion | raising => rfl
  | call f arguments =>
    rw [facts, asserts]
    split
    next h => simp [h, isTautology, isRaising]
    next h => simp [h, isRaising]

theorem checkFacts_eq (keywords : List (List Char)) (cs : List Check) : checkFacts keywords cs =
    { assertions := cs.countP (Check.asserts keywords)
      tautologies := cs.countP fun c => c.asserts keywords && c.isTautology
      raises := cs.any Check.isRaising } := by
  induction cs with
  | nil => rfl
  | cons c cs ih =>
    rw [show checkFacts keywords (c :: cs) = c.facts keywords + checkFacts keywords cs from rfl, ih, Check.facts_eq,
      BodyFacts.add_def]
    simp [List.countP_cons, Int.add_comm]

/-- **The facts of a body are counts**, of its statements at the top level and of the checks in them. -/
theorem bodyFacts_eq (keywords : List (List Char)) (body : List Stmt) : bodyFacts keywords body =
    { statements := (reachable body).countP fun s => !s.isPlaceholder
      assertions := (Stmt.allChecks (reachable body)).countP (Check.asserts keywords)
      tautologies := (Stmt.allChecks (reachable body)).countP fun c => c.asserts keywords && c.isTautology
      raises := (Stmt.allChecks (reachable body)).any Check.isRaising } := by
  show ({ checkFacts keywords (Stmt.allChecks (reachable body)) with
    statements := (reachable body).countP fun s => !s.isPlaceholder } : BodyFacts) = _
  rw [checkFacts_eq]

theorem checks_of_isPlaceholder {s : Stmt} (h : s.isPlaceholder = true) : s.checks = [] := by
  cases s with
  | pass => rw [Stmt.checks]
  | expression e =>
    obtain ⟨c, hc⟩ := Option.isSome_iff_exists.mp h
    obtain rfl := constant?_eq_some.mp hc
    rw [Stmt.checks, Expr.checks]
  | returned value =>
    cases value with
    | none => rfl
    | some e =>
      obtain rfl := constant?_eq_some.mp (of_decide_eq_true h)
      rfl
  | _ => cases h

theorem counts_bodyFacts (keywords : List (List Char)) (body : List Stmt) :
    (bodyFacts keywords body).Counts (Stmt.allChecks (reachable body)) (Check.asserts keywords) Check.isTautology := by
  rw [bodyFacts_eq]
  exact ⟨rfl, rfl⟩

theorem statements_bodyFacts_eq_zero_iff {keywords : List (List Char)} {body : List Stmt} :
    (bodyFacts keywords body).statements = 0 ↔ ∀ s ∈ reachable body, s.isPlaceholder = true := by
  rw [bodyFacts_eq]
  simp

theorem allChecks_eq_nil {keywords : List (List Char)} {body : List Stmt}
    (h : (bodyFacts keywords body).statements = 0) : Stmt.allChecks (reachable body) = [] := by
  rw [Stmt.allChecks_eq, List.flatMap_eq_nil_iff]
  exact fun s hs => checks_of_isPlaceholder (statements_bodyFacts_eq_zero_iff.mp h s hs)

theorem consistent_bodyFacts (keywords : List (List Char)) (body : List Stmt) :
    (bodyFacts keywords body).Consistent where
  tautologies_le := (counts_bodyFacts keywords body).tautologies_le
  assertions_eq_zero hzero := by
    rw [(counts_bodyFacts keywords body).assertions, allChecks_eq_nil hzero]
    rfl
  raises_eq_false hzero := by
    rw [bodyFacts_eq, allChecks_eq_nil hzero]
    rfl

end Syntax

/-! ## Where bindings come from -/

namespace Scan

/-- The lines of the body of a registration in a text; `limit` is where the next one starts. -/
def bodyLines (r : ScanRules) (lookahead : Int) (text : List Char) (m : Pattern.Match) (limit : Nat) : List BodyLine :=
  (if r.style = .indented then
      indentBody lookahead.toNat ((splitLines text).drop (countNewlines (text.take m.start.position)))
    else braceBody r lookahead.toNat text m.stop.position limit).1

theorem exists_registration_of_mem {r : ScanRules} {keywords : List String} {lookahead : Int} {file : String}
    {text : List Char} {b : StepBinding} (h : b ∈ scan r keywords lookahead file text) :
    ∃ i m, (r.registration.findAll text)[i]? = some m ∧
      b.body = r.facts keywords (bodyLines r lookahead text m (limitAt r text i)) := by
  obtain ⟨i, hi⟩ := List.mem_iff_getElem?.mp h
  rw [getElem?_scan] at hi
  obtain ⟨m, hm, rfl⟩ := Option.map_eq_some_iff.mp hi
  exact ⟨i, m, hm, body_bindingOf r keywords lookahead file text (splitLines text) m (limitAt r text i)⟩

end Scan

theorem exists_mem_of_forall₂ {α β : Type} {R : α → β → Prop} {xs : List α} {ys : List β}
    (h : List.Forall₂ R xs ys) {y : β} (hy : y ∈ ys) : ∃ x ∈ xs, R x y := by
  induction h with
  | nil => cases hy
  | @cons x y' xs ys hxy _ ih =>
    rcases List.mem_cons.mp hy with rfl | hy
    · exact ⟨x, List.mem_cons_self, hxy⟩
    · obtain ⟨x', hx', hR⟩ := ih hy
      exact ⟨x', List.mem_cons_of_mem x hx', hR⟩

theorem StepBinding.exists_function_of_mem {file : String} {keywords : List String} {source : List Char}
    {room : ℕ} {bs : List StepBinding} (h : StepBinding.ofSource file keywords source room = .ok bs) {b : StepBinding}
    (hb : b ∈ bs) :
    ∃ module p fn, Module.ofSource? source = some module ∧ functionAt? module p = some fn ∧
      Describes file keywords fn b := by
  unfold StepBinding.ofSource at h
  split at h
  · cases h
  split at h
  next module hmodule =>
    rcases ofModule_cases file keywords module room with ⟨-, -, bs', placed, hok, hcovers⟩ | ⟨-, herror⟩ | ⟨-, herror⟩
    · obtain rfl : bs' = bs := Except.ok.inj (hok.symm.trans h)
      obtain ⟨⟨p, fn⟩, hx, hdescribes⟩ := exists_mem_of_forall₂ hcovers.describes hb
      exact ⟨module, p, fn, hmodule, ((hcovers.mem_iff p fn).mp hx).1, hdescribes⟩
    · rw [herror] at h
      cases h
    · rw [herror] at h
      cases h
  next => cases h

/-! ## What facts and defects say -/

/-- What the facts and the defect of a binding say about the lines of its body. -/
structure Scan.ScanRules.Justifies (r : ScanRules) (keywords : List String) (lines : List BodyLine) (b : StepBinding) :
    Prop where
  assertions_le : b.body.assertions ≤ b.body.statements
  no_statements_iff : b.body.statements = 0 ↔ ∀ l ∈ r.reached lines, r.isStatement l.text = false
  tautology_iff : b.defect = some .tautology ↔
    (∃ l ∈ r.reached lines, r.asserts keywords l.text = true) ∧
      ∀ l ∈ r.reached lines, r.asserts keywords l.text = true → anyOccurs r.tautologies l.text = true

theorem Scan.ScanRules.justifies_of_facts {r : ScanRules} {keywords : List String} {lines : List BodyLine}
    {b : StepBinding} (h : b.body = r.facts keywords lines) : r.Justifies keywords lines b where
  assertions_le := h ▸ r.assertions_le_statements keywords lines
  no_statements_iff := h ▸ r.statements_eq_zero_iff keywords
  tautology_iff := StepBinding.defect_eq_tautology_iff_of_counts (h ▸ r.consistent_facts keywords lines)
    (h ▸ r.counts_facts keywords lines)

/-- What the facts and the defect of a binding say about the statements of a body and the nodes in them. -/
structure Syntax.Justifies (keywords : List (List Char)) (body : List Stmt) (b : StepBinding) : Prop where
  no_statements_iff : b.body.statements = 0 ↔ ∀ s ∈ reachable body, s.isPlaceholder = true
  no_checks : b.body.statements = 0 → ∀ s ∈ reachable body, ∀ n : Node, n.Within (.stmt s) → n.check? = none
  tautology_iff : b.defect = some .tautology ↔
    (∃ s ∈ reachable body, ∃ n : Node, n.Within (.stmt s) ∧ ∃ c, n.check? = some c ∧ c.asserts keywords = true) ∧
      ∀ s ∈ reachable body, ∀ n : Node, n.Within (.stmt s) → ∀ c, n.check? = some c → c.asserts keywords = true →
        c.isTautology = true

theorem Syntax.justifies_of_facts {keywords : List (List Char)} {body : List Stmt} {b : StepBinding}
    (h : b.body = bodyFacts keywords body) : Justifies keywords body b where
  no_statements_iff := h ▸ statements_bodyFacts_eq_zero_iff
  no_checks hzero s hs n hn := by
    rw [h] at hzero
    have hnone : ∀ c, n.check? ≠ some c := by
      intro c hc
      have hmem : c ∈ Stmt.allChecks (reachable body) := mem_allChecks_iff.mpr ⟨s, hs, n, hn, hc⟩
      rw [allChecks_eq_nil hzero] at hmem
      cases hmem
    exact Option.eq_none_iff_forall_ne_some.mpr hnone
  tautology_iff := by
    rw [StepBinding.defect_eq_tautology_iff_of_counts (h ▸ consistent_bodyFacts keywords body)
      (h ▸ counts_bodyFacts keywords body)]
    simp only [mem_allChecks_iff]
    grind

/-- **The facts of a binding agree with each other, and an empty body hides no check.** Whatever is written in a file
and whatever words mark a call as an assertion, each binding that is found in the file has no more tautologies than
assertions, and if it has no statements, it has no assertions and reports no error. Found line by line, its facts are
those of the lines that are reached, and it has no more assertions than statements. Found in a tree, its facts are
those of the statements of a function that are reached; if there are none but placeholders, no node within them
asserts, calls or raises. In both cases the binding is a tautology if and only if something in it is counted as an
assertion and everything that is so is taken for a tautology. -/
theorem bindings_consistent (s : Strategy) (settings : QualitySettings) (f : SourceFile) {room : ℕ}
    {bs : List StepBinding} (h : s.bindings settings f room = .ok bs) :
    ∀ b ∈ bs, b.body.Consistent ∧ (b.defect = some .emptyBody ↔ b.body.statements = 0) ∧
      (s.tier = .heuristic →
        ∃ i m lines, (s.rules.registration.findAll (Tree.lossyText f.bytes))[i]? = some m ∧
          lines = Scan.bodyLines s.rules settings.lookahead (Tree.lossyText f.bytes) m
            (Scan.limitAt s.rules (Tree.lossyText f.bytes) i) ∧
          b.body = s.rules.facts settings.keywords lines ∧ s.rules.Justifies settings.keywords lines b) ∧
      (s.tier = .structural →
        ∃ text module p fn, Tree.strictText f.bytes = .ok text ∧ Module.ofSource? text = some module ∧
          functionAt? module p = some fn ∧ b.Describes f.path.toString settings.keywords fn ∧
          Syntax.Justifies (settings.keywords.map fun k => lower k.toList) fn.body b) := by
  intro b hb
  cases htier : s.tier with
  | heuristic =>
    simp only [Strategy.bindings, htier] at h
    obtain rfl := Except.ok.inj h
    obtain ⟨i, m, hm, hfacts⟩ := Scan.exists_registration_of_mem hb
    refine ⟨hfacts ▸ s.rules.consistent_facts _ _, b.defect_eq_emptyBody_iff, fun _ => ?_, by rintro ⟨⟩⟩
    exact ⟨i, m, _, hm, rfl, hfacts, Scan.ScanRules.justifies_of_facts hfacts⟩
  | structural =>
    simp only [Strategy.bindings, htier] at h
    cases htext : Tree.strictText f.bytes with
    | error e =>
      rw [htext] at h
      cases h
    | ok text =>
      rw [htext] at h
      obtain ⟨module, p, fn, hmodule, hplace, hdescribes⟩ := StepBinding.exists_function_of_mem h hb
      refine ⟨hdescribes.body ▸ consistent_bodyFacts _ _, b.defect_eq_emptyBody_iff, by rintro ⟨⟩, fun _ => ?_⟩
      exact ⟨text, module, p, fn, rfl, hmodule, hplace, hdescribes, Syntax.justifies_of_facts hdescribes.body⟩

theorem ofSource_of_sorted {file : String} {keywords : List String} {source : List Char} {bs : List StepBinding}
    (hnul : source.contains '\x00' = false)
    {room : ℕ} (hfound : ((Module.ofSource? source).bind fun module => (Module.visit
      (StepBinding.ofFunction file (keywords.map fun k => lower k.toList)) room module).toOption.map
        List.reduceOption) = some bs)
    (hsorted : bs.Pairwise fun a b => decide (a.line ≤ b.line) = true) :
    StepBinding.ofSource file keywords source room = .ok bs := by
  obtain ⟨module, hmodule, hfunctions⟩ := Option.bind_eq_some_iff.mp hfound
  obtain ⟨found, hok, rfl⟩ := exists_of_toOption_map hfunctions
  rw [StepBinding.ofSource, hnul, hmodule]
  simp only [Bool.false_eq_true, if_false, StepBinding.ofModule, hok]
  show Except.ok (found.reduceOption.mergeSort fun a b => decide (a.line ≤ b.line)) = _
  rw [List.mergeSort_of_pairwise hsorted]

/-- Two step functions: one returns before it calls anything, the other one asserts below a condition. -/
def quietSource : List Char :=
  "@step\ndef f():\n  ...\n  return\n  check()\n@then\ndef h(x):\n  if x:\n    assert 1\n".toList

def quietFile : SourceFile :=
  ⟨Path.ofString "s.py", encodeUtf8 quietSource⟩

/-- The bindings in the tree of the two functions. -/
def quietBindings : List StepBinding :=
  [{ kind := .any, function := ['f'], file := "s.py", line := 2 },
    { kind := .outcome, function := ['h'], file := "s.py", line := 7,
      body := { statements := 1, assertions := 1, tautologies := 1 } }]

theorem strictText_quietFile : Tree.strictText quietFile.bytes = .ok quietSource := by
  have hlines : universalNewlines quietSource = quietSource := by decide +kernel
  rw [quietFile, strictText_encodeUtf8, hlines]

theorem bindings_quietFile :
    (Strategy.forLanguage "python" false).bindings {} quietFile = .ok quietBindings := by
  have htier : (Strategy.forLanguage "python" false).tier = .structural := by decide +kernel
  have hpath : quietFile.path.toString = "s.py" := by decide +kernel
  simp only [Strategy.bindings, htier, strictText_quietFile, hpath, bind, Except.bind]
  exact ofSource_of_sorted (by decide +kernel) (by decide +kernel) (by decide +kernel)

/-- In the tree the first binding hides no check, and all that the second one asserts is taken for a tautology. Line by
line the second one has two statements, and one of them asserts. -/
theorem bindings_consistent_quietFile :
    (∃ b b' : StepBinding, (Strategy.forLanguage "python" false).bindings {} quietFile = .ok [b, b'] ∧
      b.body.Consistent ∧ b.defect = some .emptyBody ∧ b'.body.Consistent ∧ b'.defect = some .tautology ∧
      ∃ module p fn, Module.ofSource? quietSource = some module ∧ functionAt? module p = some fn ∧ fn.name = ['f'] ∧
        ∀ s ∈ reachable fn.body, ∀ n : Node, n.Within (.stmt s) → n.check? = none) ∧
    ∃ bs, (Strategy.forLanguage "python" true).bindings {} quietFile = .ok bs ∧
      bs.map (·.body) = [{}, { statements := 2, assertions := 1, tautologies := 1 }] ∧
      ∀ b ∈ bs, b.body.assertions ≤ b.body.statements := by
  constructor
  · have hall := bindings_consistent (Strategy.forLanguage "python" false) {} quietFile bindings_quietFile
    obtain ⟨hfirst, hempty, -, htree⟩ := hall _ List.mem_cons_self
    obtain ⟨hsecond, -⟩ := hall _ (List.mem_cons_of_mem _ List.mem_cons_self)
    obtain ⟨text, module, p, fn, htext, hmodule, hplace, hdescribes, hjustifies⟩ := htree (by decide +kernel)
    obtain rfl := Except.ok.inj (strictText_quietFile.symm.trans htext)
    exact ⟨_, _, bindings_quietFile, hfirst, hempty.mpr rfl, hsecond, rfl, module, p, fn, hmodule, hplace,
      hdescribes.function.symm, hjustifies.no_checks rfl⟩
  · have hbodies : ((Strategy.forLanguage "python" true).bindings {} quietFile).toOption.map (List.map (·.body)) =
        some [{}, { statements := 2, assertions := 1, tautologies := 1 }] := by decide +kernel
    obtain ⟨bs, hbs, hbodies⟩ := exists_of_toOption_map hbodies
    refine ⟨bs, hbs, hbodies, fun b hb => ?_⟩
    obtain ⟨-, -, hlines, -⟩ := bindings_consistent (Strategy.forLanguage "python" true) {} quietFile hbs b hb
    obtain ⟨i, m, lines, -, -, -, hjustifies⟩ := hlines (by decide +kernel)
    exact hjustifies.assertions_le

end ScenarioAudit
