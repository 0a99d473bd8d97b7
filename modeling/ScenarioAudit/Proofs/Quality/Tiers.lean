import ScenarioAudit.Proofs.Quality.Structure
import ScenarioAudit.Proofs.Scan.Body
import ScenarioAudit.Proofs.Syntax.Plain
import ScenarioAudit.Proofs.Syntax.Visits
import ScenarioAudit.Quality.Defect
import ScenarioAudit.Settings.Basic

/-! # The tree and the lines of a plain step definition

The binding that is found in the tree of a plain step definition (`PlainStep.ofSource_source`) and the one that is found
line by line have the same facts, and so the same defect (`plainStep_tiers`).
-/

namespace ScenarioAudit

open ScenarioAudit.Text ScenarioAudit.Syntax

namespace PlainStep

variable (f : PlainStep)

theorem isStepDecorator_decorator : f.decorator.isStepDecorator = true := by
  have hall : ∀ w ∈ stepDecorators, stepDecorators.contains (String.ofList (lower w.toList)) = true := by decide +kernel
  exact hall f.word f.isStep

theorem frames_tree : Module.frames [f.tree] ≤ 15 := by
  have hbody (ss : List PlainStatement) : Stmt.mostFrames (ss.map PlainStatement.tree) ≤ 8 := by
    induction ss with
    | nil => exact Nat.zero_le 8
    | cons s ss ih =>
      have hone : s.tree.frames ≤ 8 := by
        cases s with
        | assertLiteral l =>
          cases l
          all_goals decide
        | _ => exact Nat.le_of_ble_eq_true rfl
      exact Nat.max_le.mpr ⟨hone, ih⟩
  have hall := hbody f.body
  rw [Module.frames, tree]
  simp only [Stmt.mostFrames, Stmt.frames, Expr.frames, Expr.mostFrames, decorator, List.append_nil,
    Option.toList_none]
  omega

theorem allFunctions_tree :
    Stmt.allFunctions [f.tree] = [⟨2, f.name.chars, [f.decorator], f.body.map PlainStatement.tree⟩] := by
  have hbody (ss : List PlainStatement) : Stmt.allFunctions (ss.map PlainStatement.tree) = [] := by
    induction ss with
    | nil => rfl
    | cons s ss ih =>
      have hone : s.tree.functions = [] := by
        cases s
        all_goals rfl
      rw [List.map_cons, Stmt.allFunctions, hone, ih]
      rfl
  rw [Stmt.allFunctions, tree, Stmt.functions, hbody]
  rfl

/-- **The tree has one binding, on the line of the function.** -/
theorem ofModule_tree (keywords : List String) (file : String) {room : ℕ} (hroom : 15 ≤ room) :
    StepBinding.ofModule file keywords [f.tree] room = .ok [f.binding keywords file 2] := by
  have hfind : [f.decorator].find? Expr.isStepDecorator = some f.decorator :=
    List.find?_cons_of_pos f.isStepDecorator_decorator
  have hstep : FunctionDef.step ⟨2, f.name.chars, [f.decorator], f.body.map PlainStatement.tree⟩ =
      .ok (some (StepKind.ofKeyword f.word.toList, codePoints f.text.chars)) := by
    rw [FunctionDef.step, hfind]
    rfl
  have hfunction : StepBinding.ofFunction file (keywords.map fun k => lower k.toList)
      ⟨2, f.name.chars, [f.decorator], f.body.map PlainStatement.tree⟩ = .ok (some (f.binding keywords file 2)) := by
    rw [StepBinding.ofFunction, hstep, binding, ← PlainStatement.bodyFacts_tree]
    rfl
  have hseen : (Stmt.allFunctions [f.tree]).mapM (StepBinding.ofFunction file (keywords.map fun k => lower k.toList)) =
      .ok [some (f.binding keywords file 2)] := by
    rw [allFunctions_tree, List.mapM_cons, hfunction]
    rfl
  have hvisit := (Module.visited _ room [f.tree]).eq_ok (Nat.le_trans f.frames_tree hroom) hseen
  simp only [StepBinding.ofModule, hvisit]
  show Except.ok ([f.binding keywords file 2].mergeSort fun a b => decide (a.line ≤ b.line)) = _
  rw [List.mergeSort_singleton]

theorem ofSource_source (keywords : List String) (file : String) (h : '\x00' ∉ f.source) {room : ℕ}
    (hroom : 15 ≤ room) : StepBinding.ofSource file keywords f.source room = .ok [f.binding keywords file 2] := by
  have hclean : ¬ f.source.contains '\x00' = true := by rwa [List.contains_iff_mem]
  rw [StepBinding.ofSource, if_neg hclean, ofSource?_source]
  exact f.ofModule_tree keywords file hroom

end PlainStep

/-- **Both tiers find the same facts in a plain step definition.** Whatever its statements are, and whatever words mark
a call as an assertion, the lines and the tree of its source give one binding each, with the facts of the tree in both of
them. They differ in their line alone: a decorator stands in front of the function. So a step of any kind has the same
defect in both tiers. To go through the tree takes little room, and no more for a longer body. A source with a null
character is refused before it is read as a tree. -/
theorem plainStep_tiers (keywords : List String) (file : String) (f : PlainStep) :
    ∃ heuristic structural : StepBinding,
      Scan.scan Scan.python keywords ({} : QualitySettings).lookahead file f.source = [heuristic] ∧
      Module.ofSource? f.source = some [f.tree] ∧
      (∀ room, 15 ≤ room → StepBinding.ofModule file keywords [f.tree] room = .ok [structural]) ∧
      (∀ room, 15 ≤ room → '\x00' ∉ f.source →
        StepBinding.ofSource file keywords f.source room = .ok [structural]) ∧
      heuristic.body = bodyFacts (keywords.map fun k => lower k.toList) (f.body.map PlainStatement.tree) ∧
      heuristic = { structural with line := 1 } ∧
      ∀ kind : StepKind, { heuristic with kind := kind }.defect = { structural with kind := kind }.defect := by
  -- The decorator and the head of the function take two lines.
  have hlookahead : 2 ≤ ({} : QualitySettings).lookahead := by decide
  have hscan := f.scan_source keywords hlookahead file
  have hbody := (PlainStatement.bodyFacts_tree (keywords.map fun k => lower k.toList) f.body).symm
  exact ⟨f.binding keywords file 1, f.binding keywords file 2, hscan, f.ofSource?_source,
    fun room hroom => f.ofModule_tree keywords file hroom,
    fun room hroom hclean => f.ofSource_source keywords file hclean hroom, hbody, rfl, fun kind => rfl⟩

/-- A step whose name and calls start with keywords, with a statement that is not reached. -/
def PlainStep.sample : PlainStep where
  word := "then"
  isStep := by decide
  text := ⟨"it holds".toList, by decide +kernel⟩
  name := ⟨"raised".toList, ⟨'r', _, rfl, by decide⟩, by decide +kernel, by decide +kernel⟩
  parameter := ⟨"ctx".toList, ⟨'c', _, rfl, by decide⟩, by decide +kernel, by decide +kernel⟩
  indent := "    ".toList
  indent_ne_nil := by decide
  indent_blank := by decide
  body := [.assertLiteral .one,
    .call ⟨"assert_that".toList, ⟨'a', _, rfl, by decide⟩, by decide +kernel, by decide +kernel⟩
      ⟨"ctx".toList, ⟨'c', _, rfl, by decide⟩, by decide +kernel, by decide +kernel⟩,
    .returnBare, .pass]
  body_ne_nil := by decide
  ended := true

theorem plainStep_tiers_sample :
    ∃ heuristic structural : StepBinding,
      Scan.scan Scan.python ["Assert"] 30 "steps.py" PlainStep.sample.source = [heuristic] ∧
      StepBinding.ofSource "steps.py" ["Assert"] PlainStep.sample.source = .ok [structural] ∧
      heuristic.body = { statements := 2, assertions := 2, tautologies := 1 } ∧
      heuristic = { structural with line := 1 } := by
  obtain ⟨heuristic, structural, hscan, -, -, hsource, hbody, heq, -⟩ :=
    plainStep_tiers ["Assert"] "steps.py" PlainStep.sample
  have hfacts : bodyFacts [lower "Assert".toList] (PlainStep.sample.body.map PlainStatement.tree) =
      { statements := 2, assertions := 2, tautologies := 1 } := by decide +kernel
  exact ⟨heuristic, structural, hscan, hsource usualRoom (by decide) (by decide +kernel), hbody.trans hfacts, heq⟩

end ScenarioAudit
