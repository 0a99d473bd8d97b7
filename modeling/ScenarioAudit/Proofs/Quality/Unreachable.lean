import ScenarioAudit.Proofs.Pattern.Find
import ScenarioAudit.Proofs.Quality.Structure
import ScenarioAudit.Proofs.Scan.Prefix
import ScenarioAudit.Scan.Languages

/-! # What stands after the end of a body

A statement that leaves a body makes all below it unreachable, and what is unreachable has no facts. In the lines of a
body this asks for more than stopping at such a line: what is planted below it must not change how the lines above are
read, whatever strings, comments or braces it leaves open (`facts_eq_of_isPrefix` with `braceLines_isPrefix`). In the tree
of a body the statements are apart already (`bodyFacts_append`).
-/

namespace ScenarioAudit

open ScenarioAudit.Text ScenarioAudit.Syntax Pattern

namespace Scan

/-- The rules of the languages whose bodies stand between braces. -/
def braceLanguages : List ScanRules :=
  (general :: languages).filter fun r => r.style ≠ .indented

theorem braceLanguages_eq : braceLanguages = [general, javascript, typescript, go, java, rust, csharp] :=
  rfl

theorem feed_not_mem_quotes : ∀ r ∈ braceLanguages, '\n' ∉ r.quotes := by
  decide

/-! ## Lines that end a body -/

def leavingWords : List String :=
  ["return", "throw", "panic", "panic!"]

theorem exists_leavingWord {r : ScanRules} (hr : r ∈ braceLanguages) {line : List Char}
    (h : r.terminator.startsAt line = true) : ∃ w ∈ leavingWords, w.toList <+: line := by
  obtain ⟨t, ht⟩ := startsAt_iff.mp h
  have hwords (ws : List String) (hws : ws ⊆ leavingWords)
      (hreach : (startsWithWord ws).Reaches (.between [] line) t) : ∃ w ∈ leavingWords, w.toList <+: line := by
    obtain ⟨m, ⟨m', hstart, hword⟩, -⟩ := hreach
    obtain ⟨-, rfl⟩ := reaches_textStart.mp hstart
    obtain ⟨w, hw, rest, hline, -⟩ := reaches_oneOf.mp hword
    exact ⟨w, hws hw, rest, hline.symm⟩
  rw [braceLanguages_eq] at hr
  simp only [List.mem_cons, List.not_mem_nil, or_false] at hr
  rcases hr with rfl | rfl | rfl | rfl | rfl | rfl | rfl
  case inr.inr.inr.inl => exact hwords ["return", "panic"] (by decide) ht
  case inr.inr.inr.inr.inr.inl =>
    -- A panic of Rust is a call with a mark of its own, and no edge of a word follows it.
    obtain ⟨m, hstart, hreturn | hpanic⟩ := ht
    · obtain ⟨-, rfl⟩ := reaches_textStart.mp hstart
      obtain ⟨m, hword, -⟩ := hreturn
      obtain ⟨rest, hline, -⟩ := reaches_word.mp hword
      exact ⟨"return", by decide, rest, hline.symm⟩
    · obtain ⟨-, rfl⟩ := reaches_textStart.mp hstart
      obtain ⟨rest, hline, -⟩ := reaches_word.mp hpanic
      exact ⟨"panic!", by decide, rest, hline.symm⟩
  all_goals exact hwords ["return", "throw"] (by decide) ht

theorem isTerminal_of_startsAt {r : ScanRules} (hr : r ∈ braceLanguages) {l : BodyLine} (hlevel : l.level = 0)
    (h : r.terminator.startsAt l.text = true) : r.isTerminal l = true := by
  obtain ⟨w, hw, rest, hline⟩ := exists_leavingWord hr h
  have hletter : ∀ w ∈ leavingWords, (w.toList.any fun c => !isSeparator c) = true := by decide
  obtain ⟨c, hc, hseparator⟩ := List.any_eq_true.mp (hletter w hw)
  have hbare : ScanRules.isBare l.text = false := by
    unfold ScanRules.isBare
    rw [← hline, List.all_eq_false]
    exact ⟨c, List.mem_append_left rest hc, by simpa using hseparator⟩
  unfold ScanRules.isTerminal
  simp [hlevel, hbare, h]

theorem facts_eq_of_isPrefix {r : ScanRules} (keywords : List String) {ls ls' : List BodyLine} (h : ls <+: ls')
    (hends : ∃ l ∈ ls, r.isTerminal l = true) : r.facts keywords ls' = r.facts keywords ls := by
  obtain ⟨rest, rfl⟩ := h
  induction ls with
  | nil =>
    obtain ⟨l, hl, -⟩ := hends
    cases hl
  | cons l ls ih =>
    rw [List.cons_append, ScanRules.facts, ScanRules.facts]
    by_cases hl : r.isTerminal l = true
    · rw [if_pos hl, if_pos hl]
    · rw [if_neg hl, if_neg hl, ih]
      obtain ⟨l', hl', hterminal⟩ := hends
      rcases List.mem_cons.mp hl' with rfl | hl'
      · exact absurd hterminal hl
      · exact ⟨l', hl', hterminal⟩

end Scan

/-! ## Statements that leave a body -/

theorem bodyFacts_append (keywords : List (List Char)) (pre : List Stmt) {s : Stmt} (h : s.isTerminal = true)
    (post : List Stmt) : bodyFacts keywords (pre ++ s :: post) = bodyFacts keywords (pre ++ [s]) := by
  induction pre with
  | nil => rw [List.nil_append, List.nil_append, bodyFacts_cons, bodyFacts_cons, if_pos h, if_pos h]
  | cons s' pre ih => rw [List.cons_append, List.cons_append, bodyFacts_cons, bodyFacts_cons, ih]

/-! ## Both tiers -/

open Scan

/-- **Code that is planted where it is not reached changes no facts.** In a language with braces, let a body have a line
at the top level that ends it, and let it end neither inside a string nor inside a block comment: then whatever stands
on the lines below it, however badly formed, the facts are those of the body. In a tree, the facts of a body are those
of the statements up to one that leaves it, whatever follows. -/
theorem facts_below_end :
    (∀ r ∈ braceLanguages, ∀ (keywords : List String) (body planted : List Char), EndsOutside r.quotes body →
      (∃ l ∈ braceLines r.quotes body, l.level = 0 ∧ r.terminator.startsAt l.text = true) →
      r.facts keywords (braceLines r.quotes (body ++ '\n' :: planted)) =
        r.facts keywords (braceLines r.quotes body)) ∧
    (∀ (keywords : List (List Char)) (pre : List Stmt) (s : Stmt) (planted : List Stmt),
      ((∃ value, s = .returned value) ∨ ∃ parts, s = .raised parts) →
      bodyFacts keywords (pre ++ [s] ++ planted) = bodyFacts keywords (pre ++ [s])) := by
  constructor
  · intro r hr keywords body planted houtside hends
    obtain ⟨l, hl, hlevel, hstarts⟩ := hends
    refine facts_eq_of_isPrefix keywords (braceLines_isPrefix (feed_not_mem_quotes r hr) houtside planted) ?_
    exact ⟨l, hl, isTerminal_of_startsAt hr hlevel hstarts⟩
  · intro keywords pre s planted hleaves
    have hterminal : s.isTerminal = true := by
      rcases hleaves with ⟨value, rfl⟩ | ⟨parts, rfl⟩
      · rfl
      · rfl
    rw [List.append_assoc, List.singleton_append]
    exact bodyFacts_append keywords pre hterminal planted

/-- The body of a step that returns at once, with the start of a block comment hidden in a line comment. -/
def emptyBody : List Char :=
  "\n  return; // later /* \x7b".toList

/-- An assertion behind whatever could have carried the body on. -/
def plantedAssertion : List Char :=
  "*/ \x7d ` */\nexpect(total).toBe(3);".toList

/-- The planted assertion makes no difference to the lines, nor does one after a return to the tree. -/
theorem facts_below_end_return :
    EndsOutside javascript.quotes emptyBody ∧
    (∃ l ∈ braceLines javascript.quotes emptyBody, l.level = 0 ∧ javascript.terminator.startsAt l.text = true) ∧
    javascript.facts [] (braceLines javascript.quotes (emptyBody ++ '\n' :: plantedAssertion)) = {} ∧
    javascript.facts [] (braceLines javascript.quotes plantedAssertion) = { statements := 2, assertions := 1 } ∧
    bodyFacts [] ([.pass] ++ [.returned none] ++ [.assertion (.name "ok".toList) none]) = {} := by
  have hmode : modeAfter javascript.quotes .code emptyBody = .lineComment := by decide +kernel
  have houtside : EndsOutside javascript.quotes emptyBody := by
    unfold EndsOutside
    rw [hmode]
    exact ⟨by decide, nofun⟩
  have hends : ∃ l ∈ braceLines javascript.quotes emptyBody,
      l.level = 0 ∧ javascript.terminator.startsAt l.text = true := by decide +kernel
  obtain ⟨hlines, htree⟩ := facts_below_end
  refine ⟨houtside, hends, ?_, by decide +kernel, ?_⟩
  · rw [hlines javascript (by rw [braceLanguages_eq]; simp) [] emptyBody plantedAssertion houtside hends]
    decide +kernel
  · rw [htree [] [.pass] (.returned none) _ (Or.inl ⟨none, rfl⟩)]
    rfl

end ScenarioAudit
