import ScenarioAudit.Proofs.Result
import ScenarioAudit.Proofs.Syntax.Places
import ScenarioAudit.Syntax.Visit

/-! # What a visit sees

A visit looks at the functions of a tree one after the other, unless it meets one that it cannot look at, or the tree is
deeper than there is room for (`Module.visited`).
-/

namespace ScenarioAudit.Syntax

variable {β : Type} {look : FunctionDef → Except Trouble β}

/-- What can come of looking at functions one after the other, on a way that there is room for or not. -/
inductive Visited (look : FunctionDef → Except Trouble β) (fits : Prop) (fs : List FunctionDef) :
    Except Trouble (List β) → Prop where
  | through {bs : List β} (hfits : fits) (hseen : fs.mapM look = .ok bs) : Visited look fits fs (.ok bs)
  | tooDeep (hfits : ¬ fits) : Visited look fits fs (.error .tooDeep)
  | refused {f : FunctionDef} {e : Trouble} (hf : f ∈ fs) (hlook : look f = .error e) : Visited look fits fs (.error e)

namespace Visited

variable {fits fits' : Prop} {fs gs : List FunctionDef} {x y : Except Trouble (List β)}

theorem congr (h : Visited look fits fs x) (hfits : fits ↔ fits') : Visited look fits' fs x := by
  rwa [← propext hfits]

theorem nil (look : FunctionDef → Except Trouble β) : Visited look True [] (.ok []) :=
  .through trivial rfl

theorem append (hx : Visited look fits fs x) (hy : Visited look fits' gs y) :
    Visited look (fits ∧ fits') (fs ++ gs) (do return (← x) ++ (← y)) := by
  cases hx with
  | through hfits hseen =>
    cases hy with
    | through hfits' hseen' =>
      refine .through ⟨hfits, hfits'⟩ ?_
      rw [List.mapM_append, hseen, hseen']
      rfl
    | tooDeep hfits' => exact .tooDeep fun h => hfits' h.2
    | refused hf hlook => exact .refused (List.mem_append_right fs hf) hlook
  | tooDeep hfits => exact .tooDeep fun h => hfits h.1
  | refused hf hlook => exact .refused (List.mem_append_left gs hf) hlook

theorem cons (f : FunctionDef) (hx : Visited look fits fs x) :
    Visited look fits (f :: fs) (do return (← look f) :: (← x)) := by
  cases hf : look f with
  | error e => exact .refused List.mem_cons_self hf
  | ok b =>
    cases hx with
    | through hfits hseen =>
      refine .through hfits ?_
      rw [List.mapM_cons, hf, hseen]
      rfl
    | tooDeep hfits => exact .tooDeep hfits
    | refused hg hlook => exact .refused (List.mem_cons_of_mem f hg) hlook

theorem around (before after room : ℕ) (hx : Visited look fits fs x) :
    Visited look (before ≤ room ∧ fits ∧ after ≤ room) fs (around before after room x) := by
  unfold Syntax.around enter
  by_cases hbefore : before ≤ room
  · rw [if_pos hbefore]
    cases hx with
    | through hfits hseen =>
      by_cases hafter : after ≤ room
      · rw [if_pos hafter]
        exact .through ⟨hbefore, hfits, hafter⟩ hseen
      · rw [if_neg hafter]
        exact .tooDeep fun h => hafter h.2.2
    | tooDeep hfits => exact .tooDeep fun h => hfits h.2.1
    | refused hf hlook => exact .refused hf hlook
  · rw [if_neg hbefore]
    exact .tooDeep fun h => hbefore h.1

theorem eq_ok (h : Visited look fits fs x) (hfits : fits) {bs : List β} (hseen : fs.mapM look = .ok bs) :
    x = .ok bs := by
  cases h with
  | through _ hseen' => exact hseen'.symm.trans hseen
  | tooDeep hdeep => exact absurd hfits hdeep
  | refused hf hlook =>
    obtain ⟨b, hb⟩ := exists_of_mapM hseen _ hf
    rw [hb] at hlook
    cases hlook

end Visited

/-! ## Visits of statements -/

theorem Stmt.visitAll_visited {ss : List Stmt}
    (h : ∀ s ∈ ss, ∀ room, Visited look (s.frames ≤ room) s.functions (s.visit look room)) (room : ℕ) :
    Visited look (mostFrames ss ≤ room) (allFunctions ss) (visitAll look room ss) := by
  induction ss with
  | nil =>
    rw [visitAll, allFunctions, mostFrames]
    exact (Visited.nil look).congr (by simp)
  | cons s ss ih =>
    obtain ⟨hs, hss⟩ := List.forall_mem_cons.mp h
    rw [visitAll, allFunctions, mostFrames]
    exact ((hs room).append (ih hss)).congr Nat.max_le.symm

theorem Stmt.visitBlocks_visited {bs : List (List Stmt)}
    (h : ∀ s ∈ bs.flatten, ∀ room, Visited look (s.frames ≤ room) s.functions (s.visit look room)) (room : ℕ) :
    Visited look (blockFrames bs ≤ room) (blockFunctions bs) (visitBlocks look room bs) := by
  induction bs with
  | nil =>
    rw [visitBlocks, blockFunctions, blockFrames]
    exact (Visited.nil look).congr (by simp)
  | cons b bs ih =>
    rw [List.flatten_cons, List.forall_mem_append] at h
    rw [visitBlocks, blockFunctions, blockFrames]
    exact ((visitAll_visited h.1 room).append (ih h.2)).congr Nat.max_le.symm

theorem Stmt.visited_plain (s : Stmt) (room : ℕ) :
    Visited look (s.frames ≤ room) [] (Syntax.around s.frames 0 room (.ok [])) :=
  ((Visited.nil look).around s.frames 0 room).congr (by simp)

/-- **A statement is gone through if there is room for it.** -/
theorem Stmt.visited (s : Stmt) : ∀ room, Visited look (s.frames ≤ room) s.functions (s.visit look room) := by
  induction s using Stmt.children_induction with
  | step s ih =>
    intro room
    cases s with
    | function line name decorators parameters result body =>
      have hbody : Visited look (mostFrames body ≤ room - 3) (allFunctions body) (visitAll look (room - 3) body) :=
        visitAll_visited ih (room - 3)
      rw [visit, functions, frames]
      exact ((hbody.around _ _ room).cons ⟨line, name, decorators, body⟩).congr (by omega)
    | classDef name decorators bases body =>
      have hbody : Visited look (mostFrames body ≤ room - 2) (allFunctions body) (visitAll look (room - 2) body) :=
        visitAll_visited ih (room - 2)
      rw [visit, functions, frames]
      exact (hbody.around _ _ room).congr (by omega)
    | compound form parts blocks =>
      rw [visit, functions, frames]
      exact ((visitBlocks_visited ih (room - 2)).around _ _ room).congr (by omega)
    | returned | raised | assertion | expression | pass | plain => exact visited_plain _ room

/-- **A module is gone through if there is room for it.** -/
theorem Module.visited (look : FunctionDef → Except Trouble β) (room : ℕ) (module : List Stmt) :
    Visited look (Module.frames module ≤ room) (Stmt.allFunctions module) (Module.visit look room module) := by
  have hall : Visited look (Stmt.mostFrames module ≤ room - 2) (Stmt.allFunctions module)
      (Stmt.visitAll look (room - 2) module) := Stmt.visitAll_visited (fun s _ => s.visited) (room - 2)
  rw [Module.frames]
  exact (hall.around 2 0 room).congr (by omega)

end ScenarioAudit.Syntax
