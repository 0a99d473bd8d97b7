import ScenarioAudit.Proofs.Pattern.Places
import ScenarioAudit.Scan.Scanner

/-! # The bindings of a text, one for each registration

The bindings that are found in a text are those of its registrations in order (`getElem?_scan`); the body of each ends
at the latest where the next registration starts (`limitAt`). What is looked for around a registration is within its
line (`endOfLine_eq`), or within a number of lines (`linesLength`).
-/

namespace ScenarioAudit.Scan

open ScenarioAudit.Text Pattern

variable (r : ScanRules) (keywords : List String) (lookahead : Int) (file : String)

/-- Where the body of a registration ends at the latest: at the next registration, else at the end of the text. -/
def limitAt (text : List Char) (i : Nat) : Nat :=
  ((r.registration.findAll text)[i + 1]?.map fun n => n.start.position).getD text.length

theorem bindingsOf_cons (text : List Char) (lines : List (List Char)) (m : Match) (ms : List Match) :
    ∃ limit, bindingsOf r keywords lookahead file text lines (m :: ms) =
      bindingOf r keywords lookahead file text lines m limit :: bindingsOf r keywords lookahead file text lines ms :=
  ⟨_, rfl⟩

theorem getElem?_bindingsOf (text : List Char) (lines : List (List Char)) (ms : List Match) (i : Nat) :
    (bindingsOf r keywords lookahead file text lines ms)[i]? = ms[i]?.map fun m =>
      bindingOf r keywords lookahead file text lines m ((ms[i + 1]?.map fun n => n.start.position).getD text.length) := by
  induction ms generalizing i with
  | nil => rfl
  | cons m ms ih =>
    cases i with
    | zero => cases ms <;> rfl
    | succ i =>
      rw [List.getElem?_cons_succ, List.getElem?_cons_succ, ← ih]
      cases ms <;> rfl

/-- **The bindings of a text are those of its registrations in order.** -/
theorem getElem?_scan (text : List Char) (i : Nat) : (scan r keywords lookahead file text)[i]? =
    (r.registration.findAll text)[i]?.map fun m =>
      bindingOf r keywords lookahead file text (splitLines text) m (limitAt r text i) :=
  getElem?_bindingsOf r keywords lookahead file text (splitLines text) (r.registration.findAll text) i

theorem body_bindingOf (text : List Char) (lines : List (List Char)) (m : Match) (limit : Nat) :
    (bindingOf r keywords lookahead file text lines m limit).body =
      r.facts keywords (if r.style = .indented then
          indentBody lookahead.toNat (lines.drop (countNewlines (text.take m.start.position)))
        else braceBody r lookahead.toNat text m.stop.position limit).1 := by
  rw [bindingOf]

theorem after_of_mem {p : Pattern} {text : List Char} {m : Match} (h : m ∈ p.findAll text) :
    (m.start.after = text.drop m.start.position ∧ m.start.position ≤ text.length) ∧
      m.stop.after = text.drop m.stop.position ∧ m.stop.position ≤ text.length := by
  obtain ⟨u, v, rfl, hstart, hmatch⟩ := exists_between h
  obtain ⟨-, hreaches⟩ := reaches_of_matchAt hmatch
  obtain ⟨x, hafter, -, hposition⟩ := hreaches.exists_skipped
  have hv : v = x ++ m.stop.after := hafter
  have hposition : m.stop.position = (u ++ x).length := hposition.trans List.length_append.symm
  constructor
  · rw [hstart]
    exact ⟨(List.drop_left).symm, by rw [List.length_append]; exact Nat.le_add_right _ _⟩
  · have hle : (u ++ x).length ≤ (u ++ x ++ m.stop.after).length := (List.prefix_append _ _).length_le
    rw [hposition, hv, ← List.append_assoc, List.drop_left]
    exact ⟨rfl, hle⟩

/-! ## Lines around a registration -/

theorem linesLength_append {x : List Char} (hx : '\n' ∉ x) (n : Nat) (y : List Char) :
    linesLength (n + 1) (x ++ y) = x.length + linesLength (n + 1) y := by
  induction x with
  | nil => exact (Nat.zero_add _).symm
  | cons c x ih =>
    have hc : c ≠ '\n' := fun h => hx (h ▸ List.mem_cons_self)
    rw [List.cons_append, linesLength, if_neg hc, ih fun h => hx (List.mem_cons_of_mem c h), List.length_cons]
    omega

theorem linesLength_feed (n : Nat) (y : List Char) : linesLength (n + 1) ('\n' :: y) = linesLength n y + 1 := by
  rw [linesLength, if_pos rfl]

theorem linesLength_le_succ (n : Nat) (y : List Char) : linesLength n y ≤ linesLength (n + 1) y := by
  induction y generalizing n with
  | nil => cases n <;> exact Nat.le_refl _
  | cons c y ih =>
    cases n with
    | zero => exact Nat.zero_le _
    | succ n =>
      rw [linesLength, linesLength]
      split
      · exact Nat.succ_le_succ (ih n)
      · exact Nat.succ_le_succ (ih (n + 1))

def beforeFeed (text : List Char) : List Char :=
  text.takeWhile (· != '\n')

theorem exists_below (text : List Char) :
    ∃ below, text = beforeFeed text ++ below ∧ '\n' ∉ beforeFeed text ∧ ∀ c ∈ below.head?, c = '\n' := by
  refine ⟨text.dropWhile (· != '\n'), List.takeWhile_append_dropWhile.symm, ?_, ?_⟩
  · intro hmem
    have hall := List.all_eq_true.mp List.all_takeWhile '\n' hmem
    exact absurd hall (by decide)
  · intro c hc
    have hhead := List.head?_dropWhile_not (· != '\n') text
    rw [hc] at hhead
    simpa using hhead

theorem endOfLine_eq {text x y : List Char} {start : Nat} (h : text.drop start = x ++ y) (hx : '\n' ∉ x) :
    endOfLine text start = start + x.length + (beforeFeed y).length := by
  rw [endOfLine, h, List.takeWhile_append_of_pos (bne_of_not_mem hx), List.length_append, beforeFeed]
  omega

end ScenarioAudit.Scan
