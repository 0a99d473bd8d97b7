import Mathlib.Order.Bounds.Basic
import ScenarioAudit.Proofs.Scan.Inline
import ScenarioAudit.Proofs.Scan.Nesting

/-! # Matching braces

A reader that starts at an opening brace and counts braces of code stops where the braces are first balanced
(`isLeast_of_matchingBrace?`), and it comes to the end of the text only if they never are
(`not_balances_of_matchingBrace?`). What stands in front of a character of code ends in code (`modeAfter_of_code`), so
the body between the two braces can be read on its own: it is balanced, and it ends outside strings and comments
(`matching_isLeast`). All of this holds for any characters as quotes; a brace that is a quote itself opens a string, and
then there is nothing to balance.
-/

namespace ScenarioAudit.Scan

variable {quotes : List Char}

/-! ## Counting braces -/

/-- How often a character stands in the code in front of a place of a text. -/
def codeCount (quotes text : List Char) (c : Char) (place : Nat) : Nat :=
  ((mark quotes text).take place).countP (·.isCode c)

theorem isCode_inj {m : Marked} {c d : Char} (hc : m.isCode c = true) (hd : m.isCode d = true) : c = d :=
  (part_of_isCode hc).2.symm.trans (part_of_isCode hd).2

theorem nesting_of_closing {m : Marked} (h : m.isCode '\x7d' = true) : m.nesting = -1 := by
  have hopen : ¬ m.isCode '\x7b' = true := fun hopen => absurd (isCode_inj hopen h) (by decide)
  rw [Marked.nesting, if_neg hopen, if_pos h]

theorem nestingSum_eq_countP (ms : List Marked) :
    nestingSum ms = ms.countP (·.isCode '\x7b') - ms.countP (·.isCode '\x7d') := by
  induction ms with
  | nil => rfl
  | cons m ms ih =>
    rw [nestingSum_cons, ih, List.countP_cons, List.countP_cons]
    by_cases hclose : m.isCode '\x7d' = true
    · have hopen : ¬ m.isCode '\x7b' = true := fun hopen => absurd (isCode_inj hopen hclose) (by decide)
      rw [nesting_of_closing hclose, if_neg hopen, if_pos hclose]
      omega
    · rw [Marked.nesting, if_neg hclose, if_neg hclose]
      split <;> omega

/-- What is open at a place are the braces opened in front of it less those closed. -/
theorem depthAt_eq (text : List Char) (place : Nat) :
    depthAt quotes text place = codeCount quotes text '\x7b' place - codeCount quotes text '\x7d' place :=
  nestingSum_eq_countP _

theorem nestingSum_take_succ {ms : List Marked} {k : Nat} {m : Marked} (hm : ms[k]? = some m) :
    nestingSum (ms.take (k + 1)) = nestingSum (ms.take k) + m.nesting := by
  rw [List.take_add_one, hm, nestingSum_append]
  exact congrArg _ (Int.add_zero _)

theorem nestingSum_of_closing? {depth : Int} {ms : List Marked} {k : Nat} (h : closing? depth ms = some k) :
    depth + nestingSum (ms.take k) = 1 := by
  induction ms generalizing depth k with
  | nil => cases h
  | cons m ms ih =>
    rw [closing?] at h
    split at h
    next hclose =>
      obtain rfl : 0 = k := Option.some.inj h
      rw [hclose.2]
      rfl
    next =>
      obtain ⟨j, hj, rfl⟩ := Option.map_eq_some_iff.mp h
      rw [List.take_succ_cons, nestingSum_cons, ← Int.add_assoc]
      exact ih hj

/-! ## Quotes are no code -/

theorem not_mem_of_partOf {r : Reader} {c : Char} {behind : Option Char} (h : partOf quotes r c behind = .code) :
    c ∉ quotes := by
  cases r with
  | second mode => cases mode <;> cases h
  | inside mode =>
    cases mode with
    | blockComment => cases h
    | code =>
      intro hmem
      rw [partOf, if_pos (by simpa using hmem)] at h
      cases h
    | lineComment =>
      rw [partOf] at h
      split at h
      next hfeed => exact hfeed ▸ not_mem_of_feedPart h
      next => cases h
    | quoted q =>
      rw [partOf] at h
      split at h
      · cases h
      · split at h
        · cases h
        · split at h
          next hfeed => exact hfeed.1 ▸ not_mem_of_feedPart h
          next => cases h

theorem not_mem_of_mem_read {r : Reader} {s : List Char} {m : Marked} (hm : m ∈ read quotes r s)
    (hcode : m.part = .code) : m.char ∉ quotes := by
  induction s generalizing r with
  | nil => cases hm
  | cons c s ih =>
    rw [read] at hm
    rcases List.mem_cons.mp hm with rfl | hm
    · exact not_mem_of_partOf hcode
    · exact ih hm

/-- **A character that opens strings is never code.** -/
theorem not_mem_of_mem_mark {s : List Char} {m : Marked} (hm : m ∈ mark quotes s) (hcode : m.part = .code) :
    m.char ∉ quotes :=
  not_mem_of_mem_read (mark_eq_read s ▸ hm) hcode

/-! ## Ends of pieces -/

theorem mode_of_partOf {mode : Mode} {c : Char} {behind : Option Char} (hc : c ≠ '\n')
    (h : partOf quotes (.inside mode) c behind = .code) : mode = .code := by
  cases mode with
  | code => rfl
  | blockComment => cases h
  | lineComment =>
    rw [partOf, if_neg hc] at h
    cases h
  | quoted q =>
    rw [partOf] at h
    split at h
    · cases h
    · split at h
      · cases h
      · rw [if_neg fun hfeed => hc hfeed.1] at h
        cases h

/-- **What stands in front of a character of code ends in code,** if the character is no line feed, which would end a
string or a comment, and makes no pair with the one in front of it. -/
theorem modeAfter_of_code {mode : Mode} {s t : List Char} {c : Char} (hc : c ≠ '\n' ∧ c ≠ '/' ∧ c ≠ '*')
    (h : (markFrom quotes mode (s ++ c :: t))[s.length]? = some ⟨c, .code⟩) : modeAfter quotes mode s = .code := by
  have hhead {s : List Char} {d : Char} (hs : s.head? ≠ some d) (hd : c ≠ d) : (s ++ c :: t).head? ≠ some d :=
    head?_append_ne hs (by simpa using hd)
  have hsingle {d e : Char} {s : List Char} (h : ∀ t, d = d → s = e :: t → False) : s.head? ≠ some e := by
    intro hhead
    obtain ⟨t, ht⟩ := List.head?_eq_some_iff.mp hhead
    exact h t rfl ht
  fun_induction modeAfter quotes mode s with
  | case1 mode =>
    rw [markFrom_eq_read, List.nil_append, read] at h
    exact mode_of_partOf hc.1 (congrArg Marked.part (Option.some.inj h))
  | case2 d s hd ih =>
    rw [List.cons_append, markFrom_quote (by simpa using hd)] at h
    exact ih h
  | case3 s hd ih =>
    rw [List.cons_append, List.cons_append, markFrom, if_neg hd] at h
    exact ih h
  | case4 s hd ih =>
    rw [List.cons_append, List.cons_append, markFrom, if_neg hd] at h
    exact ih h
  | case5 d s hline hblock hd ih =>
    have hopens : d = '/' → (s ++ c :: t).head? ≠ some '/' ∧ (s ++ c :: t).head? ≠ some '*' := by
      rintro rfl
      exact ⟨hhead (hsingle hline) hc.2.1, hhead (hsingle hblock) hc.2.2⟩
    rw [List.cons_append, markFrom_code (by simpa using hd) hopens] at h
    exact ih h
  | case6 q d hd =>
    -- The character would be hidden by a backslash.
    rw [List.cons_append, List.nil_append, markFrom, if_pos hd] at h
    cases h
  | case7 q d hd e s ih =>
    rw [List.cons_append, List.cons_append, markFrom, if_pos hd] at h
    exact ih h
  | case8 d s hd ih =>
    rw [List.cons_append, markFrom_quoted hd, if_pos rfl] at h
    exact ih h
  | case9 q d s hd hq hfeed ih =>
    rw [List.cons_append, markFrom_quoted hd, if_neg hq, if_pos hfeed] at h
    exact ih h
  | case10 q d s hd hq hfeed ih =>
    rw [List.cons_append, markFrom_quoted hd, if_neg hq, if_neg hfeed] at h
    exact ih h
  | case11 s ih =>
    rw [List.cons_append, markFrom, if_pos rfl] at h
    exact ih h
  | case12 d s hd ih =>
    rw [List.cons_append, markFrom, if_neg hd] at h
    exact ih h
  | case13 s ih =>
    rw [List.cons_append, List.cons_append, markFrom] at h
    exact ih h
  | case14 d s hd ih =>
    have hopens : d = '*' → (s ++ c :: t).head? ≠ some '/' := by
      rintro rfl
      exact hhead (hsingle hd) hc.2.1
    rw [List.cons_append, markFrom_blockComment hopens] at h
    exact ih h

/-! ## The brace that matches -/

/-- A place of code behind an opening brace of code at which the braces are balanced, as many of them closed as opened
from the first one on. Code is what it is for a reader that starts at the first brace. -/
structure Balances (quotes text : List Char) (i j : Nat) : Prop where
  opens : IsCodeAt quotes (text.drop i) 0
  later : i < j
  code : IsCodeAt quotes (text.drop i) (j - i)
  balanced : codeCount quotes (text.drop i) '\x7d' (j - i + 1) = codeCount quotes (text.drop i) '\x7b' (j - i + 1)

section Matching

variable {text : List Char} {i j : Nat}

theorem Balances.depthAt_eq_zero (h : Balances quotes text i j) : depthAt quotes (text.drop i) (j - i + 1) = 0 := by
  rw [depthAt_eq, h.balanced, Int.sub_self]

theorem Balances.brace_not_mem (hopen : text[i]? = some '\x7b') (h : Balances quotes text i j) : '\x7b' ∉ quotes := by
  obtain ⟨m, hm, hcode⟩ := h.opens
  have hbrace : some '\x7b' = some m.char := by
    rw [← hopen, ← Nat.add_zero i, ← List.getElem?_drop, @getElem?_mark quotes, hm, Option.map_some]
  rw [Option.some.inj hbrace]
  exact not_mem_of_mem_mark (List.mem_of_getElem? hm) hcode

/-- Behind the opening brace something is open up to the brace that is found, and everywhere if none is found. -/
theorem one_le_depthAt (hbrace : '\x7b' ∉ quotes) (hopen : text[i]? = some '\x7b') {n : Nat} (hpos : 0 < n)
    (hn : ∀ k ∈ matchingBrace? quotes (text.drop i), n ≤ k) : 1 ≤ depthAt quotes (text.drop i) n := by
  obtain ⟨n, rfl⟩ := Nat.exists_eq_succ_of_ne_zero (Nat.ne_of_gt hpos)
  rw [matchingBrace?, mark_drop_brace hbrace hopen, closing?, if_neg fun h => absurd h.1 (by decide)] at hn
  rw [depthAt, mark_drop_brace hbrace hopen, List.take_succ_cons, nestingSum_cons]
  exact one_le_of_closing? (Int.le_refl 1) fun k hk => Nat.le_of_succ_le_succ (hn (k + 1) (Option.mem_map_of_mem _ hk))

theorem brace_not_mem_of_matchingBrace? {s : List Char} (h : matchingBrace? quotes s = some j) : '\x7b' ∉ quotes := by
  have hsum := nestingSum_of_closing? h
  rw [nestingSum_eq_countP] at hsum
  have hpos : 0 < ((mark quotes s).take j).countP (·.isCode '\x7b') := by omega
  obtain ⟨m, hm, hcode⟩ := List.countP_pos_iff.mp hpos
  obtain ⟨hpart, hchar⟩ := part_of_isCode hcode
  rw [← hchar]
  exact not_mem_of_mem_mark (List.mem_of_mem_take hm) hpart

/-- **The brace that is found is the first place at which the braces are balanced.** -/
theorem isLeast_of_matchingBrace? (hopen : text[i]? = some '\x7b') (h : matchingBrace? quotes (text.drop i) = some j) :
    IsLeast {k | Balances quotes text i k} (i + j) := by
  have hbrace := brace_not_mem_of_matchingBrace? h
  have hhead := mark_drop_brace hbrace hopen
  obtain ⟨m, hm, hclose⟩ := closing?_isCode h
  have hpos : 0 < j := by
    refine Nat.pos_of_ne_zero fun hzero => ?_
    rw [hzero, hhead] at hm
    cases hm
    cases hclose
  constructor
  · refine ⟨⟨⟨'\x7b', .code⟩, by rw [hhead]; rfl, rfl⟩, Nat.lt_add_of_pos_right hpos, ?_, ?_⟩
    · rw [Nat.add_sub_cancel_left]
      exact ⟨m, hm, (part_of_isCode hclose).1⟩
    · have hdepth : depthAt quotes (text.drop i) (j + 1) = 0 := by
        have hsum := nestingSum_of_closing? h
        rw [depthAt, nestingSum_take_succ hm, nesting_of_closing hclose]
        omega
      rw [Nat.add_sub_cancel_left]
      rw [depthAt_eq] at hdepth
      omega
  · intro k hk
    by_contra hlt
    have hdepth := one_le_depthAt hbrace hopen (Nat.succ_pos (k - i)) fun k' hk' => by
      obtain rfl : j = k' := Option.some.inj (h.symm.trans hk')
      have hlater := hk.later
      omega
    rw [hk.depthAt_eq_zero] at hdepth
    omega

/-- **If no brace is found, the braces are balanced nowhere.** -/
theorem not_balances_of_matchingBrace? (hopen : text[i]? = some '\x7b')
    (h : matchingBrace? quotes (text.drop i) = none) : ¬ Balances quotes text i j := by
  intro hj
  have hdepth := one_le_depthAt (hj.brace_not_mem hopen) hopen (Nat.succ_pos (j - i)) (by rw [h]; nofun)
  rw [hj.depthAt_eq_zero] at hdepth
  omega

/-- **The body in front of the brace that is found is balanced and ends in code.** -/
theorem balanced_body (hopen : text[i]? = some '\x7b') (h : matchingBrace? quotes (text.drop i) = some j) :
    Balanced quotes (slice text (i + 1) (i + j)) ∧ modeAfter quotes .code (slice text (i + 1) (i + j)) = .code := by
  have hbrace := brace_not_mem_of_matchingBrace? h
  have hnonneg := depthAt_body_nonneg hbrace hopen h
  obtain ⟨k, rfl, hk, hbody⟩ := mark_body hbrace hopen h
  refine ⟨⟨?_, fun ms hms => ?_⟩, ?_⟩
  · have hsum := nestingSum_of_closing? hk
    rw [nestingOf_eq, hbody]
    omega
  · rw [List.prefix_iff_eq_take.mp ((List.mem_inits _ _).mp hms)]
    exact hnonneg ms.length
  · obtain ⟨m, hm, hclose⟩ := closing?_isCode hk
    obtain ⟨hlt, hget⟩ := List.getElem?_eq_some_iff.mp (getElem?_of_isCode hm hclose)
    rw [slice_body]
    refine modeAfter_of_code (t := (text.drop (i + 1)).drop (k + 1)) (c := '\x7d') (by decide) ?_
    rw [← hget, List.getElem_cons_drop, List.take_append_drop, hget, List.length_take,
      Nat.min_eq_left (Nat.le_of_lt hlt)]
    obtain ⟨hpart, hchar⟩ := part_of_isCode hclose
    rw [← hpart, ← hchar]
    exact hm

end Matching

/-- **The brace that is found is the right one.** From an opening brace on, whatever characters open strings, it is the
first place of code at which as many braces are closed as opened, and none is found exactly if there is no such place.
The body between the two braces is read alone as in its place: its braces are balanced, none is closed before it was
opened, and it ends outside strings and comments. -/
theorem matching_isLeast (quotes : List Char) {text : List Char} {i : Nat} (hopen : text[i]? = some '\x7b') :
    let found := (matchingBrace? quotes (text.drop i)).map (i + ·)
    (∀ j, found = some j ↔ IsLeast {k | Balances quotes text i k} j) ∧
      (found = none ↔ ∀ k, ¬ Balances quotes text i k) ∧
      ∀ j, found = some j →
        let body := slice text (i + 1) j
        text[j]? = some '\x7d' ∧ mark quotes body = ((mark quotes (text.drop i)).take (j - i)).tail ∧
          Balanced quotes body ∧ modeAfter quotes .code body = .code := by
  intro found
  cases hfound : matchingBrace? quotes (text.drop i) with
  | none =>
    have hnone : found = none := by simp only [found, hfound, Option.map_none]
    have hnot (k : Nat) : ¬ Balances quotes text i k := not_balances_of_matchingBrace? hopen hfound
    rw [hnone]
    exact ⟨fun j => ⟨nofun, fun hj => absurd hj.1 (hnot j)⟩, ⟨fun _ => hnot, fun _ => rfl⟩, nofun⟩
  | some k =>
    have hsome : found = some (i + k) := by simp only [found, hfound, Option.map_some]
    have hleast := isLeast_of_matchingBrace? hopen hfound
    rw [hsome]
    refine ⟨fun j => ⟨?_, fun hj => congrArg some (hleast.unique hj)⟩,
      ⟨nofun, fun hnot => absurd hleast.1 (hnot _)⟩, ?_⟩
    · intro h
      obtain rfl := Option.some.inj h
      exact hleast
    · intro j h
      obtain rfl := Option.some.inj h
      obtain ⟨m, hm, hclose⟩ := closing?_isCode hfound
      refine ⟨?_, ?_, balanced_body hopen hfound⟩
      · rw [← List.getElem?_drop]
        exact getElem?_of_isCode hm hclose
      · have hbrace := brace_not_mem_of_matchingBrace? hfound
        obtain ⟨n, rfl, -, hbody⟩ := mark_body hbrace hopen hfound
        rw [hbody, Nat.add_sub_cancel_left, mark_drop_brace hbrace hopen]
        rfl

/-- A function with braces in strings and comments, a nested block, and code behind it. -/
def knottedText : List Char :=
  "f(\x7b a('\x7d \\' \x7d'); // \x7d\n \x7b /* \x7d */ \x7d b(\"\x7b\") \x7d) \x7d".toList

/-- The brace that ends the function is the first one that closes what is open. -/
theorem matching_isLeast_knotted :
    IsLeast {k | Balances javascript.quotes knottedText 2 k} 42 ∧
      Balanced javascript.quotes (slice knottedText 3 42) ∧
      modeAfter javascript.quotes .code (slice knottedText 3 42) = .code := by
  have hopen : knottedText[2]? = some '\x7b' := by decide +kernel
  have hfound : (matchingBrace? javascript.quotes (knottedText.drop 2)).map (2 + ·) = some 42 := by decide +kernel
  obtain ⟨hleast, -, hbody⟩ := matching_isLeast javascript.quotes hopen
  exact ⟨(hleast 42).mp hfound, (hbody 42 hfound).2.2⟩

end ScenarioAudit.Scan
