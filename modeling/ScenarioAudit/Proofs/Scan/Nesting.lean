import Mathlib.Data.List.Chain
import ScenarioAudit.Proofs.Scan.Comments

/-! # Nesting line by line

The nesting of a line is summed up over the lines above it, each of them read alone (`runningDepth`). A line that starts
outside of strings is read alone as in its place (`nestsAlike_of_fresh`). So in a body between matching braces the nesting
is what the whole text opens and has not closed, as long as no string goes on over the end of a line (`level_eq_iff`).
With such a string, the braces in it count (`template_level_wrong`).
-/

namespace ScenarioAudit.Scan

open ScenarioAudit.Text

variable {quotes : List Char}

/-- Quotes are neither blanks nor braces. -/
def QuotesApart (quotes : List Char) : Prop :=
  ∀ q ∈ quotes, isBlank q = false ∧ q ≠ '\x7b' ∧ q ≠ '\x7d'

/-! ## Blanks -/

theorem nesting_of_isBlank {m : Marked} (h : isBlank m.char = true) : m.nesting = 0 := by
  apply nesting_of_ne
  · intro heq
    rw [heq] at h
    exact absurd h (by decide)
  · intro heq
    rw [heq] at h
    exact absurd h (by decide)

theorem nestingSum_of_isBlank {ms : List Marked} (h : ∀ m ∈ ms, isBlank m.char = true) : nestingSum ms = 0 := by
  induction ms with
  | nil => rfl
  | cons m ms ih =>
    rw [List.forall_mem_cons] at h
    rw [nestingSum_cons, nesting_of_isBlank h.1, ih h.2, Int.add_zero]

theorem nestingOf_append_blanks (s : List Char) {blanks : List Char} (h : ∀ c ∈ blanks, isBlank c = true) :
    nestingOf quotes (s ++ blanks) = nestingOf quotes s := by
  rw [nestingOf_start s blanks, nestingOf_eq, ← List.take_append_drop s.length (mark quotes (s ++ blanks)),
    nestingSum_append, List.take_append_drop]
  have hrest : ∀ m ∈ (mark quotes (s ++ blanks)).drop s.length, isBlank m.char = true := by
    intro m hm
    refine h _ ?_
    have hchar := List.mem_map_of_mem (f := Marked.char) hm
    rwa [List.map_drop, map_char_mark, List.drop_left] at hchar
  rw [nestingSum_of_isBlank hrest, Int.add_zero]

theorem mark_blanks (hquotes : QuotesApart quotes) {blanks : List Char}
    (h : ∀ c ∈ blanks, isBlank c = true) (s : List Char) :
    mark quotes (blanks ++ s) = blanks.map (⟨·, .code⟩) ++ mark quotes s := by
  induction blanks with
  | nil => rfl
  | cons c blanks ih =>
    rw [List.forall_mem_cons] at h
    have hc : c ∉ quotes := fun hmem => by
      rw [(hquotes c hmem).1] at h
      exact absurd h.1 (by decide)
    have hslash : c = '/' → (blanks ++ s).head? ≠ some '/' ∧ (blanks ++ s).head? ≠ some '*' := fun heq => by
      rw [heq] at h
      exact absurd h.1 (by decide)
    rw [List.cons_append, mark, markFrom_code hc hslash, ← mark, ih h.2]
    rfl

theorem nestingSum_blanks {blanks : List Char} (h : ∀ c ∈ blanks, isBlank c = true) :
    nestingSum (blanks.map (⟨·, .code⟩)) = 0 := by
  refine nestingSum_of_isBlank fun m hm => ?_
  obtain ⟨c, hc, rfl⟩ := List.mem_map.mp hm
  exact h c hc

theorem nestingOf_strip (hquotes : QuotesApart quotes) (s : List Char) :
    nestingOf quotes (strip s) = nestingOf quotes s := by
  obtain ⟨indent, hs, hindent⟩ := exists_indent s
  obtain ⟨trail, hleft, htrail⟩ := exists_trail (stripLeft s)
  calc
    nestingOf quotes (strip s) = nestingOf quotes (strip s ++ trail) := (nestingOf_append_blanks _ htrail).symm
    _ = nestingOf quotes (stripLeft s) := by rw [strip, ← hleft]
    _ = nestingOf quotes (indent ++ stripLeft s) := by
      rw [nestingOf_eq (indent ++ _), mark_blanks hquotes hindent, nestingSum_append, nestingSum_blanks hindent,
        Int.zero_add, nestingOf_eq]
    _ = nestingOf quotes s := by rw [← hs]

/-! ## Bodies between matching braces -/

/-- What a text opens in front of a place and does not close there. -/
def depthAt (quotes text : List Char) (place : Nat) : Int :=
  nestingSum ((mark quotes text).take place)

/-- What is open stays open up to the brace that closes it, and everywhere if there is none. -/
theorem one_le_of_closing? {depth : Int} {ms : List Marked} (hdepth : 1 ≤ depth) {n : Nat}
    (hn : ∀ k ∈ closing? depth ms, n ≤ k) : 1 ≤ depth + nestingSum (ms.take n) := by
  induction ms generalizing depth n with
  | nil => simpa using hdepth
  | cons m ms ih =>
    cases n with
    | zero => simpa using hdepth
    | succ n =>
      rw [closing?] at hn
      split at hn
      next => exact absurd (hn 0 rfl) (Nat.not_succ_le_zero n)
      next hnot =>
        have hstep : 1 ≤ depth + m.nesting := by
          rw [Marked.nesting]
          by_cases hclose : m.isCode '\x7d' = true
          · have hne : depth ≠ 1 := fun heq => hnot ⟨hclose, heq⟩
            split <;> omega
          · rw [if_neg hclose]
            split <;> omega
        have hrest := ih hstep fun k hk => Nat.le_of_succ_le_succ (hn (k + 1) (by rw [hk]; rfl))
        rw [List.take_succ_cons, nestingSum_cons, ← Int.add_assoc]
        exact hrest

/-- A reader that starts at an opening brace goes on behind it as in code. -/
theorem mark_drop_brace (hbrace : '\x7b' ∉ quotes) {text : List Char} {i : Nat} (hopen : text[i]? = some '\x7b') :
    mark quotes (text.drop i) = ⟨'\x7b', .code⟩ :: mark quotes (text.drop (i + 1)) := by
  obtain ⟨hlt, hget⟩ := List.getElem?_eq_some_iff.mp hopen
  rw [List.drop_eq_getElem_cons hlt, hget, mark, markFrom_code hbrace fun h => absurd h (by decide)]
  rfl

/-- The text between two braces, by the number of characters in it. -/
theorem slice_body (text : List Char) (i k : Nat) : slice text (i + 1) (i + (k + 1)) = (text.drop (i + 1)).take k := by
  rw [slice]
  congr 1
  omega

/-- **A body between matching braces** goes on up to the brace that closes the first one, and it is read alone as in its
place. -/
theorem mark_body (hbrace : '\x7b' ∉ quotes) {text : List Char} {i j : Nat} (hopen : text[i]? = some '\x7b')
    (hclose : matchingBrace? quotes (text.drop i) = some j) :
    ∃ k, j = k + 1 ∧ closing? 1 (mark quotes (text.drop (i + 1))) = some k ∧
      mark quotes (slice text (i + 1) (i + j)) = (mark quotes (text.drop (i + 1))).take k := by
  rw [matchingBrace?, mark_drop_brace hbrace hopen, closing?, if_neg fun h => absurd h.1 (by decide)] at hclose
  obtain ⟨k, hk, rfl⟩ := Option.map_eq_some_iff.mp hclose
  refine ⟨k, rfl, hk, ?_⟩
  rw [slice_body]
  refine mark_take fun c hc => ?_
  obtain ⟨m, hm, hcode⟩ := closing?_isCode hk
  rw [Option.some.inj (hc.symm.trans (getElem?_of_isCode hm hcode))]
  decide

/-- A text that never closes more than is open does not do so without its comments. -/
theorem nonneg_bareMarks {depth : Int} {ms : List Marked} (h : ∀ n, 0 ≤ depth + nestingSum (ms.take n)) (n : Nat) :
    0 ≤ depth + nestingSum ((bareMarks ms).take n) := by
  induction ms generalizing depth n with
  | nil =>
    rw [show bareMarks [] = [] from rfl, List.take_nil]
    exact h 0
  | cons m ms ih =>
    have hrest (k : Nat) : 0 ≤ depth + m.nesting + nestingSum (ms.take k) := by
      have hk := h (k + 1)
      rwa [List.take_succ_cons, nestingSum_cons, ← Int.add_assoc] at hk
    rw [bareMarks_cons]
    by_cases hstays : m.stays = true
    · have hnesting : m.bare.nesting = m.nesting := by
        rw [Marked.nesting, Marked.nesting, isCode_bare m hstays (by decide), isCode_bare m hstays (by decide)]
      rw [if_pos hstays]
      cases n with
      | zero => simpa using h 0
      | succ n =>
        rw [List.take_succ_cons, nestingSum_cons, hnesting, ← Int.add_assoc]
        exact ih hrest n
    · have hnesting : m.nesting = 0 := by
        rw [Marked.nesting, isCode_of_not_stays hstays, isCode_of_not_stays hstays]
        rfl
      rw [hnesting, Int.add_zero] at hrest
      rw [if_neg hstays]
      exact ih hrest n

/-- **A body between matching braces never closes more than it has opened.** -/
theorem depthAt_body_nonneg (hbrace : '\x7b' ∉ quotes) {text : List Char} {i j : Nat} (hopen : text[i]? = some '\x7b')
    (hclose : matchingBrace? quotes (text.drop i) = some j) (n : Nat) :
    0 ≤ depthAt quotes (slice text (i + 1) (i + j)) n := by
  obtain ⟨k, -, hk, hbody⟩ := mark_body hbrace hopen hclose
  have hone : 1 ≤ 1 + nestingSum ((mark quotes (text.drop (i + 1))).take (min n k)) := by
    refine one_le_of_closing? (Int.le_refl 1) fun k' hk' => ?_
    obtain rfl : k = k' := Option.some.inj (hk.symm.trans hk')
    exact Nat.min_le_right n k
  rw [depthAt, hbody, List.take_take]
  omega

theorem depthAt_nonneg (hquotes : QuotesApart quotes) {text : List Char} {i j : Nat}
    (hopen : text[i]? = some '\x7b') (hclose : matchingBrace? quotes (text.drop i) = some j) (n : Nat) :
    0 ≤ depthAt quotes (withoutComments quotes (slice text (i + 1) (i + j))) n := by
  have hfeed : '\n' ∉ quotes := fun hmem => absurd (hquotes _ hmem).1 (by decide)
  have hbrace : '\x7b' ∉ quotes := fun hmem => (hquotes _ hmem).2.1 rfl
  rw [depthAt, mark_withoutComments hfeed, ← Int.zero_add (nestingSum _)]
  refine nonneg_bareMarks (fun n => ?_) n
  rw [Int.zero_add]
  exact depthAt_body_nonneg hbrace hopen hclose n

/-! ## Lines in their places -/

/-- The lines of a text, each with the number of characters in front of it. -/
def placedLines : Nat → List Char → List (Nat × List Char)
  | _, [] => []
  | n, '\r' :: '\n' :: s => (n, []) :: placedLines (n + 2) s
  | n, c :: s =>
    if isLineBreak c then (n, []) :: placedLines (n + 1) s
    else
      match placedLines (n + 1) s with
      | [] => [(n, [c])]
      | (_, l) :: ls => (n, c :: l) :: ls

theorem map_snd_placedLines (n : Nat) (s : List Char) : (placedLines n s).map Prod.snd = splitLines s := by
  fun_induction placedLines n s with
  | case1 => rfl
  | case2 n s ih => rw [splitLines, List.map_cons, ih]
  | case3 n c s hcrlf hbreak ih =>
    rw [splitLines, if_pos hbreak, List.map_cons, ih]
    exact hcrlf
  | case4 n c s hcrlf hbreak hnil ih =>
    rw [hnil, List.map_nil] at ih
    rw [splitLines, if_neg hbreak, ← ih]
    · rfl
    · exact hcrlf
  | case5 n c s hcrlf hbreak m l ls hcons ih =>
    rw [hcons, List.map_cons] at ih
    rw [splitLines, if_neg hbreak, ← ih]
    · rfl
    · exact hcrlf

theorem fst_of_mem_head? {n : Nat} {s : List Char} {p : Nat × List Char} (h : p ∈ (placedLines n s).head?) :
    p.1 = n := by
  unfold placedLines at h
  split at h
  · cases h
  · cases h
    rfl
  · split at h
    · cases h
      rfl
    · split at h
      · cases h
        rfl
      · cases h
        rfl

/-- A line of a text, and one that starts behind its break. -/
def Follows (text : List Char) (p q : Nat × List Char) : Prop :=
  ∃ ending, (∀ c ∈ ending, isLineBreak c = true) ∧ text.drop p.1 = p.2 ++ ending ++ text.drop q.1 ∧
    q.1 = p.1 + p.2.length + ending.length

/-- **Each line stands at its place, and the next one behind its break.** -/
theorem isChain_placedLines {text : List Char} {n : Nat} {s : List Char} (h : text.drop n = s) :
    (placedLines n s).IsChain (Follows text) ∧ ∀ p ∈ placedLines n s, p.2 <+: text.drop p.1 := by
  have hskip {n k : Nat} {s s' : List Char} (h : text.drop n = s) (hs : s.drop k = s') : text.drop (n + k) = s' := by
    rw [← List.drop_drop, h, hs]
  fun_induction placedLines n s with
  | case1 => exact ⟨.nil, nofun⟩
  | case2 n s ih =>
    obtain ⟨hchain, hfront⟩ := ih (hskip h rfl)
    refine ⟨List.isChain_cons.mpr ⟨fun q hq => ⟨['\r', '\n'], by decide, ?_, ?_⟩, hchain⟩,
      List.forall_mem_cons.mpr ⟨List.nil_prefix, hfront⟩⟩
    · rw [fst_of_mem_head? hq, hskip (k := 2) h rfl, h]
      rfl
    · rw [fst_of_mem_head? hq]
      rfl
  | case3 n c s hcrlf hbreak ih =>
    obtain ⟨hchain, hfront⟩ := ih (hskip h rfl)
    refine ⟨List.isChain_cons.mpr ⟨fun q hq => ⟨[c], by simpa using hbreak, ?_, ?_⟩, hchain⟩,
      List.forall_mem_cons.mpr ⟨List.nil_prefix, hfront⟩⟩
    · rw [fst_of_mem_head? hq, hskip (k := 1) h rfl, h]
      rfl
    · rw [fst_of_mem_head? hq]
      rfl
  | case4 n c s hcrlf hbreak hnil ih =>
    refine ⟨.singleton _, List.forall_mem_singleton.mpr ?_⟩
    rw [h]
    exact List.prefix_append [c] s
  | case5 n c s hcrlf hbreak m l ls hcons ih =>
    obtain ⟨hchain, hfront⟩ := ih (hskip h rfl)
    obtain rfl : m = n + 1 := fst_of_mem_head? (p := (m, l)) (by rw [hcons]; rfl)
    rw [hcons] at hchain hfront
    obtain ⟨hnext, hchain⟩ := List.isChain_cons.mp hchain
    obtain ⟨hfirst, hfront⟩ := List.forall_mem_cons.mp hfront
    rw [hskip (k := 1) h rfl] at hfirst
    refine ⟨List.isChain_cons.mpr ⟨fun q hq => ?_, hchain⟩, List.forall_mem_cons.mpr ⟨?_, hfront⟩⟩
    · obtain ⟨ending, hending, hdrop, hplace⟩ := hnext q hq
      rw [hskip (k := 1) h rfl] at hdrop
      have hs : s = l ++ ending ++ text.drop q.1 := hdrop
      have hplace : q.1 = n + 1 + l.length + ending.length := hplace
      refine ⟨ending, hending, ?_, ?_⟩
      · rw [h]
        exact congrArg (c :: ·) hs
      · rw [hplace]
        show _ = n + (l.length + 1) + ending.length
        omega
    · rw [h]
      exact List.cons_prefix_cons.mpr ⟨rfl, hfirst⟩

/-! ## Lines read alone -/

/-- A line that opens and closes as much when it is read alone as it does in its place. -/
def NestsAlike (quotes text : List Char) (p : Nat × List Char) : Prop :=
  nestingOf quotes p.2 = nestingSum (((mark quotes text).drop p.1).take p.2.length)

def StartsClosing (line : List Char) : Prop :=
  (strip line).head? = some '\x7d'

instance (line : List Char) : Decidable (StartsClosing line) :=
  inferInstanceAs (Decidable ((strip line).head? = some '\x7d'))

theorem depthAt_follows {text : List Char} {p q : Nat × List Char} (h : Follows text p q)
    (halike : NestsAlike quotes text p) : depthAt quotes text q.1 = depthAt quotes text p.1 + nestingOf quotes p.2 := by
  obtain ⟨ending, hending, hdrop, hplace⟩ := h
  have hrest : ∀ m ∈ ((mark quotes text).drop (p.1 + p.2.length)).take ending.length, isBlank m.char = true := by
    intro m hm
    refine isBlank_of_isLineBreak (hending _ ?_)
    have hchar := List.mem_map_of_mem (f := Marked.char) hm
    rwa [List.map_take, List.map_drop, map_char_mark, ← List.drop_drop, hdrop, List.append_assoc, List.drop_left,
      List.take_left] at hchar
  rw [depthAt, depthAt, hplace, List.take_add, List.take_add, nestingSum_append, nestingSum_append,
    nestingSum_of_isBlank hrest, Int.add_zero, ← halike]

/-- A line that starts outside of strings: the first one, or one behind a break that is code. -/
def StartsOutside (quotes text : List Char) (p : Nat × List Char) : Prop :=
  p.1 = 0 ∨ CodeAt quotes text (p.1 - 1)

instance (quotes text : List Char) (p : Nat × List Char) : Decidable (StartsOutside quotes text p) :=
  inferInstanceAs (Decidable (_ ∨ _))

theorem fresh_of_startsOutside (hquotes : QuotesApart quotes) {text : List Char} {p : Nat × List Char}
    (h : StartsOutside quotes text p) : Fresh quotes text p.1 := by
  have hfeed : '\n' ∉ quotes := fun hmem => absurd (hquotes _ hmem).1 (by decide)
  by_cases hfirst : p.1 = 0
  · rw [hfirst]
    rfl
  · have hfresh := (fresh_of_codeAt hfeed (h.resolve_left hfirst)).2
    rwa [Nat.sub_add_cancel (Nat.pos_of_ne_zero hfirst)] at hfresh

/-- **A line that starts outside of strings is read alone as in its place.** -/
theorem nestsAlike_of_fresh {text : List Char} {p : Nat × List Char} (hfresh : Fresh quotes text p.1)
    (hfront : p.2 <+: text.drop p.1) : NestsAlike quotes text p := by
  obtain ⟨rest, hrest⟩ := hfront
  rw [NestsAlike, ← hfresh, ← hrest]
  exact nestingOf_start p.2 rest

theorem stripLeft_of_startsClosing {line : List Char} (h : StartsClosing line) :
    ∃ rest, stripLeft line = '\x7d' :: rest := by
  obtain ⟨trail, hleft, -⟩ := exists_trail (stripLeft line)
  obtain ⟨rest, hstrip⟩ := List.head?_eq_some_iff.mp h
  exact ⟨rest ++ trail, by rw [hleft, ← strip, hstrip]; rfl⟩

/-- A closing brace at the start of a line closes a brace of the text. -/
theorem one_le_depthAt_of_fresh (hquotes : QuotesApart quotes) {text : List Char}
    {p : Nat × List Char} (hfresh : Fresh quotes text p.1) (hfront : p.2 <+: text.drop p.1)
    (hnonneg : ∀ n, 0 ≤ depthAt quotes text n) (hclosing : StartsClosing p.2) : 1 ≤ depthAt quotes text p.1 := by
  obtain ⟨rest, hrest⟩ := hfront
  obtain ⟨tail, htail⟩ := stripLeft_of_startsClosing hclosing
  obtain ⟨indent, hline, hindent⟩ := exists_indent p.2
  have hbrace : '\x7d' ∉ quotes := fun hmem => (hquotes _ hmem).2.2 rfl
  have hmark : (mark quotes text).drop p.1 =
      indent.map (⟨·, .code⟩) ++ ⟨'\x7d', .code⟩ :: mark quotes (tail ++ rest) := by
    rw [← hfresh, ← hrest, hline, htail, List.append_assoc, mark_blanks hquotes hindent,
      List.cons_append, mark, markFrom_code hbrace fun h => absurd h (by decide)]
    rfl
  have hafter : depthAt quotes text (p.1 + (indent.length + 1)) = depthAt quotes text p.1 - 1 := by
    have htake : (indent.map (Marked.mk · .code) ++ ⟨'\x7d', .code⟩ :: mark quotes (tail ++ rest)).take
        (indent.length + 1) = indent.map (Marked.mk · .code) ++ [⟨'\x7d', .code⟩] := by
      rw [List.take_append, List.length_map, List.take_of_length_le (by simp), Nat.add_sub_cancel_left]
      rfl
    rw [depthAt, List.take_add, nestingSum_append, hmark, htake, nestingSum_append, nestingSum_blanks hindent]
    rfl
  have hnext := hnonneg (p.1 + (indent.length + 1))
  omega

/-! ## Levels -/

/-- The nesting after some lines, each of them read alone. -/
def runningDepth (quotes : List Char) (depth : Nat) (lines : List (List Char)) : Nat :=
  lines.foldl (fun d l => (d + nestingOf quotes (strip l)).toNat) depth

theorem getElem?_levelled (depth : Nat) (lines : List (List Char)) (k : Nat) :
    (levelled quotes depth lines)[k]? = (lines[k]?).map fun l =>
      ⟨runningDepth quotes depth (lines.take k) - if StartsClosing l then 1 else 0, strip l⟩ := by
  induction lines generalizing depth k with
  | nil => rfl
  | cons l lines ih =>
    cases k with
    | zero =>
      rw [levelled, List.getElem?_cons_zero, List.getElem?_cons_zero, Option.map_some]
      by_cases hclosing : StartsClosing l
      · rw [if_pos hclosing, if_pos (show (strip l).head? = some '\x7d' from hclosing)]
        rfl
      · rw [if_neg hclosing, if_neg (show ¬ (strip l).head? = some '\x7d' from hclosing)]
        rfl
    | succ k =>
      rw [levelled, List.getElem?_cons_succ, List.getElem?_cons_succ, ih]
      rfl

/-- **Lines that are read alike add up to the nesting of the text.** -/
theorem runningDepth_eq (hquotes : QuotesApart quotes) {text : List Char}
    (hnonneg : ∀ n, 0 ≤ depthAt quotes text n) {ps : List (Nat × List Char)} (hchain : ps.IsChain (Follows text))
    {depth : Nat} (hdepth : ∀ p ∈ ps.head?, (depth : Int) = depthAt quotes text p.1) {k : Nat}
    (halike : ∀ q ∈ ps.take k, NestsAlike quotes text q) {p : Nat × List Char} (hp : ps[k]? = some p) :
    (runningDepth quotes depth ((ps.take k).map Prod.snd) : Int) = depthAt quotes text p.1 := by
  induction ps generalizing depth k with
  | nil => cases hp
  | cons q ps ih =>
    have hq := hdepth q rfl
    cases k with
    | zero =>
      cases hp
      exact hq
    | succ k =>
      obtain ⟨hnext, hchain⟩ := List.isChain_cons.mp hchain
      obtain ⟨hqalike, halike⟩ := List.forall_mem_cons.mp halike
      refine ih hchain (fun p' hp' => ?_) halike hp
      have hstep := depthAt_follows (hnext p' hp') hqalike
      show ((depth + nestingOf quotes (strip q.2)).toNat : Int) = _
      rw [nestingOf_strip hquotes, hq, ← hstep]
      exact Int.toNat_of_nonneg (hnonneg p'.1)

theorem getElem?_braceLines (body : List Char) (k : Nat) :
    (braceLines quotes body)[k]? = ((placedLines 0 (withoutComments quotes body))[k]?).map fun p =>
      ⟨runningDepth quotes 0 (((placedLines 0 (withoutComments quotes body)).take k).map Prod.snd) -
        if StartsClosing p.2 then 1 else 0, strip p.2⟩ := by
  rw [braceLines, getElem?_levelled, ← map_snd_placedLines 0, List.getElem?_map, List.map_take, Option.map_map]
  rfl

/-- The level of a line by the braces of the whole text in front of it; a line that starts with a closing brace belongs
one level further out. -/
def placedLevel (quotes text : List Char) (p : Nat × List Char) : Int :=
  depthAt quotes text p.1 - if StartsClosing p.2 then 1 else 0

/-- **Levels are those of the whole body wherever lines are read alone as in their places.** In a body between matching
braces, without its comments, no place closes more than is open. A line below lines that are read alike has the level
that the braces of the whole body in front of it give, unless it starts with a closing brace where none is open. A line
that starts outside of strings is read alike and is no such line; so all levels are right if no string goes on over the
end of a line. -/
theorem level_eq_iff {r : ScanRules} (hr : r ∈ [javascript, typescript, go]) {text : List Char} {i j : Nat}
    (hopen : text[i]? = some '\x7b') (hclose : matchingBrace? r.quotes (text.drop i) = some j) :
    let body := slice text (i + 1) (i + j)
    let stripped := withoutComments r.quotes body
    (∀ n, 0 ≤ depthAt r.quotes stripped n) ∧
      (∀ (k : Nat) (p : Nat × List Char), (placedLines 0 stripped)[k]? = some p →
        (∀ q ∈ (placedLines 0 stripped).take k, NestsAlike r.quotes stripped q) →
        ∃ level, (braceLines r.quotes body)[k]? = some ⟨level, strip p.2⟩ ∧
          ((level : Int) = placedLevel r.quotes stripped p ↔
            (StartsClosing p.2 → 1 ≤ depthAt r.quotes stripped p.1))) ∧
      (∀ p ∈ placedLines 0 stripped, StartsOutside r.quotes stripped p →
        NestsAlike r.quotes stripped p ∧ (StartsClosing p.2 → 1 ≤ depthAt r.quotes stripped p.1)) ∧
      ((∀ p ∈ placedLines 0 stripped, StartsOutside r.quotes stripped p) →
        (braceLines r.quotes body).map (fun l => ((l.level : Int), l.text)) =
          (placedLines 0 stripped).map fun p => (placedLevel r.quotes stripped p, strip p.2)) := by
  intro body stripped
  have hquotes : QuotesApart r.quotes := by
    have hall : ∀ r ∈ [javascript, typescript, go], ∀ q ∈ r.quotes, isBlank q = false ∧ q ≠ '\x7b' ∧ q ≠ '\x7d' := by
      decide
    exact hall r hr
  have hnonneg : ∀ n, 0 ≤ depthAt r.quotes stripped n := depthAt_nonneg hquotes hopen hclose
  obtain ⟨hchain, hfront⟩ := isChain_placedLines (show stripped.drop 0 = stripped from rfl)
  have hstart : ∀ p ∈ (placedLines 0 stripped).head?, ((0 : Nat) : Int) = depthAt r.quotes stripped p.1 := by
    intro p hp
    rw [fst_of_mem_head? hp]
    rfl
  have hlevel (k : Nat) (p : Nat × List Char) (hp : (placedLines 0 stripped)[k]? = some p)
      (halike : ∀ q ∈ (placedLines 0 stripped).take k, NestsAlike r.quotes stripped q) :
      ∃ level, (braceLines r.quotes body)[k]? = some ⟨level, strip p.2⟩ ∧
        ((level : Int) = placedLevel r.quotes stripped p ↔
          (StartsClosing p.2 → 1 ≤ depthAt r.quotes stripped p.1)) := by
    have hdepth := runningDepth_eq hquotes hnonneg hchain hstart halike hp
    refine ⟨runningDepth r.quotes 0 (((placedLines 0 stripped).take k).map Prod.snd) -
      if StartsClosing p.2 then 1 else 0, by rw [getElem?_braceLines, hp]; rfl, ?_⟩
    rw [placedLevel, ← hdepth]
    by_cases hclosing : StartsClosing p.2
    · rw [if_pos hclosing, if_pos hclosing, imp_iff_right hclosing]
      omega
    · rw [if_neg hclosing, if_neg hclosing]
      simp [hclosing]
  have houtside : ∀ p ∈ placedLines 0 stripped, StartsOutside r.quotes stripped p →
      NestsAlike r.quotes stripped p ∧ (StartsClosing p.2 → 1 ≤ depthAt r.quotes stripped p.1) := by
    intro p hp h
    have hfresh := fresh_of_startsOutside hquotes h
    exact ⟨nestsAlike_of_fresh hfresh (hfront p hp), one_le_depthAt_of_fresh hquotes hfresh (hfront p hp) hnonneg⟩
  refine ⟨hnonneg, hlevel, houtside, fun hall => List.ext_getElem? fun k => ?_⟩
  rw [List.getElem?_map, List.getElem?_map]
  cases hp : (placedLines 0 stripped)[k]? with
  | none => rw [getElem?_braceLines, hp]; rfl
  | some p =>
    have hmem : p ∈ placedLines 0 stripped := List.mem_of_getElem? hp
    obtain ⟨level, hline, hright⟩ := hlevel k p hp fun q hq =>
      (houtside q (List.mem_of_mem_take hq) (hall q (List.mem_of_mem_take hq))).1
    rw [hline, Option.map_some, Option.map_some, hright.mpr (houtside p hmem (hall p hmem)).2]

/-- A block in a function, with braces in a string and in a comment. -/
def nestedBlock : List Char :=
  "\x7b\n  if (ready) \x7b\n    log('\x7d'); // \x7d\n  \x7d\n  return;\n\x7d".toList

theorem level_eq_iff_nested :
    (braceLines javascript.quotes (slice nestedBlock 1 50)).map (fun l => ((l.level : Int), l.text)) =
      [(0, []), (0, "if (ready) \x7b".toList), (1, "log('\x7d');".toList), (0, "\x7d".toList),
        (0, "return;".toList)] := by
  have hclose : matchingBrace? javascript.quotes (nestedBlock.drop 0) = some 50 := by decide +kernel
  obtain ⟨-, -, -, hlevels⟩ := @level_eq_iff javascript (by simp) nestedBlock 0 50 (by decide) hclose
  exact (hlevels (by decide +kernel)).trans (by decide +kernel)

/-- A function that returns behind a string over several lines with a brace in it. -/
def templateBlock : List Char :=
  "\x7b\n  const s = \x60\n  \x7b\n  \x60;\n  return;\n  expect(1).toBe(2);\n\x7d".toList

/-- **A brace in a string over several lines counts:** the return below it stands at the top of the body, but one level
down by its line, so that the assertion behind it is counted. -/
theorem template_level_wrong :
    matchingBrace? javascript.quotes (templateBlock.drop 0) = some 56 ∧
      (braceLines javascript.quotes (slice templateBlock 1 56)).map (fun l => (l.level : Int)) = [0, 0, 0, 1, 1, 1] ∧
      (placedLines 0 (withoutComments javascript.quotes (slice templateBlock 1 56))).map
        (placedLevel javascript.quotes (withoutComments javascript.quotes (slice templateBlock 1 56))) =
          [0, 0, 0, 0, 0, 0] ∧
      javascript.facts [] (braceLines javascript.quotes (slice templateBlock 1 56)) =
        { statements := 3, assertions := 1 } := by
  decide +kernel

end ScenarioAudit.Scan
