import Mathlib.Data.List.Forall2
import ScenarioAudit.Proofs.Scan.Prefix

/-! # Reading one character after the other

What a character belongs to depends on where the reader is and on the one character behind it (`partOf`). So a text can
be marked character by character (`markFrom_eq_read`), with the second character of a pair such as `//` as a place of
its own. From this come the laws of marked texts: marking keeps the text (`map_char_mark`), after a character of code
the reader starts afresh (`mark_after_code`), and more text behind a text changes its marks by a slash at most that
opens a comment (`mark_append_agrees`), so a brace that is found stays the first one (`openBrace?_take`) and nesting
stays what it is (`nestingOf_start`).
-/

namespace ScenarioAudit.Scan

open ScenarioAudit.Text

variable {quotes : List Char}

/-! ## The reader -/

/-- Where a reader is: in some part of the text, or at the second character of a pair after which it is there. -/
inductive Reader where
  | inside (mode : Mode)
  | second (mode : Mode)
  deriving DecidableEq

/-- What a pair belongs to, by what comes after it: an escape is within a string, and else a comment starts or ends. -/
def Mode.pair : Mode → Part
  | .quoted _ => .quoted
  | .code | .lineComment | .blockComment => .comment

/-- What the next character belongs to, by the one behind it. -/
def partOf (quotes : List Char) : Reader → Char → Option Char → Part
  | .second mode, _, _ => mode.pair
  | .inside .code, c, behind =>
    if quotes.contains c then .quoted
    else if c = '/' ∧ (behind = some '/' ∨ behind = some '*') then .comment
    else .code
  | .inside (.quoted q), c, _ =>
    if c = '\\' ∧ q ≠ backquote then .quoted
    else if c = q then .quoted
    else if c = '\n' ∧ q ≠ backquote then feedPart quotes
    else .quoted
  | .inside .lineComment, c, _ => if c = '\n' then feedPart quotes else .comment
  | .inside .blockComment, _, _ => .comment

/-- Where the reader is after the next character. -/
def advance (quotes : List Char) : Reader → Char → Option Char → Reader
  | .second mode, _, _ => .inside mode
  | .inside .code, c, behind =>
    if quotes.contains c then .inside (.quoted c)
    else if c = '/' ∧ behind = some '/' then .second .lineComment
    else if c = '/' ∧ behind = some '*' then .second .blockComment
    else .inside .code
  | .inside (.quoted q), c, _ =>
    if c = '\\' ∧ q ≠ backquote then .second (.quoted q)
    else if c = q then .inside .code
    else if c = '\n' ∧ q ≠ backquote then .inside (feedMode quotes)
    else .inside (.quoted q)
  | .inside .lineComment, c, _ => if c = '\n' then .inside (feedMode quotes) else .inside .lineComment
  | .inside .blockComment, c, behind =>
    if c = '*' ∧ behind = some '/' then .second .code else .inside .blockComment

/-- Marks a text character by character. -/
def read (quotes : List Char) : Reader → List Char → List Marked
  | _, [] => []
  | r, c :: s => ⟨c, partOf quotes r c s.head?⟩ :: read quotes (advance quotes r c s.head?) s

/-- **Marking a text is reading it character by character.** -/
theorem markFrom_eq_read (mode : Mode) (s : List Char) : markFrom quotes mode s = read quotes (.inside mode) s := by
  -- A character that opens no pair with the one behind it.
  have hsingle {c d e : Char} {s : List Char} (h : ∀ t, c = d → s = e :: t → False) : ¬ (c = d ∧ s.head? = some e) := by
    rintro ⟨hc, hhead⟩
    obtain ⟨t, ht⟩ := List.head?_eq_some_iff.mp hhead
    exact h t hc ht
  fun_induction markFrom quotes mode s with
  | case1 => rfl
  | case2 c s hc ih => rw [read, partOf, advance, if_pos hc, if_pos hc, ih]
  | case3 s hc ih => simp [read, partOf, advance, Mode.pair, show '/' ∉ quotes by simpa using hc, ih]
  | case4 s hc ih => simp [read, partOf, advance, Mode.pair, show '/' ∉ quotes by simpa using hc, ih]
  | case5 c s hline hblock hc ih =>
    have hcomment : ¬ (c = '/' ∧ (s.head? = some '/' ∨ s.head? = some '*')) := by
      rintro ⟨hslash, hhead | hhead⟩
      · exact hsingle hline ⟨hslash, hhead⟩
      · exact hsingle hblock ⟨hslash, hhead⟩
    rw [read, partOf, advance, if_neg hc, if_neg hc, if_neg hcomment, if_neg (hsingle hline), if_neg (hsingle hblock), ih]
  | case6 q c hc => rw [read, read, partOf, if_pos hc]
  | case7 q c hc d s ih => rw [read, read, partOf, advance, if_pos hc, if_pos hc, partOf, advance, ih, Mode.pair]
  | case8 c s hc ih => rw [read, partOf, advance, if_neg hc, if_neg hc, if_pos rfl, if_pos rfl, ih]
  | case9 q c s hc hq hfeed ih =>
    rw [read, partOf, advance, if_neg hc, if_neg hc, if_neg hq, if_neg hq, if_pos hfeed, if_pos hfeed, ih]
  | case10 q c s hc hq hfeed ih =>
    rw [read, partOf, advance, if_neg hc, if_neg hc, if_neg hq, if_neg hq, if_neg hfeed, if_neg hfeed, ih]
  | case11 s ih => rw [read, partOf, advance, if_pos rfl, if_pos rfl, ih]
  | case12 c s hc ih => rw [read, partOf, advance, if_neg hc, if_neg hc, ih]
  | case13 s ih => rw [read, read, partOf, advance, if_pos ⟨rfl, rfl⟩, partOf, advance, ih, Mode.pair]
  | case14 c s hc ih => rw [read, partOf, advance, if_neg (hsingle hc), ih]

theorem mark_eq_read (s : List Char) : mark quotes s = read quotes (.inside .code) s :=
  markFrom_eq_read .code s

/-! ## Laws of marked texts -/

theorem map_char_read (r : Reader) (s : List Char) : (read quotes r s).map Marked.char = s := by
  induction s generalizing r with
  | nil => rfl
  | cons c s ih => rw [read, List.map_cons, ih]

/-- **Marking keeps the text.** -/
@[simp] theorem map_char_mark (s : List Char) : (mark quotes s).map Marked.char = s := by
  rw [mark_eq_read, map_char_read]

@[simp] theorem length_mark (s : List Char) : (mark quotes s).length = s.length := by
  have h := congrArg List.length (@map_char_mark quotes s)
  rwa [List.length_map] at h

theorem getElem?_mark (text : List Char) (i : Nat) : text[i]? = ((mark quotes text)[i]?).map Marked.char := by
  rw [← List.getElem?_map, map_char_mark]

theorem advance_of_code {r : Reader} {c : Char} {behind : Option Char} (h : partOf quotes r c behind = .code) :
    advance quotes r c behind = .inside .code := by
  cases r with
  | second mode => cases mode <;> cases h
  | inside mode =>
    cases mode with
    | code =>
      rw [partOf] at h
      by_cases hquote : quotes.contains c = true
      · rw [if_pos hquote] at h
        cases h
      · rw [if_neg hquote] at h
        have hcomment : ¬ (c = '/' ∧ (behind = some '/' ∨ behind = some '*')) := by
          intro hpair
          rw [if_pos hpair] at h
          cases h
        rw [advance, if_neg hquote, if_neg fun hpair => hcomment ⟨hpair.1, Or.inl hpair.2⟩,
          if_neg fun hpair => hcomment ⟨hpair.1, Or.inr hpair.2⟩]
    | quoted q =>
      rw [partOf] at h
      by_cases hescape : c = '\\' ∧ q ≠ backquote
      · rw [if_pos hescape] at h
        cases h
      · rw [if_neg hescape] at h
        by_cases hq : c = q
        · rw [if_pos hq] at h
          cases h
        · rw [if_neg hq] at h
          by_cases hfeed : c = '\n' ∧ q ≠ backquote
          · rw [if_pos hfeed] at h
            rw [advance, if_neg hescape, if_neg hq, if_pos hfeed, feedMode_of_not_mem (not_mem_of_feedPart h)]
          · rw [if_neg hfeed] at h
            cases h
    | lineComment =>
      rw [partOf] at h
      by_cases hfeed : c = '\n'
      · rw [if_pos hfeed] at h
        rw [advance, if_pos hfeed, feedMode_of_not_mem (not_mem_of_feedPart h)]
      · rw [if_neg hfeed] at h
        cases h
    | blockComment => cases h

theorem read_after_code {r : Reader} {s : List Char} {a b : List Marked} {c : Char}
    (h : read quotes r s = a ++ ⟨c, .code⟩ :: b) : b = mark quotes (b.map Marked.char) := by
  induction s generalizing r a with
  | nil => cases a <;> cases h
  | cons d s ih =>
    rw [read] at h
    cases a with
    | nil =>
      obtain ⟨hmark, rfl⟩ := List.cons.inj h
      rw [map_char_read, mark_eq_read, advance_of_code (congrArg Marked.part hmark)]
    | cons m a =>
      obtain ⟨-, h⟩ := List.cons.inj h
      exact ih h

/-- **After a character of code the reader starts afresh.** -/
theorem mark_after_code {s : List Char} {a b : List Marked} {c : Char} (h : mark quotes s = a ++ ⟨c, .code⟩ :: b) :
    b = mark quotes (b.map Marked.char) := by
  rw [mark_eq_read] at h
  exact read_after_code h

/-! ## More text behind -/

/-- Marks of one character that agree, unless it is a slash. -/
def Agree (m m' : Marked) : Prop :=
  m = m' ∨ m.char = '/' ∧ m'.char = '/'

theorem read_append_agrees (r : Reader) (s t : List Char) :
    List.Forall₂ Agree (read quotes r s) ((read quotes r (s ++ t)).take s.length) := by
  induction s generalizing r with
  | nil => exact .nil
  | cons c s ih =>
    rw [List.cons_append, read, read, List.length_cons, List.take_succ_cons]
    cases s with
    | nil =>
      refine .cons ?_ .nil
      by_cases hslash : c = '/'
      · exact Or.inr ⟨hslash, hslash⟩
      · -- Nothing but a slash looks at the character behind it.
        have hsame (behind : Option Char) : partOf quotes r c behind = partOf quotes r c none := by
          cases r with
          | second mode => rfl
          | inside mode =>
            cases mode with
            | code => simp only [partOf, hslash, false_and]
            | _ => rfl
        exact Or.inl (congrArg (Marked.mk c) (hsame _).symm)
    | cons d s => exact .cons (Or.inl rfl) (ih _)

/-- **More text behind a text changes its marks by a slash at most.** -/
theorem mark_append_agrees (s t : List Char) :
    List.Forall₂ Agree (mark quotes s) ((mark quotes (s ++ t)).take s.length) := by
  rw [mark_eq_read, mark_eq_read]
  exact read_append_agrees _ s t

theorem Agree.isCode {m m' : Marked} (h : Agree m m') {c : Char} (hc : c ≠ '/') : m.isCode c = m'.isCode c := by
  rcases h with rfl | ⟨hm, hm'⟩
  · rfl
  · simp [Marked.isCode, hm, hm', hc.symm]

theorem findIdx?_congr {l l' : List Marked} {p : Marked → Bool} (h : List.Forall₂ (fun m m' => p m = p m') l l') :
    l.findIdx? p = l'.findIdx? p := by
  induction h with
  | nil => rfl
  | cons hm _ ih => rw [List.findIdx?_cons, List.findIdx?_cons, hm, ih]

theorem lt_length_of_openBrace? {s : List Char} {i : Nat} (h : openBrace? quotes s = some i) : i < s.length := by
  obtain ⟨hlt, -⟩ := List.findIdx?_eq_some_iff_getElem.mp h
  rwa [length_mark] at hlt

/-- **A brace is the first one of every text that goes on behind it.** -/
theorem openBrace?_take {s : List Char} {n i : Nat} :
    openBrace? quotes (s.take n) = some i ↔ openBrace? quotes s = some i ∧ i < n := by
  have hagree := @mark_append_agrees quotes (s.take n) (s.drop n)
  rw [List.take_append_drop] at hagree
  have hcut : (mark quotes s).take (s.take n).length = (mark quotes s).take n := by
    rw [List.length_take, ← @length_mark quotes s, ← List.take_take, List.take_length]
  rw [openBrace?, findIdx?_congr (hagree.imp fun m m' h => h.isCode (by decide)), hcut, List.findIdx?_take, openBrace?]
  simp [Option.bind_eq_some_iff, Option.guard_eq_some_iff]

/-! ## Sums of nesting -/

/-- The change of nesting over marked characters. -/
def nestingSum (ms : List Marked) : Int :=
  ms.foldr (fun m n => m.nesting + n) 0

theorem nestingOf_eq (s : List Char) : nestingOf quotes s = nestingSum (mark quotes s) :=
  rfl

@[simp] theorem nestingSum_nil : nestingSum [] = 0 :=
  rfl

theorem nestingSum_cons (m : Marked) (ms : List Marked) : nestingSum (m :: ms) = m.nesting + nestingSum ms :=
  rfl

@[simp] theorem nestingSum_append (ms ms' : List Marked) : nestingSum (ms ++ ms') = nestingSum ms + nestingSum ms' := by
  induction ms with
  | nil => exact (Int.zero_add _).symm
  | cons m ms ih => rw [List.cons_append, nestingSum_cons, nestingSum_cons, ih, Int.add_assoc]

theorem nesting_of_ne {m : Marked} (hopen : m.char ≠ '\x7b') (hclose : m.char ≠ '\x7d') : m.nesting = 0 := by
  simp [Marked.nesting, Marked.isCode, hopen, hclose]

theorem nestingSum_congr {ms ms' : List Marked} (h : List.Forall₂ Agree ms ms') : nestingSum ms = nestingSum ms' := by
  induction h with
  | nil => rfl
  | cons hm _ ih =>
    rw [nestingSum_cons, nestingSum_cons, ih, Marked.nesting, Marked.nesting, hm.isCode (by decide),
      hm.isCode (by decide)]

/-- **A text nests as it does at the start of a longer one.** -/
theorem nestingOf_start (s t : List Char) :
    nestingOf quotes s = nestingSum ((mark quotes (s ++ t)).take s.length) := by
  rw [nestingOf_eq]
  exact nestingSum_congr (mark_append_agrees s t)

end ScenarioAudit.Scan
