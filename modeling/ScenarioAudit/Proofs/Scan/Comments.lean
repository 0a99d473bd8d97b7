import ScenarioAudit.Proofs.Scan.Bindings
import ScenarioAudit.Proofs.Scan.Marks

/-! # A text without its comments

Where comments are left out, everything else is read as it was (`mark_withoutComments`): what stood in code or in a
string still does, and nothing new becomes a comment. So each place of a text has a place in the text without comments
(`shift`), and what the scanner counts or looks for in code is found at the place that belongs to it: the end of a line
(`endOfLine_bare`), the end of a number of lines (`afterLines_bare`), the first brace (`openBrace?_withoutComments`), the
brace that matches it (`matchingBrace?_withoutComments`). A body has the same lines in both (`braceLines_bare`).
-/

namespace ScenarioAudit.Scan

open ScenarioAudit.Text

variable {quotes : List Char} {ms : List Marked}

/-- How a character that stays is read without the comments. -/
def Marked.bare (m : Marked) : Marked :=
  if m.part = .comment then ⟨m.char, .code⟩ else m

def plain (ms : List Marked) : List Char :=
  ms.map Marked.char

/-- The marks of the text without comments. -/
def bareMarks (ms : List Marked) : List Marked :=
  (ms.filter Marked.stays).map Marked.bare

/-- The place in the text without comments that a place of the text goes to. -/
def shift (ms : List Marked) (n : Nat) : Nat :=
  (bare (ms.take n)).length

@[simp] theorem plain_mark (text : List Char) : plain (mark quotes text) = text :=
  map_char_mark text

theorem plain_append (ms ms' : List Marked) : plain (ms ++ ms') = plain ms ++ plain ms' :=
  List.map_append

theorem plain_take (ms : List Marked) (n : Nat) : (plain ms).take n = plain (ms.take n) :=
  List.map_take.symm

theorem plain_drop (ms : List Marked) (n : Nat) : (plain ms).drop n = plain (ms.drop n) :=
  List.map_drop.symm

theorem bareMarks_cons (m : Marked) (ms : List Marked) :
    bareMarks (m :: ms) = if m.stays then m.bare :: bareMarks ms else bareMarks ms := by
  rw [bareMarks, List.filter_cons]
  split
  · rfl
  · rfl

theorem char_bare (m : Marked) : m.bare.char = m.char := by
  rw [Marked.bare]
  split
  · rfl
  · rfl

theorem stays_bare (m : Marked) : m.bare.stays = true := by
  rw [Marked.stays, Marked.bare]
  split
  · rfl
  · next h => simp [h]

theorem bare_bareMarks (ms : List Marked) : bare (bareMarks ms) = bare ms := by
  induction ms with
  | nil => rfl
  | cons m ms ih =>
    rw [bareMarks_cons, bare_cons]
    split
    · rw [bare_cons, if_pos (stays_bare m), char_bare, ih]
    · exact ih

/-! ## Reading without comments -/

def Reader.bare : Reader → Reader
  | .inside (.quoted q) => .inside (.quoted q)
  | .second (.quoted q) => .second (.quoted q)
  | .inside _ | .second _ => .inside .code

theorem bare_of_comment {r : Reader} {c : Char} {behind : Option Char} (h : partOf quotes r c behind = .comment) :
    r.bare = .inside .code ∧ (advance quotes r c behind).bare = .inside .code := by
  cases r with
  | second mode => cases mode <;> first | exact ⟨rfl, rfl⟩ | cases h
  | inside mode =>
    cases mode with
    | code =>
      refine ⟨rfl, ?_⟩
      rw [partOf] at h
      rw [advance]
      split at h
      · cases h
      · next hquote =>
        rw [if_neg hquote]
        split
        · rfl
        · split
          · rfl
          · rfl
    | quoted q =>
      exfalso
      rw [partOf] at h
      split at h
      · cases h
      · split at h
        · cases h
        · split at h
          · exact feedPart_ne_comment h
          · cases h
    | lineComment =>
      refine ⟨rfl, ?_⟩
      rw [partOf] at h
      split at h
      · exact absurd h feedPart_ne_comment
      · next hc =>
        rw [advance, if_neg hc]
        rfl
    | blockComment =>
      refine ⟨rfl, ?_⟩
      rw [advance]
      split
      · rfl
      · rfl

theorem feed_of_code (hquotes : '\n' ∉ quotes) (behind : Option Char) :
    partOf quotes (.inside .code) '\n' behind = .code ∧ advance quotes (.inside .code) '\n' behind = .inside .code := by
  simp [partOf, advance, hquotes]

theorem head?_bare_read {s : List Char} (hs : s.head? ≠ some '/') :
    (bare (read quotes (.inside .code) s)).head? = s.head? := by
  cases s with
  | nil => rfl
  | cons c s =>
    have hstays : Marked.stays ⟨c, partOf quotes (.inside .code) c s.head?⟩ = true := by
      have hslash : c ≠ '/' := fun h => hs (by rw [h]; rfl)
      simp only [Marked.stays, partOf, hslash, false_and, if_false]
      split
      · rfl
      · rfl
    rw [read, bare_cons, if_pos hstays]
    rfl

/-- A character that is no comment belongs to the same, and leads to the same, without the comments behind it. -/
theorem bare_of_not_comment (hquotes : '\n' ∉ quotes) {r : Reader} {c : Char} {s : List Char}
    (h : partOf quotes r c s.head? ≠ .comment) :
    let behind := (bare (read quotes (advance quotes r c s.head?) s)).head?
    partOf quotes r.bare c behind = partOf quotes r c s.head? ∧
      advance quotes r.bare c behind = (advance quotes r c s.head?).bare := by
  cases r with
  | second mode => cases mode <;> first | exact ⟨rfl, rfl⟩ | exact absurd rfl h
  | inside mode =>
    cases mode with
    | blockComment => exact absurd rfl h
    | lineComment =>
      rw [partOf] at h
      split at h
      · next hc =>
        subst hc
        intro behind
        have hpart : partOf quotes (.inside .lineComment) '\n' s.head? = .code := feedPart_of_not_mem hquotes
        have hadvance : advance quotes (.inside .lineComment) '\n' s.head? = .inside .code :=
          congrArg Reader.inside (feedMode_of_not_mem hquotes)
        rw [hpart, hadvance]
        exact feed_of_code hquotes behind
      · exact absurd rfl h
    | quoted q =>
      refine ⟨rfl, ?_⟩
      dsimp only [Reader.bare]
      rw [advance, advance]
      split
      · rfl
      · split
        · rfl
        · split
          · rw [feedMode_of_not_mem hquotes]
          · rfl
    | code =>
      by_cases hquote : quotes.contains c = true
      · simp only [partOf, advance, Reader.bare, if_pos hquote]
        exact ⟨trivial, trivial⟩
      · rw [partOf, if_neg hquote] at h
        have hpair : ¬ (c = '/' ∧ (s.head? = some '/' ∨ s.head? = some '*')) := fun hpair => h (if_pos hpair)
        have hadvance : advance quotes (.inside .code) c s.head? = .inside .code := by
          rw [advance, if_neg hquote, if_neg fun h => hpair ⟨h.1, Or.inl h.2⟩, if_neg fun h => hpair ⟨h.1, Or.inr h.2⟩]
        rw [hadvance]
        dsimp only [Reader.bare]
        by_cases hslash : c = '/'
        · have hs : s.head? ≠ some '/' := fun h => hpair ⟨hslash, Or.inl h⟩
          rw [head?_bare_read hs]
          exact ⟨rfl, hadvance⟩
        · simp only [partOf, advance, hslash, false_and, if_false, if_neg hquote, and_self]

theorem read_bare (hquotes : '\n' ∉ quotes) (r : Reader) (s : List Char) :
    read quotes r.bare (bare (read quotes r s)) = bareMarks (read quotes r s) := by
  induction s generalizing r with
  | nil => rfl
  | cons c s ih =>
    rw [read, bare_cons, bareMarks_cons]
    by_cases hcomment : partOf quotes r c s.head? = .comment
    · obtain ⟨hbare, hadvance⟩ := bare_of_comment hcomment
      have hrest := ih (advance quotes r c s.head?)
      rw [hadvance] at hrest
      by_cases hc : c = '\n'
      · -- A line feed of a comment is read as one of code.
        subst hc
        have hstays : Marked.stays ⟨'\n', partOf quotes r '\n' s.head?⟩ = true := by simp [Marked.stays]
        obtain ⟨hpart, hcode⟩ := feed_of_code hquotes (bare (read quotes (advance quotes r '\n' s.head?) s)).head?
        rw [if_pos hstays, if_pos hstays, hbare, read, Marked.bare, if_pos hcomment, hpart, hcode, hrest]
      · have hstays : ¬ Marked.stays ⟨c, partOf quotes r c s.head?⟩ = true := by simp [Marked.stays, hcomment, hc]
        rw [if_neg hstays, if_neg hstays, hbare, hrest]
    · have hstays : Marked.stays ⟨c, partOf quotes r c s.head?⟩ = true := by simp [Marked.stays, hcomment]
      obtain ⟨hpart, hadvance⟩ := bare_of_not_comment hquotes hcomment
      rw [if_pos hstays, if_pos hstays, read, hpart, hadvance, ih, Marked.bare, if_neg hcomment]

/-- **Without comments, everything else is read as it was.** -/
theorem mark_withoutComments (hquotes : '\n' ∉ quotes) (text : List Char) :
    mark quotes (withoutComments quotes text) = bareMarks (mark quotes text) := by
  rw [withoutComments_eq, mark_eq_read, mark_eq_read]
  exact read_bare hquotes (.inside .code) text

/-- **Leaving comments out once is enough.** -/
theorem withoutComments_withoutComments (hquotes : '\n' ∉ quotes) (text : List Char) :
    withoutComments quotes (withoutComments quotes text) = withoutComments quotes text := by
  rw [withoutComments_eq, mark_withoutComments hquotes, bare_bareMarks, withoutComments_eq]

/-! ## Places -/

theorem bare_take (ms : List Marked) (n : Nat) : (bare ms).take (shift ms n) = bare (ms.take n) := by
  conv => lhs; arg 2; rw [← List.take_append_drop n ms, bare_append]
  exact List.take_left

theorem bare_drop (ms : List Marked) (n : Nat) : (bare ms).drop (shift ms n) = bare (ms.drop n) := by
  conv => lhs; arg 2; rw [← List.take_append_drop n ms, bare_append]
  exact List.drop_left

@[simp] theorem shift_zero (ms : List Marked) : shift ms 0 = 0 := rfl

theorem shift_cons (m : Marked) (ms : List Marked) (n : Nat) :
    shift (m :: ms) (n + 1) = if m.stays then shift ms n + 1 else shift ms n := by
  rw [shift, List.take_succ_cons, bare_cons]
  split
  · rfl
  · rfl

theorem shift_add (ms : List Marked) (n k : Nat) : shift ms (n + k) = shift ms n + shift (ms.drop n) k := by
  rw [shift, List.take_add, bare_append, List.length_append]
  rfl

theorem shift_mono (ms : List Marked) {n k : Nat} (h : n ≤ k) : shift ms n ≤ shift ms k := by
  obtain ⟨d, rfl⟩ := Nat.exists_eq_add_of_le h
  rw [shift_add]
  exact Nat.le_add_right _ _

theorem shift_of_length_le {n : Nat} (h : ms.length ≤ n) : shift ms n = (bare ms).length := by
  rw [shift, List.take_of_length_le h]

theorem length_withoutComments (text : List Char) :
    (withoutComments quotes text).length = shift (mark quotes text) text.length := by
  rw [withoutComments_eq, shift_of_length_le (Nat.le_of_eq (length_mark text))]

/-- Places in front of a character that stays go to places in front of it. -/
theorem shift_lt {n k : Nat} {m : Marked} (hm : ms[n]? = some m) (hstays : m.stays = true) (h : n < k) :
    shift ms n < shift ms k := by
  have hsucc : shift ms (n + 1) = shift ms n + 1 := by
    obtain ⟨hlt, hget⟩ := List.getElem?_eq_some_iff.mp hm
    rw [shift_add, List.drop_eq_getElem_cons hlt, hget, shift_cons, if_pos hstays, shift_zero]
  have hle := shift_mono ms (show n + 1 ≤ k from h)
  omega

theorem shift_min (ms : List Marked) (n k : Nat) : shift ms (min n k) = min (shift ms n) (shift ms k) := by
  rcases Nat.le_total n k with h | h
  · rw [Nat.min_eq_left h, Nat.min_eq_left (shift_mono ms h)]
  · rw [Nat.min_eq_right h, Nat.min_eq_right (shift_mono ms h)]

theorem shift_sub (ms : List Marked) (n k : Nat) : shift ms k - shift ms n = shift (ms.drop n) (k - n) := by
  rcases Nat.le_total n k with h | h
  · obtain ⟨d, rfl⟩ := Nat.exists_eq_add_of_le h
    rw [shift_add, Nat.add_sub_cancel_left, Nat.add_sub_cancel_left]
  · rw [Nat.sub_eq_zero_of_le h, Nat.sub_eq_zero_of_le (shift_mono ms h), shift_zero]

theorem slice_plain (ms : List Marked) (a b : Nat) : slice (plain ms) a b = plain ((ms.drop a).take (b - a)) := by
  rw [slice, plain_drop, plain_take]

theorem slice_bare (ms : List Marked) (a b : Nat) :
    slice (bare ms) (shift ms a) (shift ms b) = bare ((ms.drop a).take (b - a)) := by
  rw [slice, bare_drop, shift_sub, bare_take]

theorem countNewlines_bare (ms : List Marked) : countNewlines (bare ms) = countNewlines (plain ms) := by
  induction ms with
  | nil => rfl
  | cons m ms ih =>
    have hplain : plain (m :: ms) = m.char :: plain ms := rfl
    rw [countNewlines] at ih ⊢
    rw [countNewlines, hplain, bare_cons]
    split
    · rw [List.count_cons, List.count_cons, ih]
      rfl
    · next h =>
      have hchar : m.char ≠ '\n' := fun hc => h (by simp [Marked.stays, hc])
      rw [List.count_cons_of_ne hchar, ih]
      rfl

theorem takeWhile_bare (ms : List Marked) : (bare ms).takeWhile (· != '\n') = bare (ms.takeWhile (·.char != '\n')) := by
  induction ms with
  | nil => rfl
  | cons m ms ih =>
    by_cases hc : m.char = '\n'
    · have hstays : m.stays = true := by simp [Marked.stays, hc]
      rw [bare_cons, if_pos hstays, List.takeWhile_cons_of_neg (by simp [hc]), List.takeWhile_cons_of_neg (by simp [hc])]
      rfl
    · rw [List.takeWhile_cons_of_pos (by simpa using hc), bare_cons, bare_cons]
      split
      · rw [List.takeWhile_cons_of_pos (by simpa using hc), ih]
      · exact ih

def lineMarks (ms : List Marked) (n : Nat) : List Marked :=
  (ms.drop n).takeWhile (·.char != '\n')

theorem endOfLine_plain (ms : List Marked) (n : Nat) : endOfLine (plain ms) n = n + (lineMarks ms n).length := by
  rw [endOfLine, plain_drop, plain, List.takeWhile_map, List.length_map]
  rfl

theorem take_lineMarks (ms : List Marked) (n : Nat) : (ms.drop n).take (lineMarks ms n).length = lineMarks ms n :=
  (List.prefix_iff_eq_take.mp (List.takeWhile_prefix _)).symm

/-- **The end of a line goes to the end of the line.** -/
theorem endOfLine_bare (ms : List Marked) (n : Nat) : endOfLine (bare ms) (shift ms n) = shift ms (endOfLine (plain ms) n) := by
  rw [endOfLine_plain, shift_add, endOfLine, bare_drop, takeWhile_bare]
  congr 1
  rw [shift, take_lineMarks]
  rfl

theorem slice_line (ms : List Marked) (n : Nat) : slice (plain ms) n (endOfLine (plain ms) n) = plain (lineMarks ms n) ∧
    slice (bare ms) (shift ms n) (endOfLine (bare ms) (shift ms n)) = bare (lineMarks ms n) := by
  have htake : (ms.drop n).take (endOfLine (plain ms) n - n) = lineMarks ms n := by
    rw [endOfLine_plain, Nat.add_sub_cancel_left, take_lineMarks]
  rw [endOfLine_bare, slice_plain, slice_bare, htake]
  exact ⟨rfl, rfl⟩

theorem linesLength_bare (count : Nat) (ms : List Marked) :
    linesLength count (bare ms) = shift ms (linesLength count (plain ms)) := by
  induction ms generalizing count with
  | nil => cases count <;> rfl
  | cons m ms ih =>
    cases count with
    | zero =>
      rw [linesLength, linesLength]
      rfl
    | succ count =>
      have hplain : plain (m :: ms) = m.char :: plain ms := rfl
      rw [hplain, linesLength, shift_cons, bare_cons]
      split
      · rw [linesLength, ih]
      · next h =>
        have hchar : m.char ≠ '\n' := fun hc => h (by simp [Marked.stays, hc])
        rw [if_neg hchar, ih]

/-- **The end of a number of lines goes to the end of as many.** -/
theorem afterLines_bare (ms : List Marked) (n count : Nat) :
    afterLines (bare ms) (shift ms n) count = shift ms (afterLines (plain ms) n count) := by
  rw [afterLines, afterLines, shift_add, bare_drop, linesLength_bare, plain_drop]

/-! ## Braces -/

theorem isCode_bare (m : Marked) {c : Char} (h : m.stays = true) (hc : c ≠ '\n') : m.bare.isCode c = m.isCode c := by
  by_cases hcomment : m.part = .comment
  · have hfeed : m.char = '\n' := by simpa [Marked.stays, hcomment] using h
    rw [Marked.bare, if_pos hcomment]
    simp [Marked.isCode, hcomment, hfeed, hc.symm]
  · rw [Marked.bare, if_neg hcomment]

theorem isCode_of_not_stays {m : Marked} (h : ¬ m.stays = true) (c : Char) : m.isCode c = false := by
  have hcomment : m.part = .comment := by
    by_contra hcomment
    exact h (by simp [Marked.stays, hcomment])
  simp [Marked.isCode, hcomment]

theorem map_shift_of_stays {m : Marked} (h : m.stays = true) (ms : List Marked) (place : Option Nat) :
    (place.map (shift ms)).map (· + 1) = (place.map (· + 1)).map (shift (m :: ms)) := by
  rw [Option.map_map, Option.map_map]
  congr 1
  funext n
  exact ((shift_cons m ms n).trans (if_pos h)).symm

theorem map_shift_of_not_stays {m : Marked} (h : ¬ m.stays = true) (ms : List Marked) (place : Option Nat) :
    place.map (shift ms) = (place.map (· + 1)).map (shift (m :: ms)) := by
  rw [Option.map_map]
  congr 1
  funext n
  exact ((shift_cons m ms n).trans (if_neg h)).symm

theorem findIdx?_bareMarks {c : Char} (hc : c ≠ '\n') (ms : List Marked) :
    (bareMarks ms).findIdx? (·.isCode c) = (ms.findIdx? (·.isCode c)).map (shift ms) := by
  induction ms with
  | nil => rfl
  | cons m ms ih =>
    rw [bareMarks_cons, List.findIdx?_cons]
    by_cases hstays : m.stays = true
    · rw [if_pos hstays, List.findIdx?_cons, isCode_bare m hstays hc, ih]
      split
      · rfl
      · exact map_shift_of_stays hstays ms _
    · rw [if_neg hstays, isCode_of_not_stays hstays c, if_neg Bool.false_ne_true, ih]
      exact map_shift_of_not_stays hstays ms _

theorem closing?_bareMarks (depth : Int) (ms : List Marked) :
    closing? depth (bareMarks ms) = (closing? depth ms).map (shift ms) := by
  induction ms generalizing depth with
  | nil => rfl
  | cons m ms ih =>
    rw [bareMarks_cons, closing?]
    by_cases hstays : m.stays = true
    · have hclose : m.bare.isCode '\x7d' = m.isCode '\x7d' := isCode_bare m hstays (by decide)
      have hnesting : m.bare.nesting = m.nesting := by
        rw [Marked.nesting, Marked.nesting, hclose, isCode_bare m hstays (by decide)]
      rw [if_pos hstays, closing?, hclose, hnesting, ih]
      split
      · rfl
      · exact map_shift_of_stays hstays ms _
    · have hclose := isCode_of_not_stays hstays '\x7d'
      have hnesting : m.nesting = 0 := by
        rw [Marked.nesting, hclose, isCode_of_not_stays hstays]
        rfl
      rw [if_neg hstays, hclose, if_neg (by simp), hnesting, Int.add_zero, ih]
      exact map_shift_of_not_stays hstays ms _

/-- **The first brace of the code stays the first one.** -/
theorem openBrace?_withoutComments (hquotes : '\n' ∉ quotes) (s : List Char) :
    openBrace? quotes (withoutComments quotes s) = (openBrace? quotes s).map (shift (mark quotes s)) := by
  rw [openBrace?, mark_withoutComments hquotes]
  exact findIdx?_bareMarks (by decide) _

/-- **Braces that match still match.** -/
theorem matchingBrace?_withoutComments (hquotes : '\n' ∉ quotes) (s : List Char) :
    matchingBrace? quotes (withoutComments quotes s) = (matchingBrace? quotes s).map (shift (mark quotes s)) := by
  rw [matchingBrace?, mark_withoutComments hquotes]
  exact closing?_bareMarks 0 _

/-! ## Places where a reader can start -/

/-- A place from which a text is read as it is when read from its start. -/
def Fresh (quotes text : List Char) (i : Nat) : Prop :=
  mark quotes (text.drop i) = (mark quotes text).drop i

def CodeAt (quotes text : List Char) (i : Nat) : Prop :=
  ∀ m ∈ (mark quotes text)[i]?, m.part = .code

instance (quotes text : List Char) (i : Nat) : Decidable (CodeAt quotes text i) :=
  inferInstanceAs (Decidable (∀ m ∈ (mark quotes text)[i]?, m.part = .code))

theorem partOf_of_code (hquotes : '\n' ∉ quotes) {r : Reader} {c : Char} {behind : Option Char}
    (h : partOf quotes r c behind = .code) : partOf quotes (.inside .code) c behind = .code := by
  cases r with
  | second mode => cases mode <;> cases h
  | inside mode =>
    cases mode with
    | code => exact h
    | blockComment => cases h
    | lineComment =>
      rw [partOf] at h
      split at h
      · next hc =>
        subst hc
        exact (feed_of_code hquotes behind).1
      · cases h
    | quoted q =>
      rw [partOf] at h
      split at h
      · cases h
      · split at h
        · cases h
        · split at h
          · next hc =>
            obtain ⟨rfl, -⟩ := hc
            exact (feed_of_code hquotes behind).1
          · cases h

theorem read_drop_of_code (hquotes : '\n' ∉ quotes) {r : Reader} {s : List Char} {i : Nat} {m : Marked}
    (hm : (read quotes r s)[i]? = some m) (hcode : m.part = .code) :
    read quotes (.inside .code) (s.drop i) = (read quotes r s).drop i := by
  induction s generalizing r i with
  | nil => cases hm
  | cons c s ih =>
    rw [read] at hm ⊢
    cases i with
    | succ i => exact ih hm
    | zero =>
      obtain rfl : Marked.mk c _ = m := Option.some.inj hm
      have hpart := partOf_of_code hquotes hcode
      rw [List.drop_zero, List.drop_zero, read, hpart, advance_of_code hpart, advance_of_code hcode, show
        partOf quotes r c s.head? = .code from hcode]

/-- **A reader can start at a character of code, and behind it.** -/
theorem fresh_of_codeAt (hquotes : '\n' ∉ quotes) {text : List Char} {i : Nat} (h : CodeAt quotes text i) :
    Fresh quotes text i ∧ Fresh quotes text (i + 1) := by
  have hend {i : Nat} (hle : (mark quotes text).length ≤ i) : Fresh quotes text i := by
    have hlength : text.length ≤ i := by rwa [length_mark] at hle
    rw [Fresh, List.drop_of_length_le hle, List.drop_of_length_le hlength]
    rfl
  cases hm : (mark quotes text)[i]? with
  | none =>
    have hle := List.getElem?_eq_none_iff.mp hm
    exact ⟨hend hle, hend (Nat.le_succ_of_le hle)⟩
  | some m =>
    have hcode := h m hm
    constructor
    · rw [mark_eq_read] at hm
      rw [Fresh, mark_eq_read, mark_eq_read]
      exact read_drop_of_code hquotes hm hcode
    · obtain ⟨hlt, hget⟩ := List.getElem?_eq_some_iff.mp hm
      have hsplit : mark quotes text = (mark quotes text).take i ++ ⟨m.char, .code⟩ :: (mark quotes text).drop (i + 1) := by
        have hmark : (⟨m.char, .code⟩ : Marked) = m := by rw [← hcode]
        rw [hmark, ← hget, List.getElem_cons_drop, List.take_append_drop]
      have hrest := mark_after_code hsplit
      rw [List.map_drop, map_char_mark] at hrest
      exact hrest.symm

theorem Fresh.drop {text : List Char} {i : Nat} (h : Fresh quotes text i) :
    (withoutComments quotes text).drop (shift (mark quotes text) i) = withoutComments quotes (text.drop i) := by
  rw [withoutComments_eq, withoutComments_eq, bare_drop, h]

/-- A text that is cut off is read as it was, unless a pair is cut. -/
theorem read_take (r : Reader) {s : List Char} {n : Nat} (h : ∀ c ∈ s[n]?, c ≠ '/' ∧ c ≠ '*') :
    read quotes r (s.take n) = (read quotes r s).take n := by
  induction s generalizing r n with
  | nil => cases n <;> rfl
  | cons c s ih =>
    cases n with
    | zero => rfl
    | succ n =>
      rw [List.take_succ_cons, read, read, List.take_succ_cons]
      cases n with
      | succ n =>
        have hhead : (s.take (n + 1)).head? = s.head? := by cases s <;> rfl
        rw [hhead, ih _ h]
      | zero =>
        have hhead : ∀ d ∈ s.head?, d ≠ '/' ∧ d ≠ '*' := by
          intro d hd
          refine h d ?_
          rw [List.getElem?_cons_succ, ← List.head?_eq_getElem?]
          exact hd
        have hpart : partOf quotes r c none = partOf quotes r c s.head? := by
          cases r with
          | second mode => rfl
          | inside mode =>
            cases mode with
            | code =>
              have hpair : ¬ (c = '/' ∧ (s.head? = some '/' ∨ s.head? = some '*')) := by
                rintro ⟨-, hd | hd⟩
                · exact (hhead _ hd).1 rfl
                · exact (hhead _ hd).2 rfl
              simp [partOf, hpair]
            | _ => rfl
        rw [List.take_zero, List.take_zero, List.head?_nil, hpart]
        rfl

theorem mark_take {s : List Char} {n : Nat} (h : ∀ c ∈ s[n]?, c ≠ '/' ∧ c ≠ '*') :
    mark quotes (s.take n) = (mark quotes s).take n := by
  rw [mark_eq_read, mark_eq_read, read_take _ h]

/-- **A body has the same lines without comments,** if a reader can start where it starts and it does not end within a
pair. -/
theorem braceLines_bare (hquotes : '\n' ∉ quotes) {text : List Char} {a b : Nat} (ha : Fresh quotes text a)
    (hb : ∀ c ∈ text[b]?, c ≠ '/' ∧ c ≠ '*') :
    braceLines quotes (slice (withoutComments quotes text) (shift (mark quotes text) a) (shift (mark quotes text) b)) =
      braceLines quotes (slice text a b) := by
  have hslice : slice (withoutComments quotes text) (shift (mark quotes text) a) (shift (mark quotes text) b) =
      withoutComments quotes (slice text a b) := by
    have hcut : mark quotes ((text.drop a).take (b - a)) = (mark quotes (text.drop a)).take (b - a) := by
      rcases Nat.lt_or_ge a b with h | h
      · refine mark_take fun c hc => hb c ?_
        rwa [List.getElem?_drop, Nat.add_sub_cancel' (Nat.le_of_lt h)] at hc
      · rw [Nat.sub_eq_zero_of_le h]
        rfl
    rw [withoutComments_eq, slice_bare, slice, withoutComments_eq, hcut, ha]
  rw [braceLines, hslice, withoutComments_withoutComments hquotes]
  rfl

/-! ## Blocks -/

def IsCodeAt (quotes text : List Char) (i : Nat) : Prop :=
  ∃ m, (mark quotes text)[i]? = some m ∧ m.part = .code

theorem IsCodeAt.codeAt {text : List Char} {i : Nat} (h : IsCodeAt quotes text i) : CodeAt quotes text i := by
  obtain ⟨m, hm, hcode⟩ := h
  intro m' hm'
  rw [hm] at hm'
  obtain rfl := Option.some.inj hm'
  exact hcode

theorem IsCodeAt.shift_succ {text : List Char} {i : Nat} (h : IsCodeAt quotes text i) :
    shift (mark quotes text) (i + 1) = shift (mark quotes text) i + 1 := by
  obtain ⟨m, hm, hcode⟩ := h
  obtain ⟨hlt, rfl⟩ := List.getElem?_eq_some_iff.mp hm
  have hstays : ((mark quotes text)[i]).stays = true := by simp [Marked.stays, hcode]
  rw [shift_add, List.drop_eq_getElem_cons hlt, shift_cons, if_pos hstays, shift_zero]

theorem openBrace?_isCode {s : List Char} {i : Nat} (h : openBrace? quotes s = some i) :
    ∃ m, (mark quotes s)[i]? = some m ∧ m.isCode '\x7b' = true := by
  obtain ⟨hlt, hbrace, -⟩ := List.findIdx?_eq_some_iff_getElem.mp h
  exact ⟨_, List.getElem?_eq_getElem hlt, hbrace⟩

theorem closing?_isCode {depth : Int} {ms : List Marked} {i : Nat} (h : closing? depth ms = some i) :
    ∃ m, ms[i]? = some m ∧ m.isCode '\x7d' = true := by
  induction ms generalizing depth i with
  | nil => cases h
  | cons m ms ih =>
    rw [closing?] at h
    split at h
    · next hclose =>
      obtain rfl : 0 = i := Option.some.inj h
      exact ⟨m, rfl, hclose.1⟩
    · obtain ⟨j, hj, rfl⟩ := Option.map_eq_some_iff.mp h
      exact ih hj

theorem part_of_isCode {m : Marked} {c : Char} (h : m.isCode c = true) : m.part = .code ∧ m.char = c := by
  simpa [Marked.isCode] using h

theorem getElem?_of_isCode {s : List Char} {i : Nat} {m : Marked} {c : Char} (hm : (mark quotes s)[i]? = some m)
    (hc : m.isCode c = true) : s[i]? = some c := by
  rw [@getElem?_mark quotes, hm, Option.map_some, (part_of_isCode hc).2]

/-- **A brace that is looked for from a fresh place on is found at the place that belongs to it.** -/
theorem openBraceIn?_bare {r : ScanRules} (hquotes : '\n' ∉ r.quotes) {text : List Char} {a : Nat}
    (ha : Fresh r.quotes text a) (b : Nat) :
    openBraceIn? r (withoutComments r.quotes text) (shift (mark r.quotes text) a) (shift (mark r.quotes text) b) =
      (openBraceIn? r text a b).map (shift (mark r.quotes text)) := by
  have hbrace : openBrace? r.quotes ((withoutComments r.quotes (text.drop a)).take
      (shift (mark r.quotes (text.drop a)) (b - a))) =
        (openBrace? r.quotes ((text.drop a).take (b - a))).map (shift (mark r.quotes (text.drop a))) := by
    ext j
    rw [openBrace?_take, openBrace?_withoutComments hquotes, Option.map_eq_some_iff, Option.map_eq_some_iff]
    simp only [openBrace?_take]
    constructor
    · rintro ⟨⟨i, hi, rfl⟩, hlt⟩
      refine ⟨i, ⟨hi, ?_⟩, rfl⟩
      by_contra hge
      have hmono := shift_mono (mark r.quotes (text.drop a)) (Nat.le_of_not_lt hge)
      omega
    · rintro ⟨i, ⟨hi, hlt⟩, rfl⟩
      obtain ⟨m, hm, hcode⟩ := openBrace?_isCode hi
      exact ⟨⟨i, hi, rfl⟩, shift_lt hm (by simp [Marked.stays, part_of_isCode hcode]) hlt⟩
  rw [openBraceIn?, openBraceIn?, slice, slice, ha.drop, shift_sub, ← ha, hbrace, Option.map_map, Option.map_map]
  congr 1
  funext j
  show shift _ a + shift _ j = shift _ (a + j)
  rw [shift_add, ha]

theorem isCodeAt_of_openBraceIn? {r : ScanRules} {text : List Char} {a b i : Nat} (ha : Fresh r.quotes text a)
    (h : openBraceIn? r text a b = some i) : IsCodeAt r.quotes text i := by
  obtain ⟨j, hj, rfl⟩ := Option.map_eq_some_iff.mp h
  obtain ⟨m, hm, hcode⟩ := openBrace?_isCode (openBrace?_take.mp hj).1
  refine ⟨m, ?_, (part_of_isCode hcode).1⟩
  rw [← hm, ha, List.getElem?_drop]

/-- The lines of the block that opens at a place, which ends at a limit if it is not closed. -/
def blockLines (quotes text : List Char) (i limit : Nat) : List BodyLine :=
  braceLines quotes (slice text (i + 1) (((matchingBrace? quotes (text.drop i)).map (i + ·)).getD limit))

/-- **A block has the same lines without comments.** -/
theorem blockLines_bare (hquotes : '\n' ∉ quotes) {text : List Char} {i limit : Nat} (hi : IsCodeAt quotes text i)
    (hlimit : ∀ c ∈ text[limit]?, c ≠ '/' ∧ c ≠ '*') :
    blockLines quotes (withoutComments quotes text) (shift (mark quotes text) i) (shift (mark quotes text) limit) =
      blockLines quotes text i limit := by
  obtain ⟨hfresh, hnext⟩ := fresh_of_codeAt hquotes hi.codeAt
  rw [blockLines, blockLines, hfresh.drop, matchingBrace?_withoutComments hquotes, ← hi.shift_succ]
  cases hclosing : matchingBrace? quotes (text.drop i) with
  | none => exact braceLines_bare hquotes hnext hlimit
  | some j =>
    obtain ⟨m, hm, hclose⟩ := closing?_isCode hclosing
    have hend : ∀ c ∈ text[i + j]?, c ≠ '/' ∧ c ≠ '*' := by
      intro c hc
      have hbrace := getElem?_of_isCode hm hclose
      rw [List.getElem?_drop, hc] at hbrace
      rw [Option.some.inj hbrace]
      decide
    have hplace : shift (mark quotes text) i + shift (mark quotes (text.drop i)) j = shift (mark quotes text) (i + j) := by
      rw [shift_add, hfresh]
    simp only [Option.map_some, Option.getD_some, hplace]
    exact braceLines_bare hquotes hnext hend

end ScenarioAudit.Scan
