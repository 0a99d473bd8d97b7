import ScenarioAudit.Scan.Code

/-! # Two readers of source text

Comments are left out by a reader that goes over a whole string or comment at a time, braces are counted by one that
marks each character. They agree on where strings and comments end (`bare_quoted`, `bare_lineComment`,
`bare_blockComment`), so what is left without comments are the characters that are not marked as comments, and the line
feeds (`withoutComments_eq`).
-/

namespace ScenarioAudit.Scan

variable {quotes : List Char}

/-! ## One character -/

theorem markFrom_quote {c : Char} (hc : c ∈ quotes) (s : List Char) :
    markFrom quotes .code (c :: s) = ⟨c, .quoted⟩ :: markFrom quotes (.quoted c) s := by
  have hopens : quotes.contains c = true := by simpa using hc
  conv => lhs; unfold markFrom
  exact if_pos hopens

/-- A character of code that opens neither a string nor a comment. -/
theorem markFrom_code {c : Char} (hc : c ∉ quotes) {s : List Char}
    (hs : c = '/' → s.head? ≠ some '/' ∧ s.head? ≠ some '*') :
    markFrom quotes .code (c :: s) = ⟨c, .code⟩ :: markFrom quotes .code s := by
  rw [markFrom]
  · simp [hc]
  · rintro t rfl rfl
    exact (hs rfl).1 rfl
  · rintro t rfl rfl
    exact (hs rfl).2 rfl

/-- A line feed of code, which may open a string as any other character. -/
theorem markFrom_feed (s : List Char) :
    markFrom quotes .code ('\n' :: s) = ⟨'\n', feedPart quotes⟩ :: markFrom quotes (feedMode quotes) s := by
  rw [feedPart, feedMode]
  by_cases hfeed : '\n' ∈ quotes
  · have hopens : quotes.contains '\n' = true := by simpa using hfeed
    rw [markFrom_quote hfeed, if_pos hopens, if_pos hopens]
  · have hopens : ¬ quotes.contains '\n' = true := by simpa using hfeed
    rw [markFrom_code hfeed fun h => absurd h (by decide), if_neg hopens, if_neg hopens]

theorem feedPart_of_not_mem (h : '\n' ∉ quotes) : feedPart quotes = .code :=
  if_neg (by simpa using h)

theorem feedMode_of_not_mem (h : '\n' ∉ quotes) : feedMode quotes = .code :=
  if_neg (by simpa using h)

theorem not_mem_of_feedPart (h : feedPart quotes = .code) : '\n' ∉ quotes := by
  intro hfeed
  rw [feedPart, if_pos (by simpa using hfeed)] at h
  cases h

theorem feedPart_ne_comment : feedPart quotes ≠ .comment := by
  rw [feedPart]
  split <;> nofun

/-- A character of a string that hides none after it. -/
theorem markFrom_quoted {q c : Char} (hc : ¬ (c = '\\' ∧ q ≠ backquote)) (s : List Char) :
    markFrom quotes (.quoted q) (c :: s) =
      if c = q then ⟨c, .quoted⟩ :: markFrom quotes .code s
      else if c = '\n' ∧ q ≠ backquote then ⟨c, feedPart quotes⟩ :: markFrom quotes (feedMode quotes) s
      else ⟨c, .quoted⟩ :: markFrom quotes (.quoted q) s := by
  conv => lhs; unfold markFrom
  exact if_neg hc

theorem markFrom_blockComment {c : Char} {s : List Char} (hs : c = '*' → s.head? ≠ some '/') :
    markFrom quotes .blockComment (c :: s) = ⟨c, .comment⟩ :: markFrom quotes .blockComment s := by
  rw [markFrom]
  rintro t rfl rfl
  exact hs rfl rfl

/-! ## Characters that stay -/

/-- Whether a character stays when comments are left out. -/
def Marked.stays (m : Marked) : Bool :=
  m.part ≠ .comment || m.char = '\n'

/-- The text of marked characters without comments. -/
def bare (ms : List Marked) : List Char :=
  (ms.filter Marked.stays).map Marked.char

@[simp] theorem bare_append (ms ms' : List Marked) : bare (ms ++ ms') = bare ms ++ bare ms' := by
  rw [bare, List.filter_append, List.map_append]
  rfl

theorem bare_cons (m : Marked) (ms : List Marked) :
    bare (m :: ms) = if m.stays then m.char :: bare ms else bare ms := by
  rw [bare, List.filter_cons]
  split
  · rfl
  · rfl

@[simp] theorem bare_cons_code (c : Char) (ms : List Marked) : bare (⟨c, .code⟩ :: ms) = c :: bare ms :=
  bare_cons _ ms

@[simp] theorem bare_cons_quoted (c : Char) (ms : List Marked) : bare (⟨c, .quoted⟩ :: ms) = c :: bare ms :=
  bare_cons _ ms

theorem bare_cons_comment (c : Char) (ms : List Marked) :
    bare (⟨c, .comment⟩ :: ms) = if c = '\n' then c :: bare ms else bare ms := by
  rw [bare_cons]
  simp [Marked.stays]

/-! ## Ends of strings and comments -/

/-- Both readers find the same end of a string. -/
theorem bare_quoted (q : Char) (s : List Char) :
    bare (markFrom quotes (.quoted q) s) = (skipString q s).1 ++ bare (mark quotes (skipString q s).2) := by
  fun_induction skipString q s with
  | case1 => rfl
  | case2 c hc => rw [markFrom, if_pos hc, bare_cons_quoted]; rfl
  | case3 c hc d t ih => simp [markFrom, hc, ih]
  | case4 s hc => rw [markFrom_quoted hc, if_pos rfl, bare_cons_quoted]; rfl
  | case5 c s hc hq hfeed =>
    obtain ⟨rfl, -⟩ := id hfeed
    rw [markFrom_quoted hc, if_neg hq, if_pos hfeed, mark, markFrom_feed]
    rfl
  | case6 c s hc hq hfeed ih =>
    rw [markFrom_quoted hc, if_neg hq, if_neg hfeed, bare_cons_quoted, ih]
    rfl

/-- Both readers find the same end of a line comment. -/
theorem bare_lineComment (s : List Char) :
    bare (markFrom quotes .lineComment s) = bare (mark quotes (skipLineComment s)) := by
  induction s with
  | nil => rfl
  | cons c s ih =>
    rw [markFrom, skipLineComment]
    by_cases hc : c = '\n'
    · subst hc
      rw [if_pos rfl, List.dropWhile_cons_of_neg (by decide), mark, markFrom_feed]
    · rw [if_neg hc, List.dropWhile_cons_of_pos (by simpa using hc), bare_cons_comment, if_neg hc, ih, skipLineComment]

/-- Both readers find the same end of a block comment. -/
theorem bare_blockComment (s : List Char) :
    bare (markFrom quotes .blockComment s) = (skipBlockComment s).1 ++ bare (mark quotes (skipBlockComment s).2) := by
  fun_induction skipBlockComment s with
  | case1 => rfl
  | case2 s => rfl
  | case3 c s hend ih =>
    have hopens : c = '*' → s.head? ≠ some '/' := by
      intro hstar hhead
      obtain ⟨t, ht⟩ := List.head?_eq_some_iff.mp hhead
      exact hend t hstar ht
    rw [markFrom_blockComment hopens, bare_cons_comment, ih]
    split
    · rfl
    · rfl

/-- **The readers agree:** what is left without comments are the characters that are not marked as comments. -/
theorem withoutComments_eq (text : List Char) : withoutComments quotes text = bare (mark quotes text) := by
  fun_induction withoutComments quotes text with
  | case1 => rfl
  | case2 c s hc ih => rw [mark, markFrom_quote (by simpa using hc), bare_cons_quoted, bare_quoted, ih]
  | case3 c s hc h ih =>
    obtain ⟨rfl, hhead⟩ := h
    obtain ⟨t, rfl⟩ := List.head?_eq_some_iff.mp hhead
    rw [mark, markFrom, if_neg hc, bare_cons_comment, if_neg (by decide), bare_cons_comment, if_neg (by decide),
      bare_lineComment, ih]
    rfl
  | case4 c s hc hline h ih =>
    obtain ⟨rfl, hhead⟩ := h
    obtain ⟨t, rfl⟩ := List.head?_eq_some_iff.mp hhead
    rw [mark, markFrom, if_neg hc, bare_cons_comment, if_neg (by decide), bare_cons_comment, if_neg (by decide),
      bare_blockComment, ih]
    rfl
  | case5 c s hc hline hblock ih =>
    have hopens : c = '/' → s.head? ≠ some '/' ∧ s.head? ≠ some '*' := fun hslash =>
      ⟨fun hhead => hline ⟨hslash, hhead⟩, fun hhead => hblock ⟨hslash, hhead⟩⟩
    rw [mark, markFrom_code (by simpa using hc) hopens, bare_cons_code, ih]
    rfl

end ScenarioAudit.Scan
