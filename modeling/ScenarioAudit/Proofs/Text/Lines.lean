import ScenarioAudit.Text.Blank
import ScenarioAudit.Text.Lines

/-! # Lines and blanks

No line holds a break (`mem_splitLines`), and what is left of a text by squeezing holds no blank but spaces
(`mem_squeezeFrom`). A piece without blanks in the middle of a text stays in one piece: cutting the text into lines
leaves it inside of one line (`splitLines_middle`), and squeezing and stripping that line leaves it there as it is
(`squeeze_middle`, `stripRight_middle`). All else depends on the text around the piece only.
-/

namespace ScenarioAudit.Text

/-- What holds of all characters in a list is decided by looking at these, not at all characters that there are. -/
instance (priority := 2000) decidableForallMem (l : List Char) (p : Char → Prop) [DecidablePred p] :
    Decidable (∀ c, c ∈ l → p c) :=
  List.decidableBAll p l

/-! ## All blanks -/

def blankCodes : List Nat :=
  List.range' 9 5 ++ List.range' 28 5 ++ [133, 160, 5760] ++ List.range' 8192 11 ++ [8232, 8233, 8239, 8287, 12288]

theorem mem_blankCodes {c : Char} (h : isBlank c = true) : c.toNat ∈ blankCodes := by
  simp only [isBlank, CodeSet.contains, CodeSet.containsCode, blankSet, insideBoundaries] at h
  simp only [blankCodes, List.mem_append, List.mem_range'_1, List.mem_cons, List.not_mem_nil, or_false]
  grind

/-! ## One line after the other -/

theorem isBlank_of_isLineBreak {c : Char} (h : isLineBreak c = true) : isBlank c = true := by
  have hall : ∀ n ∈ [10, 11, 12, 13, 28, 29, 30, 133, 8232, 8233], blankSet.containsCode n = true := by decide
  refine hall c.toNat ?_
  simp only [isLineBreak, Bool.or_eq_true, Bool.and_eq_true, decide_eq_true_eq, beq_iff_eq] at h
  simp only [List.mem_cons, List.not_mem_nil, or_false]
  omega

theorem isLineBreak_of_not_isBlank {c : Char} (h : isBlank c = false) : isLineBreak c = false := by
  rw [Bool.eq_false_iff] at h ⊢
  exact fun hc => h (isBlank_of_isLineBreak hc)

/-- A break opens the next line, unless it is the first half of a longer one. -/
theorem splitLines_break {c : Char} (hc : isLineBreak c = true) {s : List Char}
    (hs : c = '\r' → s.head? ≠ some '\n') : splitLines (c :: s) = [] :: splitLines s := by
  rw [splitLines, if_pos hc]
  rintro s' rfl rfl
  exact hs rfl rfl

theorem splitLines_feed (s : List Char) : splitLines ('\n' :: s) = [] :: splitLines s :=
  splitLines_break (by decide) fun h => absurd h (by decide)

theorem splitLines_char {c : Char} (hc : isLineBreak c = false) (s : List Char) :
    splitLines (c :: s) = (c :: (splitLines s).headD []) :: (splitLines s).tail := by
  rw [splitLines, if_neg (Bool.eq_false_iff.mp hc)]
  · cases splitLines s <;> rfl
  · rintro s' rfl rfl
    exact absurd hc (by decide)

/-- A carriage return before a line feed adds nothing to it. -/
theorem splitLines_return {s : List Char} (hs : s.head? = some '\n') : splitLines ('\r' :: s) = splitLines s := by
  cases s with
  | nil => cases hs
  | cons c s =>
    cases hs
    rw [splitLines, splitLines_feed]

theorem splitLines_empty {c : Char} (hc : isLineBreak c = true) (s : List Char) :
    ∃ ls, splitLines (c :: s) = [] :: ls := by
  by_cases hs : c = '\r' → s.head? ≠ some '\n'
  · exact ⟨_, splitLines_break hc hs⟩
  · obtain ⟨rfl, hfeed⟩ := Classical.not_imp.mp hs
    obtain ⟨t, rfl⟩ := List.head?_eq_some_iff.mp (Classical.not_not.mp hfeed)
    exact ⟨_, by rw [splitLines]⟩

theorem splitLines_ne_nil {s : List Char} (h : s ≠ []) : splitLines s ≠ [] := by
  cases s with
  | nil => exact absurd rfl h
  | cons c s =>
    by_cases hc : isLineBreak c = true
    · obtain ⟨ls, hls⟩ := splitLines_empty hc s
      rw [hls]
      exact List.cons_ne_nil _ _
    · rw [splitLines_char (Bool.not_eq_true _ ▸ hc)]
      exact List.cons_ne_nil _ _

/-- Lines are the same with all breaks read as line feeds. -/
theorem splitLines_universalNewlines (s : List Char) : splitLines (universalNewlines s) = splitLines s := by
  induction s using universalNewlines.induct with
  | case1 => rfl
  | case2 s ih => rw [universalNewlines, splitLines, splitLines_feed, ih]
  | case3 s hcrlf ih =>
    have hs : s.head? ≠ some '\n' := by
      intro heq
      obtain ⟨t, rfl⟩ := List.head?_eq_some_iff.mp heq
      exact hcrlf t rfl
    rw [universalNewlines, splitLines_feed, splitLines_break (by decide) fun _ => hs, ih]
    exact hcrlf
  | case4 c s hcrlf hcr ih =>
    rw [universalNewlines]
    · by_cases hc : isLineBreak c = true
      · rw [splitLines_break hc fun h => absurd h hcr, splitLines_break hc fun h => absurd h hcr, ih]
      · rw [Bool.not_eq_true] at hc
        rw [splitLines_char hc, splitLines_char hc, ih]
    · exact hcrlf
    · exact hcr

/-- A text is cut at a break, unless the break goes on after it. -/
theorem splitLines_append_break {c : Char} (hc : isLineBreak c = true) (w : List Char) {s : List Char}
    (hs : s.head? ≠ some '\n') : splitLines (w ++ c :: s) = splitLines (w ++ [c]) ++ splitLines s := by
  induction w with
  | nil =>
    rw [List.nil_append, List.nil_append, splitLines_break hc fun _ => hs, splitLines_break hc (by simp)]
    rfl
  | cons d w ih =>
    have hhead : (w ++ c :: s).head? = (w ++ [c]).head? := by cases w <;> rfl
    rw [List.cons_append, List.cons_append]
    by_cases hd : isLineBreak d = true
      -- A carriage return right before the break belongs to it, on both sides.
    · by_cases hcrlf : d = '\r' → (w ++ [c]).head? ≠ some '\n'
      · rw [splitLines_break hd hcrlf, splitLines_break hd (hhead ▸ hcrlf), ih]
        rfl
      · obtain ⟨rfl, hfeed⟩ := Classical.not_imp.mp hcrlf
        rw [Classical.not_not] at hfeed
        rw [splitLines_return hfeed, splitLines_return (hhead.trans hfeed), ih]
    · rw [Bool.not_eq_true] at hd
      have hne : splitLines (w ++ [c]) ≠ [] := splitLines_ne_nil (List.append_ne_nil_of_right_ne_nil w (by simp))
      obtain ⟨l, ls, hl⟩ := List.exists_cons_of_ne_nil hne
      rw [splitLines_char hd, splitLines_char hd, ih, hl]
      rfl

theorem mem_splitLines {s l : List Char} (hl : l ∈ splitLines s) : ∀ c ∈ l, isLineBreak c = false := by
  induction s using splitLines.induct generalizing l with
  | case1 => cases hl
  | case2 s ih =>
    rw [splitLines] at hl
    rcases List.mem_cons.mp hl with rfl | hl
    · exact fun c hc => nomatch hc
    · exact ih hl
  | case3 c s hcrlf hbreak ih =>
    rw [splitLines, if_pos hbreak] at hl
    · rcases List.mem_cons.mp hl with rfl | hl
      · exact fun c hc => nomatch hc
      · exact ih hl
    · exact hcrlf
  | case4 c s hcrlf hbreak hnil ih =>
    rw [splitLines, if_neg hbreak, hnil] at hl
    · rw [List.mem_singleton] at hl
      subst hl
      intro d hd
      rw [List.mem_singleton.mp hd]
      exact Bool.eq_false_iff.mpr hbreak
    · exact hcrlf
  | case5 c s hcrlf hbreak l' ls hcons ih =>
    rw [splitLines, if_neg hbreak, hcons] at hl
    · rcases List.mem_cons.mp hl with rfl | hl
      · intro d hd
        rcases List.mem_cons.mp hd with rfl | hd
        · exact Bool.eq_false_iff.mpr hbreak
        · exact ih (hcons ▸ List.mem_cons_self) d hd
      · exact ih (hcons ▸ List.mem_cons_of_mem _ hl)
    · exact hcrlf

/-! ## The line around a piece -/

/-- What a text has after its last break. -/
def lastLine (s : List Char) : List Char :=
  (s.reverse.takeWhile fun c => !isLineBreak c).reverse

/-- What a text has before its first break. -/
def firstLine (s : List Char) : List Char :=
  s.takeWhile fun c => !isLineBreak c

theorem lastLine_clean (s : List Char) : ∀ c ∈ lastLine s, isLineBreak c = false := by
  intro c hc
  have h := List.all_eq_true.mp List.all_takeWhile c (List.mem_reverse.mp hc)
  rwa [Bool.not_eq_true'] at h

theorem exists_lastLine (s : List Char) :
    s = lastLine s ∨ ∃ w c, isLineBreak c = true ∧ s = w ++ c :: lastLine s := by
  have hsplit : s.reverse = (s.reverse.takeWhile fun c => !isLineBreak c) ++
      s.reverse.dropWhile fun c => !isLineBreak c := List.takeWhile_append_dropWhile.symm
  cases hdrop : s.reverse.dropWhile fun c => !isLineBreak c with
  | nil =>
    rw [hdrop, List.append_nil] at hsplit
    refine Or.inl ?_
    rw [lastLine, ← hsplit, List.reverse_reverse]
  | cons c w =>
    have hc := List.head?_dropWhile_not (fun c => !isLineBreak c) s.reverse
    rw [hdrop, List.head?_cons] at hc
    refine Or.inr ⟨w.reverse, c, by simpa using hc, ?_⟩
    have h := congrArg List.reverse hsplit
    rw [hdrop, List.reverse_reverse, List.reverse_append, List.reverse_cons, List.append_assoc] at h
    exact h

theorem firstLine_clean (s : List Char) : ∀ c ∈ firstLine s, isLineBreak c = false := by
  intro c hc
  have h := List.all_eq_true.mp List.all_takeWhile c hc
  rwa [Bool.not_eq_true'] at h

theorem lines_induction {P : List Char → Prop} (line : ∀ l, (∀ c ∈ l, isLineBreak c = false) → P l)
    (more : ∀ l, (∀ c ∈ l, isLineBreak c = false) → ∀ c, isLineBreak c = true → ∀ s, P s → P (l ++ c :: s))
    (s : List Char) : P s := by
  have hfirst := firstLine_clean s
  have hsplit : firstLine s ++ s.dropWhile (fun c => !isLineBreak c) = s := List.takeWhile_append_dropWhile
  rcases hdrop : s.dropWhile fun c => !isLineBreak c with _ | ⟨c, rest⟩
  · rw [hdrop, List.append_nil] at hsplit
    exact hsplit ▸ line _ hfirst
  · have hc := List.head?_dropWhile_not (fun c => !isLineBreak c) s
    rw [hdrop, List.head?_cons] at hc
    rw [hdrop] at hsplit
    have hlength : rest.length < s.length := by
      rw [← hsplit, List.length_append, List.length_cons]
      omega
    exact hsplit ▸ more _ hfirst c (by simpa using hc) rest (lines_induction line more rest)
termination_by s.length

theorem headD_splitLines (s : List Char) : (splitLines s).headD [] = firstLine s := by
  induction s with
  | nil => rfl
  | cons c s ih =>
    by_cases hc : isLineBreak c = true
    · obtain ⟨ls, hls⟩ := splitLines_empty hc s
      rw [hls, firstLine, List.takeWhile_cons_of_neg (by simp [hc])]
      rfl
    · rw [Bool.not_eq_true] at hc
      rw [splitLines_char hc, firstLine, List.takeWhile_cons_of_pos (by simp [hc]), List.headD_cons, ih]
      rfl

theorem splitLines_append_clean {l : List Char} (hl : ∀ c ∈ l, isLineBreak c = false) (hne : l ≠ [])
    (v : List Char) : splitLines (l ++ v) = (l ++ firstLine v) :: (splitLines v).tail := by
  cases l with
  | nil => exact absurd rfl hne
  | cons c l =>
    induction l generalizing c with
    | nil => rw [List.cons_append, splitLines_char (hl c List.mem_cons_self), List.nil_append, headD_splitLines]; rfl
    | cons d l ih =>
      have htail := ih d (fun e he => hl e (List.mem_cons_of_mem _ he)) (List.cons_ne_nil _ _)
      rw [List.cons_append, splitLines_char (hl c List.mem_cons_self), htail]
      rfl

/-- A text without breaks behind a line feed opens a line of its own. -/
theorem splitLines_feed_clean {l : List Char} (hl : ∀ c ∈ l, isLineBreak c = false) (hne : l ≠ []) (u v : List Char) :
    splitLines (u ++ '\n' :: (l ++ v)) = splitLines (u ++ ['\n']) ++ (l ++ firstLine v) :: (splitLines v).tail := by
  have hbreak : (l ++ v).head? ≠ some '\n' := by
    obtain ⟨c, l, rfl⟩ := List.exists_cons_of_ne_nil hne
    rintro ⟨⟩
    exact absurd (hl '\n' List.mem_cons_self) (by decide)
  rw [splitLines_append_break (by decide) u hbreak, splitLines_append_clean hl hne]

/-- **A piece without breaks stays in one line.** -/
theorem splitLines_middle (u v : List Char) :
    ∃ front back, ∀ m, m ≠ [] → (∀ c ∈ m, isLineBreak c = false) →
      splitLines (u ++ m ++ v) = front ++ (lastLine u ++ m ++ firstLine v) :: back := by
  have hclean {m : List Char} (hm : ∀ c ∈ m, isLineBreak c = false) :
      ∀ c ∈ lastLine u ++ m, isLineBreak c = false := by
    intro c hc
    rcases List.mem_append.mp hc with hc | hc
    · exact lastLine_clean u c hc
    · exact hm c hc
  rcases exists_lastLine u with hu | ⟨w, c, hc, hu⟩
  · refine ⟨[], (splitLines v).tail, fun m hne hm => ?_⟩
    have h := splitLines_append_clean (hclean hm) (List.append_ne_nil_of_right_ne_nil _ hne) v
    rw [← hu] at h ⊢
    exact h
  · refine ⟨splitLines (w ++ [c]), (splitLines v).tail, fun m hne hm => ?_⟩
    have hne' : lastLine u ++ m ≠ [] := List.append_ne_nil_of_right_ne_nil _ hne
    -- The last break before the piece is not carried on by it, so it cuts the text in two.
    have hhead : (lastLine u ++ m ++ v).head? ≠ some '\n' := by
      obtain ⟨d, l, hl⟩ := List.exists_cons_of_ne_nil hne'
      have hd := hclean hm d (hl ▸ List.mem_cons_self)
      rw [hl, List.cons_append, List.head?_cons]
      intro heq
      cases heq
      exact absurd hd (by decide)
    have hcut := splitLines_append_break hc w hhead
    have htext : u ++ m ++ v = w ++ c :: (lastLine u ++ m ++ v) := by
      have h := congrArg (· ++ (m ++ v)) hu
      simpa using h
    rw [htext, hcut, splitLines_append_clean (hclean hm) hne' v]

/-- What comes after the first piece is the others, after a separator if there are any. -/
theorem exists_joinWith_cons (sep l : List Char) (ls : List (List Char)) :
    ∃ gap, (gap = [] ∨ gap = sep) ∧ joinWith sep (l :: ls) = l ++ gap ++ joinWith sep ls := by
  cases ls with
  | nil => exact ⟨[], Or.inl rfl, by simp [joinWith]⟩
  | cons l' ls => exact ⟨sep, Or.inr rfl, rfl⟩

theorem joinLines_cons {ls : List (List Char)} (hls : ls ≠ []) (l : List Char) :
    joinLines (l :: ls) = l ++ '\n' :: joinLines ls := by
  obtain ⟨l', ls, rfl⟩ := List.exists_cons_of_ne_nil hls
  show l ++ ['\n'] ++ joinLines (l' :: ls) = _
  rw [List.append_assoc]
  rfl

/-- **Lines that are joined are the lines of the text**, whether the last one is ended or not. -/
theorem splitLines_joinLines {ls : List (List Char)} (hls : ls ≠ [])
    (h : ∀ l ∈ ls, l ≠ [] ∧ ∀ c ∈ l, isLineBreak c = false) (ended : Bool) :
    splitLines (joinLines ls ++ if ended then ['\n'] else []) = ls := by
  induction ls with
  | nil => exact absurd rfl hls
  | cons l ls ih =>
    obtain ⟨hne, hclean⟩ := h l List.mem_cons_self
    cases ls with
    | nil =>
      rw [joinLines, joinWith, splitLines_append_clean hclean hne]
      cases ended
      all_goals simp [firstLine, splitLines, isLineBreak]
    | cons l' ls =>
      have hrest := ih (List.cons_ne_nil _ _) fun k hk => h k (List.mem_cons_of_mem l hk)
      have hfirst (s : List Char) : firstLine ('\n' :: s) = [] := rfl
      rw [joinLines_cons (List.cons_ne_nil _ _), List.append_assoc, List.cons_append,
        splitLines_append_clean hclean hne, splitLines_feed, List.tail_cons, hrest, hfirst, List.append_nil]

theorem joinLines_feed {ls : List (List Char)} (hls : ls ≠ []) : joinLines ls ++ ['\n'] = ls.flatMap (· ++ ['\n']) := by
  induction ls with
  | nil => exact absurd rfl hls
  | cons l ls ih =>
    cases ls with
    | nil => exact (List.append_nil _).symm
    | cons l' ls =>
      rw [joinLines_cons (List.cons_ne_nil _ _), List.flatMap_cons, ← ih (List.cons_ne_nil _ _), List.append_assoc,
        List.append_assoc]
      rfl

theorem getLast?_joinLines {ls : List (List Char)} (hls : ls ≠ []) (h : ∀ l ∈ ls, l ≠ [] ∧ '\n' ∉ l) :
    ∃ c, (joinLines ls).getLast? = some c ∧ c ≠ '\n' := by
  induction ls with
  | nil => exact absurd rfl hls
  | cons l ls ih =>
    rw [List.forall_mem_cons] at h
    obtain ⟨⟨hne, hfeed⟩, htail⟩ := h
    cases ls with
    | nil =>
      refine ⟨l.getLast hne, List.getLast?_eq_some_getLast hne, fun heq => hfeed ?_⟩
      rw [← heq]
      exact List.getLast_mem hne
    | cons l' ls =>
      obtain ⟨c, hc, hne⟩ := ih (List.cons_ne_nil _ _) htail
      obtain ⟨u, hu⟩ := List.getLast?_eq_some_iff.mp hc
      refine ⟨c, ?_, hne⟩
      rw [joinLines_cons (List.cons_ne_nil _ _), hu, ← List.cons_append, ← List.append_assoc]
      exact List.getLast?_concat

/-! ## Indentation -/

theorem stripLeft_append {indent : List Char} (h : ∀ c ∈ indent, isBlank c = true) (s : List Char) :
    stripLeft (indent ++ s) = stripLeft s :=
  List.dropWhile_append_of_pos h

theorem stripLeft_cons {c : Char} (h : isBlank c = false) (s : List Char) : stripLeft (c :: s) = c :: s :=
  List.dropWhile_cons_of_neg (Bool.not_eq_true _ ▸ h)

theorem exists_indent (s : List Char) :
    ∃ indent, s = indent ++ stripLeft s ∧ ∀ c ∈ indent, isBlank c = true := by
  refine ⟨s.takeWhile isBlank, ?_, ?_⟩
  · exact List.takeWhile_append_dropWhile.symm
  · exact List.all_eq_true.mp List.all_takeWhile

theorem exists_trail (s : List Char) : ∃ trail, s = stripRight s ++ trail ∧ ∀ c ∈ trail, isBlank c = true := by
  induction s with
  | nil => exact ⟨[], rfl, nofun⟩
  | cons c s ih =>
    obtain ⟨trail, hs, htrail⟩ := ih
    rw [stripRight]
    split
    next hnil =>
      rw [hnil, List.nil_append] at hs
      split
      next hc => exact ⟨c :: s, rfl, List.forall_mem_cons.mpr ⟨hc, hs ▸ htrail⟩⟩
      next => exact ⟨s, rfl, hs ▸ htrail⟩
    next => exact ⟨trail, by rw [List.cons_append, ← hs], htrail⟩

/-! ## Blanks around a piece -/

theorem mem_stripRight {s : List Char} {c : Char} (hc : c ∈ stripRight s) : c ∈ s := by
  induction s with
  | nil => exact hc
  | cons d s ih =>
    rw [stripRight] at hc
    split at hc
    · split at hc
      · cases hc
      · rw [List.mem_singleton.mp hc]
        exact List.mem_cons_self
    · rcases List.mem_cons.mp hc with rfl | hc
      · exact List.mem_cons_self
      · exact List.mem_cons_of_mem _ (ih hc)

theorem mem_squeezeFrom {s : List Char} {inBlank : Bool} {c : Char} (hc : c ∈ squeezeFrom inBlank s) :
    c = ' ' ∨ isBlank c = false := by
  induction s generalizing inBlank with
  | nil => cases hc
  | cons d s ih =>
    rw [squeezeFrom] at hc
    split at hc
    · split at hc
      · exact ih hc
      · rcases List.mem_cons.mp hc with rfl | hc
        · exact Or.inl rfl
        · exact ih hc
    next hd =>
      rcases List.mem_cons.mp hc with rfl | hc
      · exact Or.inr (Bool.eq_false_iff.mpr hd)
      · exact ih hc

theorem squeezeFrom_append {c : Char} (hc : isBlank c = false) (inBlank : Bool) (u s : List Char) :
    squeezeFrom inBlank (u ++ c :: s) = squeezeFrom inBlank u ++ c :: squeezeFrom false s := by
  induction u generalizing inBlank with
  | nil =>
    rw [List.nil_append, squeezeFrom, squeezeFrom, if_neg (Bool.eq_false_iff.mp hc)]
    rfl
  | cons d u ih =>
    rw [List.cons_append, squeezeFrom, squeezeFrom, ih, ih]
    by_cases hd : isBlank d = true
    · cases inBlank <;> simp [hd]
    · simp [hd]

theorem squeeze_middle {m : List Char} (hne : m ≠ []) (hm : ∀ c ∈ m, isBlank c = false) (u v : List Char) :
    squeeze (u ++ m ++ v) = squeeze u ++ m ++ squeeze v := by
  have hclean : ∀ l : List Char, (∀ c ∈ l, isBlank c = false) → squeezeFrom false (l ++ v) = l ++ squeeze v := by
    intro l hl
    induction l with
    | nil => rfl
    | cons c l ih =>
      rw [List.cons_append, squeezeFrom, if_neg (Bool.eq_false_iff.mp (hl c List.mem_cons_self)),
        ih fun d hd => hl d (List.mem_cons_of_mem _ hd)]
      rfl
  obtain ⟨c, l, rfl⟩ := List.exists_cons_of_ne_nil hne
  rw [List.append_assoc, List.cons_append, squeeze, squeezeFrom_append (hm c List.mem_cons_self),
    hclean l fun d hd => hm d (List.mem_cons_of_mem _ hd), List.append_assoc, List.cons_append]
  rfl

theorem mem_squeeze {c : Char} (hc : isBlank c = false) {u : List Char} (h : c ∈ u) : c ∈ squeeze u := by
  obtain ⟨x, y, rfl⟩ := List.append_of_mem h
  rw [squeeze, squeezeFrom_append hc]
  exact List.mem_append_right _ List.mem_cons_self

theorem stripLeft_append_right {x : List Char} (h : ∃ c ∈ x, isBlank c = false) (y : List Char) :
    stripLeft (x ++ y) = stripLeft x ++ y := by
  induction x with
  | nil => obtain ⟨c, hc, -⟩ := h; cases hc
  | cons d x ih =>
    rw [stripLeft, stripLeft, List.cons_append]
    by_cases hd : isBlank d = true
    · rw [List.dropWhile_cons_of_pos hd, List.dropWhile_cons_of_pos hd]
      obtain ⟨c, hc, hblank⟩ := h
      rcases List.mem_cons.mp hc with rfl | hc
      · rw [hd] at hblank
        cases hblank
      · exact ih ⟨c, hc, hblank⟩
    · rw [List.dropWhile_cons_of_neg hd, List.dropWhile_cons_of_neg hd]
      rfl

theorem stripRight_append {c : Char} (hc : isBlank c = false) (x y : List Char) :
    stripRight (x ++ c :: y) = x ++ c :: stripRight y := by
  induction x with
  | nil =>
    rw [List.nil_append, List.nil_append, stripRight]
    cases stripRight y <;> simp [hc]
  | cons d x ih =>
    rw [List.cons_append, stripRight, ih]
    cases x <;> rfl

theorem stripRight_middle {m : List Char} (hne : m ≠ []) (hm : ∀ c ∈ m, isBlank c = false) (x y : List Char) :
    stripRight (x ++ m ++ y) = x ++ m ++ stripRight y := by
  obtain ⟨l, c, rfl⟩ : ∃ l c, m = l ++ [c] := ⟨_, _, (List.dropLast_concat_getLast hne).symm⟩
  have hc : isBlank c = false := hm c (List.mem_append_right _ List.mem_cons_self)
  have h := stripRight_append hc (x ++ l) y
  simpa using h

end ScenarioAudit.Text
