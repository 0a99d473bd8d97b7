import Mathlib.Data.List.Basic
import ScenarioAudit.Proofs.Scan.Facts
import ScenarioAudit.Scan.Scanner

/-! # The registration of a plain step definition

A plain step definition is cut into its lines (`splitLines_source`), its decorator is the only registration that the
scanner finds in it (`findAll_registration`), and the text of the step is the one of the decorator (`stepText_source`).
-/

namespace ScenarioAudit

open ScenarioAudit.Text ScenarioAudit.Syntax Pattern Scan

namespace PlainStep

variable (f : PlainStep)

/-! ## Lines -/

theorem word_letter : ∀ c ∈ f.word.toList, Letter c := by
  have hall : ∀ w ∈ stepDecorators, ∀ c ∈ w.toList, Letter c := by decide +kernel
  exact hall f.word f.isStep

theorem word_chars : ∀ c ∈ f.word.toList, isWordChar c = true :=
  fun c hc => (f.word_letter c hc).word

theorem word_ne_nil : f.word.toList ≠ [] := by
  have hall : ∀ w ∈ stepDecorators, w.toList ≠ [] := by decide
  exact hall f.word f.isStep

theorem indent_isBlank : ∀ c ∈ f.indent, isBlank c = true := by
  intro c hc
  rcases f.indent_blank c hc with rfl | rfl
  · decide
  · decide

theorem clean_decoratorLine : ∀ c ∈ f.decoratorLine, isLineBreak c = false := by
  intro c hc
  have hletter : Letter c → isLineBreak c = false := fun h => isLineBreak_of_not_isBlank h.blank
  have hmarks : ∀ c ∈ ['@', '(', '"', ')'], isLineBreak c = false := by decide
  simp only [decoratorLine, List.mem_cons, List.mem_append, List.not_mem_nil, or_false] at hc
  rcases hc with rfl | hc | rfl | rfl | hc | rfl | rfl
  · decide
  · exact hletter (f.word_letter c hc)
  · decide
  · decide
  · exact (f.text.clean c hc).2.2.2
  · decide
  · decide

theorem clean_headLine : ∀ c ∈ f.headLine, isLineBreak c = false := by
  intro c hc
  have hletter : Letter c → isLineBreak c = false := fun h => isLineBreak_of_not_isBlank h.blank
  have hdef : ∀ c ∈ "def ".toList, isLineBreak c = false := by decide
  rw [headLine, List.mem_append, List.mem_append, List.mem_cons, List.mem_append] at hc
  rcases hc with hc | hc | rfl | hc | hc
  · exact hdef c hc
  · exact hletter (f.name.letter c hc)
  · decide
  · exact hletter (f.parameter.letter c hc)
  · have hmarks : ∀ c ∈ [')', ':'], isLineBreak c = false := by decide
    exact hmarks c hc

theorem clean_bodyLine (s : PlainStatement) : ∀ c ∈ f.indent ++ s.line, isLineBreak c = false := by
  intro c hc
  rcases List.mem_append.mp hc with hc | hc
  · rcases f.indent_blank c hc with rfl | rfl
    · decide
    · decide
  · exact s.clean_line c hc

theorem lines_clean : ∀ l ∈ f.lines, l ≠ [] ∧ ∀ c ∈ l, isLineBreak c = false := by
  intro l hl
  rcases List.mem_cons.mp hl with rfl | hl
  · exact ⟨List.cons_ne_nil _ _, f.clean_decoratorLine⟩
  · rcases List.mem_cons.mp hl with rfl | hl
    · exact ⟨List.cons_ne_nil _ _, f.clean_headLine⟩
    · obtain ⟨s, -, rfl⟩ := List.mem_map.mp hl
      exact ⟨List.append_ne_nil_of_left_ne_nil f.indent_ne_nil _, f.clean_bodyLine s⟩

theorem splitLines_source : splitLines f.source = f.lines :=
  splitLines_joinLines (List.cons_ne_nil _ _) f.lines_clean f.ended

theorem source_eq : ∃ rest, f.source = f.decoratorLine ++ '\n' :: rest := by
  refine ⟨joinLines (f.headLine :: f.bodyLines) ++ if f.ended then ['\n'] else [], ?_⟩
  show f.decoratorLine ++ ['\n'] ++ joinLines (f.headLine :: f.bodyLines) ++ _ = _
  rw [List.append_assoc, List.append_assoc]
  rfl

/-! ## The registration -/

/-- A registration stands behind blanks at the start of a line. -/
theorem registration_opens {s t : Spot} (h : python.registration.Reaches s t) :
    (∀ c ∈ s.before.head?, c = '\n') ∧
      ∃ b rest, s.after = b ++ '@' :: rest ∧ ∀ c ∈ b, c = ' ' ∨ c = '\t' := by
  obtain ⟨m₄, ⟨m₃, ⟨m₂, ⟨m₁, ⟨m₀, hstart, hblanks⟩, hat⟩, -⟩, -⟩, -⟩ := h
  obtain ⟨hhead, rfl⟩ := reaches_lineStart.mp hstart
  obtain ⟨b, after, hafter, hb, rfl⟩ := hblanks
  obtain ⟨rest, hrest, -⟩ := reaches_char.mp hat
  obtain rfl : after = '@' :: rest := hrest
  refine ⟨hhead, b, rest, hafter, fun c hc => ?_⟩
  simpa using hb c hc

/-- The place behind the word of the decorator. -/
structure AfterWord (rest : List Char) (t : Spot) : Prop where
  before : t.before = f.word.toList.reverse ++ ['@']
  after : t.after = '(' :: rest
  position : 0 < t.position
  kind : t.captured 1 = f.word.toList
  text : t.captured 3 = []

theorem opensWith_word (rest : List Char) : OpensWith f.word.toList ('(' :: rest) :=
  ⟨f.word_chars, rfl⟩

theorem not_reaches_dotted {rest : List Char} {s t : Spot} (hs : s.after = f.word.toList ++ '(' :: rest) :
    ¬ (wordChars1 ++ char '.').Reaches s t := by
  rintro ⟨m, ⟨m', ⟨c, after, hafter, hc, rfl⟩, u, after', hu, hall, rfl⟩, hdot⟩
  obtain ⟨after'', hdot, -⟩ := reaches_char.mp hdot
  obtain rfl : after = u ++ after' := hu
  obtain rfl : after' = '.' :: after'' := hdot
  have hopens : OpensWith (c :: u) ('.' :: after'') := ⟨List.forall_mem_cons.mpr ⟨hc, hall⟩, rfl⟩
  have heq := (hopens.unique (f.opensWith_word rest) (hafter.symm.trans hs)).2
  cases heq

theorem last_word {w : String} (hw : w ∈ stepDecorators) (l : List Char) :
    (w.toList.reverse ++ l).head?.any isWordChar = true := by
  have hall : ∀ w ∈ stepDecorators, w.toList.reverse.head?.any isWordChar = true := by decide +kernel
  have hword := hall w hw
  cases hreverse : w.toList.reverse with
  | nil =>
    rw [hreverse] at hword
    cases hword
  | cons c u =>
    rw [hreverse] at hword
    exact hword

theorem afterWord_of_reaches {rest : List Char} {t : Spot}
    (h : python.registration.Reaches (.between [] ('@' :: (f.word.toList ++ '(' :: rest))) t) : f.AfterWord rest t := by
  obtain ⟨m₅, ⟨m₄, ⟨m₃, ⟨m₂, ⟨m₁, hstart, b, after, hafter, hb, rfl⟩, hchar⟩, hstar⟩, hkind⟩, hend⟩ := h
  obtain ⟨-, rfl⟩ := reaches_lineStart.mp hstart
  -- The text starts with the mark, so nothing is taken for indentation.
  obtain rfl : b = [] := by
    cases b with
    | nil => rfl
    | cons c b =>
      obtain rfl : '@' = c := (List.cons.inj hafter).1
      exact absurd (hb _ List.mem_cons_self) (by decide)
  obtain rfl : '@' :: (f.word.toList ++ '(' :: rest) = after := hafter
  obtain ⟨after, hafter, rfl⟩ := reaches_char.mp hchar
  obtain rfl := (List.cons.inj hafter).2
  obtain rfl := hstar.eq_of_no_step fun m hm => f.not_reaches_dotted rfl hm
  obtain ⟨m, hone, rfl⟩ := hkind
  obtain ⟨w, hw, after, hafter, rfl⟩ := reaches_oneOf.mp hone
  obtain ⟨hedge, rfl⟩ := reaches_edge.mp hend
  have hopens : OpensWith w.toList after := by
    have hall : ∀ w ∈ stepDecorators, ∀ c ∈ w.toList, isWordChar c = true := by decide +kernel
    have hsides : ((w.toList.reverse ++ ['@']).head?.any isWordChar != after.head?.any isWordChar) = true := hedge
    rw [last_word hw] at hsides
    exact ⟨hall w hw, by simpa using hsides⟩
  obtain ⟨hword, rfl⟩ := hopens.unique (f.opensWith_word rest) hafter.symm
  refine ⟨?_, rfl, ?_, ?_, rfl⟩
  · rw [← hword]
    rfl
  · show 0 < 0 + 0 + 1 + w.toList.length
    omega
  · show (f.word.toList ++ '(' :: rest).take (0 + 0 + 1 + w.toList.length - (0 + 0 + 1)) = f.word.toList
    rw [hword, Nat.add_sub_cancel_left, List.take_left]

theorem exists_reaches_registration (rest : List Char) :
    ∃ t, python.registration.Reaches (.between [] ('@' :: (f.word.toList ++ '(' :: rest))) t := by
  let start : Spot := .between [] ('@' :: (f.word.toList ++ '(' :: rest))
  let behind := start.next '@' (f.word.toList ++ '(' :: rest)
  have hstart : lineStart.Reaches start start := reaches_lineStart.mpr ⟨nofun, rfl⟩
  have hblanks : (many true fun c => c == ' ' || c == '\t').Reaches start start := reaches_many.mpr (Or.inl rfl)
  have hat : (char '@').Reaches start behind := reaches_char.mpr ⟨_, rfl, rfl⟩
  have hstar : (star (wordChars1 ++ char '.')).Reaches behind behind := reachesIn_refl _ behind
  have hword : (oneOf stepDecorators).Reaches behind (behind.skip f.word.toList ('(' :: rest)) :=
    reaches_oneOf.mpr ⟨f.word, f.isStep, '(' :: rest, rfl, rfl⟩
  refine ⟨_, _, ⟨_, ⟨_, ⟨_, ⟨_, hstart, hblanks⟩, hat⟩, hstar⟩, _, hword, rfl⟩, reaches_edge.mpr ⟨?_, rfl⟩⟩
  show ((f.word.toList.reverse ++ ['@']).head?.any isWordChar != isWordChar '(') = true
  rw [last_word f.isStep]
  rfl

theorem not_opens_mark {l b rest : List Char} (hl : l ∈ f.headLine :: f.bodyLines) (hb : ∀ c ∈ b, c = ' ' ∨ c = '\t') :
    l ≠ b ++ '@' :: rest := by
  have hblank : ∀ c ∈ b, isBlank c = true := by
    intro c hc
    rcases hb c hc with rfl | rfl
    · decide
    · decide
  intro heq
  have hmark : stripLeft l = '@' :: rest := by
    rw [heq, stripLeft_append hblank]
    rfl
  rcases List.mem_cons.mp hl with rfl | hl
  · cases hmark
  · obtain ⟨s, -, rfl⟩ := List.mem_map.mp hl
    obtain ⟨c, line, hline, hc⟩ := s.exists_first
    have hsolid : isBlank c = false ∧ c ≠ '@' := by
      rcases hc with hc | hc
      · refine ⟨hc.blank, ?_⟩
        rintro rfl
        exact hc.mark (by decide)
      · have hall : ∀ c ∈ ['"', '.'], isBlank c = false ∧ c ≠ '@' := by decide
        exact hall c hc
    rw [stripLeft_append f.indent_isBlank, hline, stripLeft_cons hsolid.1] at hmark
    exact hsolid.2 (List.cons.inj hmark).1

theorem findAfter_registration {rest : List Char} (h : f.source = '@' :: (f.word.toList ++ '(' :: rest)) {t : Spot}
    (ht : f.AfterWord rest t) : python.registration.findAfter t = none := by
  rw [findAfter, ← Option.isNone_iff_eq_none, ← Option.isSome_eq_false_iff, Bool.eq_false_iff]
  intro hfound
  obtain ⟨u, v, huv, t', ht'⟩ := (findFrom_isSome rfl).mp hfound
  obtain ⟨hplace, b, rest', hafter, hb⟩ := registration_opens ht'
  have hhead : ∀ c ∈ (u.reverse ++ (f.word.toList.reverse ++ ['@'])).head?, c = '\n' := by
    rw [← ht.before]
    exact hplace
  have hv : v = b ++ '@' :: rest' := hafter
  rw [ht.after] at huv
  -- The place is at the start of a later line.
  obtain ⟨u', rfl⟩ : ∃ u', u = u' ++ ['\n'] := by
    rcases List.eq_nil_or_concat u with rfl | ⟨u', c, rfl⟩
    · obtain ⟨c, w, hw⟩ := List.exists_cons_of_ne_nil (List.reverse_ne_nil_iff.mpr f.word_ne_nil)
      rw [hw] at hhead
      have hc := f.word_letter c (List.mem_reverse.mp (hw ▸ List.mem_cons_self))
      obtain rfl : c = '\n' := hhead c rfl
      exact absurd (by decide) hc.mark
    · rw [List.concat_eq_append, List.reverse_append] at hhead
      obtain rfl : c = '\n' := hhead c rfl
      exact ⟨u', List.concat_eq_append⟩
  have hsource : f.source = '@' :: (f.word.toList ++ u') ++ '\n' :: (b ++ ['@'] ++ rest') := by
    rw [h, huv, hv]
    simp
  have hclean : ∀ c ∈ b ++ ['@'], isLineBreak c = false := by
    intro c hc
    rcases List.mem_append.mp hc with hc | hc
    · rcases hb c hc with rfl | rfl
      · decide
      · decide
    · rw [List.mem_singleton.mp hc]
      decide
  have hlines := splitLines_feed_clean hclean (List.append_ne_nil_of_right_ne_nil b (List.cons_ne_nil _ _))
    ('@' :: (f.word.toList ++ u')) rest'
  obtain ⟨l, ls, hls⟩ := List.exists_cons_of_ne_nil (splitLines_ne_nil
    (List.append_ne_nil_of_right_ne_nil ('@' :: (f.word.toList ++ u')) (List.cons_ne_nil '\n' [])))
  rw [← hsource, f.splitLines_source, hls] at hlines
  have htail : f.headLine :: f.bodyLines = ls ++ (b ++ ['@'] ++ firstLine rest') :: (splitLines rest').tail :=
    (List.cons.inj hlines).2
  have hmem : b ++ ['@'] ++ firstLine rest' ∈ f.headLine :: f.bodyLines := by
    rw [htail]
    exact List.mem_append_right ls List.mem_cons_self
  exact f.not_opens_mark hmem hb (List.append_assoc b ['@'] (firstLine rest'))

/-- **The decorator is the only registration.** -/
theorem findAll_registration : ∃ m rest, python.registration.findAll f.source = [m] ∧ m.start = .start f.source ∧
    f.AfterWord rest m.stop := by
  obtain ⟨rest, hsource⟩ := f.source_eq
  let rest' := '"' :: (f.text.chars ++ '"' :: ')' :: '\n' :: rest)
  have hsource : f.source = '@' :: (f.word.toList ++ '(' :: rest') := by
    rw [hsource]
    simp [decoratorLine, rest']
  have hsome : (python.registration.matchAt (Spot.start f.source)).isSome := by
    rw [hsource]
    exact matchAt_isSome.mpr (f.exists_reaches_registration rest')
  obtain ⟨m, hm⟩ := Option.isSome_iff_exists.mp hsome
  obtain ⟨hstart, hstop⟩ := reaches_of_matchAt hm
  have hplace : (Spot.start f.source).forget = .between [] ('@' :: (f.word.toList ++ '(' :: rest')) := by
    rw [hsource]
    rfl
  rw [hplace] at hstop
  have hafter := f.afterWord_of_reaches hstop
  have hlt : m.start.position < m.stop.position := by
    rw [hstart]
    exact hafter.position
  exact ⟨m, rest', findAll_eq_singleton hm hlt (f.findAfter_registration hsource hafter), hstart, hafter⟩

/-! ## The text of the step -/

/-- The inside of a quoted text is taken character by character. -/
theorem reachesIn_inside {q : Char} {u rest : List Char} (hu : ∀ c ∈ u, c ≠ q ∧ c ≠ '\n') {n : Nat} {s : Spot}
    (hs : s.after = u ++ rest) (hn : u.length ≤ n) :
    ReachesIn ((char '\\' ++ one notNewline) ||| one fun c => c != q && c != '\n').Reaches n s (s.skip u rest) := by
  induction u generalizing s n with
  | nil =>
    rw [List.nil_append] at hs
    rw [Spot.skip_nil hs]
    exact reachesIn_refl n s
  | cons c u ih =>
    rw [List.forall_mem_cons] at hu
    obtain ⟨n, rfl⟩ := Nat.exists_eq_add_of_le' (Nat.lt_of_lt_of_le (Nat.succ_pos _) hn)
    have hstep : (one fun c => c != q && c != '\n').Reaches s (s.next c (u ++ rest)) := by
      refine ⟨c, u ++ rest, hs, ?_, rfl⟩
      rw [Bool.and_eq_true, bne_iff_ne, bne_iff_ne]
      exact hu.1
    have hrest := ih hu.2 (s := s.next c (u ++ rest)) rfl (Nat.le_of_succ_le_succ hn)
    rw [Spot.skip_cons] at hrest
    exact Or.inr ⟨_, Or.inr hstep, hrest⟩

theorem head_of_reaches_quotedText {s t : Spot} (h : quotedText.Reaches s t) :
    ∃ q ∈ ['"', '\'', backquote], s.after.head? = some q ∧ (quotedBy q).Reaches s t := by
  obtain ⟨p, hp, h⟩ := reaches_firstOf.mp h
  obtain ⟨q, hq, rfl⟩ := List.mem_map.mp hp
  obtain ⟨m, ⟨m', hopen, -⟩, -⟩ := id h
  obtain ⟨rest, hafter, -⟩ := reaches_char.mp hopen
  exact ⟨q, hq, by rw [hafter]; rfl, h⟩

theorem captured_quotedText {s t : Spot} (hs : s.after = '"' :: (f.text.chars ++ ['"', ')']))
    (h : quotedText.Reaches s t) : t.captured 1 = f.text.chars := by
  obtain ⟨q, -, -, m, ⟨m', hopen, m'', hinside, rfl⟩, hclose⟩ := head_of_reaches_quotedText h
  obtain ⟨rest, hafter, rfl⟩ := reaches_char.mp hopen
  rw [hs] at hafter
  obtain ⟨rfl, rfl⟩ := List.cons.inj hafter
  obtain ⟨u, hu, -, hposition⟩ := hinside.exists_skipped
  obtain ⟨rest, hrest, rfl⟩ := reaches_char.mp hclose
  have hrest : m''.after = '"' :: rest := hrest
  have hu : f.text.chars ++ '"' :: [')'] = u ++ '"' :: rest := by
    rw [← hrest]
    exact hu
  -- The text holds no quote, so the closing quote is the one behind it.
  have htext : '"' ∉ f.text.chars := fun hmem => (f.text.clean _ hmem).1 rfl
  have hclosing : '"' ∉ [')'] := by decide
  obtain ⟨rfl, -⟩ := (List.append_cons_inj_of_notMem htext hclosing).mp hu
  have hposition : m''.position = s.position + 1 + f.text.chars.length := hposition
  show (f.text.chars ++ ['"', ')']).take (m''.position - (s.position + 1)) = f.text.chars
  rw [hposition, Nat.add_sub_cancel_left, List.take_left]

theorem exists_reaches_quotedText {s : Spot} (hs : s.after = '"' :: (f.text.chars ++ ['"', ')'])) :
    ∃ t, quotedText.Reaches s t := by
  have htext : ∀ c ∈ f.text.chars, c ≠ '"' ∧ c ≠ '\n' := by
    intro c hc
    obtain ⟨hquote, -, -, hbreak⟩ := f.text.clean c hc
    refine ⟨hquote, ?_⟩
    rintro rfl
    exact absurd hbreak (by decide)
  let opened := s.next '"' (f.text.chars ++ ['"', ')'])
  have hopen : (char '"').Reaches s opened := reaches_char.mpr ⟨_, hs, rfl⟩
  have hinside : (star ((char '\\' ++ one notNewline) ||| one fun c => c != '"' && c != '\n')).Reaches opened
      (opened.skip f.text.chars ['"', ')']) :=
    reachesIn_inside htext rfl (by simp [opened, Spot.next])
  exact ⟨_, reaches_firstOf.mpr ⟨quotedBy '"', List.mem_cons_self,
    ⟨_, ⟨_, hopen, _, hinside, rfl⟩, reaches_char.mpr ⟨[')'], rfl, rfl⟩⟩⟩⟩

/-- **The text of the step is the one of the decorator.** -/
theorem stepText_source {m : Match} {rest : List Char} (hstart : m.start = .start f.source)
    (hstop : f.AfterWord rest m.stop) : stepText f.source m = f.text.chars := by
  obtain ⟨below, hsource⟩ := f.source_eq
  have hfeed : ∀ c ∈ f.decoratorLine, (c != '\n') = true := by
    intro c hc
    have hclean := f.clean_decoratorLine c hc
    rw [bne_iff_ne]
    rintro rfl
    exact absurd hclean (by decide)
  have hline : slice f.source 0 (Scan.endOfLine f.source 0) = f.decoratorLine := by
    rw [slice, Scan.endOfLine, hsource, List.drop_zero, List.takeWhile_append_of_pos hfeed,
      List.takeWhile_cons_of_neg (by decide), List.append_nil, Nat.sub_zero, Nat.zero_add, List.take_left]
  have hquoted : f.decoratorLine = '@' :: (f.word.toList ++ ['(']) ++ '"' :: (f.text.chars ++ ['"', ')']) := by
    simp [decoratorLine]
  have hfirst : ∀ s t, quotedText.Reaches s t → ∀ c ∈ '@' :: (f.word.toList ++ ['(']), s.after.head? ≠ some c := by
    intro s t h c hc heq
    obtain ⟨q, hq, hhead, -⟩ := head_of_reaches_quotedText h
    obtain rfl : q = c := Option.some.inj (hhead.symm.trans heq)
    rcases List.mem_cons.mp hc with rfl | hc
    · exact absurd hq (by decide)
    · rcases List.mem_append.mp hc with hc | hc
      · have hletter := (f.word_letter q hc).word
        have hall : ∀ q ∈ ['"', '\'', backquote], isWordChar q = false := by decide
        rw [hall q hq] at hletter
        cases hletter
      · rw [List.mem_singleton.mp hc] at hq
        exact absurd hq (by decide)
  let opening : Spot := (Spot.start f.decoratorLine).skip ('@' :: (f.word.toList ++ ['(']))
    ('"' :: (f.text.chars ++ ['"', ')']))
  obtain ⟨q, hq⟩ := Option.isSome_iff_exists.mp
    (matchAt_isSome.mpr (f.exists_reaches_quotedText (s := opening.forget) rfl))
  have hfind : quotedText.find f.decoratorLine = some q := by
    have h := findFrom_eq_some hfirst hq hquoted
    rw [← hquoted] at h
    exact h
  have hinside : m.captured 3 = [] := hstop.text
  have hposition : m.start.position = 0 := by
    rw [hstart]
    rfl
  rw [stepText, hinside, hposition, hline, hfind]
  exact f.captured_quotedText rfl (reaches_of_matchAt hq).2

end PlainStep

end ScenarioAudit
