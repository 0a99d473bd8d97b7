import Mathlib.Data.List.Infix
import ScenarioAudit.Proofs.Pattern.Word
import ScenarioAudit.Proofs.Scan.Bindings
import ScenarioAudit.Proofs.Scan.Marks
import ScenarioAudit.Proofs.Scan.Registration
import ScenarioAudit.Proofs.Text.LineEnds

/-! # Steps registered with a function in place

In the languages of the web a step is registered by a call with its text and a function. A text of such calls is scanned
without loss: each of them is one binding (`scan_inlineSteps`). Three things have to be seen. A search passes over what
holds none of the words that register a step (`passes_of_wordless`). A call is matched up to the brace of its function,
and what is captured as its text is its text (`InlineStep.exists_matchAt`). The brace that matches this one is the one
behind the body, if the body is balanced and ends in code (`matchingBrace?_body`).

A file is read before it is scanned, and reading turns every line end into a line feed, also one within the text of a
step (`scan_read_inlineSteps`).
-/

namespace ScenarioAudit

open ScenarioAudit.Text Pattern

namespace Scan

def webLanguages : List ScanRules :=
  [javascript, typescript]

def stepWords : List String :=
  ["Given", "When", "Then"]

/-- A text in which no word registers a step. -/
def Wordless (s : List Char) : Prop :=
  ∀ w ∈ stepWords, (Pattern.wholeWord w).occurs s = false

instance (s : List Char) : Decidable (Wordless s) :=
  inferInstanceAs (Decidable (∀ w ∈ stepWords, (Pattern.wholeWord w).occurs s = false))

/-- A text whose braces of code are balanced: as many close as open, and none closes before it was opened. -/
def Balanced (quotes text : List Char) : Prop :=
  nestingOf quotes text = 0 ∧ ∀ ms ∈ (mark quotes text).inits, 0 ≤ nestingSum ms

instance (quotes text : List Char) : Decidable (Balanced quotes text) :=
  inferInstanceAs (Decidable (nestingOf quotes text = 0 ∧ ∀ ms ∈ (mark quotes text).inits, 0 ≤ nestingSum ms))

/-- A step registered with a function in place: the word of the call, the text of the step and the body. -/
structure InlineStep where
  word : String
  text : List Char
  body : List Char

namespace InlineStep

/-- What stands in front of the body. -/
def head (x : InlineStep) : List Char :=
  x.word.toList ++ ['(', '\''] ++ x.text ++ '\'' :: ", function () \x7b".toList

/-- What stands behind the head: the body and the end of the call. -/
def tail (x : InlineStep) : List Char :=
  x.body ++ "\x7d);\n".toList

/-- The call in a line of its own, or in as many as its text and its body take. -/
def source (x : InlineStep) : List Char :=
  x.head ++ x.tail

def read (x : InlineStep) : InlineStep :=
  { x with text := universalNewlines x.text, body := universalNewlines x.body }

/-- What makes a call readable: its text holds no quote, and its body is a piece of code with balanced braces that ends
outside strings and comments and does not register steps itself. -/
structure Readable (quotes : List Char) (x : InlineStep) : Prop where
  word_mem : x.word ∈ stepWords
  unquoted : '\'' ∉ x.text
  balanced : Balanced quotes x.body
  closed : modeAfter quotes .code x.body = .code
  wordless : Wordless x.body

instance (quotes : List Char) (x : InlineStep) : Decidable (x.Readable quotes) :=
  decidable_of_iff (x.word ∈ stepWords ∧ '\'' ∉ x.text ∧ Balanced quotes x.body ∧
      modeAfter quotes .code x.body = .code ∧ Wordless x.body)
    ⟨fun h => ⟨h.1, h.2.1, h.2.2.1, h.2.2.2.1, h.2.2.2.2⟩,
      fun h => ⟨h.word_mem, h.unquoted, h.balanced, h.closed, h.wordless⟩⟩

def binding (r : ScanRules) (keywords : List String) (file : String) (line : Nat) (x : InlineStep) : StepBinding :=
  { kind := StepKind.ofKeyword x.word.toList
    text := codePoints x.text
    function := []
    file := file
    line := line
    body := r.facts keywords (braceLines r.quotes x.body) }

end InlineStep

/-- What stands in front of the calls: nothing, or whole lines that register no step. -/
structure Front (front : List Char) : Prop where
  wordless : Wordless front
  whole : ∀ c ∈ front.getLast?, c = '\n'

/-- The bindings of calls behind a text, each on the line on which it starts. -/
def inlineBindings (r : ScanRules) (keywords : List String) (file : String) : List Char → List InlineStep → List StepBinding
  | _, [] => []
  | front, x :: xs =>
    x.binding r keywords file (countNewlines front + 1) :: inlineBindings r keywords file (front ++ x.source) xs

/-! ## Words that register steps -/

theorem isWordChar_of_isBlank {c : Char} (h : isBlank c = true) : isWordChar c = false := by
  have hall : ∀ n ∈ blankCodes, isWordChar (Char.ofNat n) = false := by decide +kernel
  have hchar := hall c.toNat (mem_blankCodes h)
  rwa [Char.ofNat_toNat] at hchar

theorem isWord_of_mem {w : String} (hw : w ∈ stepWords) : IsWord w := by
  have hall : ∀ w ∈ stepWords, IsWord w := by decide +kernel
  exact hall w hw

theorem stepWords_unique {w w' : String} (hw : w ∈ stepWords) (hw' : w' ∈ stepWords) {x x' : List Char}
    (h : w.toList ++ x = w'.toList ++ x') : w = w' ∧ x = x' := by
  have hheads : ∀ w ∈ stepWords, ∀ w' ∈ stepWords, w.toList.head? = w'.toList.head? → w = w' := by decide +kernel
  obtain rfl : w = w' := by
    apply hheads w hw w' hw'
    obtain ⟨c, l, hc⟩ := List.exists_cons_of_ne_nil (isWord_of_mem hw).1
    obtain ⟨d, l', hd⟩ := List.exists_cons_of_ne_nil (isWord_of_mem hw').1
    rw [hc, hd] at h ⊢
    rw [(List.cons.inj h).1]
    rfl
  exact ⟨rfl, List.append_cancel_left h⟩

theorem head?_any_of_append {u v : List Char} (h : (u ++ v).head?.any isWordChar = false) :
    u.head?.any isWordChar = false := by
  cases u with
  | nil => rfl
  | cons c u => exact h

theorem Wordless.append {u v : List Char} (hu : Wordless u) (hv : ∀ c ∈ v, isWordChar c = false) :
    Wordless (u ++ v) := by
  intro w hw
  rw [Bool.eq_false_iff]
  intro hoccurs
  obtain ⟨a, b, htext, hbefore, hbehind⟩ := (occurs_wholeWord (isWord_of_mem hw)).mp hoccurs
  obtain ⟨hne, hword⟩ := isWord_of_mem hw
  have hnot {c : List Char} (hc : u = a ++ (w.toList ++ c)) (hhead : c.head?.any isWordChar = false) : False := by
    have hoccurs := (occurs_wholeWord (isWord_of_mem hw)).mpr ⟨a, c, hc, hbefore, hhead⟩
    rw [hu w hw] at hoccurs
    cases hoccurs
  rw [← List.append_assoc] at htext
  rcases List.append_eq_append_iff.mp htext with ⟨c, hfront, hv'⟩ | ⟨c, hu', hb⟩
  · rcases List.eq_nil_or_concat c with rfl | ⟨c, d, rfl⟩
    · exact hnot (c := []) (by simpa using hfront.symm) rfl
    · -- Else the last character of the word is one of those that are no part of words.
      have hlast := congrArg List.getLast? hfront
      rw [List.getLast?_append_of_ne_nil _ hne, List.concat_eq_append, ← List.append_assoc,
        List.getLast?_concat] at hlast
      have hd := hword d (List.mem_of_getLast? hlast)
      rw [hv d (by rw [hv']; simp)] at hd
      cases hd
  · rw [hb] at hbehind
    exact hnot (c := c) (by rw [hu', List.append_assoc]) (head?_any_of_append hbehind)

/-! ## Between the calls -/

theorem opens_of_reaches {s t : Spot} (h : webRegistration.Reaches s t) : ∃ w ∈ stepWords, ∃ v,
    s.after = w.toList ++ v ∧ s.before.head?.any isWordChar = false ∧ v.head?.any isWordChar = false := by
  obtain ⟨_, ⟨_, ⟨_, ⟨_, ⟨_, ⟨_, ⟨_, ⟨_, ⟨_, ⟨_, ⟨_, ⟨m, hedge, hkind⟩, hblanks⟩, hopen⟩, -⟩, -⟩, -⟩, -⟩, -⟩, -⟩, -⟩, -⟩,
    -⟩ := h
  obtain ⟨hbefore, rfl⟩ := reaches_edge.mp hedge
  obtain ⟨m', hone, rfl⟩ := hkind
  obtain ⟨w, hw, v, hafter, rfl⟩ := reaches_oneOf.mp hone
  rw [hafter, isEdge_before (isWord_of_mem hw), Bool.not_eq_true'] at hbefore
  refine ⟨w, hw, v, hafter, hbefore, ?_⟩
  obtain ⟨b, rest, hb, hblank, rfl⟩ := hblanks
  obtain ⟨m'', hchar, -⟩ := hopen
  obtain ⟨rest', hrest, -⟩ := reaches_char.mp hchar
  obtain rfl : v = b ++ rest := hb
  obtain rfl : rest = '(' :: rest' := hrest
  cases b with
  | nil => rfl
  | cons c b => exact isWordChar_of_isBlank (hblank c List.mem_cons_self)

/-- **A search passes over a text in which no word registers a step,** if the text does not end within a word. -/
theorem passes_of_wordless {x rest : List Char} (hx : Wordless x) (hlast : x.getLast?.any isWordChar = false)
    (s : Spot) : webRegistration.Passes s x rest := by
  rintro y z rfl hz t ht
  obtain ⟨w, hw, v, hafter, hbefore, hbehind⟩ := opens_of_reaches ht
  have hafter : z ++ rest = w.toList ++ v := hafter
  have hbefore : (y.reverse ++ s.before).head?.any isWordChar = false := hbefore
  rw [List.getLast?_append_of_ne_nil _ hz] at hlast
  rcases List.append_eq_append_iff.mp hafter with ⟨a, hword, -⟩ | ⟨a, rfl, rfl⟩
  · obtain ⟨z, d, rfl⟩ := (List.eq_nil_or_concat z).resolve_left hz
    have hd := (isWord_of_mem hw).2 d (by rw [hword]; simp)
    rw [List.concat_eq_append, List.getLast?_concat, Option.any_some, hd] at hlast
    cases hlast
  · have hoccurs := (occurs_wholeWord (isWord_of_mem hw)).mpr ⟨y, a, rfl, ?_, head?_any_of_append hbehind⟩
    · rw [hx w hw] at hoccurs
      cases hoccurs
    · rw [← List.head?_reverse]
      exact head?_any_of_append hbefore

/-! ## The match of a call -/

/-- What a registration has in front of the text of the step. -/
def webOpening : Pattern :=
  edge ++ kindOf stepWords ++ blanks ++ charBlanks '('
    ++ capture 2 (one fun c => ['\'', '"', backquote, '/'].contains c)

/-- What a registration has behind the text of the step. -/
def webClosing : Pattern :=
  blanks ++ charBlanks ',' ++ opt (word "async" ++ blanks1)
    ++ ((word "function" ++ blanks ++ wordChars ++ blanks ++ plainList)
      ||| ((plainList ||| wordChars1)
        ++ opt (blanks ++ charBlanks ':' ++ one (· != '=') ++ many false (· != '='))
        ++ blanks ++ word "=>"))
    ++ blanks ++ char '\x7b'

theorem run_webRegistration (s : Spot) (k : Spot → Option Spot) :
    webRegistration.run s k = webOpening.run s fun t =>
      (capture 3 (many false fun _ => true)).run t fun t => (same 2).run t fun t => webClosing.run t k := by
  simp only [webRegistration, webOpening, webClosing, stepWords, run_append]

/-- Behind the text everything is as the pattern has it, so its first way is taken. -/
theorem run_webClosing {s : Spot} {rest : List Char} (hs : s.after = ", function () \x7b".toList ++ rest) :
    webClosing.run s some = some (s.skip ", function () \x7b".toList rest) := by
  obtain ⟨before, after, position, captures⟩ := s
  subst hs
  rfl

theorem run_webOpening {w : String} (hw : w ∈ stepWords) {s : Spot} {rest : List Char}
    (hbefore : s.before.head?.any isWordChar = false) (hs : s.after = w.toList ++ '(' :: '\'' :: rest) :
    ∃ t, Skipped (w.toList ++ ['(', '\'']) s t ∧ t.captured 1 = w.toList ∧ t.captured 2 = ['\''] ∧
      ∀ k : Spot → Option Spot, webOpening.run s k = k t := by
  let named := s.skip w.toList ('(' :: '\'' :: rest)
  let caught := { named with captures := (1, ⟨s.after, named.position - s.position⟩) :: named.captures }
  let opened := (caught.next '(' ('\'' :: rest)).next '\'' rest
  have hedge (k : Spot → Option Spot) : edge.run s k = k s := by
    refine run_eq_of_unique (reaches_edge.mpr ⟨?_, rfl⟩) (fun t ht => (reaches_edge.mp ht).2) k
    rw [hs, isEdge_before (isWord_of_mem hw), hbefore, Bool.not_false]
  have hkind (k : Spot → Option Spot) : (kindOf stepWords).run s k = k caught := by
    have hreaches : (kindOf stepWords).Reaches s caught := ⟨named, reaches_oneOf.mpr ⟨w, hw, _, hs, rfl⟩, rfl⟩
    refine run_eq_of_unique hreaches ?_ k
    rintro t ⟨m, hm, rfl⟩
    obtain ⟨w', hw', after, hafter, rfl⟩ := reaches_oneOf.mp hm
    obtain ⟨rfl, rfl⟩ := stepWords_unique hw hw' (hs.symm.trans hafter)
    rfl
  refine ⟨{ opened with captures := (2, ⟨'\'' :: rest, opened.position - (caught.position + 1)⟩) :: caught.captures },
    ⟨?_, ?_, ?_⟩, ?_, ?_, ?_⟩
  · simp [hs, opened, Spot.next]
  · simp [opened, caught, named, Spot.next, Spot.skip]
  · simp [opened, caught, named, Spot.next, Spot.skip]
    omega
  · simp [Spot.captured, Span.text, caught, named, Spot.skip, hs]
  · simp [Spot.captured, Span.text, opened, Spot.next]
  · intro k
    simp only [webOpening, run_append]
    rw [hedge, hkind]
    rfl

theorem run_same_quote {s : Spot} (hs : s.captured 2 = ['\'']) {k : Spot → Option Spot} {rest : List Char}
    (hafter : s.after = '\'' :: rest) : (same 2).run s k = k (s.next '\'' rest) := by
  rw [run, hs, runText, hafter]
  rfl

/-- Where another character comes next, the quote is not found again. -/
theorem run_same_of_ne {s : Spot} (hs : s.captured 2 = ['\'']) {k : Spot → Option Spot} {c : Char} {rest : List Char}
    (hafter : s.after = c :: rest) (hc : c ≠ '\'') : (same 2).run s k = none := by
  rw [run, hs, runText, hafter]
  dsimp only
  rw [if_neg hc.symm]

/-- **A call is matched up to the brace of its function,** and its word and its text are captured. -/
theorem InlineStep.exists_matchAt {quotes : List Char} {x : InlineStep} (hx : x.Readable quotes) {s : Spot}
    {rest : List Char} (hbefore : s.before.head?.any isWordChar = false) (hs : s.after = x.head ++ rest) :
    ∃ m, webRegistration.matchAt s = some m ∧ Skipped x.head s m.stop ∧ m.captured 1 = x.word.toList ∧
      m.captured 3 = x.text := by
  let behind := '\'' :: (", function () \x7b".toList ++ rest)
  have hafter : s.forget.after = x.word.toList ++ '(' :: '\'' :: (x.text ++ behind) := by
    show s.after = _
    rw [hs]
    simp [InlineStep.head, behind]
  obtain ⟨t, ht, hword, hquote, hopening⟩ := run_webOpening hx.word_mem (s := s.forget) hbefore hafter
  have htext : t.after = x.text ++ behind := by
    have hall := hafter.symm.trans ht.1
    simpa using hall.symm
  -- The place behind some of the text, with that much of it captured.
  let taken (u v : List Char) : Spot :=
    { t.skip u v with captures := (3, ⟨t.after, (t.skip u v).position - t.position⟩) :: t.captures }
  have hquoted (u v : List Char) : (taken u v).captured 2 = ['\''] := hquote
  let k (t' : Spot) : Option Spot :=
    (same 2).run { t' with captures := (3, ⟨t.after, t'.position - t.position⟩) :: t'.captures } fun t' =>
      webClosing.run t' some
  let stop := ((taken x.text behind).next '\'' (", function () \x7b".toList ++ rest)).skip ", function () \x7b".toList rest
  have hend : k (t.skip x.text behind) = some stop := by
    exact (run_same_quote (hquoted x.text behind) rfl).trans (run_webClosing rfl)
  have hnone : ∀ u v, x.text = u ++ v → v ≠ [] → k (t.skip u (v ++ behind)) = none := by
    intro u v huv hv
    obtain ⟨c, v, rfl⟩ := List.exists_cons_of_ne_nil hv
    refine run_same_of_ne (hquoted u (c :: v ++ behind)) rfl ?_
    rintro rfl
    exact hx.unquoted (huv ▸ List.mem_append_right u List.mem_cons_self)
  have hlazy : (capture 3 (many false fun _ => true)).run t (fun t => (same 2).run t fun t => webClosing.run t some) =
      some stop := by
    have hrun := runLazy_eq (p := fun _ => true) (fun _ _ => rfl) htext hnone (by rw [hend]; rfl)
    rw [hend, ← htext] at hrun
    exact hrun
  refine ⟨⟨s.forget, stop⟩, ?_, ?_, ?_, ?_⟩
  · rw [matchAt, run_webRegistration, hopening, hlazy, Option.map_some]
  · have htaken : Skipped x.text t (taken x.text behind) := skipped_skip htext
    have hhead : x.head =
        x.word.toList ++ ['(', '\''] ++ x.text ++ ['\''] ++ ", function () \x7b".toList := by
      simp [InlineStep.head]
    rw [hhead]
    exact ((ht.trans htaken).trans (skipped_next rfl)).trans (skipped_skip rfl)
  · exact hword
  · show (t.after.take (t.position + x.text.length - t.position)) = x.text
    rw [Nat.add_sub_cancel_left, htext, List.take_left]

/-! ## The brace behind the body -/

/-- While the nesting stays above zero, the brace that takes it down to zero is further on. -/
theorem closing?_append {depth : Int} {ms : List Marked} (h : ∀ n, 0 < depth + nestingSum (ms.take n))
    (ms' : List Marked) :
    closing? depth (ms ++ ms') = (closing? (depth + nestingSum ms) ms').map (ms.length + ·) := by
  induction ms generalizing depth with
  | nil =>
    simp [nestingSum]
  | cons m ms ih =>
    have hnext (n : Nat) : 0 < depth + m.nesting + nestingSum (ms.take n) := by
      have hpositive := h (n + 1)
      rw [List.take_succ_cons, nestingSum_cons] at hpositive
      omega
    have hopen : ¬ (m.isCode '\x7d' = true ∧ depth = 1) := by
      rintro ⟨hclose, rfl⟩
      have hpositive := hnext 0
      have hbrace : m.isCode '\x7b' = false := by
        simp only [Marked.isCode, Bool.and_eq_true, decide_eq_true_eq] at hclose
        simp [Marked.isCode, hclose]
      rw [Marked.nesting, hclose, hbrace] at hpositive
      simp [nestingSum] at hpositive
    rw [List.cons_append, closing?, if_neg hopen, ih hnext, nestingSum_cons, Option.map_map, Int.add_assoc,
      List.length_cons]
    congr 1
    funext n
    show ms.length + n + 1 = ms.length + 1 + n
    omega

/-- **The brace that matches the one of the function is the one behind its body.** -/
theorem matchingBrace?_body {quotes body : List Char} (hquotes : '\x7b' ∉ quotes ∧ '\x7d' ∉ quotes)
    (hbody : Balanced quotes body) (hclosed : modeAfter quotes .code body = .code) (rest : List Char) :
    matchingBrace? quotes ('\x7b' :: (body ++ '\x7d' :: rest)) = some (body.length + 1) := by
  have hmarks : mark quotes ('\x7b' :: (body ++ '\x7d' :: rest)) =
      ⟨'\x7b', .code⟩ :: (mark quotes body ++ ⟨'\x7d', .code⟩ :: mark quotes rest) := by
    unfold mark
    rw [markFrom_code hquotes.1 (fun h => absurd h (by decide)), markFrom_append (by rw [hclosed]; nofun) (by simp),
      hclosed, markFrom_code hquotes.2 (fun h => absurd h (by decide))]
  have hpositive (n : Nat) : 0 < 1 + nestingSum ((mark quotes body).take n) := by
    have hnonneg := hbody.2 _ ((List.mem_inits _ _).mpr (List.take_prefix n _))
    omega
  have hsum : nestingSum (mark quotes body) = 0 := hbody.1
  rw [matchingBrace?, hmarks, closing?, if_neg (by simp)]
  show (closing? 1 _).map _ = _
  rw [closing?_append hpositive, hsum, closing?, if_pos ⟨rfl, rfl⟩]
  simp

/-! ## The binding of a call -/

theorem webLanguages_rules {r : ScanRules} (hr : r ∈ webLanguages) : r.registration = webRegistration ∧
    r.style = .atRegistration ∧ r.quotes = ['"', '\'', backquote] := by
  simp only [webLanguages, List.mem_cons, List.not_mem_nil, or_false] at hr
  rcases hr with rfl | rfl
  · exact ⟨rfl, rfl, rfl⟩
  · exact ⟨rfl, rfl, rfl⟩

theorem exists_quotedText {s : Spot} {rest : List Char} (hs : s.after = '\'' :: '\'' :: rest) :
    ∃ m, quotedText.matchAt s = some m ∧ m.captured 1 = [] := by
  obtain ⟨before, after, position, captures⟩ := s
  subst hs
  refine ⟨_, rfl, ?_⟩
  show (List.take (position + 1 - (position + 1)) _) = []
  rw [Nat.sub_self, List.take_zero]

theorem find_quotedText {w : String} (hw : w ∈ stepWords) (rest : List Char) :
    ∃ m, quotedText.find (w.toList ++ '(' :: '\'' :: '\'' :: rest) = some m ∧ m.captured 1 = [] := by
  let front := w.toList ++ ['(']
  let text := front ++ '\'' :: '\'' :: rest
  obtain ⟨m, hm, hcaptured⟩ := exists_quotedText (s := (Spot.start text).skip front ('\'' :: '\'' :: rest)) rfl
  refine ⟨m, ?_, hcaptured⟩
  have hfirst : ∀ s t, quotedText.Reaches s t → ∀ c ∈ front, s.after.head? ≠ some c := by
    intro s t h c hc heq
    obtain ⟨q, hq, hhead, -⟩ := PlainStep.head_of_reaches_quotedText h
    obtain rfl : q = c := Option.some.inj (hhead.symm.trans heq)
    have hall : ∀ w ∈ stepWords, ∀ c ∈ w.toList ++ ['('], c ∉ ['"', '\'', backquote] := by decide +kernel
    exact hall w hw q hc hq
  have hfind := findFrom_eq_some hfirst hm rfl
  have htext : w.toList ++ '(' :: '\'' :: '\'' :: rest = text := by simp [text, front]
  rw [htext]
  exact hfind

theorem stepText_of_call {w : String} (hw : w ∈ stepWords) {text rest x : List Char} {m : Match}
    (htext : text.drop m.start.position = w.toList ++ ['(', '\''] ++ x ++ '\'' :: rest) (hm : m.captured 3 = x) :
    stepText text m = x := by
  cases x with
  | cons c x => rw [stepText, hm]; rfl
  | nil =>
    have hclean : '\n' ∉ w.toList ++ ['(', '\'', '\''] := by
      have hall : ∀ w ∈ stepWords, '\n' ∉ w.toList ++ ['(', '\'', '\''] := by decide +kernel
      exact hall w hw
    have hsplit : text.drop m.start.position = w.toList ++ ['(', '\'', '\''] ++ rest := by
      rw [htext]
      simp
    have hline : slice text m.start.position (endOfLine text m.start.position) =
        w.toList ++ '(' :: '\'' :: '\'' :: beforeFeed rest := by
      have hcount : m.start.position + (w.toList ++ ['(', '\'', '\'']).length + (beforeFeed rest).length -
          m.start.position = (w.toList ++ ['(', '\'', '\''] ++ beforeFeed rest).length := by
        simp only [List.length_append]
        omega
      obtain ⟨below, hbelow, -, -⟩ := exists_below rest
      rw [slice, endOfLine_eq hsplit hclean, hsplit, hcount]
      conv => lhs; arg 2; rw [hbelow]
      rw [← List.append_assoc, List.take_left]
      simp
    obtain ⟨q, hq, hcaptured⟩ := find_quotedText hw (beforeFeed rest)
    rw [stepText, hm, hline, hq]
    exact hcaptured

/-- **The binding of a call has its word, its text and the facts of its body.** -/
theorem bindingOf_call {r : ScanRules} (hr : r ∈ webLanguages) (keywords : List String) (lookahead : Int)
    (file : String) {front rest : List Char} {x : InlineStep} (hx : x.Readable r.quotes) {m : Match}
    (hstart : m.start.position = front.length) (hstop : m.stop.position = front.length + x.head.length)
    (hword : m.captured 1 = x.word.toList) (htext : m.captured 3 = x.text) (lines : List (List Char)) (limit : Nat) :
    bindingOf r keywords lookahead file (front ++ (x.source ++ rest)) lines m limit =
      x.binding r keywords file (countNewlines front + 1) := by
  obtain ⟨-, hstyle, hquotes⟩ := webLanguages_rules hr
  have hbraces : '\x7b' ∉ r.quotes ∧ '\x7d' ∉ r.quotes := by
    rw [hquotes]
    decide
  -- The head without its brace, and what stands from the brace on.
  obtain ⟨lead, hlead⟩ : ∃ lead, x.head = lead ++ ['\x7b'] :=
    ⟨x.word.toList ++ ['(', '\''] ++ x.text ++ '\'' :: ", function () ".toList, by simp [InlineStep.head]⟩
  have hsplit : front ++ (x.source ++ rest) =
      front ++ lead ++ '\x7b' :: (x.body ++ '\x7d' :: (");\n".toList ++ rest)) := by
    rw [InlineStep.source, hlead]
    simp [InlineStep.tail]
  have hopening : m.stop.position - 1 = (front ++ lead).length := by
    rw [hstop, hlead, List.length_append, List.length_append, List.length_singleton]
    omega
  have hbody : slice (front ++ (x.source ++ rest)) (m.stop.position - 1 + 1)
      (m.stop.position - 1 + (x.body.length + 1)) = x.body := by
    have hfront : front ++ (x.source ++ rest) =
        front ++ lead ++ ['\x7b'] ++ (x.body ++ '\x7d' :: (");\n".toList ++ rest)) := by
      rw [hsplit]
      simp
    have hlength : (front ++ lead).length + 1 = (front ++ lead ++ ['\x7b']).length := by
      simp only [List.length_append, List.length_singleton]
    have hcount : (front ++ lead).length + (x.body.length + 1) - ((front ++ lead).length + 1) = x.body.length := by
      omega
    rw [slice, hopening, hcount, hlength, hfront, List.drop_left, List.take_left]
  have hdrop : (front ++ (x.source ++ rest)).drop m.start.position =
      x.word.toList ++ ['(', '\''] ++ x.text ++ '\'' :: (", function () \x7b".toList ++ (x.tail ++ rest)) := by
    rw [hstart, List.drop_left, InlineStep.source, InlineStep.head]
    simp
  have hplain : BodyStyle.atRegistration ≠ .indented := by decide
  rw [bindingOf, hstyle, if_neg hplain, braceBody, hstyle]
  dsimp only
  rw [stepText_of_call hx.word_mem hdrop htext, hword, hstart, List.take_left, InlineStep.binding]
  have hmatching : (matchingBrace? r.quotes ((front ++ (x.source ++ rest)).drop (m.stop.position - 1))) =
      some (x.body.length + 1) := by
    rw [hopening, hsplit, List.drop_left, matchingBrace?_body hbraces hx.balanced hx.closed]
  rw [hmatching, Option.map_some, Option.getD_some, hbody]
  rfl

/-! ## Calls one after the other -/

theorem not_reaches_end {s t : Spot} (hs : s.after = []) : ¬ webRegistration.Reaches s t := by
  intro h
  obtain ⟨w, hw, v, hafter, -⟩ := opens_of_reaches h
  rw [hs] at hafter
  exact (isWord_of_mem hw).1 (List.append_eq_nil_iff.mp hafter.symm).1

theorem InlineStep.passes_tail {quotes : List Char} {x : InlineStep} (hx : x.Readable quotes) (rest : List Char)
    (s : Spot) : webRegistration.Passes s x.tail rest := by
  refine passes_of_wordless (hx.wordless.append (by decide)) ?_ s
  rw [List.getLast?_append_of_ne_nil _ (by decide)]
  decide

theorem bindingsOf_calls {r : ScanRules} (hr : r ∈ webLanguages) (keywords : List String) (lookahead : Int)
    (file : String) {text : List Char} (lines : List (List Char)) {xs : List InlineStep}
    (hxs : ∀ x ∈ xs, x.Readable r.quotes) {front : List Char} {s : Spot} (hs : Skipped front (Spot.start text) s)
    (hafter : s.after = xs.flatMap InlineStep.source) (hbefore : s.before.head?.any isWordChar = false) :
    bindingsOf r keywords lookahead file text lines (webRegistration.allAfter s) =
      inlineBindings r keywords file front xs := by
  induction xs generalizing front s with
  | nil =>
    have hafter : s.after = [] := hafter
    have hnone : webRegistration.findAfter s = none := by
      refine findAfter_eq_none ?_ fun _ _ => not_reaches_end
      rw [hafter]
      exact avoids_nil
    rw [allAfter_of_none hnone]
    rfl
  | cons x xs ih =>
    rw [List.forall_mem_cons] at hxs
    obtain ⟨hx, hxs⟩ := hxs
    let rest := xs.flatMap InlineStep.source
    have hafter : s.after = x.head ++ (x.tail ++ rest) := by
      rw [hafter, List.flatMap_cons, InlineStep.source, List.append_assoc]
    obtain ⟨m, hm, hstop, hword, htext⟩ := InlineStep.exists_matchAt hx hbefore hafter
    obtain ⟨hstart, -⟩ := reaches_of_matchAt hm
    have hposition : s.position = front.length := hs.2.2.trans (Nat.zero_add _)
    have hlt : m.start.position < m.stop.position := by
      have hhead : 0 < x.head.length := by
        simp only [InlineStep.head, List.length_append, List.length_cons]
        omega
      rw [hstart, hstop.2.2]
      exact Nat.lt_add_of_pos_right hhead
    have hbehind : m.stop.after = x.tail ++ rest := by
      have hall := hstop.1
      rw [hafter, List.append_cancel_left_eq] at hall
      exact hall.symm
    have hwhole : text = front ++ (x.source ++ rest) := by
      rw [InlineStep.source, List.append_assoc, ← hafter]
      exact hs.1
    have hhere (limit : Nat) : bindingOf r keywords lookahead file (front ++ (x.source ++ rest)) lines m limit =
        x.binding r keywords file (countNewlines front + 1) := by
      have hposition' : m.start.position = front.length := by
        rw [hstart]
        exact hposition
      have hstop' : m.stop.position = front.length + x.head.length := by rw [hstop.2.2, hposition]
      exact bindingOf_call hr keywords lookahead file hx hposition' hstop' hword htext lines limit
    -- The search goes on behind the body.
    have hskipped : Skipped (front ++ x.source) (Spot.start text) (m.stop.skip x.tail rest) := by
      have hskipped := (hs.trans hstop).trans (skipped_skip hbehind)
      rwa [List.append_assoc] at hskipped
    have hquiet : (m.stop.skip x.tail rest).before.head?.any isWordChar = false := by
      show (x.tail.reverse ++ m.stop.before).head?.any isWordChar = false
      rw [InlineStep.tail, List.reverse_append]
      rfl
    obtain ⟨limit, hbindings⟩ := bindingsOf_cons r keywords lookahead file text lines m
      (webRegistration.allAfter (m.stop.skip x.tail rest))
    rw [← hwhole] at hhere
    rw [Pattern.allAfter_cons (findAfter_of_matchAt hm) hlt, allAfter_pass (InlineStep.passes_tail hx rest _) hbehind,
      hbindings, hhere, ih hxs hskipped rfl hquiet]
    rfl

/-- **Each call behind whole lines without a registration is one binding.** -/
theorem scan_inlineSteps {r : ScanRules} (hr : r ∈ webLanguages) (keywords : List String) (lookahead : Int)
    (file : String) {front : List Char} (hfront : Front front) {xs : List InlineStep}
    (hxs : ∀ x ∈ xs, x.Readable r.quotes) :
    scan r keywords lookahead file (front ++ xs.flatMap InlineStep.source) =
      inlineBindings r keywords file front xs := by
  have hregistration := (webLanguages_rules hr).1
  have hlast : front.getLast?.any isWordChar = false := by
    cases hc : front.getLast? with
    | none => rfl
    | some c =>
      rw [hfront.whole c hc]
      rfl
  rw [scan, hregistration, findAll_eq, allAfter_pass (passes_of_wordless hfront.wordless hlast _) rfl]
  refine bindingsOf_calls hr keywords lookahead file _ hxs (skipped_skip rfl) rfl ?_
  show (front.reverse ++ []).head?.any isWordChar = false
  rwa [List.append_nil, List.head?_reverse]

/-! ## Calls in a file -/

theorem InlineStep.head?_source {x : InlineStep} (hw : x.word ∈ stepWords) (rest : List Char) :
    (x.source ++ rest).head? ≠ some '\n' := by
  obtain ⟨hne, hall⟩ := isWord_of_mem hw
  obtain ⟨c, l, hc⟩ := List.exists_cons_of_ne_nil hne
  have hword := hall c (hc ▸ List.mem_cons_self)
  have hhead : (x.source ++ rest).head? = some c := by
    rw [InlineStep.source, InlineStep.head, hc]
    rfl
  rw [hhead]
  rintro ⟨⟩
  exact absurd hword (by decide)

theorem InlineStep.universalNewlines_source {x : InlineStep} (hw : x.word ∈ stepWords) :
    universalNewlines x.source = x.read.source := by
  have hsource (x : InlineStep) : x.source =
      (x.word.toList ++ ['(', '\'']) ++ (x.text ++ ('\'' :: ", function () \x7b".toList ++
        (x.body ++ "\x7d);\n".toList))) := by
    simp [InlineStep.source, InlineStep.head, InlineStep.tail]
  have hopening : universalNewlines (x.word.toList ++ ['(', '\'']) = x.word.toList ++ ['(', '\''] := by
    have hall : ∀ w ∈ stepWords, universalNewlines (w.toList ++ ['(', '\'']) = w.toList ++ ['(', '\''] := by
      decide +kernel
    exact hall x.word hw
  have hclosing : universalNewlines ('\'' :: ", function () \x7b".toList) = '\'' :: ", function () \x7b".toList := by
    decide +kernel
  have hend : universalNewlines "\x7d);\n".toList = "\x7d);\n".toList := by decide +kernel
  have hfirst : ∀ u, x.word.toList ++ ['(', '\''] ≠ u ++ ['\r'] := by
    intro u hu
    have hlast := congrArg List.getLast? hu
    rw [List.getLast?_append_of_ne_nil _ (List.cons_ne_nil _ _), List.getLast?_concat] at hlast
    exact absurd hlast (by decide)
  have hmiddle : ∀ u, '\'' :: ", function () \x7b".toList ≠ u ++ ['\r'] := by
    intro u hu
    have hlast := congrArg List.getLast? hu
    rw [List.getLast?_concat] at hlast
    exact absurd hlast (by decide)
  have htext (y : List Char) : universalNewlines (x.text ++ ('\'' :: ", function () \x7b".toList ++ y)) =
      universalNewlines x.text ++ universalNewlines ('\'' :: ", function () \x7b".toList ++ y) :=
    universalNewlines_append fun _ _ => by simp
  have hbody : universalNewlines (x.body ++ "\x7d);\n".toList) =
      universalNewlines x.body ++ universalNewlines "\x7d);\n".toList :=
    universalNewlines_append fun _ _ => by decide
  rw [hsource, hsource, universalNewlines_append fun u hu => absurd hu (hfirst u), hopening, htext,
    universalNewlines_append fun u hu => absurd hu (hmiddle u), hclosing, hbody, hend]
  rfl

theorem universalNewlines_calls {xs : List InlineStep} (hxs : ∀ x ∈ xs, x.word ∈ stepWords) :
    universalNewlines (xs.flatMap InlineStep.source) = (xs.map InlineStep.read).flatMap InlineStep.source := by
  induction xs with
  | nil => rfl
  | cons x xs ih =>
    rw [List.forall_mem_cons] at hxs
    have hrest : ∀ u, x.source = u ++ ['\r'] → (xs.flatMap InlineStep.source).head? ≠ some '\n' := by
      intro _ _
      cases xs with
      | nil => nofun
      | cons y ys => exact InlineStep.head?_source (hxs.2 y List.mem_cons_self) _
    rw [List.flatMap_cons, universalNewlines_append hrest, InlineStep.universalNewlines_source hxs.1, ih hxs.2,
      List.map_cons, List.flatMap_cons]

/-- **Each call in a file is one binding,** in order, with its word, the line on which it starts, and its text and the
facts of its body as they are read. -/
theorem scan_read_inlineSteps {r : ScanRules} (hr : r ∈ webLanguages) (keywords : List String) (lookahead : Int)
    (file : String) {front : List Char} (hfront : Front (universalNewlines front)) {xs : List InlineStep}
    (hxs : ∀ x ∈ xs, x.read.Readable r.quotes) :
    scan r keywords lookahead file (Tree.lossyText (encodeUtf8 (front ++ xs.flatMap InlineStep.source))) =
      inlineBindings r keywords file (universalNewlines front) (xs.map InlineStep.read) := by
  have hwords : ∀ x ∈ xs, x.word ∈ stepWords := fun x hx => (hxs x hx).word_mem
  have hcalls : ∀ u, front = u ++ ['\r'] → (xs.flatMap InlineStep.source).head? ≠ some '\n' := by
    intro _ _
    cases xs with
    | nil => nofun
    | cons x xs => exact InlineStep.head?_source (hwords x List.mem_cons_self) _
  rw [lossyText_encodeUtf8, universalNewlines_append hcalls, universalNewlines_calls hwords]
  refine scan_inlineSteps hr keywords lookahead file hfront ?_
  intro x hx
  obtain ⟨y, hy, rfl⟩ := List.mem_map.mp hx
  exact hxs y hy

/-- A call with a nested block and one without a text, behind an import. -/
theorem scan_read_inlineSteps_two :
    scan javascript ["assert"] 30 "s.js" (Tree.lossyText (encodeUtf8 ("import x;\n".toList ++
        [⟨"Given", "a user".toList, "\n  if (a) \x7b init(); \x7d // \x7d\n".toList⟩,
          ⟨"Then", [], " expect(a).toBe(b); ".toList⟩].flatMap InlineStep.source))) =
      [{ kind := .context, text := codePoints "a user".toList, file := "s.js", line := 2, body := { statements := 1 } },
        { kind := .outcome, file := "s.js", line := 5, body := { statements := 1, assertions := 1 } }] := by
  have hfront : Front (universalNewlines "import x;\n".toList) := by
    have hlast : (universalNewlines "import x;\n".toList).getLast? = some '\n' := by decide +kernel
    refine ⟨by decide +kernel, fun c hc => ?_⟩
    rw [hlast] at hc
    exact (Option.some.inj hc).symm
  have hcalls : ∀ x ∈ [⟨"Given", "a user".toList, "\n  if (a) \x7b init(); \x7d // \x7d\n".toList⟩,
      ⟨"Then", [], " expect(a).toBe(b); ".toList⟩], (InlineStep.read x).Readable javascript.quotes := by
    rw [List.forall_mem_cons, List.forall_mem_singleton]
    constructor
    · decide +kernel
    · decide +kernel
  rw [scan_read_inlineSteps List.mem_cons_self ["assert"] 30 "s.js" hfront hcalls]
  decide +kernel

/-- **A carriage return in the text of a step is read as a line feed,** so this text is not given back. -/
theorem returned_text_changed :
    (∀ x ∈ [⟨"Given", "a\rb".toList, []⟩], InlineStep.Readable javascript.quotes x) ∧ Front [] ∧
      scan javascript [] 30 "s.js" (Tree.lossyText (encodeUtf8
          ([] ++ [⟨"Given", "a\rb".toList, []⟩].flatMap InlineStep.source))) ≠
        inlineBindings javascript [] "s.js" [] [⟨"Given", "a\rb".toList, []⟩] := by
  exact ⟨List.forall_mem_singleton.mpr (by decide +kernel), ⟨by decide +kernel, nofun⟩, by decide +kernel⟩

end Scan

end ScenarioAudit
