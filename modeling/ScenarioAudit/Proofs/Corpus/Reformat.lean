import Mathlib.Logic.Relation
import ScenarioAudit.Proofs.Corpus.Change
import ScenarioAudit.Proofs.Corpus.Words

/-! # White space in a feature file

The steps of a text are read line by line and word by word, so changes of white space leave them alone
(`gherkinSteps_reformatted`), with one exception. A keyword is a step only with a blank after it. When a keyword stands
alone on its line, the first blank after it makes a step of the line and the last one taken away unmakes it
(`gherkinSteps_edit_iff`).
-/

namespace ScenarioAudit

open ScenarioAudit.Text

/-! ## Line by line -/

section Filter

variable {p : List Char → Bool} (hp : p [] = false)

include hp

theorem filter_splitLines_break {c : Char} (hc : isLineBreak c = true) (s : List Char) :
    (splitLines (c :: s)).filter p = (splitLines s).filter p := by
  by_cases hs : c = '\r' → s.head? ≠ some '\n'
  · rw [splitLines_break hc hs, List.filter_cons_of_neg (Bool.eq_false_iff.mp hp)]
  · obtain ⟨rfl, hfeed⟩ := Classical.not_imp.mp hs
    rw [splitLines_return (Classical.not_not.mp hfeed)]

theorem filter_splitLines_line {l : List Char} (hl : ∀ c ∈ l, isLineBreak c = false) :
    (splitLines l).filter p = if p l = true then [l] else [] := by
  by_cases hnil : l = []
  · rw [hnil, splitLines, hp]
    rfl
  · have h := splitLines_append_clean hl hnil []
    rw [List.append_nil, firstLine, List.takeWhile_nil, List.append_nil, splitLines, List.tail_nil] at h
    rw [h, List.filter_singleton, cond_eq_ite]

/-- **The lines before and after a break.** The empty lines aside, they are those of the text before it and of the
text after it. -/
theorem filter_splitLines_append {c : Char} (hc : isLineBreak c = true) (u s : List Char) :
    (splitLines (u ++ c :: s)).filter p = (splitLines u).filter p ++ (splitLines s).filter p := by
  have hclean {l : List Char} (hl : ∀ d ∈ l, isLineBreak d = false) {d : Char} (hd : isLineBreak d = true)
      (s : List Char) : (splitLines (l ++ d :: s)).filter p = (splitLines l).filter p ++ (splitLines s).filter p := by
    rw [filter_splitLines_line hp hl]
    by_cases hnil : l = []
    · rw [hnil, List.nil_append, filter_splitLines_break hp hd, hp]
      rfl
    · obtain ⟨ls, hls⟩ := splitLines_empty hd s
      have hfirst : firstLine (d :: s) = [] := List.takeWhile_cons_of_neg (by simp [hd])
      have hrest := filter_splitLines_break hp hd s
      rw [hls, List.filter_cons_of_neg (Bool.eq_false_iff.mp hp)] at hrest
      rw [splitLines_append_clean hl hnil, hfirst, List.append_nil, hls, List.tail_cons, List.filter_cons, hrest]
      by_cases hpl : p l = true
      · rw [if_pos hpl, if_pos hpl]
        rfl
      · rw [if_neg hpl, if_neg hpl]
        rfl
  induction hn : u.length using Nat.strongRecOn generalizing u with
  | ind n ih =>
    subst hn
    have hfirst : ∀ d ∈ firstLine u, isLineBreak d = false := fun d hd => by
      simpa using List.all_eq_true.mp List.all_takeWhile d hd
    have hsplit : firstLine u ++ u.dropWhile (fun d => !isLineBreak d) = u := List.takeWhile_append_dropWhile
    cases hdrop : u.dropWhile (fun d => !isLineBreak d) with
    | nil =>
      rw [hdrop, List.append_nil] at hsplit
      rw [← hsplit]
      exact hclean hfirst hc s
    | cons d v =>
      have hd : isLineBreak d = true := by
        have h := List.head?_dropWhile_not (fun d => !isLineBreak d) u
        rw [hdrop] at h
        simpa using h
      rw [hdrop] at hsplit
      have hlength : v.length < u.length := by
        rw [← hsplit, List.length_append, List.length_cons]
        omega
      rw [← hsplit, List.append_assoc, List.cons_append, hclean hfirst hd, hclean hfirst hd, ih v.length hlength v rfl,
        List.append_assoc]

end Filter

theorem gherkinSteps_append {c : Char} (hc : isLineBreak c = true) (u s : List Char) :
    gherkinSteps (u ++ c :: s) = gherkinSteps u ++ gherkinSteps s := by
  have hp : isGherkinStep [] = false := by decide
  rw [gherkinSteps, filter_splitLines_append hp hc, List.map_append, gherkinSteps, gherkinSteps]

theorem gherkinSteps_line {l : List Char} (hl : ∀ c ∈ l, isLineBreak c = false) :
    gherkinSteps l = if isGherkinStep l = true then [normalizeStep l] else [] := by
  have hp : isGherkinStep [] = false := by decide
  rw [gherkinSteps, filter_splitLines_line hp hl]
  by_cases hstep : isGherkinStep l = true
  · rw [if_pos hstep, if_pos hstep]
    rfl
  · rw [if_neg hstep, if_neg hstep]
    rfl

/-! ## Edits of white space -/

/-- Characters that separate words and no lines. -/
def Gap (s : List Char) : Prop :=
  ∀ c ∈ s, isBlank c = true ∧ isLineBreak c = false

instance (s : List Char) : Decidable (Gap s) :=
  inferInstanceAs (Decidable (∀ c ∈ s, isBlank c = true ∧ isLineBreak c = false))

/-- A text that ends where a line may start. -/
def EndsLine (s : List Char) : Prop :=
  s = [] ∨ ∃ u c, s = u ++ [c] ∧ isLineBreak c = true

/-- A text that starts where a line may end. -/
def StartsBreak (s : List Char) : Prop :=
  s = [] ∨ ∃ c u, s = c :: u ∧ isLineBreak c = true

/-- A change of white space in one line: before the text, between two words, or after the text. -/
inductive LineEdit : List Char → List Char → Prop
  | indent {a b : List Char} (ha : Gap a) (hb : Gap b) (l : List Char) : LineEdit (a ++ l) (b ++ l)
  | inside {a b : List Char} (ha : Gap a) (hb : Gap b) (hne : a ≠ []) (hne' : b ≠ []) (u v : List Char) :
      LineEdit (u ++ (a ++ v)) (u ++ (b ++ v))
  | trail {a b : List Char} (ha : Gap a) (hb : Gap b) (l : List Char) : LineEdit (l ++ a) (l ++ b)

/-- A change of white space in a text: in one line, as far as changes of that line are allowed, or a blank line more,
before a line or after one. -/
inductive Reformat (allowed : List Char → List Char → Prop) : List Char → List Char → Prop
  | line (front back : List Char) {l l' : List Char} (hfront : EndsLine front) (hback : StartsBreak back)
      (hl : ∀ c ∈ l, isLineBreak c = false) (h : LineEdit l l') (hallowed : allowed l l') :
      Reformat allowed (front ++ (l ++ back)) (front ++ (l' ++ back))
  | blankBefore (front blank br back : List Char) (hfront : EndsLine front) (hblank : Gap blank) (hne : br ≠ [])
      (hbr : ∀ c ∈ br, isLineBreak c = true) :
      Reformat allowed (front ++ back) (front ++ (blank ++ br ++ back))
  | blankAfter (front br blank back : List Char) (hback : StartsBreak back) (hblank : Gap blank) (hne : br ≠ [])
      (hbr : ∀ c ∈ br, isLineBreak c = true) :
      Reformat allowed (front ++ back) (front ++ (br ++ blank ++ back))

/-- A line with a keyword and nothing after it. -/
def IsBareKeyword (l : List Char) : Prop :=
  stripLeft l ∈ stepKeywords

/-- A change that makes no bare keyword of a line, and no other line of a bare keyword. -/
def KeepsBare (l l' : List Char) : Prop :=
  IsBareKeyword l ↔ IsBareKeyword l'

instance (l l' : List Char) : Decidable (KeepsBare l l') :=
  inferInstanceAs (Decidable (stripLeft l ∈ stepKeywords ↔ stripLeft l' ∈ stepKeywords))

/-! ## Edits of one line -/

theorem LineEdit.words_eq {l l' : List Char} (h : LineEdit l l') : words l = words l' := by
  have hblank {a : List Char} (ha : Gap a) : ∀ c ∈ a, isBlank c = true := fun c hc => (ha c hc).1
  have hhead {a : List Char} (ha : Gap a) (v : List Char) (hav : a ≠ [] ∨ v = []) :
      (a ++ v).head?.all isBlank = true := by
    cases a with
    | nil => simp [hav.resolve_left fun h => h rfl]
    | cons c a => simp [hblank ha c List.mem_cons_self]
  have hcut {a : List Char} (ha : Gap a) (u v : List Char) (hav : a ≠ [] ∨ v = []) :
      words (u ++ (a ++ v)) = words u ++ words v := by
    rw [words_append u (hhead ha v hav), words_append_left (hblank ha)]
  cases h with
  | indent ha hb l => rw [words_append_left (hblank ha), words_append_left (hblank hb)]
  | inside ha hb hne hne' u v => rw [hcut ha u v (Or.inl hne), hcut hb u v (Or.inl hne')]
  | trail ha hb l =>
    have hleft := hcut ha l [] (Or.inr rfl)
    have hright := hcut hb l [] (Or.inr rfl)
    rw [List.append_nil] at hleft hright
    rw [hleft, hright]

theorem LineEdit.clean {l l' : List Char} (h : LineEdit l l') (hl : ∀ c ∈ l, isLineBreak c = false) :
    ∀ c ∈ l', isLineBreak c = false := by
  intro c hc
  cases h with
  | indent ha hb l =>
    rcases List.mem_append.mp hc with hc | hc
    · exact (hb c hc).2
    · exact hl c (List.mem_append_right _ hc)
  | inside ha hb hne hne' u v =>
    rcases List.mem_append.mp hc with hc | hc
    · exact hl c (List.mem_append_left _ hc)
    · rcases List.mem_append.mp hc with hc | hc
      · exact (hb c hc).2
      · exact hl c (List.mem_append_right _ (List.mem_append_right _ hc))
  | trail ha hb l =>
    rcases List.mem_append.mp hc with hc | hc
    · exact hl c (List.mem_append_left _ hc)
    · exact (hb c hc).2

theorem words_of_bare {l : List Char} (h : IsBareKeyword l) : words l = [stripLeft l] := by
  obtain ⟨hnil, hsolid⟩ := keyword_solid h
  have hword := words_word hnil hsolid (s := []) rfl
  rwa [List.append_nil, words_stripLeft] at hword

theorem isGherkinStep_bare {l : List Char} :
    isGherkinStep l = true ↔ (∃ k ∈ stepKeywords, (words l).head? = some k) ∧ ¬ IsBareKeyword l := by
  rw [isGherkinStep_words]
  constructor
  · rintro ⟨k, hk, hhead, hne⟩
    refine ⟨⟨k, hk, hhead⟩, fun hbare => hne ?_⟩
    rw [words_of_bare hbare] at hhead
    exact Option.some.inj hhead
  · rintro ⟨⟨k, hk, hhead⟩, hbare⟩
    exact ⟨k, hk, hhead, fun heq => hbare (by rwa [IsBareKeyword, heq])⟩

/-- **An edited line keeps its step** exactly when it keeps being a bare keyword or none. -/
theorem LineEdit.steps_iff {l l' : List Char} (h : LineEdit l l') (hl : ∀ c ∈ l, isLineBreak c = false) :
    gherkinSteps l = gherkinSteps l' ↔ KeepsBare l l' := by
  have hnormal : normalizeStep l = normalizeStep l' := by
    rw [normalizeStep, normalizeStep, strip_squeeze, strip_squeeze, h.words_eq]
  have hsteps : gherkinSteps l = gherkinSteps l' ↔ (isGherkinStep l = true ↔ isGherkinStep l' = true) := by
    rw [gherkinSteps_line hl, gherkinSteps_line (h.clean hl), hnormal]
    by_cases hstep : isGherkinStep l = true
    all_goals by_cases hstep' : isGherkinStep l' = true
    all_goals simp [hstep, hstep']
  have hkeyword {m : List Char} (hwords : words l = words m) (hbare : IsBareKeyword m) :
      ∃ k ∈ stepKeywords, (words l).head? = some k :=
    ⟨stripLeft m, hbare, by rw [hwords, words_of_bare hbare]; rfl⟩
  rw [hsteps, isGherkinStep_bare, isGherkinStep_bare, ← h.words_eq, KeepsBare, and_congr_right_iff, not_iff_not]
  constructor
  · intro hiff
    by_cases hhead : ∃ k ∈ stepKeywords, (words l).head? = some k
    · exact hiff hhead
    · exact iff_of_false (fun hbare => hhead (hkeyword rfl hbare)) fun hbare => hhead (hkeyword h.words_eq hbare)
  · exact fun hiff _ => hiff

/-! ## Edits of a text -/

theorem gherkinSteps_front {front : List Char} (h : EndsLine front) (s : List Char) :
    gherkinSteps (front ++ s) = gherkinSteps front ++ gherkinSteps s := by
  rcases h with rfl | ⟨u, c, rfl, hc⟩
  · rfl
  · have hnil : gherkinSteps [] = [] := rfl
    rw [List.append_assoc, List.singleton_append, gherkinSteps_append hc, gherkinSteps_append hc, hnil, List.append_nil]

theorem gherkinSteps_back {back : List Char} (h : StartsBreak back) (u : List Char) :
    gherkinSteps (u ++ back) = gherkinSteps u ++ gherkinSteps back := by
  rcases h with rfl | ⟨c, s, rfl, hc⟩
  · rw [List.append_nil]
    exact (List.append_nil _).symm
  · have hback := gherkinSteps_append hc [] s
    rw [List.nil_append] at hback
    rw [gherkinSteps_append hc, hback]
    rfl

theorem gherkinSteps_blank {blank : List Char} (h : Gap blank) : gherkinSteps blank = [] := by
  have hstep : ¬ isGherkinStep blank = true := by
    rw [isGherkinStep_words, words_eq_nil fun c hc => (h c hc).1]
    rintro ⟨k, -, hhead, -⟩
    cases hhead
  rw [gherkinSteps_line fun c hc => (h c hc).2, if_neg hstep]

theorem gherkinSteps_breaks {br : List Char} (h : ∀ c ∈ br, isLineBreak c = true) : gherkinSteps br = [] := by
  induction br with
  | nil => rfl
  | cons c br ih =>
    have hback := gherkinSteps_append (h c List.mem_cons_self) [] br
    rw [List.nil_append] at hback
    rw [hback, ih fun d hd => h d (List.mem_cons_of_mem _ hd)]
    rfl

theorem endsLine_breaks {br : List Char} (hne : br ≠ []) (h : ∀ c ∈ br, isLineBreak c = true) (u : List Char) :
    EndsLine (u ++ br) := by
  refine Or.inr ⟨u ++ br.dropLast, br.getLast hne, ?_, h _ (List.getLast_mem hne)⟩
  rw [List.append_assoc, List.dropLast_concat_getLast]

theorem startsBreak_breaks {br : List Char} (hne : br ≠ []) (h : ∀ c ∈ br, isLineBreak c = true) (v : List Char) :
    StartsBreak (br ++ v) := by
  obtain ⟨c, br, rfl⟩ := List.exists_cons_of_ne_nil hne
  exact Or.inr ⟨c, br ++ v, rfl, h c List.mem_cons_self⟩

theorem gherkinSteps_around {front back l l' : List Char} (hfront : EndsLine front) (hback : StartsBreak back) :
    gherkinSteps (front ++ (l ++ back)) = gherkinSteps (front ++ (l' ++ back)) ↔ gherkinSteps l = gherkinSteps l' := by
  rw [gherkinSteps_front hfront, gherkinSteps_front hfront, gherkinSteps_back hback, gherkinSteps_back hback,
    List.append_right_inj, List.append_left_inj]

/-- One edit of a line changes the steps exactly when it makes or unmakes a bare keyword. -/
theorem gherkinSteps_edit_iff {front back l l' : List Char} (hfront : EndsLine front) (hback : StartsBreak back)
    (hl : ∀ c ∈ l, isLineBreak c = false) (h : LineEdit l l') :
    gherkinSteps (front ++ (l ++ back)) = gherkinSteps (front ++ (l' ++ back)) ↔ KeepsBare l l' :=
  (gherkinSteps_around hfront hback).trans (h.steps_iff hl)

theorem Reformat.steps_eq {s s' : List Char} (h : Reformat KeepsBare s s') : gherkinSteps s = gherkinSteps s' := by
  cases h with
  | line front back hfront hback hl h hallowed => exact (gherkinSteps_edit_iff hfront hback hl h).mpr hallowed
  | blankBefore front blank br back hfront hblank hne hbr =>
    have hstarts := startsBreak_breaks hne hbr []
    rw [List.append_nil] at hstarts
    have hline : gherkinSteps (blank ++ br) = [] := by
      rw [gherkinSteps_back hstarts, gherkinSteps_blank hblank, gherkinSteps_breaks hbr]
      rfl
    rw [gherkinSteps_front hfront, gherkinSteps_front hfront, gherkinSteps_front (endsLine_breaks hne hbr blank), hline]
    rfl
  | blankAfter front br blank back hback hblank hne hbr =>
    have hends := endsLine_breaks hne hbr []
    have hline : gherkinSteps (br ++ blank) = [] := by
      rw [List.nil_append] at hends
      rw [gherkinSteps_front hends, gherkinSteps_breaks hbr, gherkinSteps_blank hblank]
      rfl
    have hstarts := startsBreak_breaks hne hbr (blank ++ back)
    rw [← List.append_assoc] at hstarts
    rw [gherkinSteps_back hback, gherkinSteps_back hstarts, gherkinSteps_back hback, hline]
    rfl

/-- **Reformatting leaves the steps alone,** edit after edit. -/
theorem gherkinSteps_reformatted {s s' : List Char} (h : Relation.EqvGen (Reformat KeepsBare) s s') :
    gherkinSteps s = gherkinSteps s' := by
  induction h with
  | rel _ _ h => exact h.steps_eq
  | refl _ => rfl
  | symm _ _ _ ih => exact ih.symm
  | trans _ _ _ _ _ ih ih' => exact ih.trans ih'

/-! ## Edits of a feature file -/

/-- **White space in a feature file carries no meaning** but after a keyword that stands alone. Two versions of a
feature file have the same corpus if edits of white space lead from one to the other, none of which makes or unmakes
a line that is a keyword without anything after it. One edit of a line that does either changes the corpus. -/
theorem corpus_reformatted {t t' : Tree} {p : Path} {bytes bytes' : List UInt8} (hname : isFeatureName p.name = true)
    (hread : t.readBytes p = .ok bytes) (hread' : t'.readBytes p = .ok bytes') :
    ∃ c c', Corpus.ofPath t p = .ok c ∧ Corpus.ofPath t' p = .ok c' ∧
      (Relation.EqvGen (Reformat KeepsBare) (decodeUtf8Lossy bytes) (decodeUtf8Lossy bytes') → c.lines = c'.lines) ∧
      ∀ front back l l', EndsLine front → StartsBreak back → (∀ c ∈ l, isLineBreak c = false) → LineEdit l l' →
        decodeUtf8Lossy bytes = front ++ (l ++ back) → decodeUtf8Lossy bytes' = front ++ (l' ++ back) →
        (c.lines = c'.lines ↔ KeepsBare l l') := by
  have hlossy (bytes : List UInt8) : gherkinSteps (Tree.lossyText bytes) = gherkinSteps (decodeUtf8Lossy bytes) :=
    gherkinSteps_universalNewlines _
  refine ⟨_, _, ofPath_feature hname hread, ofPath_feature hname hread', fun h => ?_, ?_⟩
  · show gherkinSteps _ = gherkinSteps _
    rw [hlossy, hlossy, gherkinSteps_reformatted h]
  · intro front back l l' hfront hback hl h htext htext'
    show gherkinSteps _ = gherkinSteps _ ↔ _
    rw [hlossy, hlossy, htext, htext', gherkinSteps_edit_iff hfront hback hl h]

/-- A step that is indented and followed by blanks, after a new blank line. -/
theorem corpus_reformatted_step :
    ∃ c c', Corpus.ofPath (featureTree (encodeUtf8 "Given x\n".toList)) (Path.here.child "a.feature") = .ok c ∧
      Corpus.ofPath (featureTree (encodeUtf8 " \n\tGiven \t x  \n".toList)) (Path.here.child "a.feature") = .ok c' ∧
      c.lines = c'.lines ∧ c.lines = ["Given x".toList] := by
  have hindent : Reformat KeepsBare "Given x\n".toList "\tGiven x\n".toList :=
    .line [] ['\n'] (Or.inl rfl) (Or.inr ⟨'\n', [], rfl, rfl⟩) (by decide)
      (.indent (a := []) (b := ['\t']) (by decide) (by decide) "Given x".toList) (by decide)
  have hinside : Reformat KeepsBare "\tGiven x\n".toList "\tGiven \t x\n".toList :=
    .line [] ['\n'] (Or.inl rfl) (Or.inr ⟨'\n', [], rfl, rfl⟩) (by decide)
      (.inside (a := [' ']) (b := [' ', '\t', ' ']) (by decide) (by decide) (by decide) (by decide)
        "\tGiven".toList ['x'])
      (by decide)
  have htrail : Reformat KeepsBare "\tGiven \t x\n".toList "\tGiven \t x  \n".toList :=
    .line [] ['\n'] (Or.inl rfl) (Or.inr ⟨'\n', [], rfl, rfl⟩) (by decide)
      (.trail (a := []) (b := [' ', ' ']) (by decide) (by decide) "\tGiven \t x".toList) (by decide)
  have hblank : Reformat KeepsBare "\tGiven \t x  \n".toList " \n\tGiven \t x  \n".toList :=
    .blankBefore [] [' '] ['\n'] _ (Or.inl rfl) (by decide) (by decide) (by decide)
  have hedits : Relation.EqvGen (Reformat KeepsBare) (decodeUtf8Lossy (encodeUtf8 "Given x\n".toList))
      (decodeUtf8Lossy (encodeUtf8 " \n\tGiven \t x  \n".toList)) := by
    have htext : decodeUtf8Lossy (encodeUtf8 "Given x\n".toList) = "Given x\n".toList := by decide +kernel
    have htext' : decodeUtf8Lossy (encodeUtf8 " \n\tGiven \t x  \n".toList) = " \n\tGiven \t x  \n".toList := by
      decide +kernel
    rw [htext, htext']
    exact ((Relation.EqvGen.rel _ _ hindent).trans _ _ _ (.rel _ _ hinside)).trans _ _ _
      ((Relation.EqvGen.rel _ _ htrail).trans _ _ _ (.rel _ _ hblank))
  have hread (bytes : List UInt8) : (featureTree bytes).readBytes (Path.here.child "a.feature") = .ok bytes := rfl
  obtain ⟨c, c', hc, hc', hlines, -⟩ := corpus_reformatted (by decide) (hread (encodeUtf8 "Given x\n".toList))
    (hread (encodeUtf8 " \n\tGiven \t x  \n".toList))
  refine ⟨c, c', hc, hc', hlines hedits, ?_⟩
  have hsteps : gherkinSteps (Tree.lossyText (encodeUtf8 "Given x\n".toList)) = ["Given x".toList] := by
    decide +kernel
  rw [ofPath_feature (by decide) rfl, hsteps] at hc
  rw [← Except.ok.inj hc]

/-- The first blank after a bare keyword makes a step of it. -/
theorem corpus_reformatted_keyword :
    Relation.EqvGen (Reformat fun _ _ => True) (decodeUtf8Lossy (encodeUtf8 "Given".toList))
      (decodeUtf8Lossy (encodeUtf8 "Given ".toList)) ∧
    Corpus.ofPath (featureTree (encodeUtf8 "Given".toList)) (Path.here.child "a.feature") =
      .ok ⟨.scenarioFile (Path.here.child "a.feature"), []⟩ ∧
    Corpus.ofPath (featureTree (encodeUtf8 "Given ".toList)) (Path.here.child "a.feature") =
      .ok ⟨.scenarioFile (Path.here.child "a.feature"), ["Given".toList]⟩ := by
  refine ⟨?_, ?_, ?_⟩
  · have htext : decodeUtf8Lossy (encodeUtf8 "Given".toList) = "Given".toList := by decide +kernel
    have htext' : decodeUtf8Lossy (encodeUtf8 "Given ".toList) = "Given ".toList := by decide +kernel
    have hgap : Gap [] := nofun
    have hgap' : Gap [' '] := by decide
    rw [htext, htext']
    exact .rel _ _ (.line [] [] (Or.inl rfl) (Or.inl rfl) (by decide) (.trail hgap hgap' "Given".toList) trivial)
  · rw [ofPath_feature (by decide) rfl]
    have hsteps : gherkinSteps (Tree.lossyText (encodeUtf8 "Given".toList)) = [] := by decide +kernel
    rw [hsteps]
  · rw [ofPath_feature (by decide) rfl]
    have hsteps : gherkinSteps (Tree.lossyText (encodeUtf8 "Given ".toList)) = ["Given".toList] := by decide +kernel
    rw [hsteps]

end ScenarioAudit
