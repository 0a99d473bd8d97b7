import ScenarioAudit.Proofs.Framework.Reading
import ScenarioAudit.Proofs.Pattern.Search
import ScenarioAudit.Proofs.Text.Lines

/-! # What a step summary says is what is read

A breakdown lists numbers in front of labels. The search for a label passes over the entries with other labels, since no
two labels start alike, so the number that is read is the one of its entry (`labelNumber_entriesText`). The summary may
stand anywhere among lines without the word that it is recognised by: what is found before it can only be blank lines
that lead up to it (`blank_of_reaches_stepLead`). So the numbers of the summary are read exactly, whatever the other
lines are (`summary_read_exactly`).
-/

namespace ScenarioAudit

open ScenarioAudit.Text ScenarioAudit.Number Pattern

namespace Grammar

/-! ## Entries -/

def stepLabels : List String :=
  ["passed", "failed", "skipped", "ambiguous", "undefined", "pending", "untested"]

/-- A number in front of its label. -/
def entryText (e : ℕ × String) : List Char :=
  numeral e.1 ++ ' ' :: e.2.toList

def entriesText (es : List (ℕ × String)) : List Char :=
  joinWith ", ".toList (es.map entryText)

/-- Entries with different labels, and with numbers that can be read. -/
structure Breakdown where
  entries : List (ℕ × String)
  label_mem : ∀ e ∈ entries, e.2 ∈ stepLabels
  distinct : (entries.map Prod.snd).Nodup
  readable : ∀ e ∈ entries, Readable e.1

/-- The number in front of a label, zero if there is no such entry. -/
def Breakdown.count (b : Breakdown) (label : String) : ℕ :=
  ((b.entries.find? (·.2 = label)).map Prod.fst).getD 0

def Breakdown.text (b : Breakdown) : List Char :=
  entriesText b.entries

/-! ## Labels -/

/-- Two texts differ at a place before the end of either, in whatever case. -/
def clash : List Char → List Char → Bool
  | c :: l, d :: l' => !isCaseless c d || clash l l'
  | _, _ => false

theorem clash_of_ne {label other : String} (hlabel : label ∈ stepLabels) (hother : other ∈ stepLabels)
    (hne : label ≠ other) : clash label.toList other.toList = true := by
  have hall : ∀ label ∈ stepLabels, ∀ other ∈ stepLabels, label ≠ other →
      clash label.toList other.toList = true := by
    decide +kernel
  exact hall label hlabel other hother hne

theorem exists_first_of_mem {label : String} (hlabel : label ∈ stepLabels) :
    ∃ c l, label.toList = c :: l ∧ isBlank c = false := by
  have hne : ∀ label ∈ stepLabels, label.toList ≠ [] := by decide
  have hblank : ∀ label ∈ stepLabels, label.toList.head?.any isBlank = false := by decide
  obtain ⟨c, l, hl⟩ := List.exists_cons_of_ne_nil (hne label hlabel)
  have hc := hblank label hlabel
  rw [hl] at hc
  exact ⟨c, l, hl, hc⟩

theorem not_reaches_of_clash {label : String} {l rest : List Char} (h : clash label.toList l = true) {s t : Spot}
    (hs : s.after = l ++ rest) : ¬ (caseless label).Reaches s t := by
  rw [caseless]
  generalize label.toList = l' at h
  induction l' generalizing l s with
  | nil =>
    rw [clash] at h
    · cases h
    · rintro c l d l' ⟨⟩
  | cons c l' ih =>
    cases l with
    | nil => cases h
    | cons d l =>
      rintro ⟨m, ⟨c', rest', hc', hcaseless, rfl⟩, ht⟩
      rw [hs, List.cons_append, List.cons.injEq] at hc'
      obtain ⟨rfl, rfl⟩ := hc'
      rw [clash, hcaseless, Bool.not_true, Bool.false_or] at h
      exact ih rfl h ht

/-! ## The search for a label -/

theorem reaches_labelled {label : String} {s t : Spot} (h : (labelled label).Reaches s t) :
    ∃ (m : Spot) (ds bl : List Char), s.after = ds ++ (bl ++ m.after) ∧ ds ≠ [] ∧ bl ≠ [] ∧
      (∀ c ∈ ds, isDecimalDigit c = true) ∧ (∀ c ∈ bl, isBlank c = true) ∧ (caseless label).Reaches m t := by
  obtain ⟨m, ⟨m', hnumber, hblanks⟩, hlabel⟩ := h
  obtain ⟨hds, htakes⟩ := skipped_of_capture hnumber
  obtain ⟨bl, hbl, hadmits⟩ := exists_skipped_admits hblanks
  refine ⟨m, m'.captured 1, bl, ?_, htakes.ne_nil, ?_, ?_, ?_, hlabel⟩
  · rw [hds.1, hbl.1]
  · exact Takes.ne_nil ⟨m', m, hblanks, hbl⟩
  · exact htakes.forall_mem
  · intro c hc
    simpa [blanks1, many1, admits] using hadmits c hc

/-- A search passes over an entry with another label, and over what comes after it up to the next number. -/
theorem avoids_entry {label : String} {e : ℕ × String} (hlabel : label ∈ stepLabels) (he : e.2 ∈ stepLabels)
    (hne : label ≠ e.2) {gap rest : List Char} (hgap : ∀ c ∈ gap, isDecimalDigit c = false) :
    (labelled label).Avoids (entryText e ++ gap) rest := by
  obtain ⟨first, others, hfirst, hblank⟩ := exists_first_of_mem he
  have hletters : ∀ label ∈ stepLabels, ∀ c ∈ label.toList, isDecimalDigit c = false := by decide
  intro y z hyz hz s t hs ht
  obtain ⟨m, ds, bl, hafter, hds, hbl, hdigits, hblanks, hreaches⟩ := reaches_labelled ht
  rw [hs] at hafter
  obtain ⟨c, bl, rfl⟩ := List.exists_cons_of_ne_nil hbl
  rw [List.forall_mem_cons] at hblanks
  -- Only in the number of the entry does a number start.
  have hwhole : entryText e ++ gap = numeral e.1 ++ (' ' :: (e.2.toList ++ gap)) := by simp [entryText]
  rw [hwhole] at hyz
  rcases List.append_eq_append_iff.mp hyz with ⟨y', -, hz'⟩ | ⟨ds', hnumeral, hz'⟩
  · have hnodigit : ∀ c ∈ z, isDecimalDigit c = false := by
      intro c hc
      have hmem : c ∈ ' ' :: (e.2.toList ++ gap) := by
        rw [hz']
        exact List.mem_append_right y' hc
      simp only [List.mem_cons, List.mem_append] at hmem
      rcases hmem with rfl | hmem | hmem
      · decide
      · exact hletters e.2 he c hmem
      · exact hgap c hmem
    obtain ⟨d, ds, rfl⟩ := List.exists_cons_of_ne_nil hds
    obtain ⟨d', z, rfl⟩ := List.exists_cons_of_ne_nil hz
    rw [List.cons_append, List.cons_append, List.cons.injEq] at hafter
    have hdigit := hdigits d List.mem_cons_self
    rw [← hafter.1, hnodigit d' List.mem_cons_self] at hdigit
    cases hdigit
  · subst hz'
    have hds' : ∀ c ∈ ds', isDecimalDigit c = true :=
      fun c hc => isDecimalDigit_of_mem_numeral c (hnumeral ▸ List.mem_append_right y hc)
    have hc : isDecimalDigit c = false := not_isDecimalDigit_of_isBlank hblanks.1
    -- The number that is taken goes up to the blank, and the blank is the only one.
    rw [List.append_assoc, List.cons_append, List.cons_append] at hafter
    obtain ⟨rfl, rfl, hlabels⟩ := until_cons_inj hds' hdigits (by decide) hc hafter
    have hbl : bl = [] := by
      rw [hfirst] at hlabels
      cases bl with
      | nil => rfl
      | cons d bl =>
        simp only [List.cons_append, List.cons.injEq] at hlabels
        have hd := hblanks.2 d List.mem_cons_self
        rw [← hlabels.1, hblank] at hd
        cases hd
    subst hbl
    rw [List.append_assoc] at hlabels
    exact not_reaches_of_clash (clash_of_ne hlabel he hne) hlabels.symm hreaches

theorem findAfter_entry {e : ℕ × String} {rest : List Char} {s : Spot} (hs : s.after = entryText e ++ rest) :
    ((labelled e.2).findAfter s).map (·.captured 1) = some (numeral e.1) := by
  have htext : s.after = numeral e.1 ++ [' '] ++ e.2.toList ++ rest := by simp [hs, entryText]
  have hleads : (labelled e.2).LeadsOver (numeral e.1 ++ [' '] ++ e.2.toList) s.forget :=
    ((leadsOver_many1 (numeral_ne_nil _) isDecimalDigit_of_mem_numeral _).capture 1 |>.append
      (leadsOver_many1 (by simp) (by decide))).append (leadsOver_caseless e.2)
  obtain ⟨t, ht, -⟩ := hleads rest htext
  obtain ⟨m, hm⟩ := Option.isSome_iff_exists.mp (matchAt_isSome.mpr ⟨t, ht⟩)
  rw [findAfter_of_matchAt hm, Option.map_some, Option.some.injEq, Match.captured,
    (captured_of_labelled (reaches_of_matchAt hm).2).1]
  show s.after.takeWhile isDecimalDigit = numeral e.1
  rw [hs, entryText, List.append_assoc, List.cons_append,
    takeWhile_until_cons isDecimalDigit_of_mem_numeral (by decide)]

/-- **The search for a label finds the number of its entry,** the first one if there are several. -/
theorem findAfter_entriesText {label : String} (hlabel : label ∈ stepLabels) {es : List (ℕ × String)}
    (hes : ∀ e ∈ es, e.2 ∈ stepLabels) {s : Spot} (hs : s.after = entriesText es) :
    ((labelled label).findAfter s).map (·.captured 1) = (es.find? (·.2 = label)).map fun e => numeral e.1 := by
  induction es generalizing s with
  | nil =>
    have hnone : (labelled label).findAfter s = none := by
      rw [findAfter_eq_none]
      · rw [hs]
        exact avoids_nil
      · intro s t hs ht
        obtain ⟨m, ds, bl, hafter, hds, -⟩ := reaches_labelled ht
        rw [hs] at hafter
        exact hds (List.append_eq_nil_iff.mp hafter.symm).1
    rw [hnone]
    rfl
  | cons e es ih =>
    rw [List.forall_mem_cons] at hes
    obtain ⟨gap, hgap, htext⟩ := exists_joinWith_cons ", ".toList (entryText e) (es.map entryText)
    have hgap : ∀ c ∈ gap, isDecimalDigit c = false := by
      rcases hgap with rfl | rfl
      · nofun
      · decide
    replace hs : s.after = entryText e ++ gap ++ entriesText es := hs.trans htext
    by_cases he : e.2 = label
    · subst he
      rw [List.append_assoc] at hs
      rw [findAfter_entry hs, List.find?_cons_of_pos (by simp), Option.map_some]
    · rw [findAfter_skip (avoids_entry hlabel hes.1 (Ne.symm he) hgap) hs, List.find?_cons_of_neg (by simp [he])]
      exact ih hes.2 rfl

/-- **The number that is read for a label is that of its entry,** also after blanks. -/
theorem labelNumber_text {label : String} (hlabel : label ∈ stepLabels) (b : Breakdown) {x : List Char}
    (hx : ∀ c ∈ x, isBlank c = true) : labelNumber (x ++ b.text) label = .ok (b.count label) := by
  have hskip : (labelled label).Avoids x b.text := by
    refine avoids_of_head (q := isDecimalDigit) ?_ ?_
    · intro s t ht
      obtain ⟨m, ds, bl, hafter, hds, -, hdigits, -⟩ := reaches_labelled ht
      obtain ⟨d, ds, rfl⟩ := List.exists_cons_of_ne_nil hds
      rw [hafter]
      exact hdigits d List.mem_cons_self
    · intro c hc
      exact not_isDecimalDigit_of_isBlank (hx c hc)
  have hfind := findAfter_entriesText hlabel b.label_mem (s := (Spot.start (x ++ b.text)).skip x b.text) rfl
  rw [← findAfter_skip hskip rfl] at hfind
  unfold labelNumber Breakdown.count
  rw [find]
  cases hentry : b.entries.find? (·.2 = label) with
  | none =>
    rw [hentry, Option.map_none, Option.map_eq_none_iff] at hfind
    rw [hfind]
    rfl
  | some e =>
    rw [hentry, Option.map_some, Option.map_eq_some_iff] at hfind
    obtain ⟨m, hm, hcaptured⟩ := hfind
    have hreadable := b.readable e (List.mem_of_find?_eq_some hentry)
    rw [hm]
    show numberOf (m.captured 1) = .ok (e.1 : Int)
    rw [hcaptured, numberOf_numeral hreadable]

theorem labelSum_text {labels : List String} (hlabels : ∀ label ∈ labels, label ∈ stepLabels) (b : Breakdown)
    {x : List Char} (hx : ∀ c ∈ x, isBlank c = true) :
    labelSum (x ++ b.text) labels = .ok ((labels.map b.count).sum : ℕ) := by
  have hsums : ∀ start : Int, labels.foldlM (fun sum label => (labelNumber (x ++ b.text) label).map (sum + ·)) start =
      .ok (start + ((labels.map b.count).sum : ℕ)) := by
    induction labels with
    | nil =>
      intro start
      simp [pure, Except.pure]
    | cons label labels ih =>
      rw [List.forall_mem_cons] at hlabels
      intro start
      rw [labelSum_cons_eq_ok]
      refine ⟨b.count label, labelNumber_text hlabels.1 b hx, ?_⟩
      rw [ih hlabels.2, List.map_cons, List.sum_cons, Nat.cast_add, Int.add_assoc]
  rw [labelSum, hsums, Int.zero_add]

/-! ## Where the summary is found -/

def stepLead : Pattern :=
  lineStart ++ blanks ++ digits ++ blanks1 ++ caseless "step"

theorem not_admits_step {d : Char} (hd : isDecimalDigit d = true) : ¬ (caseless "step").admits d = true := by
  have hascii : ∀ c ∈ "step".toList ++ "STEP".toList, isDecimalDigit c = false := by decide
  have hlong : decimalSet.containsCode 0x17F = false := by decide
  intro h
  have hcases : d ∈ "step".toList ++ "STEP".toList ∨ d.toNat = 0x17F := by
    have hword : (caseless "step").admits d =
        (isCaseless 's' d || (isCaseless 't' d || (isCaseless 'e' d || (isCaseless 'p' d || false)))) := rfl
    rw [hword] at h
    simp only [isCaseless, Bool.or_eq_true, Bool.and_eq_true, beq_iff_eq] at h
    simp
    grind
  rcases hcases with hmem | hcode
  · rw [hascii d hmem] at hd
    cases hd
  · rw [isDecimalDigit, CodeSet.contains, hcode, hlong] at hd
    cases hd

/-- **A summary starts in front of a line only after blanks** that lead up to the line, if the word is not there. -/
theorem blank_of_reaches_stepLead {u x rest : List Char} {d : Char} (hd : isDecimalDigit d = true)
    (hstep : (caseless "step").occurs (u ++ x) = false) (hlast : ∀ c ∈ x.getLast?, c = '\n') {t : Spot}
    (h : stepLead.Reaches (.between u (x ++ d :: rest)) t) : ∀ c ∈ x, isBlank c = true := by
  obtain ⟨m₃, ⟨m₂, ⟨m₁, ⟨m, hstart, hindent⟩, hnumber⟩, hgap⟩, hword⟩ := h
  obtain ⟨-, rfl⟩ := reaches_lineStart.mp hstart
  obtain ⟨z₁, hz₁, hblank₁⟩ := exists_skipped_admits hindent
  obtain ⟨z₂, hz₂, hdigit₂⟩ := exists_skipped_admits hnumber
  obtain ⟨z₃, hz₃, hblank₃⟩ := exists_skipped_admits hgap
  obtain ⟨z₄, hz₄, hletter₄⟩ := exists_skipped_admits hword
  have hnoblank : isBlank d = false := not_isBlank_of_isDecimalDigit hd
  -- The digit that opens the line is none of the blanks.
  obtain ⟨x₁, rfl, hx₁⟩ := exists_append_of_not_mem (hz₁.1.symm : _ = x ++ d :: rest) <| by
    intro hmem
    have hblank : isBlank d = true := hblank₁ d hmem
    rw [hnoblank] at hblank
    cases hblank
  rcases List.eq_nil_or_concat x₁ with rfl | ⟨x₂, c, rfl⟩
  · rw [List.append_nil]
    exact hblank₁
  -- Otherwise a line feed ends the text before the line, so all of the lead, the word included, is in front of it.
  exfalso
  rw [List.concat_eq_append] at hlast hstep hx₁
  obtain rfl : c = '\n' := hlast c (by simp)
  rw [hz₂.1, List.append_assoc, List.singleton_append] at hx₁
  obtain ⟨x₃, rfl, hx₃⟩ := exists_append_of_not_mem hx₁ <| by
    intro hmem
    have hdigit := hdigit₂ _ hmem
    simp only [digits, many1, admits, Bool.or_self] at hdigit
    exact absurd hdigit (by decide)
  obtain ⟨x₄, hx₄, hr₄⟩ := exists_append_of_not_mem (x := x₃ ++ ['\n']) (d := d) (y := rest)
      ((hz₃.1.symm.trans hx₃).trans (by simp)) <| by
    intro hmem
    have hblank := hblank₃ _ hmem
    simp only [blanks1, many1, admits, Bool.or_self] at hblank
    rw [hnoblank] at hblank
    cases hblank
  rw [hz₄.1] at hr₄
  obtain ⟨x₅, rfl, -⟩ := exists_append_of_not_mem hr₄ <| by
    intro hmem
    exact not_admits_step hd (hletter₄ d hmem)
  have htext : u ++ (z₁ ++ (z₂ ++ x₃ ++ ['\n'])) = u ++ z₁ ++ z₂ ++ z₃ ++ (z₄ ++ x₅) := by
    rw [List.append_assoc z₂, hx₄]
    simp
  obtain ⟨t', ht', -⟩ := leadsOver_of_reaches_caseless hword hz₄ (.between (u ++ z₁ ++ z₂ ++ z₃) (z₄ ++ x₅)) x₅ rfl
  have hoccurs := occurs_iff.mpr ⟨_, _, htext, t', ht'⟩
  rw [hstep] at hoccurs
  cases hoccurs

theorem find_of_line {p : Pattern} {u rest b : List Char} {d : Char} (hd : isDecimalDigit d = true)
    (hstep : (caseless "step").occurs u = false) (hlast : ∀ c ∈ u.getLast?, c = '\n')
    (hlead : ∀ s t, p.Reaches s t → ∃ m, stepLead.Reaches s m) (hthere : ∃ t, p.Reaches (.between u (d :: rest)) t)
    (hcaptured : ∀ x s t, (∀ c ∈ x, isBlank c = true) → s.after = x ++ d :: rest → p.Reaches s t → t.captured 1 = b) :
    ∃ m, p.find (u ++ d :: rest) = some m ∧ m.captured 1 = b := by
  obtain ⟨t, ht⟩ := hthere
  have hoccurs : p.occurs (u ++ d :: rest) = true := occurs_iff.mpr ⟨u, d :: rest, rfl, t, ht⟩
  obtain ⟨m, hm⟩ := Option.isSome_iff_exists.mp hoccurs
  obtain ⟨u', v', htext, hreaches, hmin⟩ := find_eq_some hm
  -- The place that is found is not behind the line, so what follows it is the line after blanks.
  obtain ⟨x, rfl⟩ : ∃ x, u = u' ++ x := by
    have hopens : u' <+: u :=
      List.prefix_of_prefix_length_le ⟨v', htext.symm⟩ ⟨d :: rest, rfl⟩ (hmin u (d :: rest) t rfl ht)
    exact hopens.imp fun x hx => hx.symm
  obtain rfl : v' = x ++ d :: rest := by
    rw [List.append_assoc] at htext
    exact (List.append_cancel_left htext).symm
  obtain ⟨t', ht'⟩ := hlead _ _ hreaches
  have hfeed : ∀ c ∈ x.getLast?, c = '\n' := by
    intro c hc
    refine hlast c ?_
    rw [List.getLast?_append, hc]
    rfl
  exact ⟨m, hm, hcaptured x _ _ (blank_of_reaches_stepLead hd hstep hfeed ht') rfl hreaches⟩

/-! ## Lines -/

def bracketLine (n : ℕ) (b : List Char) : List Char :=
  numeral n ++ " steps (".toList ++ b ++ [')']

def passedLine (n : ℕ) (b : List Char) : List Char :=
  numeral n ++ " steps passed,".toList ++ ' ' :: b

theorem stepLead_of_bracketSummary {s t : Spot} (h : bracketSummary.Reaches s t) : ∃ m, stepLead.Reaches s m := by
  obtain ⟨-, ⟨-, ⟨-, ⟨-, ⟨m, hm, -⟩, -⟩, -⟩, -⟩, -⟩ := h
  exact ⟨m, hm⟩

theorem stepLead_of_passedSummary {s t : Spot} (h : passedSummary.Reaches s t) : ∃ m, stepLead.Reaches s m := by
  obtain ⟨-, ⟨-, ⟨-, ⟨-, ⟨m, hm, -⟩, -⟩, -⟩, -⟩, -⟩ := h
  exact ⟨m, hm⟩

theorem getLast?_eq_head?_reverse {u : List Char} (h : ∀ c ∈ u.getLast?, c = '\n') :
    ∀ c ∈ u.reverse.head?, c = '\n' := by
  rwa [List.head?_reverse]

theorem captured_of_passedLine {x b w : List Char} {n : ℕ} (hx : ∀ c ∈ x, isBlank c = true) (hb : '\n' ∉ b)
    (hw : ∀ c ∈ w.head?, c = '\n') {s t : Spot} (hs : s.after = x ++ (passedLine n b ++ w))
    (h : passedSummary.Reaches s t) : t.captured 1 = ' ' :: b := by
  have hfront : " steps passed,".toList = " steps passed".toList ++ [','] := by decide
  have htext : s.after = x ++ numeral n ++ " steps passed".toList ++ ',' :: (' ' :: b ++ w) := by
    rw [hs, passedLine, hfront]
    simp only [List.append_assoc, List.cons_append, List.nil_append]
  have hstop : w.head?.any notNewline = false := by
    cases hhead : w.head? with
    | none => rfl
    | some c =>
      rw [hw c hhead]
      rfl
  have hline : '\n' ∉ ' ' :: b := by simp [hb]
  rw [captured_of_passedSummary h, htext]
  exact takeWhile_enclosed (not_mem_opening hx isDecimalDigit_of_mem_numeral (by decide) (by decide) (by decide))
    (bne_of_not_mem hline) hstop

theorem exists_reaches_passedLine {b w : List Char} {n : ℕ} (hb : '\n' ∉ b) (hw : ∀ c ∈ w.head?, c = '\n') {s : Spot}
    (hs : ∀ c ∈ s.before.head?, c = '\n') (hafter : s.after = passedLine n b ++ w) :
    ∃ t, passedSummary.Reaches s t := by
  have hnone : ∀ m, blanks.LeadsOver [] m := leadsOver_many (by simp)
  have hblank : ∀ m, blanks1.LeadsOver [' '] m := leadsOver_many1 (by simp) (by decide)
  have hnumber := leadsOver_many1 (numeral_ne_nil n) isDecimalDigit_of_mem_numeral
  have hopening := (((leadsOver_lineStart hs).append hnone).append hnumber).append hblank
  have hword := (hopening.append (leadsOver_caseless "step")).append fun m => (leadsOver_caseless "s" m).opt
  have hpassed := (hword.append hblank).append (leadsOver_caseless "passed,")
  have hline : '\n' ∉ ' ' :: b := by simp [hb]
  have hcounts : ∀ m, (many true (· != '\n')).LeadsOver (' ' :: b) m := leadsOver_many (bne_of_not_mem hline)
  have hall := hpassed.append fun m => (hcounts m).capture 1
  have hfront : " steps passed,".toList = [' '] ++ "step".toList ++ "s".toList ++ [' '] ++ "passed,".toList := by
    decide
  obtain ⟨t, ht, hrest⟩ := hall w (by
    rw [hafter, passedLine, hfront]
    simp only [List.append_assoc, List.nil_append])
  refine ⟨t, t, ht, ?_, rfl⟩
  show t.after.head?.all (· == '\n') = true
  rw [hrest]
  cases hhead : w.head? with
  | none => rfl
  | some c =>
    rw [hw c hhead]
    rfl

section Lines

variable {u w b : List Char} (n : ℕ) (hstep : (caseless "step").occurs u = false) (hu : ∀ c ∈ u.getLast?, c = '\n')

include hstep hu

theorem find_bracketLine (hb : ')' ∉ b) :
    ∃ m, bracketSummary.find (u ++ bracketLine n b ++ w) = some m ∧ m.captured 1 = b := by
  obtain ⟨d, ds, hds, hd⟩ := numeral_eq_cons n
  have htext : bracketLine n b ++ w = d :: (ds ++ " steps (".toList ++ b ++ [')'] ++ w) := by
    rw [bracketLine, hds]
    rfl
  rw [List.append_assoc, htext]
  refine find_of_line hd hstep hu (fun s t => stepLead_of_bracketSummary) ?_ ?_
  · obtain ⟨t, ht, -⟩ := leadsOver_bracketSummary (numeral_ne_nil n) isDecimalDigit_of_mem_numeral hb
      (s := .between u (bracketLine n b ++ w)) (getLast?_eq_head?_reverse hu) w rfl
    rw [← htext]
    exact ⟨t, ht⟩
  · intro x s t hx hs h
    rw [← htext] at hs
    exact captured_of_bracketLine hx isDecimalDigit_of_mem_numeral hb hs h

theorem find_passedLine (hb : '\n' ∉ b) (hw : ∀ c ∈ w.head?, c = '\n') :
    ∃ m, passedSummary.find (u ++ passedLine n b ++ w) = some m ∧ m.captured 1 = ' ' :: b := by
  obtain ⟨d, ds, hds, hd⟩ := numeral_eq_cons n
  have htext : passedLine n b ++ w = d :: (ds ++ " steps passed,".toList ++ ' ' :: b ++ w) := by
    rw [passedLine, hds]
    rfl
  rw [List.append_assoc, htext]
  refine find_of_line hd hstep hu (fun s t => stepLead_of_passedSummary) ?_ ?_
  · rw [← htext]
    exact exists_reaches_passedLine hb hw (getLast?_eq_head?_reverse hu) rfl
  · intro x s t hx hs h
    rw [← htext] at hs
    exact captured_of_passedLine hx hb hw hs h

end Lines

/-! ## What is read -/

/-- The grammar of a name reads these numbers of undefined and pending steps from a transcript. -/
def Reads (name : String) (output : List Char) (undefinedSteps pendingSteps : ℕ) : Prop :=
  ∃ g c, named? name = some g ∧ g.read output = .ok c ∧ c.undefinedSteps = undefinedSteps ∧
    c.pendingSteps = pendingSteps

theorem reads_of_find {name : String} {g : Grammar} {rule : SummaryRule} {output : List Char} {m : Match} {n k : ℕ}
    (hname : named? name = some g) (hrule : g.summary = some rule) (hm : rule.pattern.find output = some m)
    (hn : labelSum (m.captured 1) rule.undefinedLabels = .ok (n : Int))
    (hk : labelSum (m.captured 1) rule.pendingLabels = .ok (k : Int)) : Reads name output n k := by
  have hcounts : g.counts output (splitLines output) = .ok ((n : Int), (k : Int)) := by
    simp only [counts, hrule, hm, Option.bind_some, Option.map_some, hn, hk]
    rfl
  unfold Reads
  refine ⟨g, ?_⟩
  rw [read, hcounts]
  exact ⟨_, hname, rfl, rfl, rfl⟩

theorem mem_text {b : Breakdown} {c : Char} (hc : c ∈ b.text) : c.isAlphanum = true ∨ c = ' ' ∨ c = ',' := by
  have hletters : ∀ label ∈ stepLabels, ∀ c ∈ label.toList, c.isAlphanum = true := by decide
  have hentry {e : ℕ × String} (he : e.2 ∈ stepLabels) {c : Char} (hc : c ∈ entryText e) :
      c.isAlphanum = true ∨ c = ' ' ∨ c = ',' := by
    simp only [entryText, List.mem_append, List.mem_cons] at hc
    rcases hc with hc | rfl | hc
    · left
      simp [Char.isAlphanum, isDigit_of_mem_numeral hc]
    · exact Or.inr (Or.inl rfl)
    · exact Or.inl (hletters e.2 he c hc)
  have hes := b.label_mem
  rw [Breakdown.text] at hc
  generalize b.entries = es at hc hes
  induction es with
  | nil => cases hc
  | cons e es ih =>
    rw [List.forall_mem_cons] at hes
    obtain ⟨gap, hgap, htext⟩ := exists_joinWith_cons ", ".toList (entryText e) (es.map entryText)
    replace hc : c ∈ entryText e ++ gap ++ entriesText es := htext ▸ hc
    simp only [List.mem_append] at hc
    rcases hc with (hc | hc) | hc
    · exact hentry hes.1 hc
    · right
      rcases hgap with rfl | rfl
      · cases hc
      · simp at hc
        exact hc.symm
    · exact ih hc hes.2

section Lines

variable {u w : List Char} (n : ℕ) (b : Breakdown) (hstep : (caseless "step").occurs u = false)
  (hu : ∀ c ∈ u.getLast?, c = '\n')

include hstep hu

theorem reads_bracketLine {name : String} {g : Grammar} {undefinedLabels pendingLabels : List String}
    (hname : named? name = some g) (hrule : g.summary = some ⟨bracketSummary, undefinedLabels, pendingLabels⟩)
    (hlabels : ∀ label ∈ undefinedLabels ++ pendingLabels, label ∈ stepLabels) :
    Reads name (u ++ bracketLine n b.text ++ w) (undefinedLabels.map b.count).sum
      (pendingLabels.map b.count).sum := by
  rw [List.forall_mem_append] at hlabels
  have hb : ')' ∉ b.text := by
    intro hmem
    exact absurd (mem_text hmem) (by decide)
  obtain ⟨m, hm, hcaptured⟩ := find_bracketLine (w := w) n hstep hu hb
  apply reads_of_find hname hrule hm
  · rw [hcaptured]
    exact labelSum_text hlabels.1 b (x := []) nofun
  · rw [hcaptured]
    exact labelSum_text hlabels.2 b (x := []) nofun

theorem reads_passedLine (hw : ∀ c ∈ w.head?, c = '\n') :
    Reads "behave" (u ++ passedLine n b.text ++ w) (b.count "undefined") 0 := by
  have hb : '\n' ∉ b.text := by
    intro hmem
    exact absurd (mem_text hmem) (by decide)
  obtain ⟨m, hm, hcaptured⟩ := find_passedLine n hstep hu hb hw
  have hsum : labelSum ([' '] ++ b.text) ["undefined"] = .ok ((["undefined"].map b.count).sum : ℕ) :=
    labelSum_text (by decide) b (by decide)
  rw [List.map_singleton, List.sum_singleton] at hsum
  apply reads_of_find (g := table[1]) rfl rfl hm
  · rw [hcaptured]
    exact hsum
  · rfl

end Lines

def behaveBreakdown (failed skipped undefinedSteps untested : ℕ)
    (h : ∀ k ∈ [failed, skipped, undefinedSteps, untested], Readable k) : Breakdown where
  entries := [(failed, "failed"), (skipped, "skipped"), (undefinedSteps, "undefined"), (untested, "untested")]
  label_mem := by simp [stepLabels]
  distinct := by simp
  readable := by simpa using h

/-- **A step summary is read exactly,** whatever surrounds it. Let the lines above it not have the word that it is
recognised by, in whatever case. For a breakdown in brackets, the numbers of undefined and pending steps are those of
their labels; cucumber-rs takes the skipped and the undefined steps together. For a summary of passed steps the number
of undefined steps is that of its label, and none is pending. -/
theorem summary_read_exactly {u w : List Char} (hstep : (caseless "step").occurs u = false)
    (hu : ∀ c ∈ u.getLast?, c = '\n') (hw : ∀ c ∈ w.head?, c = '\n') :
    (∀ (n : ℕ) (b : Breakdown),
      (∀ name ∈ ["@cucumber/cucumber", "godog", "cucumber-jvm"],
        Reads name (u ++ bracketLine n b.text ++ w) (b.count "undefined") (b.count "pending")) ∧
      Reads "cucumber-rs" (u ++ bracketLine n b.text ++ w) (b.count "undefined" + b.count "skipped") 0 ∧
      Reads "behave" (u ++ passedLine n b.text ++ w) (b.count "undefined") 0) ∧
    ∀ n failed skipped undefinedSteps untested : ℕ,
      (∀ k ∈ [failed, skipped, undefinedSteps, untested], Readable k) →
      Reads "behave" (u ++ (numeral n ++ " steps passed, ".toList ++ numeral failed ++ " failed, ".toList ++
        numeral skipped ++ " skipped, ".toList ++ numeral undefinedSteps ++ " undefined, ".toList ++
        numeral untested ++ " untested".toList) ++ w) undefinedSteps 0 := by
  constructor
  · intro n b
    refine ⟨?_, ?_, reads_passedLine n b hstep hu hw⟩
    · intro name hname
      simp only [List.mem_cons, List.not_mem_nil, or_false] at hname
      rcases hname with rfl | rfl | rfl
      · exact reads_bracketLine n b hstep hu (g := table[2]) rfl rfl (by decide)
      · exact reads_bracketLine n b hstep hu (g := table[3]) rfl rfl (by decide)
      · exact reads_bracketLine n b hstep hu (g := table[4]) rfl rfl (by decide)
    · have hread : Reads "cucumber-rs" (u ++ bracketLine n b.text ++ w) _ _ :=
        reads_bracketLine n b hstep hu (g := table[5]) rfl rfl (by decide)
      simpa [Nat.add_comm] using hread
  · intro n failed skipped undefinedSteps untested hreadable
    have hread := reads_passedLine n (behaveBreakdown failed skipped undefinedSteps untested hreadable) hstep hu hw
    have hcount : (behaveBreakdown failed skipped undefinedSteps untested hreadable).count "undefined" =
        undefinedSteps := rfl
    rw [hcount] at hread
    convert hread using 3
    simp [passedLine, Breakdown.text, behaveBreakdown, entriesText, entryText, joinWith]

/-- Lines that mention undefined and pending steps change nothing. -/
theorem summary_read_exactly_among_mentions :
    Reads "godog"
      ("2 undefined\n".toList ++ bracketLine 3 "2 passed, 1 undefined".toList ++ "\npending".toList) 1 0 := by
  let b : Breakdown :=
    { entries := [(2, "passed"), (1, "undefined")]
      label_mem := by simp [stepLabels]
      distinct := by simp
      readable := by decide }
  have hstep : (caseless "step").occurs "2 undefined\n".toList = false := by decide +kernel
  exact ((summary_read_exactly hstep (by simp) (w := "\npending".toList) (by simp)).1 3 b).1 "godog" (by simp)

/-- The word in capitals or with a long s is no `step`, but a line with it is read as the summary: in either transcript
the summary states that all steps have passed, the line above it does not have the word, and nine undefined steps are
read. -/
theorem shouted_summary_read :
    ∃ g, named? "godog" = some g ∧ ∀ above ∈ ["1 STEPS (9 undefined)\n".toList, "1 ſteps (9 undefined)\n".toList],
      (word "step").occurs above = false ∧ LineBetween above (bracketLine 3 "3 passed".toList) ['\n'] ∧
      ∃ c, g.read (above ++ bracketLine 3 "3 passed".toList ++ ['\n']) = .ok c ∧ c.undefinedSteps = 9 := by
  refine ⟨table[3], rfl, ?_⟩
  intro above habove
  simp only [List.mem_cons, List.not_mem_nil, or_false] at habove
  rcases habove with rfl | rfl
  · exact ⟨by decide +kernel, ⟨by decide, by simp, by simp⟩,
      exists_of_toOption_map (f := DryRunCounts.undefinedSteps) (b := 9) (by decide +kernel)⟩
  · exact ⟨by decide +kernel, ⟨by decide, by simp, by simp⟩,
      exists_of_toOption_map (f := DryRunCounts.undefinedSteps) (b := 9) (by decide +kernel)⟩

end Grammar

end ScenarioAudit
