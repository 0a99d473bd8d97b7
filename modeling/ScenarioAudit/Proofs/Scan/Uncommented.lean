import ScenarioAudit.Proofs.Pattern.Word
import ScenarioAudit.Proofs.Scan.Apart

/-! # Scanning a text without its comments

The scanner reads bodies as code, but it looks for registrations, for the text of a step and for the function of a step
in the whole text, comments included. Where comments touch none of these (`CommentsApart`), a text and the text without
its comments have the same bindings (`scan_withoutComments`). A registration in a comment is a binding of the text only.
-/

namespace ScenarioAudit.Scan

open ScenarioAudit.Text Pattern

/-- The rest of the line behind a registration. -/
def restMarks (r : ScanRules) (text : List Char) (m : Match) : List Marked :=
  lineMarks (mark r.quotes text) m.stop.position

/-- The function of a registration is found in code: up to behind a function on its line there is no comment; and if there
is none, the rest of the line has no comment, and the function that is named there is defined in code. -/
structure HandlerApart (r : ScanRules) (text : List Char) (m : Match) : Prop where
  inline : ∀ f ∈ (Pattern.wholeWord "func").find (plain (restMarks r text m)),
    (∀ x ∈ (restMarks r text m).take (f.stop.position + 1), x.part ≠ .comment) ∧
      CodeAt r.quotes text (m.stop.position + f.start.position)
  named : (Pattern.wholeWord "func").find (plain (restMarks r text m)) = none →
    (∀ x ∈ restMarks r text m, x.part ≠ .comment) ∧
      ∀ f ∈ handlerArgument.find (plain (restMarks r text m)),
        Apart (functionHead (f.captured 1)) (mark r.quotes text) ∧
          ∀ d ∈ (functionHead (f.captured 1)).find text, CodeAt r.quotes text (d.stop.position - 1)

instance (r : ScanRules) (text : List Char) (m : Match) : Decidable (HandlerApart r text m) :=
  decidable_of_iff
    ((∀ f ∈ (Pattern.wholeWord "func").find (plain (restMarks r text m)),
        (∀ x ∈ (restMarks r text m).take (f.stop.position + 1), x.part ≠ .comment) ∧
          CodeAt r.quotes text (m.stop.position + f.start.position)) ∧
      ((Pattern.wholeWord "func").find (plain (restMarks r text m)) = none →
        (∀ x ∈ restMarks r text m, x.part ≠ .comment) ∧
          ∀ f ∈ handlerArgument.find (plain (restMarks r text m)),
            Apart (functionHead (f.captured 1)) (mark r.quotes text) ∧
              ∀ d ∈ (functionHead (f.captured 1)).find text, CodeAt r.quotes text (d.stop.position - 1)))
    ⟨fun h => ⟨h.1, h.2⟩, fun h => ⟨h.inline, h.named⟩⟩

/-- A text whose comments are apart from what is looked for in it: each registration is in one piece, with and without
comments, and ends in code; so is the text of its step if it is looked for on the line; and the line ends in code, unless
the body starts on it. -/
structure CommentsApart (r : ScanRules) (text : List Char) : Prop where
  clear : ∀ m ∈ r.registration.findAll text, Clear (mark r.quotes text) m
  seamless : ∀ m ∈ r.registration.findAll (withoutComments r.quotes text), Seamless (mark r.quotes text) m
  code : ∀ m ∈ r.registration.findAll text, CodeAt r.quotes text (m.stop.position - 1)
  quoted : ∀ m ∈ r.registration.findAll text, m.captured 3 = [] →
    Apart quotedText (lineMarks (mark r.quotes text) m.start.position)
  line : r.style ≠ .atRegistration →
    ∀ m ∈ r.registration.findAll text, CodeAt r.quotes text (endOfLine text m.stop.position)
  handler : r.style = .inlineOrNamed → ∀ m ∈ r.registration.findAll text, HandlerApart r text m

/-! ## Patterns that look around no further than comments allow -/

theorem registration_local : ∀ r ∈ braceLanguages, r.registration.Local false := by
  rw [braceLanguages_eq]
  simp [general, javascript, typescript, go, java, rust, csharp, webRegistration, kindOf, plainList, charBlanks, blanks,
    blanks1, wordChars, wordChars1]

theorem registration_grows : ∀ r ∈ braceLanguages, r.registration.grows = true := by
  decide +kernel

/-- No registration starts with a character of a pair that marks a comment. -/
theorem registration_stuck :
    ∀ r ∈ braceLanguages, r.registration.stuck '/' = true ∧ r.registration.stuck '*' = true := by
  decide +kernel

theorem quotedText_local : quotedText.Local false := by
  apply local_firstOf
  intro p hp
  obtain ⟨q, -, rfl⟩ := List.mem_map.mp hp
  simp [quotedBy]

theorem functionHead_local (name : List Char) : (functionHead name).Local false := by
  simp [functionHead, plainList, blanks, blanks1]

theorem functionHead_grows (name : List Char) : (functionHead name).grows = true :=
  Bool.or_true _

/-! ## The text of a step -/

theorem stepText_bare {ms : List Marked} {m m' : Match} (hm : Corresponds ms m m')
    (h : m.captured 3 = [] → Apart quotedText (lineMarks ms m.start.position)) :
    stepText (bare ms) m' = stepText (plain ms) m := by
  obtain ⟨hline, hline'⟩ := slice_line ms m.start.position
  rw [stepText, stepText, ← hm.captured 3, hm.start, hline, hline']
  cases hinside : m.captured 3 with
  | cons c u => rfl
  | nil =>
    rcases (h hinside).find quotedText_local (by decide) with ⟨hnone, hnone'⟩ | ⟨q, q', hq, hq', hsame⟩
    · rw [hnone, hnone']
    · rw [hq, hq']
      exact (hsame.captured 1).symm

/-! ## The body of a step -/

/-- Where the body of a registration opens, and the name of its function. -/
def bodyOpening (r : ScanRules) (lookahead : Nat) (text : List Char) (stop limit : Nat) : Option Nat × List Char :=
  let windowEnd := afterLines text stop lookahead
  match r.style with
  | .atRegistration => (some (stop - 1), [])
  | .inlineOrNamed => handlerBrace? r text stop windowEnd
  | _ => (openBraceIn? r text (endOfLine text stop) (min windowEnd limit), [])

theorem braceBody_eq (r : ScanRules) (lookahead : Nat) (text : List Char) (stop limit : Nat) :
    braceBody r lookahead text stop limit =
      (match (bodyOpening r lookahead text stop limit).1 with
        | none => braceLines r.quotes (slice text stop limit)
        | some i => blockLines r.quotes text i limit,
        (bodyOpening r lookahead text stop limit).2) := by
  have hopening : braceBody r lookahead text stop limit =
      match bodyOpening r lookahead text stop limit with
      | (none, name) => (braceLines r.quotes (slice text stop limit), name)
      | (some i, name) => (blockLines r.quotes text i limit, name) := by
    rw [braceBody, bodyOpening]
    cases r.style with
    | atRegistration => rfl
    | inlineOrNamed =>
      dsimp only
      generalize handlerBrace? r text stop (afterLines text stop lookahead) = opening
      obtain ⟨_ | i, name⟩ := opening
      · rfl
      · rfl
    | nextBlock =>
      dsimp only
      cases openBraceIn? r text (endOfLine text stop) (min (afterLines text stop lookahead) limit) <;> rfl
    | indented =>
      dsimp only
      cases openBraceIn? r text (endOfLine text stop) (min (afterLines text stop lookahead) limit) <;> rfl
  rw [hopening]
  generalize bodyOpening r lookahead text stop limit = opening
  obtain ⟨_ | i, name⟩ := opening
  · rfl
  · rfl

/-- A function on a line is found at the same place without the comments behind it. -/
theorem exists_func_bare {ms : List Marked} {f : Match} (hf : (Pattern.wholeWord "func").find (plain ms) = some f)
    (h : ∀ x ∈ ms.take (f.stop.position + 1), x.part ≠ .comment) :
    ∃ f', (Pattern.wholeWord "func").find (bare ms) = some f' ∧ f'.start.position = f.start.position := by
  rcases Nat.lt_or_ge f.stop.position ms.length with hlt | hge
  · have hsplit : plain ms = plain (ms.take (f.stop.position + 1)) ++ plain (ms.drop (f.stop.position + 1)) := by
      rw [← plain_append, List.take_append_drop]
    have hbare : bare ms = plain (ms.take (f.stop.position + 1)) ++ bare (ms.drop (f.stop.position + 1)) := by
      rw [← bare_eq_plain h, ← bare_append, List.take_append_drop]
    have hlength : (plain (ms.take (f.stop.position + 1))).length = f.stop.position + 1 := by
      rw [plain, List.length_map, List.length_take_of_le hlt]
    rw [hsplit] at hf
    rw [hbare]
    exact find_wholeWord_append (by decide) _ hf (by omega)
  · rw [List.take_of_length_le (by omega)] at h
    exact ⟨f, by rw [bare_eq_plain h, hf], rfl⟩

theorem shift_of_line {ms : List Marked} {i n : Nat} (hi : i ≤ ms.length) (hn : n ≤ (lineMarks ms i).length)
    (h : ∀ x ∈ (lineMarks ms i).take n, x.part ≠ .comment) : shift ms (i + n) = shift ms i + n := by
  rw [← take_lineMarks, List.take_take, Nat.min_eq_left hn] at h
  refine shift_piece h ?_
  have hle : (lineMarks ms i).length ≤ (ms.drop i).length := (List.takeWhile_prefix _).length_le
  rw [List.length_drop] at hle
  omega

section Registration

variable {r : ScanRules} (hr : r ∈ braceLanguages) {text : List Char}

include hr

/-- A place and a name that were found in a text, at a character of code, and what was found without comments. -/
structure OpeningBare (r : ScanRules) (text : List Char) (found found' : Option Nat × List Char) : Prop where
  place : found'.1 = found.1.map (shift (mark r.quotes text))
  name : found'.2 = found.2
  code : ∀ i ∈ found.1, IsCodeAt r.quotes text i

/-- A brace is found at the place that belongs to it, if a reader can start where it is looked for. -/
theorem openBraceIn?_opening {a : Nat} (h : Fresh r.quotes text a) (b : Nat) (name : List Char) :
    OpeningBare r text (openBraceIn? r text a b, name)
      (openBraceIn? r (withoutComments r.quotes text) (shift (mark r.quotes text) a) (shift (mark r.quotes text) b),
        name) where
  place := openBraceIn?_bare (feed_not_mem_quotes r hr) h b
  name := rfl
  code := fun _ hi => isCodeAt_of_openBraceIn? h hi

/-- **The function of a registration is found at the place that belongs to it.** -/
theorem handlerBrace?_bare {m m' : Match} (hm : Corresponds (mark r.quotes text) m m')
    (hstop : m.stop.position ≤ text.length) (hhandler : HandlerApart r text m)
    (hline : CodeAt r.quotes text (endOfLine text m.stop.position)) (windowEnd : Nat) :
    OpeningBare r text (handlerBrace? r text m.stop.position windowEnd)
      (handlerBrace? r (withoutComments r.quotes text) m'.stop.position (shift (mark r.quotes text) windowEnd)) := by
  have hquotes := feed_not_mem_quotes r hr
  obtain ⟨hslice, hslice'⟩ := slice_line (mark r.quotes text) m.stop.position
  rw [← restMarks] at hslice hslice'
  have hend := endOfLine_bare (mark r.quotes text) m.stop.position
  rw [plain_mark] at hslice hend
  rw [← hm.stop] at hslice' hend
  rw [handlerBrace?, handlerBrace?, hslice, withoutComments_eq, hslice', hend, ← withoutComments_eq]
  cases hfunc : (Pattern.wholeWord "func").find (plain (restMarks r text m)) with
  | some f =>
    obtain ⟨hclean, hcode⟩ := hhandler.inline f hfunc
    obtain ⟨f', hf', hstart⟩ := exists_func_bare hfunc hclean
    have hplace : m'.stop.position + f'.start.position =
        shift (mark r.quotes text) (m.stop.position + f.start.position) := by
      obtain ⟨i, -, hi, hmatch⟩ := (placeOf_start _).exists_spotAt hfunc
      obtain ⟨hposition, hle, -⟩ := length_after hi hmatch
      rw [plain, List.length_map, restMarks] at hi
      rw [hstart, hm.stop, shift_of_line (by rwa [length_mark]) (by omega)]
      exact fun x hx => hclean x ((List.take_prefix_take_left (by omega)).subset hx)
    rw [hf']
    dsimp only
    rw [hplace]
    exact openBraceIn?_opening hr (fresh_of_codeAt hquotes hcode).1 windowEnd []
  | none =>
    obtain ⟨hclean, hnamed⟩ := hhandler.named hfunc
    rw [bare_eq_plain hclean, hfunc]
    dsimp only
    cases hargument : handlerArgument.find (plain (restMarks r text m)) with
    | none => exact openBraceIn?_opening hr (fresh_of_codeAt hquotes hline).1 windowEnd []
    | some f =>
      obtain ⟨hapart, hcode⟩ := hnamed f hargument
      have hfound := hapart.find (functionHead_local _) (functionHead_grows _)
      rw [plain_mark, ← withoutComments_eq] at hfound
      dsimp only
      rcases hfound with ⟨hnone, hnone'⟩ | ⟨d, d', hd, hd', hsame⟩
      · rw [hnone, hnone']
        exact ⟨rfl, rfl, fun i hi => by cases hi⟩
      · have hpositive := lt_of_grows (functionHead_grows _) hd
        have hfresh : Fresh r.quotes text d.stop.position := by
          have hnext := (fresh_of_codeAt hquotes (hcode d hd)).2
          rwa [Nat.sub_add_cancel (by omega)] at hnext
        rw [hd, hd']
        dsimp only
        rw [hsame.stop, length_withoutComments]
        exact openBraceIn?_opening hr hfresh text.length _

section Found

variable {m m' : Match} (h : CommentsApart r text) (hmem : m ∈ r.registration.findAll text)
  (hm : Corresponds (mark r.quotes text) m m')

include h hmem

/-- A registration ends with a character of code, from behind which a reader can start. -/
theorem stop_of_mem : 0 < m.stop.position ∧ m.stop.position ≤ text.length ∧
    IsCodeAt r.quotes text (m.stop.position - 1) ∧ Fresh r.quotes text m.stop.position := by
  have hcode := h.code m hmem
  have hle := (after_of_mem hmem).2.2
  have hpositive := lt_of_mem (registration_grows r hr) hmem
  obtain ⟨x, hx⟩ : ∃ x, (mark r.quotes text)[m.stop.position - 1]? = some x := by
    refine ⟨_, List.getElem?_eq_getElem ?_⟩
    rw [length_mark]
    omega
  have hnext := (fresh_of_codeAt (feed_not_mem_quotes r hr) hcode).2
  rw [Nat.sub_add_cancel (by omega)] at hnext
  exact ⟨by omega, hle, ⟨x, hx, hcode x hx⟩, hnext⟩

include hm

/-- **The body of a registration opens at the place that belongs to it.** -/
theorem bodyOpening_bare (lookahead limit : Nat) :
    OpeningBare r text (bodyOpening r lookahead text m.stop.position limit)
      (bodyOpening r lookahead (withoutComments r.quotes text) m'.stop.position
        (shift (mark r.quotes text) limit)) := by
  obtain ⟨hpositive, hle, hcode, hfresh⟩ := stop_of_mem hr h hmem
  have hwindow := afterLines_bare (mark r.quotes text) m.stop.position lookahead
  have hend := endOfLine_bare (mark r.quotes text) m.stop.position
  rw [plain_mark, ← hm.stop, ← withoutComments_eq] at hwindow hend
  have hblock (hstyle : r.style ≠ .atRegistration) : OpeningBare r text
      (openBraceIn? r text (endOfLine text m.stop.position) (min (afterLines text m.stop.position lookahead) limit), [])
      (openBraceIn? r (withoutComments r.quotes text) (endOfLine (withoutComments r.quotes text) m'.stop.position)
        (min (afterLines (withoutComments r.quotes text) m'.stop.position lookahead)
          (shift (mark r.quotes text) limit)), []) := by
    have hline := (fresh_of_codeAt (feed_not_mem_quotes r hr) (h.line hstyle m hmem)).1
    rw [hwindow, hend, ← shift_min]
    exact openBraceIn?_opening hr hline _ []
  rw [bodyOpening, bodyOpening]
  cases hstyle : r.style with
  | atRegistration =>
    refine ⟨?_, rfl, ?_⟩
    · have hlast := hcode.shift_succ
      rw [Nat.sub_add_cancel hpositive, ← hm.stop] at hlast
      rw [Option.map_some, hlast, Nat.add_sub_cancel]
    · rintro i ⟨⟩
      exact hcode
  | inlineOrNamed =>
    have hline := h.line (by rw [hstyle]; nofun) m hmem
    dsimp only
    rw [hwindow]
    exact handlerBrace?_bare hr hm hle (h.handler hstyle m hmem) hline _
  | nextBlock => exact hblock (by rw [hstyle]; nofun)
  | indented => exact hblock (by rw [hstyle]; nofun)

/-- **The body of a registration has the same lines without comments,** and the same function. -/
theorem braceBody_bare {limit : Nat} (hlimit : ∀ c ∈ text[limit]?, c ≠ '/' ∧ c ≠ '*') (lookahead : Nat) :
    braceBody r lookahead (withoutComments r.quotes text) m'.stop.position (shift (mark r.quotes text) limit) =
      braceBody r lookahead text m.stop.position limit := by
  obtain ⟨-, -, -, hfresh⟩ := stop_of_mem hr h hmem
  have hquotes := feed_not_mem_quotes r hr
  obtain ⟨hplace, hname, hcode⟩ := bodyOpening_bare hr h hmem hm lookahead limit
  rw [braceBody_eq, braceBody_eq, hplace, hname]
  cases hopening : (bodyOpening r lookahead text m.stop.position limit).1 with
  | none =>
    rw [Option.map_none]
    dsimp only
    rw [hm.stop, braceLines_bare hquotes hfresh hlimit]
  | some i =>
    rw [Option.map_some]
    dsimp only
    rw [blockLines_bare hquotes (hcode i hopening) hlimit]

end Found

/-! ## Bindings -/

/-- Where a body ends at the latest goes to where it ends at the latest. -/
theorem limitAt_bare
    (hfound : List.Forall₂ (Corresponds (mark r.quotes text)) (r.registration.findAll text)
      (r.registration.findAll (withoutComments r.quotes text))) (i : Nat) :
    limitAt r (withoutComments r.quotes text) i = shift (mark r.quotes text) (limitAt r text i) ∧
      ∀ c ∈ text[limitAt r text i]?, c ≠ '/' ∧ c ≠ '*' := by
  rw [limitAt, limitAt]
  rcases forall₂_getElem? hfound (i + 1) with ⟨hnone, hnone'⟩ | ⟨n, n', hn, hn', hsame⟩
  · rw [hnone, hnone', Option.map_none, Option.getD_none, Option.getD_none]
    refine ⟨length_withoutComments text, ?_⟩
    intro c hc
    rw [List.getElem?_eq_none (Nat.le_refl _)] at hc
    cases hc
  · rw [hn, hn']
    refine ⟨hsame.start, ?_⟩
    intro c hc
    rw [Option.map_some, Option.getD_some] at hc
    -- No registration starts with one of these characters.
    have hmem := List.mem_of_getElem? hn
    obtain ⟨u, v, rfl, hstart, hmatch⟩ := exists_between hmem
    obtain ⟨-, hreaches⟩ := reaches_of_matchAt hmatch
    have hhead : v.head? = some c := by
      have hposition : n.start.position = u.length := congrArg Spot.position hstart
      rwa [hposition, List.getElem?_append_right (Nat.le_refl _), Nat.sub_self, ← List.head?_eq_getElem?] at hc
    obtain ⟨hslash, hstar⟩ := registration_stuck r hr
    constructor
    · rintro rfl
      exact not_reaches_of_stuck hslash hhead hreaches
    · rintro rfl
      exact not_reaches_of_stuck hstar hhead hreaches

/-- **A registration has the same binding without comments.** -/
theorem bindingOf_bare {m m' : Match} (h : CommentsApart r text) (hmem : m ∈ r.registration.findAll text)
    (hm : Corresponds (mark r.quotes text) m m') {limit : Nat} (hlimit : ∀ c ∈ text[limit]?, c ≠ '/' ∧ c ≠ '*')
    (keywords : List String) (lookahead : Int) (file : String) (lines lines' : List (List Char)) :
    bindingOf r keywords lookahead file (withoutComments r.quotes text) lines' m' (shift (mark r.quotes text) limit) =
      bindingOf r keywords lookahead file text lines m limit := by
  have hindented : r.style ≠ .indented := of_decide_eq_true (List.mem_filter.mp hr).2
  have htext : stepText (withoutComments r.quotes text) m' = stepText text m := by
    have hstep := stepText_bare hm (h.quoted m hmem)
    rwa [plain_mark, ← withoutComments_eq] at hstep
  have hlines : countNewlines ((withoutComments r.quotes text).take m'.start.position) =
      countNewlines (text.take m.start.position) := by
    rw [hm.start, withoutComments_eq, bare_take, countNewlines_bare, ← plain_take, plain_mark]
  rw [bindingOf, bindingOf, if_neg hindented, if_neg hindented, htext, hlines, hm.captured 1,
    braceBody_bare hr h hmem hm hlimit]

/-- **A text and the text without its comments have the same bindings,** in every language with braces, if the comments
are apart from the registrations and from what belongs to them. -/
theorem scan_withoutComments (keywords : List String) (lookahead : Int) (file : String) (h : CommentsApart r text) :
    scan r keywords lookahead file (withoutComments r.quotes text) = scan r keywords lookahead file text := by
  have hfound := @findAll_untouched (mark r.quotes text) _ (registration_local r hr) (registration_grows r hr)
  rw [plain_mark, ← withoutComments_eq] at hfound
  have hfound := hfound h.clear h.seamless
  apply List.ext_getElem?
  intro i
  rw [getElem?_scan, getElem?_scan]
  rcases forall₂_getElem? hfound i with ⟨hnone, hnone'⟩ | ⟨m, m', hm, hm', hsame⟩
  · rw [hnone, hnone', Option.map_none, Option.map_none]
  · obtain ⟨hlimit, hend⟩ := limitAt_bare hr hfound i
    rw [hm, hm', Option.map_some, Option.map_some, hlimit]
    rw [bindingOf_bare hr h (List.mem_of_getElem? hm) hsame hend]

end Registration

/-- A step whose function is defined below, with comments above both and in the function. -/
def commentedHandler : List Char :=
  "// Steps.\nctx.Step(\"x\", done)\n/* Done. */\nfunc done() \x7b\n\tcheck() // Here.\n\x7d\n".toList

theorem scan_withoutComments_handler : CommentsApart go commentedHandler ∧
    scan go ["check"] 5 "s.go" (withoutComments go.quotes commentedHandler) =
      scan go ["check"] 5 "s.go" commentedHandler := by
  have happart : CommentsApart go commentedHandler :=
    { clear := by decide +kernel
      seamless := by decide +kernel
      code := by decide +kernel
      quoted := by decide +kernel
      line := fun _ => by decide +kernel
      handler := fun _ => by decide +kernel }
  exact ⟨happart, scan_withoutComments (by rw [braceLanguages_eq]; simp) ["check"] 5 "s.go" happart⟩

/-- Two definitions of the function of a step, the first one in a comment. -/
def commentedDefinition : List Char :=
  "ctx.Step(\"x\", done)\n// func done() \x7b\x7d\nfunc done() \x7b\n\tcheck()\n\x7d\n".toList

def commentedRegistration : List Char :=
  "// @Given(\"x\")\n".toList

/-- A function that is commented out is read in place of its definition, and a registration that is commented out is a
binding. -/
theorem commented_out_read :
    scan go ["check"] 5 "s.go" (withoutComments go.quotes commentedDefinition) ≠
        scan go ["check"] 5 "s.go" commentedDefinition ∧
      scan java [] 5 "S.java" (withoutComments java.quotes commentedRegistration) = [] ∧
      scan java [] 5 "S.java" commentedRegistration ≠ [] := by
  decide +kernel

end ScenarioAudit.Scan
