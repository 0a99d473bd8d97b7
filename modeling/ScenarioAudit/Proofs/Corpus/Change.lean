import Mathlib.Data.List.Basic
import ScenarioAudit.Proofs.Corpus.Digest
import ScenarioAudit.Proofs.Corpus.Source
import ScenarioAudit.Proofs.Corpus.Step
import ScenarioAudit.Proofs.Text.Lines
import ScenarioAudit.Proofs.Text.Locality

/-! # A change inside of a step is seen

Let one byte of a feature file be changed, inside of the text of a step line and with no blank there before or
after. Then nothing but that line of the corpus can change (`gherkinSteps_set`), and it does change when the text
of the file does. The only changes of bytes that the text does not show are those between spellings of the mark:
it stands for every malformed piece.
-/

namespace ScenarioAudit

open ScenarioAudit.Text

/-! ## A piece of a step line -/

/-- The steps of a text around a piece without blanks after the keyword of a step line: the piece is found as it is
in the step of that line, and no other step depends on it. -/
theorem gherkinSteps_middle {u : List Char} (hstep : isGherkinStep (lastLine u) = true) (v : List Char) :
    ∃ front back x y, ∀ m, m ≠ [] → (∀ c ∈ m, isBlank c = false) →
      gherkinSteps (u ++ m ++ v) = front ++ (x ++ m ++ y) :: back := by
  obtain ⟨front, back, hlines⟩ := splitLines_middle u v
  refine ⟨(front.filter isGherkinStep).map normalizeStep, (back.filter isGherkinStep).map normalizeStep,
    stripLeft (squeeze (lastLine u)), stripRight (squeeze (firstLine v)), fun m hne hm => ?_⟩
  have hline : isGherkinStep (lastLine u ++ m ++ firstLine v) = true :=
    isGherkinStep_append (isGherkinStep_append hstep m) (firstLine v)
  obtain ⟨c, hc, hblank⟩ := exists_not_blank hstep
  have hnormal : normalizeStep (lastLine u ++ m ++ firstLine v) =
      stripLeft (squeeze (lastLine u)) ++ m ++ stripRight (squeeze (firstLine v)) := by
    rw [normalizeStep, strip, squeeze_middle hne hm, List.append_assoc,
      stripLeft_append_right ⟨c, mem_squeeze hblank hc, hblank⟩, ← List.append_assoc, stripRight_middle hne hm]
  rw [gherkinSteps, hlines m hne fun c hc => isLineBreak_of_not_isBlank (hm c hc), List.filter_append,
    List.filter_cons_of_pos hline, List.map_append, List.map_cons, hnormal]

theorem lastLine_concat {c : Char} (hc : isLineBreak c = false) (u : List Char) :
    lastLine (u ++ [c]) = lastLine u ++ [c] := by
  simp [lastLine, hc]

/-! ## One line of several -/

/-- Lines that are the same but for one of them, which differs exactly in case of a change. -/
def OneLine (change : Prop) (ls ls' : List (List Char)) : Prop :=
  ∃ front back line line', ls = front ++ line :: back ∧ ls' = front ++ line' :: back ∧ (line ≠ line' ↔ change)

section OneLine

variable {change : Prop} {ls ls' : List (List Char)}

theorem OneLine.ne_nil (h : OneLine change ls ls') : ls ≠ [] ∧ ls' ≠ [] := by
  obtain ⟨front, back, line, line', rfl, rfl, -⟩ := h
  exact ⟨by simp, by simp⟩

theorem OneLine.length (h : OneLine change ls ls') : ls.length = ls'.length := by
  obtain ⟨front, back, line, line', rfl, rfl, -⟩ := h
  simp

theorem OneLine.ne_iff (h : OneLine change ls ls') : ls ≠ ls' ↔ change := by
  obtain ⟨front, back, line, line', rfl, rfl, hiff⟩ := h
  rw [← hiff, not_iff_not, List.append_right_inj, List.cons.injEq, and_iff_left rfl]

end OneLine

/-! ## One byte of a step line -/

/-- The byte at a position belongs to a character `d` of a step line, after its keyword. -/
structure InStepText (bytes : List UInt8) (i : Nat) (before : List Char) (d : Char) (after : List Char) : Prop where
  around : charAround bytes i = some (before, d, after)
  line : isGherkinStep (lastLine before ++ d :: firstLine after) = true
  text : ∃ indent keyword rest, Opens (lastLine before) indent keyword rest

section Change

variable {bytes : List UInt8} {i : Nat} {b : UInt8} {before before' after after' : List Char} {d d' : Char}

/-- Before the character, and before a mark that may stand there, is a step line already. -/
theorem InStepText.step {u v lead strays : List Char} (h : InStepText bytes i before d after)
    (hd : isBlank d = false) (hbeside : Beside u v lead strays before after) :
    isGherkinStep (lastLine u) = true := by
  obtain ⟨indent, keyword, rest, hopens⟩ := h.text
  have hstep := isGherkinStep_of_append hopens hd h.line
  have hbefore := hbeside.before
  rcases hbeside.lead with rfl | rfl
  · rw [List.append_nil] at hbefore
    rwa [hbefore] at hstep
  · rw [hbefore, lastLine_concat (by decide)] at hstep
    exact isGherkinStep_of_concat (by decide) hstep

/-- **Nothing but the line of the changed byte changes**, and it changes when the text does. -/
theorem gherkinSteps_set (h : InStepText bytes i before d after)
    (h' : charAround (bytes.set i b) i = some (before', d', after'))
    (hd : isBlank d = false) (hd' : isBlank d' = false) :
    OneLine (decodeUtf8Lossy bytes ≠ decodeUtf8Lossy (bytes.set i b)) (gherkinSteps (Tree.lossyText bytes))
      (gherkinSteps (Tree.lossyText (bytes.set i b))) := by
  obtain ⟨u, v, lead, strays, lead', strays', hbeside, hbeside', -⟩ := charAround_set h.around h'
  obtain ⟨front, back, x, y, hsteps⟩ := gherkinSteps_middle (h.step hd hbeside) v
  have hlossy (s : List UInt8) : gherkinSteps (Tree.lossyText s) = gherkinSteps (decodeUtf8Lossy s) := by
    rw [Tree.lossyText, gherkinSteps, splitLines_universalNewlines, gherkinSteps]
  refine ⟨front, back, x ++ (lead ++ d :: strays) ++ y, x ++ (lead' ++ d' :: strays') ++ y, ?_, ?_, ?_⟩
  · rw [hlossy, decode_charAround h.around, hbeside.text]
    refine hsteps _ (by simp) fun c hc => ?_
    rcases hbeside.marks d c hc with rfl | rfl
    · exact hd
    · decide
  · rw [hlossy, decode_charAround h', hbeside'.text]
    refine hsteps _ (by simp) fun c hc => ?_
    rcases hbeside'.marks d' c hc with rfl | rfl
    · exact hd'
    · decide
  · rw [decode_charAround h.around, decode_charAround h', hbeside.text, hbeside'.text, not_iff_not,
      List.append_left_inj, List.append_right_inj, List.append_left_inj, List.append_right_inj]

end Change

/-! ## Reading corpora -/

theorem ofPath_feature {t : Tree} {p : Path} {bytes : List UInt8} (hname : isFeatureName p.name = true)
    (hread : t.readBytes p = .ok bytes) :
    Corpus.ofPath t p = .ok ⟨.scenarioFile p, gherkinSteps (Tree.lossyText bytes)⟩ := by
  have hclass : classifyPath t p = .ok (.scenarioFile p) := by
    rw [classifyPath_file (Tree.find_of_readBytes hread), if_pos hname]
  rw [Corpus.ofPath, hclass]
  change Corpus.ofSource t (.scenarioFile p) = _
  rw [Corpus.ofSource, Tree.readText, hread]
  rfl

/-- The steps of a feature file, none if it cannot be read. -/
def fileSteps (t : Tree) (p : Path) : List (List Char) :=
  gherkinSteps (Tree.lossyText ((t.readBytes p).toOption.getD []))

theorem fileSteps_eq {t : Tree} {p : Path} {bytes : List UInt8} (h : t.readBytes p = .ok bytes) :
    fileSteps t p = gherkinSteps (Tree.lossyText bytes) := by
  rw [fileSteps, h]
  rfl

theorem ofPath_directory {t : Tree} {dir : Path} {files : List Path}
    (hclass : classifyPath t dir = .ok (.directory dir files))
    (hread : ∀ f ∈ files, ∃ bytes, t.readBytes f = .ok bytes) :
    Corpus.ofPath t dir = .ok ⟨.directory dir files, files.flatMap (fileSteps t)⟩ := by
  have htexts : ∃ texts, files.mapM t.readText = .ok texts ∧
      texts.flatMap gherkinSteps = files.flatMap (fileSteps t) := by
    clear hclass
    induction files with
    | nil => exact ⟨[], rfl, rfl⟩
    | cons f files ih =>
      obtain ⟨bytes, hbytes⟩ := hread f List.mem_cons_self
      obtain ⟨texts, hmap, hsteps⟩ := ih fun g hg => hread g (List.mem_cons_of_mem _ hg)
      refine ⟨Tree.lossyText bytes :: texts, ?_, ?_⟩
      · rw [List.mapM_cons, Tree.readText, hbytes, hmap]
        rfl
      · rw [List.flatMap_cons, List.flatMap_cons, fileSteps_eq hbytes, hsteps]
  obtain ⟨texts, hmap, hsteps⟩ := htexts
  rw [Corpus.ofPath, hclass]
  change Corpus.ofSource t (.directory dir files) = _
  rw [Corpus.ofSource, hmap, ← hsteps]
  rfl

/-! ## The corpus of a changed file -/

theorem flatMap_ne {files : List Path} {f g : Path → List (List Char)} {p : Path} (hp : p ∈ files)
    (hne : f p ≠ g p) (hlength : ∀ q ∈ files, (f q).length = (g q).length) :
    files.flatMap f ≠ files.flatMap g := by
  induction files with
  | nil => cases hp
  | cons q files ih =>
    rw [List.flatMap_cons, List.flatMap_cons]
    intro heq
    obtain ⟨hfirst, hrest⟩ := List.append_inj heq (hlength q List.mem_cons_self)
    rcases List.mem_cons.mp hp with rfl | hp
    · exact hne hfirst
    · exact ih hp (fun r hr => hlength r (List.mem_cons_of_mem _ hr)) hrest

theorem flatMap_ne_nil {files : List Path} {f : Path → List (List Char)} {p : Path} (hp : p ∈ files)
    (hne : f p ≠ []) : files.flatMap f ≠ [] := by
  intro heq
  exact hne (List.flatMap_eq_nil_iff.mp heq p hp)

/-- Two corpora whose lines differ exactly in case of a change; their digests differ too then, or they are a
collision. -/
structure Shows (change : Prop) (c c' : Corpus) : Prop where
  lines : c.lines ≠ c'.lines ↔ change
  digest : change → ∀ sentinel, c.digest sentinel ≠ c'.digest sentinel ∨
    Collision (encodeUtf8 c.joined) (encodeUtf8 c'.joined)

section Shows

variable {t t' : Tree} {change : Prop} {p q : Path}

theorem shows_of_lines {c c' : Corpus} (hc : Corpus.ofPath t q = .ok c) (hc' : Corpus.ofPath t' q = .ok c')
    (hne : c.lines ≠ []) (hne' : c'.lines ≠ []) (h : c.lines ≠ c'.lines ↔ change) : Shows change c c' := by
  refine ⟨h, fun hchange sentinel => ?_⟩
  by_cases hsame : c.digest sentinel = c'.digest sentinel
  · have hcollision := (digest_eq_iff_of_ne_nil hne hne' (Corpus.ofPath_clean hc) (Corpus.ofPath_clean hc')).mp hsame
    exact Or.inr (hcollision.resolve_left (h.mpr hchange))
  · exact Or.inl hsame

theorem shows_directory {files : List Path} (hclass : classifyPath t q = .ok (.directory q files))
    (hclass' : classifyPath t' q = .ok (.directory q files)) (hp : p ∈ files)
    (hreads : ∀ f ∈ files, ∃ bytes, t.readBytes f = .ok bytes)
    (hreads' : ∀ f ∈ files, ∃ bytes, t'.readBytes f = .ok bytes)
    (hothers : ∀ f ∈ files, f ≠ p → fileSteps t f = fileSteps t' f)
    (h : OneLine change (fileSteps t p) (fileSteps t' p)) :
    ∃ c c', Corpus.ofPath t q = .ok c ∧ Corpus.ofPath t' q = .ok c' ∧ Shows change c c' := by
  have hdir := ofPath_directory hclass hreads
  have hdir' := ofPath_directory hclass' hreads'
  refine ⟨_, _, hdir, hdir', ?_⟩
  apply shows_of_lines hdir hdir' (flatMap_ne_nil hp h.ne_nil.1) (flatMap_ne_nil hp h.ne_nil.2)
  constructor
  · intro hne
    refine h.ne_iff.mp fun hsame => hne (List.flatMap_congr fun f hf => ?_)
    by_cases hfp : f = p
    · rw [hfp, hsame]
    · exact hothers f hf hfp
  · intro hchange
    -- Every file keeps its number of lines, so no other one makes up for the change.
    refine flatMap_ne hp (h.ne_iff.mpr hchange) fun f hf => ?_
    by_cases hfp : f = p
    · rw [hfp, h.length]
    · rw [hothers f hf hfp]

end Shows

/-- **A change inside of a step is seen.** Let a feature file have one byte changed in the text of a step line, with
no blank there before or after. Unless the character is a mark both times, the text changes; and the lines of the
corpus change exactly when the text does, for the file alone and for a directory that has it among its feature
files, and with them the digest. -/
theorem corpus_set {t t' : Tree} {p : Path} {bytes : List UInt8} {i : Nat} {b : UInt8}
    {before before' after after' : List Char} {d d' : Char} (hname : isFeatureName p.name = true)
    (hread : t.readBytes p = .ok bytes) (hread' : t'.readBytes p = .ok (bytes.set i b))
    (hstep : InStepText bytes i before d after)
    (haround : charAround (bytes.set i b) i = some (before', d', after'))
    (hd : isBlank d = false) (hd' : isBlank d' = false) :
    (bytes[i]? ≠ some b → d ≠ replacementMark ∨ d' ≠ replacementMark →
      decodeUtf8Lossy bytes ≠ decodeUtf8Lossy (bytes.set i b)) ∧
    (∃ c c', Corpus.ofPath t p = .ok c ∧ Corpus.ofPath t' p = .ok c' ∧
      Shows (decodeUtf8Lossy bytes ≠ decodeUtf8Lossy (bytes.set i b)) c c') ∧
    ∀ dir files, classifyPath t dir = .ok (.directory dir files) →
      classifyPath t' dir = .ok (.directory dir files) → p ∈ files →
      (∀ f ∈ files, f ≠ p → ∃ other, t.readBytes f = .ok other ∧ t'.readBytes f = .ok other) →
      ∃ c c', Corpus.ofPath t dir = .ok c ∧ Corpus.ofPath t' dir = .ok c' ∧
        Shows (decodeUtf8Lossy bytes ≠ decodeUtf8Lossy (bytes.set i b)) c c' := by
  have hsteps := gherkinSteps_set hstep haround hd hd'
  refine ⟨fun hb hmark => decode_set_ne hstep.around haround hb hmark, ?_, ?_⟩
  · have hfile := ofPath_feature hname hread
    have hfile' := ofPath_feature hname hread'
    exact ⟨_, _, hfile, hfile',
      shows_of_lines hfile hfile' hsteps.ne_nil.1 hsteps.ne_nil.2 hsteps.ne_iff⟩
  · intro dir files hclass hclass' hp hothers
    rw [← fileSteps_eq hread, ← fileSteps_eq hread'] at hsteps
    apply shows_directory hclass hclass' hp _ _ _ hsteps
    · intro f hf
      by_cases hfp : f = p
      · exact ⟨bytes, hfp ▸ hread⟩
      · obtain ⟨other, hother, -⟩ := hothers f hf hfp
        exact ⟨other, hother⟩
    · intro f hf
      by_cases hfp : f = p
      · exact ⟨bytes.set i b, hfp ▸ hread'⟩
      · obtain ⟨other, -, hother⟩ := hothers f hf hfp
        exact ⟨other, hother⟩
    · intro f hf hfp
      obtain ⟨other, hother, hother'⟩ := hothers f hf hfp
      rw [fileSteps_eq hother, fileSteps_eq hother']

def featureTree (bytes : List UInt8) : Tree :=
  .dir [("a.feature", .file bytes)]

theorem classifyPath_featureTree (bytes : List UInt8) :
    classifyPath (featureTree bytes) Path.here = .ok (.directory Path.here [Path.here.child "a.feature"]) := by
  have hlist : (featureTree bytes).list Path.here = .ok [("a.feature", .file bytes)] := by
    change Except.ok (List.mergeSort _ _) = _
    rw [List.mergeSort_singleton]
  have hfiles : featureFiles (featureTree bytes) Path.here = .ok [Path.here.child "a.feature"] := by
    have hname : isFeatureName "a.feature" = true := by decide
    rw [featureFiles, hlist]
    change Except.ok (List.map _ (List.filter _ [_])) = _
    rw [List.filter_singleton, hname]
    rfl
  have hdir : (featureTree bytes).isDir Path.here = .ok true := rfl
  rw [classifyPath, hdir]
  change (featureFiles (featureTree bytes) Path.here >>= fun files => pure (Source.directory Path.here files)) = _
  rw [hfiles]
  rfl

/-- Another last letter in `Given x` is seen in the corpus of the file and in that of its directory. -/
theorem corpus_set_letter :
    (∃ c c', Corpus.ofPath (featureTree (encodeUtf8 "Given x".toList)) (Path.here.child "a.feature") = .ok c ∧
      Corpus.ofPath (featureTree ((encodeUtf8 "Given x".toList).set 6 121)) (Path.here.child "a.feature") = .ok c' ∧
      c.lines ≠ c'.lines) ∧
    ∃ c c', Corpus.ofPath (featureTree (encodeUtf8 "Given x".toList)) Path.here = .ok c ∧
      Corpus.ofPath (featureTree ((encodeUtf8 "Given x".toList).set 6 121)) Path.here = .ok c' ∧
      c.lines ≠ c'.lines := by
  have hstep : InStepText (encodeUtf8 "Given x".toList) 6 "Given ".toList 'x' [] :=
    ⟨by decide +kernel, by decide, [], "Given".toList, [' '], rfl, nofun, by decide⟩
  have haround : charAround ((encodeUtf8 "Given x".toList).set 6 121) 6 = some ("Given ".toList, 'y', []) := by
    decide +kernel
  have hread (bytes : List UInt8) : (featureTree bytes).readBytes (Path.here.child "a.feature") = .ok bytes := rfl
  obtain ⟨hne, ⟨c, c', hc, hc', hshows⟩, hdirectory⟩ :=
    corpus_set (by decide) (hread _) (hread _) hstep haround (by decide) (by decide)
  have hchange := hne (by decide) (Or.inl (by decide))
  refine ⟨⟨c, c', hc, hc', hshows.lines.mpr hchange⟩, ?_⟩
  obtain ⟨c, c', hc, hc', hshows⟩ := hdirectory Path.here [Path.here.child "a.feature"]
    (classifyPath_featureTree _) (classifyPath_featureTree _) List.mem_cons_self
    fun f hf hne => absurd (List.mem_singleton.mp hf) hne
  exact ⟨c, c', hc, hc', hshows.lines.mpr hchange⟩

/-- One malformed byte in the place of another one is not seen: both are read as the mark. -/
theorem corpus_set_mark :
    InStepText (encodeUtf8 "Given ".toList ++ [0xFF]) 6 "Given ".toList replacementMark [] ∧
    charAround ((encodeUtf8 "Given ".toList ++ [0xFF]).set 6 0xFE) 6 = some ("Given ".toList, replacementMark, []) ∧
    isBlank replacementMark = false ∧
    (encodeUtf8 "Given ".toList ++ [0xFF])[6]? ≠ some 0xFE ∧
    Corpus.ofPath (featureTree (encodeUtf8 "Given ".toList ++ [0xFF])) (Path.here.child "a.feature") =
      .ok ⟨.scenarioFile (Path.here.child "a.feature"), ["Given ".toList ++ [replacementMark]]⟩ ∧
    Corpus.ofPath (featureTree ((encodeUtf8 "Given ".toList ++ [0xFF]).set 6 0xFE)) (Path.here.child "a.feature") =
      .ok ⟨.scenarioFile (Path.here.child "a.feature"), ["Given ".toList ++ [replacementMark]]⟩ := by
  refine ⟨?_, by decide +kernel, by decide, by decide, ?_, ?_⟩
  · exact ⟨by decide +kernel, by decide, [], "Given".toList, [' '], rfl, nofun, by decide⟩
  · have hsteps : gherkinSteps (Tree.lossyText (encodeUtf8 "Given ".toList ++ [0xFF])) =
        ["Given ".toList ++ [replacementMark]] := by
      decide +kernel
    rw [ofPath_feature (by decide) rfl, hsteps]
  · have hsteps : gherkinSteps (Tree.lossyText ((encodeUtf8 "Given ".toList ++ [0xFF]).set 6 0xFE)) =
        ["Given ".toList ++ [replacementMark]] := by
      decide +kernel
    rw [ofPath_feature (by decide) rfl, hsteps]

end ScenarioAudit
