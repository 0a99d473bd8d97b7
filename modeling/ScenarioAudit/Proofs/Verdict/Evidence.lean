import ScenarioAudit.Proofs.Anchor.History
import ScenarioAudit.Verdict.Check

/-! # A pass is evidence

A check may read two pieces of evidence, the stored record and the note on the last commit. It passes exactly when
one of them has the current digest, none has another one, and no difference was shown that touches a step
(`pass_iff_evidence`). A command of the version history that fails takes evidence away and adds none, and what was
read before it stays (`ReadBy.of_failure`, `ReadBy.survives`).

The calls of a check have fixed numbers: a repository is asked for by calls 0 and 1, the note is shown by call 2, a
repository is asked for by call 3, the file is looked up by call 4 and its difference shown by call 5.
-/

namespace ScenarioAudit

/-! ## Evidence -/

/-- A digest that was taken earlier, and whether it covers a whole directory. -/
structure Evidence where
  digest : String
  overDirectory : Bool
  deriving DecidableEq, Repr

section

variable (settings : IntegritySettings) (root : Option Path) (t : Tree) (room : ℕ) (p : Path)

/-- The evidence that a check has read when the first `calls` commands of the version history were answered. -/
inductive ReadBy (replies : List Reply) (calls : ℕ) : Evidence → Prop
  | record {r : Path} {record : IntegrityRecord} (hroot : recordRoot t root p = .ok r)
      (hrecord : RecordStore.readRecord ⟨r, settings⟩ t room = .ok (some record)) :
      ReadBy replies calls ⟨record.digest, record.sourceDirectory.isSome⟩
  | note {note : AnchorNote} {covers : Bool} (hfile : t.isFile p = .ok true)
      (hrepository : (replyAt replies 0).output?.isSome = true)
      (hnote : History.noteShown replies 1 = some note)
      (hcovers : note.coversDirectory t = .ok covers) (hcalls : 3 ≤ calls) :
      ReadBy replies calls ⟨note.digest, covers⟩

def IsEvidence (replies : List Reply) (e : Evidence) : Prop :=
  ReadBy settings root t room p replies 6 e

/-- The current digest of what evidence is compared with is its own. -/
def Matches (e : Evidence) : Prop :=
  History.currentDigest settings t p e.overDirectory = .ok e.digest

/-- The current digest of what evidence is compared with is another one. -/
def Differs (e : Evidence) : Prop :=
  ∃ current, History.currentDigest settings t p e.overDirectory = .ok current ∧ current ≠ e.digest

/-- A difference was shown that touches a step. -/
def ShowsDrift (replies : List Reply) : Prop :=
  t.isFile p = .ok true ∧ (replyAt replies 0).output?.isSome = true ∧
    History.passesNote replies 1 = true ∧
      ∃ diff, History.diffShown replies 3 = some diff ∧ diffTouchesSteps diff.toList = true

/-- What a channel answers when it has read a piece of evidence, or none. -/
inductive Answer : Option Evidence → CheckStatus → Prop
  | missing : Answer none .missing
  | skipped : Answer none .skipped
  | compared {e : Evidence} {current : String}
      (hcurrent : History.currentDigest settings t p e.overDirectory = .ok current) :
      Answer (some e) (.ofDigests e.digest current)

end

/-! ## Channels -/

section Channels

variable {settings : IntegritySettings} {root : Option Path} {t : Tree} {room : ℕ} {p : Path}

theorem Answer.valid_iff {found : Option Evidence} {s : CheckStatus} (h : Answer settings t p found s) :
    s = .valid ↔ ∃ e, found = some e ∧ Matches settings t p e := by
  cases h with
  | missing => simp
  | skipped => simp
  | @compared e current hcurrent =>
    by_cases hsame : current = e.digest
    · simp [CheckStatus.ofDigests, hsame, Matches, hcurrent]
    · simp [CheckStatus.ofDigests, hsame, Matches, hcurrent]

theorem Answer.invalid_iff {found : Option Evidence} {s : CheckStatus} (h : Answer settings t p found s) :
    s = .invalid ↔ ∃ e, found = some e ∧ Differs settings t p e := by
  cases h with
  | missing => simp
  | skipped => simp
  | @compared e current hcurrent =>
    by_cases hsame : current = e.digest
    · simp [CheckStatus.ofDigests, hsame, Differs, hcurrent]
    · simp [CheckStatus.ofDigests, hsame, Differs, hcurrent]

theorem Answer.matches_or_differs {e : Evidence} {s : CheckStatus}
    (h : Answer settings t p (some e) s) : Matches settings t p e ∨ Differs settings t p e := by
  cases h with
  | @compared e current hcurrent =>
    by_cases hsame : current = e.digest
    · left
      rw [Matches, hcurrent, hsame]
    · exact Or.inr ⟨current, hcurrent, hsame⟩

def recordEvidence (record : Option IntegrityRecord) : Option Evidence :=
  record.map fun r => ⟨r.digest, r.sourceDirectory.isSome⟩

theorem answer_verify {s : RecordStore} {status : CheckStatus} (h : s.verify t p room = .ok status) :
    ∃ record, s.readRecord t room = .ok record ∧ Answer s.settings t p (recordEvidence record) status := by
  obtain ⟨record, hrecord, h⟩ := bind_eq_ok h
  refine ⟨record, hrecord, ?_⟩
  rcases record with _ | record
  · cases h
    exact .missing
  · obtain ⟨compared, hcompared, h⟩ := bind_eq_ok h
    obtain ⟨current, hcurrent, h⟩ := bind_eq_ok h
    cases h
    have hcompared' : likeForLike t p record.sourceDirectory.isSome = .ok compared := hcompared
    have hcurrent' : History.currentDigest s.settings t p record.sourceDirectory.isSome = .ok current := by
      rw [History.currentDigest, hcompared']
      exact hcurrent
    exact .compared (e := ⟨record.digest, record.sourceDirectory.isSome⟩) hcurrent'

theorem answer_note {note : Option AnchorNote} {s : CheckStatus}
    (h : History.NoteAnswer settings t p note s) :
    ∃ found, Answer settings t p found s ∧ ∀ e, found = some e ↔
      ∃ n, note = some n ∧ n.coversDirectory t = .ok e.overDirectory ∧ e.digest = n.digest := by
  cases h with
  | missing => exact ⟨none, .missing, by simp⟩
  | @compared n covers current hcovers hcurrent =>
    refine ⟨some ⟨n.digest, covers⟩, .compared hcurrent, ?_⟩
    intro e
    constructor
    · intro heq
      cases heq
      exact ⟨n, rfl, hcovers, rfl⟩
    · rintro ⟨_, ⟨⟩, hcovers', hdigest⟩
      rw [hcovers] at hcovers'
      cases hcovers'
      rw [← hdigest]

theorem passesNote_of_noteShown {replies : List Reply} {first : ℕ} {note : AnchorNote}
    (h : History.noteShown replies first = some note) : History.passesNote replies first = true := by
  rw [History.noteShown] at h
  rw [History.passesNote]
  rcases hfirst : (replyAt replies first).output? with _ | a
  · rw [hfirst] at h
    cases h
  rcases hsecond : (replyAt replies (first + 1)).output? with _ | output
  · rw [hfirst, hsecond] at h
    cases h
  · exact Reply.hasExited_of_output (by rw [hsecond, Option.isSome_some])

theorem Advanced.noteShown_eq {n : ℕ} {h h' : Host} (hn : Advanced n h h') (k : ℕ) :
    History.noteShown h'.gitReplies k = History.noteShown h.gitReplies (n + k) := by
  rw [History.noteShown, History.noteShown, hn.replyAt_eq, hn.replyAt_eq, Nat.add_assoc]

theorem Advanced.passesNote_eq {n : ℕ} {h h' : Host} (hn : Advanced n h h') (k : ℕ) :
    History.passesNote h'.gitReplies k = History.passesNote h.gitReplies (n + k) := by
  rw [History.passesNote, History.passesNote, hn.replyAt_eq, hn.replyAt_eq, Nat.add_assoc]

theorem Advanced.diffShown_eq {n : ℕ} {h h' : Host} (hn : Advanced n h h') (k : ℕ) :
    History.diffShown h'.gitReplies k = History.diffShown h.gitReplies (n + k) := by
  rw [History.diffShown, History.diffShown, hn.replyAt_eq, hn.replyAt_eq, hn.replyAt_eq, Nat.add_assoc,
    Nat.add_assoc]

/-- What the two channels of the version history answer together. -/
structure HistoryAnswer (settings : IntegritySettings) (t : Tree) (p : Path) (replies : List Reply)
    (anchor : CheckStatus) (drift : DriftStatus) : Prop where
  anchor : ∃ found, Answer settings t p found anchor ∧ ∀ e, found = some e ↔
    (replyAt replies 0).output?.isSome = true ∧ ∃ n, History.noteShown replies 1 = some n ∧
      n.coversDirectory t = .ok e.overDirectory ∧ e.digest = n.digest
  drift : drift = .modified ↔ (replyAt replies 0).output?.isSome = true ∧
    History.passesNote replies 1 = true ∧
      ∃ diff, History.diffShown replies 3 = some diff ∧ diffTouchesSteps diff.toList = true

/-- A check of the version history that is given up leaves both channels skipped: nothing was shown. -/
theorem HistoryAnswer.skipped {replies : List Reply}
    (h : (replyAt replies 0).output?.isSome = false ∨ History.passesNote replies 1 = false) :
    HistoryAnswer settings t p replies .skipped .skipped := by
  have hnone : ¬ ((replyAt replies 0).output?.isSome = true ∧ History.passesNote replies 1 = true) := by
    rintro ⟨hsome, hpasses⟩
    rcases h with h | h
    · exact absurd hsome (Bool.eq_false_iff.mp h)
    · exact absurd hpasses (Bool.eq_false_iff.mp h)
  refine ⟨⟨none, .skipped, fun e => ?_⟩, ?_⟩
  · constructor
    · rintro ⟨⟩
    · rintro ⟨hsome, n, hn, -⟩
      exact absurd ⟨hsome, passesNote_of_noteShown hn⟩ hnone
  · constructor
    · rintro ⟨⟩
    · rintro ⟨hsome, hpasses, -⟩
      exact absurd ⟨hsome, hpasses⟩ hnone

theorem historyChannels_ok {history : History} {h h' : Host} {anchor : CheckStatus} {drift : DriftStatus}
    (hrun : (historyChannels history p).runOn h = (.ok (anchor, drift), h')) :
    HistoryAnswer history.settings h.tree p h.gitReplies anchor drift := by
  obtain ⟨h₁, hone, hrepository⟩ := history.runOn_isRepository h
  rw [historyChannels] at hrun
  rcases hrepository with ⟨-, hrepository⟩ | ⟨-, e, hrepository, -⟩
  swap
  · rw [Job.runOn_bind_error hrepository] at hrun
    cases hrun
  rw [Job.runOn_bind_ok hrepository] at hrun
  rcases hsome : (replyAt h.gitReplies 0).output?.isSome with _ | _
  · rw [hsome] at hrun
    cases hrun
    exact .skipped (Or.inl hsome)
  rw [hsome, if_pos rfl] at hrun
  obtain ⟨anchored, h₂, hanchored, hrun⟩ := Job.runOn_bind_eq_ok hrun
  rcases history.runOn_verifyAnchor p h₁ with ⟨s, h₃, htwo, hpasses, hanswer, hverify⟩ | ⟨e, h₃, hverify, hfails⟩
  · have hjob : (do return some (← history.verifyAnchor p) : Job (Option CheckStatus)).runOn h₁ =
        (.ok (some s), h₃) := Job.runOn_bind_ok hverify
    rw [History.runOn_orElse_ok hjob] at hanchored
    cases hanchored
    rw [hone.noteShown_eq, hone.tree_eq] at hanswer
    rw [hone.passesNote_eq] at hpasses
    obtain ⟨d, h₄, hdrift, hrun⟩ := Job.runOn_bind_eq_ok hrun
    cases hrun
    refine ⟨?_, ?_⟩
    · obtain ⟨found, hfound, hiff⟩ := answer_note hanswer
      refine ⟨found, hfound, ?_⟩
      intro e
      rw [hiff, hsome]
      simp only [true_and]
    · rw [history.drift_eq_modified_iff hdrift, (hone.trans htwo).diffShown_eq, hsome, hpasses]
      simp only [true_and]
  · have hjob : (do return some (← history.verifyAnchor p) : Job (Option CheckStatus)).runOn h₁ =
        (.error e, h₃) := Job.runOn_bind_error hverify
    rw [History.runOn_orElse_error hjob] at hanchored
    by_cases hhistory : History.isHistoryTrouble e = true
    · rw [if_pos hhistory] at hanchored
      cases hanchored
      cases hrun
      rw [hone.passesNote_eq] at hfails
      exact .skipped (Or.inr (hfails.resolve_right fun hother => Bool.eq_false_iff.mp hother hhistory))
    · rw [if_neg hhistory] at hanchored
      cases hanchored

structure CheckAnswer (settings : IntegritySettings) (root : Option Path) (t : Tree) (room : ℕ) (p : Path)
    (replies : List Reply) (r : ChannelResults) : Prop where
  digest : ∃ found, Answer settings t p found r.digest ∧ ∀ e, found = some e ↔
    ∃ place record, recordRoot t root p = .ok place ∧
      RecordStore.readRecord ⟨place, settings⟩ t room = .ok (some record) ∧
        e = ⟨record.digest, record.sourceDirectory.isSome⟩
  anchor : ∃ found, Answer settings t p found r.anchor ∧ ∀ e, found = some e ↔
    t.isFile p = .ok true ∧ (replyAt replies 0).output?.isSome = true ∧
      ∃ n, History.noteShown replies 1 = some n ∧ n.coversDirectory t = .ok e.overDirectory ∧
        e.digest = n.digest
  drift : r.drift = .modified ↔ ShowsDrift t p replies

theorem historyResults_ok {h h' : Host} {anchor : CheckStatus} {drift : DriftStatus}
    (hrun : (historyResults settings p).runOn h = (.ok (anchor, drift), h')) :
    (∃ isFile, h.tree.isFile p = .ok isFile) ∧
      (h.tree.isFile p = .ok true → HistoryAnswer settings h.tree p h.gitReplies anchor drift) ∧
      (h.tree.isFile p ≠ .ok true → anchor = .skipped ∧ drift = .skipped) := by
  rw [historyResults] at hrun
  obtain ⟨isFile, hisFile, hrun⟩ := Job.runOn_reading_bind_eq_ok hrun
  refine ⟨⟨isFile, hisFile⟩, ?_, ?_⟩
  · intro htrue
    rw [htrue] at hisFile
    cases hisFile
    rw [if_pos rfl] at hrun
    obtain ⟨history, hhistory, hrun⟩ := Job.runOn_settle_bind_eq_ok hrun
    obtain ⟨directory, -, rfl⟩ := map_eq_ok hhistory
    exact historyChannels_ok hrun
  · intro hfalse
    cases isFile with
    | true => exact absurd hisFile hfalse
    | false =>
      cases hrun
      exact ⟨rfl, rfl⟩

theorem collectChannels_ok {h h' : Host} {r : ChannelResults}
    (hrun : (collectChannels settings root p).runOn h = (.ok r, h')) :
    CheckAnswer settings root h.tree h.showRoom p h.gitReplies r := by
  rw [collectChannels] at hrun
  obtain ⟨place, hplace, hrun⟩ := Job.runOn_reading_bind_eq_ok hrun
  obtain ⟨record, hrecord, hrun⟩ := Job.runOn_looking_bind_eq_ok hrun
  obtain ⟨digest, hdigest, hrun⟩ := Job.runOn_looking_bind_eq_ok hrun
  obtain ⟨current, -, hrun⟩ := Job.runOn_reading_bind_eq_ok hrun
  obtain ⟨⟨anchor, drift⟩, h₁, hhistory, hrun⟩ := Job.runOn_bind_eq_ok hrun
  obtain ⟨-, hfile, hnoFile⟩ := historyResults_ok hhistory
  cases hrun
  obtain ⟨record', hrecord', hanswer⟩ := answer_verify hdigest
  rw [hrecord] at hrecord'
  cases hrecord'
  refine ⟨⟨recordEvidence record, hanswer, ?_⟩, ?_, ?_⟩
  · intro e
    constructor
    · intro he
      obtain ⟨r, rfl, rfl⟩ := Option.map_eq_some_iff.mp he
      exact ⟨place, r, hplace, hrecord, rfl⟩
    · rintro ⟨place', r, hplace', hr, rfl⟩
      rw [hplace] at hplace'
      cases hplace'
      rw [hrecord] at hr
      cases hr
      rfl
  · by_cases hisFile : h.tree.isFile p = .ok true
    · obtain ⟨found, hfound, hiff⟩ := (hfile hisFile).anchor
      refine ⟨found, hfound, ?_⟩
      intro e
      rw [hiff]
      simp only [hisFile, true_and]
    · obtain ⟨rfl, -⟩ := hnoFile hisFile
      refine ⟨none, .skipped, ?_⟩
      intro e
      simp only [hisFile, false_and]
      exact iff_of_false (fun heq => nomatch heq) id
  · by_cases hisFile : h.tree.isFile p = .ok true
    · rw [(hfile hisFile).drift, ShowsDrift]
      simp only [hisFile, true_and]
    · obtain ⟨-, rfl⟩ := hnoFile hisFile
      rw [ShowsDrift]
      simp only [hisFile, false_and]
      exact iff_of_false (fun heq => nomatch heq) id

end Channels

/-! ## Failing commands -/

/-- Two scripts differ in one reply, and there the second one fails. -/
structure FailsAt (failed : ℕ) (replies replies' : List Reply) : Prop where
  fails : (replyAt replies' failed).output? = none
  same : ∀ n, n ≠ failed → replyAt replies' n = replyAt replies n

theorem noteShown_eq_some {replies : List Reply} {first : ℕ} {note : AnchorNote} :
    History.noteShown replies first = some note ↔
      (replyAt replies first).output?.isSome = true ∧ ∃ output,
        (replyAt replies (first + 1)).output? = some output ∧ AnchorNote.ofText? output = some note := by
  rw [History.noteShown]
  rcases (replyAt replies first).output? with _ | a
  · simp
  rcases (replyAt replies (first + 1)).output? with _ | b
  · simp
  · simp

section Failing

variable {settings : IntegritySettings} {root : Option Path} {t : Tree} {room : ℕ} {p : Path}
  {replies replies' : List Reply} {failed : ℕ}

theorem FailsAt.ne_of_isSome (h : FailsAt failed replies replies') {n : ℕ}
    (hsome : (replyAt replies' n).output?.isSome = true) : n ≠ failed := by
  rintro rfl
  rw [h.fails] at hsome
  cases hsome

theorem ReadBy.of_failure (h : FailsAt failed replies replies') {calls : ℕ} {e : Evidence}
    (he : ReadBy settings root t room p replies' calls e) : ReadBy settings root t room p replies calls e := by
  cases he with
  | record hroot hrecord => exact .record hroot hrecord
  | note hfile hrepository hnote hcovers hcalls =>
    obtain ⟨hfirst, output, hshown, hparsed⟩ := noteShown_eq_some.mp hnote
    have hzero := h.same 0 (h.ne_of_isSome hrepository)
    have hone := h.same 1 (h.ne_of_isSome hfirst)
    have htwo := h.same 2 (h.ne_of_isSome (Option.isSome_iff_exists.mpr ⟨output, hshown⟩))
    refine .note hfile (hzero ▸ hrepository) (noteShown_eq_some.mpr ⟨hone ▸ hfirst, output, ?_, hparsed⟩)
      hcovers hcalls
    rw [← hshown]
    exact congrArg Reply.output? htwo.symm

/-- Evidence that was read before a command failed is read all the same. -/
theorem ReadBy.survives (h : FailsAt failed replies replies') {e : Evidence}
    (he : ReadBy settings root t room p replies failed e) : IsEvidence settings root t room p replies' e := by
  cases he with
  | record hroot hrecord => exact .record hroot hrecord
  | note hfile hrepository hnote hcovers hread =>
    obtain ⟨hfirst, output, hshown, hparsed⟩ := noteShown_eq_some.mp hnote
    have hzero := h.same 0 (by omega)
    have hone := h.same 1 (by omega)
    have htwo := h.same 2 (by omega)
    refine .note hfile (hzero ▸ hrepository) (noteShown_eq_some.mpr ⟨hone ▸ hfirst, output, ?_, hparsed⟩)
      hcovers (by decide)
    rw [← hshown]
    exact congrArg Reply.output? htwo

end Failing

/-! ## Verdicts -/

theorem status_aggregate (integrity anchor : CheckStatus) (drift : DriftStatus) (policy : Policy) :
    (aggregate integrity anchor drift policy).status = .pass ↔
      (integrity = .valid ∨ anchor = .valid) ∧ ¬ (integrity = .invalid ∨ anchor = .invalid) ∧
        drift ≠ .modified := by
  change (judge integrity anchor drift policy).1 = .pass ↔ _
  rw [judge]
  by_cases hinvalid : integrity = .invalid ∨ anchor = .invalid
  · simp [hinvalid]
  by_cases hdrift : drift = .modified
  · simp [hinvalid, hdrift]
  by_cases hvalid : integrity = .valid ∨ anchor = .valid
  · simp [hinvalid, hdrift, hvalid]
  · rw [if_neg hinvalid, if_neg hdrift, if_neg hvalid]
    split
    · simp [hvalid]
    · simp [hvalid]

section Verdicts

variable {settings : IntegritySettings} {root : Option Path} {t : Tree} {room : ℕ} {p : Path}
  {replies : List Reply} {r : ChannelResults}

theorem isEvidence_iff {found found' : Option Evidence}
    (hrecord : ∀ e, found = some e ↔ ∃ place record, recordRoot t root p = .ok place ∧
      RecordStore.readRecord ⟨place, settings⟩ t room = .ok (some record) ∧
        e = ⟨record.digest, record.sourceDirectory.isSome⟩)
    (hnote : ∀ e, found' = some e ↔ t.isFile p = .ok true ∧ (replyAt replies 0).output?.isSome = true ∧
      ∃ n, History.noteShown replies 1 = some n ∧ n.coversDirectory t = .ok e.overDirectory ∧
        e.digest = n.digest) (e : Evidence) :
    IsEvidence settings root t room p replies e ↔ found = some e ∨ found' = some e := by
  rw [hrecord, hnote]
  constructor
  · intro he
    cases he with
    | record hroot hrecord => exact Or.inl ⟨_, _, hroot, hrecord, rfl⟩
    | note hfile hrepository hnote hcovers _ =>
      exact Or.inr ⟨hfile, hrepository, _, hnote, hcovers, rfl⟩
  · rintro (⟨place, record, hroot, hrecord, rfl⟩ | ⟨hfile, hrepository, n, hnote, hcovers, hdigest⟩)
    · exact .record hroot hrecord
    · obtain ⟨digest, overDirectory⟩ := e
      cases hdigest
      exact .note hfile hrepository hnote hcovers (by decide)

theorem CheckAnswer.pass_iff (h : CheckAnswer settings root t room p replies r) (policy : Policy) :
    (aggregate r.digest r.anchor r.drift policy).status = .pass ↔
      (∃ e, IsEvidence settings root t room p replies e ∧ Matches settings t p e) ∧
      (∀ e, IsEvidence settings root t room p replies e → ¬ Differs settings t p e) ∧
      ¬ ShowsDrift t p replies := by
  obtain ⟨found, hfound, hrecord⟩ := h.digest
  obtain ⟨found', hfound', hnote⟩ := h.anchor
  have hevidence : ∀ e, IsEvidence settings root t room p replies e ↔ found = some e ∨ found' = some e :=
    isEvidence_iff hrecord hnote
  rw [status_aggregate, hfound.valid_iff, hfound'.valid_iff, hfound.invalid_iff, hfound'.invalid_iff,
    Ne, h.drift]
  simp only [hevidence]
  constructor
  · rintro ⟨hvalid, hinvalid, hdrift⟩
    refine ⟨?_, ?_, hdrift⟩
    · rcases hvalid with ⟨e, he, hmatches⟩ | ⟨e, he, hmatches⟩
      · exact ⟨e, Or.inl he, hmatches⟩
      · exact ⟨e, Or.inr he, hmatches⟩
    · rintro e (he | he) hdiffers
      · exact hinvalid (Or.inl ⟨e, he, hdiffers⟩)
      · exact hinvalid (Or.inr ⟨e, he, hdiffers⟩)
  · rintro ⟨⟨e, he, hmatches⟩, hdiffers, hdrift⟩
    refine ⟨?_, ?_, hdrift⟩
    · rcases he with he | he
      · exact Or.inl ⟨e, he, hmatches⟩
      · exact Or.inr ⟨e, he, hmatches⟩
    · rintro (⟨e, he, hdiffer⟩ | ⟨e, he, hdiffer⟩)
      · exact hdiffers e (Or.inl he) hdiffer
      · exact hdiffers e (Or.inr he) hdiffer

theorem CheckAnswer.matches_or_differs (h : CheckAnswer settings root t room p replies r) {e : Evidence}
    (he : IsEvidence settings root t room p replies e) : Matches settings t p e ∨ Differs settings t p e := by
  obtain ⟨found, hfound, hrecord⟩ := h.digest
  obtain ⟨found', hfound', hnote⟩ := h.anchor
  rcases (isEvidence_iff hrecord hnote e).mp he with rfl | rfl
  · exact hfound.matches_or_differs
  · exact hfound'.matches_or_differs

theorem checkIntegrity_ok {policy : Policy} {h h' : Host} {v : Verdict}
    (hrun : (checkIntegrity settings root p policy).runOn h = (.ok v, h')) :
    ∃ r, (collectChannels settings root p).runOn h = (.ok r, h') ∧
      v = aggregate r.digest r.anchor r.drift policy := by
  obtain ⟨r, h₁, hcollect, hrun⟩ := Job.runOn_bind_eq_ok hrun
  cases hrun
  exact ⟨r, hcollect, rfl⟩

end Verdicts

/-- **A pass is evidence.** For every check that returns a verdict: it passes exactly when some evidence has the
current digest, no evidence has another one and no difference was shown that touches a step; all evidence has been
compared; every other policy gives a verdict as well, which passes when this one does; and when one command of the
version history fails instead, no evidence is added, and evidence read before that differs keeps the verdict from
passing. -/
theorem pass_iff_evidence {settings : IntegritySettings} {root : Option Path} {p : Path} {policy : Policy}
    {h h' : Host} {v : Verdict}
    (hrun : (checkIntegrity settings root p policy).runOn h = (.ok v, h')) :
    (v.status = .pass ↔
      (∃ e, IsEvidence settings root h.tree h.showRoom p h.gitReplies e ∧ Matches settings h.tree p e) ∧
      (∀ e, IsEvidence settings root h.tree h.showRoom p h.gitReplies e → ¬ Differs settings h.tree p e) ∧
      ¬ ShowsDrift h.tree p h.gitReplies) ∧
    (∀ e, IsEvidence settings root h.tree h.showRoom p h.gitReplies e →
      Matches settings h.tree p e ∨ Differs settings h.tree p e) ∧
    (∀ policy', ∃ v', (checkIntegrity settings root p policy').runOn h = (.ok v', h') ∧
      (v'.status = .pass ↔ v.status = .pass)) ∧
    (∀ failed replies, FailsAt failed h.gitReplies replies →
      (∀ e, IsEvidence settings root h.tree h.showRoom p replies e →
        IsEvidence settings root h.tree h.showRoom p h.gitReplies e) ∧
      ∀ policy' v' h'', (checkIntegrity settings root p policy').runOn { h with gitReplies := replies } =
          (.ok v', h'') →
        ∀ e, ReadBy settings root h.tree h.showRoom p h.gitReplies failed e → Differs settings h.tree p e →
          v'.status ≠ .pass) := by
  obtain ⟨r, hcollect, rfl⟩ := checkIntegrity_ok hrun
  have hanswer := collectChannels_ok hcollect
  refine ⟨hanswer.pass_iff policy, fun e he => hanswer.matches_or_differs he, ?_, ?_⟩
  · intro policy'
    refine ⟨_, Job.runOn_bind_ok hcollect, ?_⟩
    rw [hanswer.pass_iff policy]
    exact hanswer.pass_iff policy'
  · intro failed replies hfails
    refine ⟨fun e he => ReadBy.of_failure hfails he, ?_⟩
    intro policy' v' h'' hrun' e he hdiffers hpass
    obtain ⟨r', hcollect', rfl⟩ := checkIntegrity_ok hrun'
    have hanswer' := collectChannels_ok hcollect'
    exact ((hanswer'.pass_iff policy').mp hpass).2.1 e (he.survives hfails) hdiffers

/-- A host with an empty feature file under version control, and a note that says so on the last commit. -/
def anchoredHost : Host where
  tree := .dir [("a.feature", .file [])]
  gitReplies := [.exited 0 ".git" "", .exited 0 ".git" "", .exited 0 "testify-hash: NO_ASSERTIONS" "",
    .exited 0 ".git" "", .exited 0 "a.feature" "", .exited 0 "" ""]

theorem pass_iff_evidence_anchored :
    ∃ v h', (checkIntegrity {} none (Path.ofString "a.feature") .mandatory).runOn anchoredHost = (.ok v, h') ∧
      v.status = .pass ∧ ∃ e, IsEvidence {} none anchoredHost.tree anchoredHost.showRoom (Path.ofString "a.feature")
        anchoredHost.gitReplies e ∧ Matches {} anchoredHost.tree (Path.ofString "a.feature") e := by
  rcases hrun : (checkIntegrity {} none (Path.ofString "a.feature") .mandatory).runOn anchoredHost with
    ⟨e | v, h'⟩
  · have hok : ((checkIntegrity {} none (Path.ofString "a.feature") .mandatory).runOn
        anchoredHost).1.toOption.isSome = true := by
      decide +kernel
    rw [hrun] at hok
    cases hok
  · have hpass : ((checkIntegrity {} none (Path.ofString "a.feature") .mandatory).runOn
        anchoredHost).1.toOption.map (·.status) = some .pass := by
      decide +kernel
    rw [hrun] at hpass
    have hstatus : v.status = .pass := Option.some.inj hpass
    exact ⟨v, h', rfl, hstatus, ((pass_iff_evidence hrun).1.mp hstatus).1⟩

end ScenarioAudit
