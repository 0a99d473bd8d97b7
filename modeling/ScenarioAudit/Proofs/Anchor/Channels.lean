import ScenarioAudit.Proofs.Anchor.History
import ScenarioAudit.Proofs.Anchor.Note
import ScenarioAudit.Proofs.Record.Update

/-! # The record and the note agree

A record and a note of the same path keep the same digest and the same answer to whether it covers a directory, one in
a document and the other in lines of text. So a check of either compares the same digests, whatever path is asked for
and whatever became of the workspace (`channels_agree`). It does not matter which of the two was taken first: storing
writes no file that the digest is taken of.
-/

namespace ScenarioAudit

open ScenarioAudit.Text

/-! ## Anchoring -/

namespace History

variable (history : History)

/-- A command is logged with what it was given to read, whatever becomes of it. -/
theorem calls_git (command : String) (args : List String) (stdin : Option String) (h : Host) :
    ∃ call, call.stdin = stdin ∧ ((history.git command args stdin).runOn h).2.calls = h.calls ++ [call] := by
  let call : Call := ⟨"git" :: command :: args, some history.workdir.toString, history.settings.gitTimeout, stdin⟩
  obtain ⟨h', hstart, -, hcalls⟩ := runOn_startGit call h
  refine ⟨call, rfl, ?_⟩
  rw [git, Job.runOn_bind_ok hstart, Job.runOn_settle, hcalls]

theorem runOn_anchor_eq_ok {shown digest : String} {h h₁ : Host}
    (hrun : (history.anchor shown).runOn h = (.ok digest, h₁)) :
    ∃ (c : Corpus) (m : Moment) (call : Call), Corpus.ofPath h.tree (Path.ofString shown) = .ok c ∧
      digest = c.digest history.settings.emptySentinel.toText ∧ h₁.calls.getLast? = some call ∧
      call.stdin = some (⟨digest, m.stamp, shown, some c.source.kind⟩ : AnchorNote).toText := by
  unfold anchor at hrun
  obtain ⟨u, hA, hrepository, hrun⟩ := Job.runOn_bind_eq_ok hrun
  have htree : hA.tree = h.tree := by
    obtain ⟨h', hadvanced, hanswer⟩ := history.runOn_requireRepository h
    rcases hanswer with ⟨hok, -⟩ | ⟨e, herror, -⟩
    · rw [hrepository] at hok
      cases hok
      exact hadvanced.tree_eq
    · rw [hrepository] at herror
      cases herror
  obtain ⟨c, hc, hrun⟩ := Job.runOn_reading_bind_eq_ok hrun
  obtain ⟨hB, hC, hget, hrun⟩ := Job.runOn_bind_eq_ok hrun
  cases hget
  obtain ⟨exit, hD, hgit, hrun⟩ := Job.runOn_bind_eq_ok hrun
  obtain ⟨call, hstdin, hcalls⟩ := history.calls_git "notes" [history.notesOption, "add", "-f", "-F", "-", "HEAD"]
    (some (⟨c.digest history.settings.emptySentinel.toText, hA.now.stamp, shown, some c.source.kind⟩ :
      AnchorNote).toText) hA
  rw [hgit] at hcalls
  by_cases hcode : exit.code ≠ 0
  · rw [if_pos hcode] at hrun
    cases hrun
  · rw [if_neg hcode] at hrun
    cases hrun
    refine ⟨c, hA.now, call, htree ▸ hc, rfl, ?_, hstdin⟩
    rw [hcalls, List.getLast?_concat]

theorem runOn_verifyAnchor_shown {note : AnchorNote} {h : Host} (p : Path)
    (hpasses : passesNote h.gitReplies 0 = true) (hnote : noteShown h.gitReplies 0 = some note) :
    ((history.verifyAnchor p).runOn h).1 = (note.coversDirectory h.tree).bind fun covers =>
      (currentDigest history.settings h.tree p covers).map (.ofDigests note.digest) := by
  rcases history.runOn_readAnchor h with ⟨h', hadvanced, -, hread⟩ | ⟨e, h', -, hfails⟩
  · rw [hnote] at hread
    rw [history.runOn_verifyAnchor_read p hread hadvanced.tree_eq]
  · rw [hfails] at hpasses
    cases hpasses

end History

/-! ## The same comparison -/

theorem RecordStore.verify_current {s : RecordStore} {t : Tree} {record : IntegrityRecord}
    {room : ℕ} (h : s.readRecord t room = .ok (some record)) (p : Path) :
    s.verify t p room = (History.currentDigest s.settings t p record.sourceDirectory.isSome).map
      (.ofDigests record.digest) := by
  rw [verify_eq h, hashInput, Option.any_some, History.currentDigest]
  rcases likeForLike t p record.sourceDirectory.isSome with e | compared
  · rfl
  · show (Corpus.ofPath t compared).map _ = ((Corpus.ofPath t compared).map _).map _
    rcases Corpus.ofPath t compared with e | c
    · rfl
    · rfl

theorem sourceDirectory_origin (shown digest stamp : String) (source : Source) :
    (⟨digest, stamp, source.origin shown⟩ : IntegrityRecord).sourceDirectory.isSome =
      (source.kind == .directory) := by
  cases source <;> rfl

theorem solid_digest (c : Corpus) : Solid (c.digest "NO_ASSERTIONS") := by
  unfold Corpus.digest
  split
  · decide
  · exact solid_sha256 _

/-- The corpus of a path is the same before and after its record was stored, unless the path is the record file. -/
theorem ofPath_after_store {t t₁ : Tree} {root p : Path} {shown : String} {now : Moment} {r : IntegrityRecord}
    {c : Corpus} (hstore : (defaultStore root).store t shown now = (t₁, .ok r)) (hexists : t.pathExists p = .ok true)
    (hother : ¬ t₁.SamePlace p (defaultStore root).recordPath) (hc : Corpus.ofPath t₁ p = .ok c) :
    Corpus.ofPath t p = .ok c := by
  obtain ⟨names, hwalk, hwithin⟩ := (RecordStore.updated_of_store hstore).frame
  refine hwithin.ofPath hexists hc ?_
  rintro q hq names' rfl hread
  rw [recordPath_defaultStore] at hwalk hother
  exact hother (samePlace_of_mem_files (Corpus.ofPath_eq_ok.mp hc).1 (by decide) (by decide) hq
    ⟨names', hread, hwalk⟩)

/-- The history of a directory under the default settings. -/
def defaultHistory (workdir : Path) : History :=
  ⟨workdir, {}⟩

/-- A host on which both channels are as they were left: the record file has its bytes and the note is shown. -/
structure KeepsBoth (s : RecordStore) (t₁ : Tree) (note : String) (later : Host) : Prop where
  record : later.tree.readBytes s.recordPath = t₁.readBytes s.recordPath
  repository : (replyAt later.gitReplies 0).output?.isSome = true
  note : (replyAt later.gitReplies 1).output? = some note

theorem KeepsBoth.noteShown {s : RecordStore} {t₁ : Tree} {note : String} {later : Host}
    (h : KeepsBoth s t₁ note later) :
    History.passesNote later.gitReplies 0 = true ∧
      History.noteShown later.gitReplies 0 = AnchorNote.ofText? note := by
  obtain ⟨output, houtput⟩ := Option.isSome_iff_exists.mp h.repository
  constructor
  · rw [History.passesNote, h.repository, Reply.hasExited_of_output (by rw [h.note, Option.isSome_some])]
    rfl
  · rw [History.noteShown, houtput, h.note]
    rfl

/-- Checking a note that was kept compares its digest, like for like. -/
theorem KeepsBoth.runOn_verifyAnchor {s : RecordStore} {t₁ : Tree} {later : Host} {digest shown : String}
    {m : Moment} {kind : SourceKind}
    (h : KeepsBoth s t₁ (⟨digest, m.stamp, shown, some kind⟩ : AnchorNote).toText later)
    (hdigest : Solid digest) (hne : digest ≠ "") (hshown : ∀ c ∈ shown.toList, isLineBreak c = false)
    (workdir q : Path) :
    (((defaultHistory workdir).verifyAnchor q).runOn later).1 =
      (History.currentDigest {} later.tree q (kind == .directory)).map (CheckStatus.ofDigests digest) := by
  obtain ⟨hpasses, hnote⟩ := h.noteShown
  have hclean : ∀ v ∈ (⟨digest, m.stamp, shown, some kind⟩ : AnchorNote).texts,
      ∀ c ∈ v.toList, isLineBreak c = false := by
    intro v hv
    simp only [AnchorNote.texts, List.mem_cons, List.not_mem_nil, or_false] at hv
    rcases hv with rfl | rfl | rfl
    · exact hdigest.clean
    · exact m.solid_stamp.clean
    · exact hshown
  rw [AnchorNote.ofText_toText hclean (hdigest.stripped.symm ▸ hne)] at hnote
  rw [History.runOn_verifyAnchor_shown _ q hpasses hnote]
  show (History.currentDigest {} later.tree q (kind == .directory)).map
    (CheckStatus.ofDigests (History.stripped digest)) = _
  rw [hdigest.stripped]

/-- **The two channels agree.** Let a record of a path that is there, and that is not the record file, be stored, and
let its digest be attached as a note, in either order; the text of the path has no line breaks. Then for as long as
the record file has the bytes that storing left and the note is shown as it was given, checking the note and checking
the record give the same result for every path, however many levels of a value can be shown: they compare the same
digest with the current one. -/
theorem channels_agree {t t₁ : Tree} {root workdir : Path} {text digest : String} {now : Moment}
    {r : IntegrityRecord} {h h₁ : Host} (hexists : t.pathExists (Path.ofString text) = .ok true)
    (hother : ¬ t₁.SamePlace (Path.ofString text) (defaultStore root).recordPath)
    (hclean : ∀ c ∈ (Path.ofString text).toString.toList, isLineBreak c = false)
    (hstore : (defaultStore root).store t (Path.ofString text).toString now = (t₁, .ok r))
    (htree : h.tree = t ∨ h.tree = t₁)
    (hanchor : ((defaultHistory workdir).anchor (Path.ofString text).toString).runOn h = (.ok digest, h₁)) :
    digest = r.digest ∧ ∃ call note, h₁.calls.getLast? = some call ∧ call.stdin = some note ∧
      ∀ later, KeepsBoth (defaultStore root) t₁ note later → ∀ q room,
        (((defaultHistory workdir).verifyAnchor q).runOn later).1 = (defaultStore root).verify later.tree q room ∧
        (defaultStore root).verify later.tree q room =
          (History.currentDigest {} later.tree q r.sourceDirectory.isSome).map (CheckStatus.ofDigests r.digest) := by
  have hparsed := Path.parsed_ofString text
  obtain ⟨c, m, call, hc, hdigest, hlast, hstdin⟩ := (defaultHistory workdir).runOn_anchor_eq_ok hanchor
  rw [hparsed.ofString_toString] at hc
  -- The note and the record were taken of one corpus.
  have hcorpus : Corpus.ofPath t (Path.ofString text) = .ok c := by
    rcases htree with htree | htree
    · exact htree ▸ hc
    · exact ofPath_after_store hstore hexists hother (htree ▸ hc)
  have hrecord := (RecordStore.store_eq_ok hstore).1
  rw [RecordStore.recordOf_eq, hparsed.ofString_toString, hcorpus, sentinel_defaultStore] at hrecord
  have hr : r = ⟨c.digest "NO_ASSERTIONS", now.stamp, c.source.origin (Path.ofString text).toString⟩ :=
    (Except.ok.inj hrecord).symm
  have hsentinel : (defaultHistory workdir).settings.emptySentinel.toText = "NO_ASSERTIONS" :=
    sentinel_defaultStore root
  rw [hsentinel] at hdigest
  have hsame : digest = r.digest := by rw [hdigest, hr]
  have hne : digest ≠ "" := hdigest ▸ digest_ne_empty c
  refine ⟨hsame, call, _, hlast, hstdin, fun later hlater q room => ?_⟩
  have hread := RecordStore.readRecord_of_store hstore hparsed.toString_ne_empty (hsame ▸ hne) hlater.record room
  have hverify := RecordStore.verify_current hread q
  rw [IntegrityRecord.reread_sourceDirectory, IntegrityRecord.reread_digest] at hverify
  refine ⟨?_, hverify⟩
  rw [hverify, hlater.runOn_verifyAnchor (hdigest ▸ solid_digest c) hne hclean workdir q, hsame, hr,
    sourceDirectory_origin]
  rfl

/-- The workspace with one feature file, in a repository whose tool takes notes. -/
def specsHost : Host :=
  { tree := specsTree, gitReplies := [.exited 0 ".git\n" "", .exited 0 "" ""] }

/-- The directory there is stored and anchored, and where its note is shown again both channels agree. -/
theorem channels_agree_specs :
    ∃ t₁ r digest h₁, (defaultStore Path.here).store specsTree (Path.ofString "specs").toString default = (t₁, .ok r) ∧
      ((defaultHistory Path.here).anchor (Path.ofString "specs").toString).runOn specsHost = (.ok digest, h₁) ∧
      digest = r.digest ∧ ∃ note, ∀ q,
        (((defaultHistory Path.here).verifyAnchor q).runOn
          { tree := t₁, gitReplies := [.exited 0 ".git\n" "", .exited 0 note ""] }).1 =
          (defaultStore Path.here).verify t₁ q := by
  obtain ⟨r, hr⟩ := exists_of_toOption (x := ((defaultStore Path.here).store specsTree
    (Path.ofString "specs").toString default).2) (by decide +kernel)
  have hstore : (defaultStore Path.here).store specsTree (Path.ofString "specs").toString default =
      (((defaultStore Path.here).store specsTree (Path.ofString "specs").toString default).1, .ok r) :=
    Prod.ext rfl hr
  obtain ⟨digest, hdigest⟩ := exists_of_toOption (x := (((defaultHistory Path.here).anchor
    (Path.ofString "specs").toString).runOn specsHost).1) (by decide +kernel)
  have hanchor : ((defaultHistory Path.here).anchor (Path.ofString "specs").toString).runOn specsHost =
      (.ok digest, (((defaultHistory Path.here).anchor (Path.ofString "specs").toString).runOn specsHost).2) :=
    Prod.ext hdigest rfl
  generalize ((defaultStore Path.here).store specsTree (Path.ofString "specs").toString default).1 = t₁ at hstore
  have hwalk : specsTree.walk (Path.ofString "specs") (Path.ofString "specs").names = .ok (.inside ["specs"]) := rfl
  obtain ⟨hsame, call, note, -, -, hagree⟩ := channels_agree (t := specsTree) rfl
    (RecordStore.not_samePlace_of_store hstore hwalk (by decide))
    (Solid.clean (s := (Path.ofString "specs").toString) (by decide)) hstore (Or.inl rfl) hanchor
  refine ⟨t₁, r, digest, _, hstore, hanchor, hsame, note, fun q => ?_⟩
  exact (hagree { tree := t₁, gitReplies := [.exited 0 ".git\n" "", .exited 0 note ""] }
    ⟨rfl, rfl, rfl⟩ q _).1

end ScenarioAudit
