import ScenarioAudit.Anchor.History
import ScenarioAudit.Proofs.Host
import ScenarioAudit.Proofs.Tree

/-! # What the version history answers

Each command of the version history takes one reply. The lemmas here say, for every script of replies, how a
check of the note (`runOn_verifyAnchor`) and of the uncommitted changes (`runOn_checkDrift`) ends: with an answer,
with trouble of the version history, or with other trouble, which no caller takes back. Trouble with files is
always of the last kind (`onFiles_ofPath`).
-/

namespace ScenarioAudit

/-! ## Trouble with files -/

/-- A computation whose failures are not about the version history. -/
abbrev OnFiles {α : Type} (x : Except Trouble α) : Prop :=
  FailsOnly (fun e => History.isHistoryTrouble e = false) x

section OnFiles

variable (t : Tree) (p : Path)

theorem onFiles_walk (names : List String) : OnFiles (t.walk p names) := by
  rw [Tree.walk]
  split
  · exact failsOnly_error rfl
  split
  · exact failsOnly_error rfl
  split
  · exact failsOnly_error rfl
  · exact failsOnly_ok _

theorem onFiles_find : OnFiles (t.find p) := by
  rw [Tree.find]
  apply (onFiles_walk t p _).bind
  intro place
  cases place with
  | outside => exact failsOnly_ok _
  | inside names =>
    dsimp only
    split
    · exact failsOnly_ok _
    · exact failsOnly_error rfl

theorem onFiles_look : OnFiles (t.look p) := by
  rw [Tree.look]
  split
  · exact failsOnly_ok _
  next e he =>
    split
    · exact failsOnly_ok _
    · exact failsOnly_error (onFiles_find t p e he)

theorem onFiles_isDir : OnFiles (t.isDir p) :=
  (onFiles_look t p).map _

theorem onFiles_isFile : OnFiles (t.isFile p) :=
  (onFiles_look t p).map _

theorem onFiles_readText : OnFiles (t.readText p) := by
  have hbytes : OnFiles (t.readBytes p) := by
    rw [Tree.readBytes]
    split
    · exact failsOnly_ok _
    · exact failsOnly_error rfl
    next e he => exact failsOnly_error (onFiles_find t p e he)
  exact hbytes.map _

theorem onFiles_list : OnFiles (t.list p) := by
  rw [Tree.list]
  split
  · exact failsOnly_ok _
  · exact failsOnly_error rfl
  next e he => exact failsOnly_error (onFiles_find t p e he)

theorem onFiles_classifyPath : OnFiles (classifyPath t p) := by
  rw [classifyPath]
  apply (onFiles_isDir t p).bind
  intro isDir
  cases isDir with
  | true => exact ((onFiles_list t p).bind fun _ => failsOnly_ok _).bind fun _ => failsOnly_ok _
  | false =>
    apply (onFiles_isFile t p).bind
    intro isFile
    cases isFile with
    | true => exact failsOnly_ok _
    | false => exact failsOnly_ok _

theorem onFiles_ofSource (source : Source) : OnFiles (Corpus.ofSource t source) := by
  cases source with
  | directory p files => exact (failsOnly_mapM (onFiles_readText t) files).bind fun _ => failsOnly_ok _
  | scenarioFile p => exact (onFiles_readText t p).bind fun _ => failsOnly_ok _
  | legacyDocument p => exact (onFiles_readText t p).bind fun _ => failsOnly_ok _
  | missing p => exact failsOnly_ok _

/-- Trouble with reading a corpus is never about the version history. -/
theorem onFiles_ofPath : OnFiles (Corpus.ofPath t p) :=
  (onFiles_classifyPath t p).bind (onFiles_ofSource t)

theorem onFiles_digestAt (sentinel : String) : OnFiles (digestAt t sentinel p) :=
  (onFiles_ofPath t p).map _

theorem onFiles_likeForLike (overDirectory : Bool) : OnFiles (likeForLike t p overDirectory) := by
  rw [likeForLike]
  split
  · exact (onFiles_isFile t p).bind fun _ => failsOnly_ok _
  · exact failsOnly_ok _

theorem onFiles_coversDirectory (note : AnchorNote) : OnFiles (note.coversDirectory t) := by
  rw [AnchorNote.coversDirectory]
  split
  · exact failsOnly_ok _
  split
  · exact failsOnly_ok _
  · exact onFiles_isDir t _

end OnFiles

/-! ## Commands -/

namespace Reply

open History

/-- How a command ended, if it ended by itself and left text. -/
def exit? : Reply → Option Exit
  | .exited code output errors => some ⟨code, output, errors⟩
  | .ended code output errors => (Exit.ofBytes code output errors).toOption
  | _ => none

def output? (reply : Reply) : Option String :=
  reply.exit?.bind fun exit => if exit.code = 0 then some exit.output else none

/-- Whether a command ended by itself and left text. -/
def hasExited (reply : Reply) : Bool :=
  reply.exit?.isSome

/-- What can become of a command without being trouble of the version history: the command may not be started, it is
refused the way it is asked for, or what it leaves is no text. -/
inductive Unforeseen : Reply → Prop
  | denied : Unforeseen .denied
  | refused (fault : StartFault) : Unforeseen (.refused fault)
  | notText {code : Int} {output errors : List UInt8} {e : Trouble} (h : Exit.ofBytes code output errors = .error e) :
    Unforeseen (.ended code output errors)

@[simp] theorem exit?_exited (code : Int) (output errors : String) :
    (exited code output errors).exit? = some ⟨code, output, errors⟩ :=
  rfl

@[simp] theorem exit?_missing : missing.exit? = none :=
  rfl

@[simp] theorem exit?_timedOut (output : PartialOutput) : (timedOut output).exit? = none :=
  rfl

@[simp] theorem not_unforeseen_exited (code : Int) (output errors : String) :
    ¬ (exited code output errors).Unforeseen :=
  nofun

@[simp] theorem not_unforeseen_missing : ¬ missing.Unforeseen :=
  nofun

@[simp] theorem not_unforeseen_timedOut (output : PartialOutput) : ¬ (timedOut output).Unforeseen :=
  nofun

variable {reply : Reply}

theorem Unforeseen.exit?_eq (h : reply.Unforeseen) : reply.exit? = none := by
  cases h with
  | denied => rfl
  | refused fault => rfl
  | notText h => rw [exit?, h, Except.toOption]

theorem output?_of_exit {exit : Exit} (h : reply.exit? = some exit) :
    reply.output? = if exit.code = 0 then some exit.output else none := by
  rw [output?, h, Option.bind_some]

theorem output?_of_exit_none (h : reply.exit? = none) : reply.output? = none := by
  rw [output?, h, Option.bind_none]

theorem hasExited_of_exit {exit : Exit} (h : reply.exit? = some exit) : reply.hasExited = true := by
  rw [hasExited, h, Option.isSome_some]

theorem hasExited_of_exit_none (h : reply.exit? = none) : reply.hasExited = false := by
  rw [hasExited, h, Option.isSome_none]

theorem hasExited_of_output (h : reply.output?.isSome = true) : reply.hasExited = true := by
  rcases hexit : reply.exit? with _ | exit
  · rw [output?_of_exit_none hexit] at h
    cases h
  · exact hasExited_of_exit hexit

theorem Unforeseen.output?_eq (h : reply.Unforeseen) : reply.output? = none :=
  output?_of_exit_none h.exit?_eq

end Reply

namespace History

variable (history : History)

theorem isHistoryTrouble_ofBytes {code : Int} {output errors : List UInt8} {e : Trouble}
    (h : Exit.ofBytes code output errors = .error e) : isHistoryTrouble e = false := by
  have htext (bytes : List UInt8) : OnFiles (Tree.strictText bytes) := by
    rw [Tree.strictText]
    split
    · exact failsOnly_ok _
    · exact failsOnly_error rfl
  exact ((htext output).bind fun _ => (htext errors).bind fun _ => failsOnly_ok _) e h

theorem isHistoryTrouble_startFault (fault : StartFault) : isHistoryTrouble fault.trouble = false := by
  cases fault with
  | nulCharacter => rfl
  | limitNotANumber => rfl
  | limitTooLong => rfl

/-- What becomes of a command: it ends with text, or there is trouble, which is about the version history unless nothing
foresees it. -/
theorem runOn_git (command : String) (args : List String) (stdin : Option String) (h : Host) :
    ∃ h', Advanced 1 h h' ∧
      ((∃ exit, (replyAt h.gitReplies 0).exit? = some exit ∧
          (history.git command args stdin).runOn h = (.ok exit, h')) ∨
        (replyAt h.gitReplies 0).exit? = none ∧ ∃ e, (history.git command args stdin).runOn h = (.error e, h') ∧
          (isHistoryTrouble e = false ↔ (replyAt h.gitReplies 0).Unforeseen)) := by
  obtain ⟨h', hstart, hadvanced, -⟩ := runOn_startGit
    { argv := "git" :: command :: args
      cwd := some history.workdir.toString
      timeout := history.settings.gitTimeout
      stdin := stdin } h
  refine ⟨h', hadvanced, ?_⟩
  rw [git, Job.runOn_bind_ok hstart, Job.runOn_settle]
  cases replyAt h.gitReplies 0 with
  | exited code output errors => exact Or.inl ⟨_, rfl, rfl⟩
  | ended code output errors =>
    rw [Exit.ofReply, Reply.exit?]
    cases hbytes : Exit.ofBytes code output errors with
    | ok exit => exact Or.inl ⟨exit, rfl, rfl⟩
    | error e => exact Or.inr ⟨rfl, e, rfl, iff_of_true (isHistoryTrouble_ofBytes hbytes) (.notText hbytes)⟩
  | missing => exact Or.inr ⟨rfl, _, rfl, iff_of_false (by decide) nofun⟩
  | denied => exact Or.inr ⟨rfl, _, rfl, iff_of_true rfl .denied⟩
  | timedOut output => exact Or.inr ⟨rfl, _, rfl, iff_of_false (by simp [isHistoryTrouble]) nofun⟩
  | refused fault =>
    exact Or.inr ⟨rfl, _, rfl, iff_of_true (isHistoryTrouble_startFault fault) (.refused fault)⟩

theorem runOn_orElse_ok {α : Type} {x other : Job α} {h h₁ : Host} {a : α} (hx : x.runOn h = (.ok a, h₁)) :
    (orElseHistory x other).runOn h = (.ok a, h₁) :=
  Job.runOn_tryCatch_ok hx

theorem runOn_orElse_error {α : Type} {x other : Job α} {h h₁ : Host} {e : Trouble}
    (hx : x.runOn h = (.error e, h₁)) :
    (orElseHistory x other).runOn h = if isHistoryTrouble e then other.runOn h₁ else (.error e, h₁) := by
  rw [orElseHistory, Job.runOn_tryCatch_error hx]
  by_cases hhistory : isHistoryTrouble e = true
  · rw [if_pos hhistory, if_pos hhistory]
  · rw [if_neg hhistory, if_neg hhistory]
    rfl

/-- How a question to the version history ends that is answered by the exit code alone. -/
theorem runOn_isRepository (h : Host) :
    ∃ h', Advanced 1 h h' ∧
      (¬ (replyAt h.gitReplies 0).Unforeseen ∧
          history.isRepository.runOn h = (.ok (replyAt h.gitReplies 0).output?.isSome, h') ∨
        (replyAt h.gitReplies 0).Unforeseen ∧
          ∃ e, history.isRepository.runOn h = (.error e, h') ∧ isHistoryTrouble e = false) := by
  obtain ⟨h', hadvanced, ⟨exit, hexit, hgit⟩ | ⟨hnone, e, hgit, hunforeseen⟩⟩ :=
    history.runOn_git "rev-parse" ["--git-dir"] none h
  · refine ⟨h', hadvanced, Or.inl ⟨fun h => ?_, ?_⟩⟩
    · rw [h.exit?_eq] at hexit
      cases hexit
    · have hjob : (do return (← history.git "rev-parse" ["--git-dir"]).code == 0 : Job Bool).runOn h =
          (.ok (exit.code == 0), h') := Job.runOn_bind_ok hgit
      rw [isRepository, runOn_orElse_ok hjob, Reply.output?_of_exit hexit]
      by_cases hzero : exit.code = 0
      · rw [if_pos hzero, hzero]
        rfl
      · rw [if_neg hzero, beq_eq_false_iff_ne.mpr hzero]
        rfl
  · refine ⟨h', hadvanced, ?_⟩
    have hjob : (do return (← history.git "rev-parse" ["--git-dir"]).code == 0 : Job Bool).runOn h =
        (.error e, h') := Job.runOn_bind_error hgit
    rw [isRepository, runOn_orElse_error hjob, Reply.output?_of_exit_none hnone]
    cases hhistory : isHistoryTrouble e with
    | true => exact Or.inl ⟨mt hunforeseen.mpr (by simp [hhistory]), rfl⟩
    | false => exact Or.inr ⟨hunforeseen.mp hhistory, e, rfl, hhistory⟩

/-- Without a repository there is trouble, and only a command that nothing foresees makes it other trouble. -/
theorem runOn_requireRepository (h : Host) :
    ∃ h', Advanced 1 h h' ∧
      (history.requireRepository.runOn h = (.ok (), h') ∧ (replyAt h.gitReplies 0).output?.isSome ∨
        ∃ e, history.requireRepository.runOn h = (.error e, h') ∧
          (replyAt h.gitReplies 0).output? = none ∧
          (isHistoryTrouble e = false ↔ (replyAt h.gitReplies 0).Unforeseen)) := by
  obtain ⟨h', hadvanced, hrun⟩ := history.runOn_isRepository h
  refine ⟨h', hadvanced, ?_⟩
  rw [requireRepository]
  rcases hrun with ⟨hforeseen, hrun⟩ | ⟨hunforeseen, e, hrun, hother⟩
  · rw [Job.runOn_bind_ok hrun]
    rcases (replyAt h.gitReplies 0).output? with _ | output
    · exact Or.inr ⟨_, rfl, rfl, iff_of_false (by simp [isHistoryTrouble]) hforeseen⟩
    · exact Or.inl ⟨rfl, rfl⟩
  · exact Or.inr ⟨e, Job.runOn_bind_error hrun, hunforeseen.output?_eq, iff_of_true hother hunforeseen⟩

/-! ## The note -/

/-- The note that is shown, if its command is reached, succeeds and prints one: `first` is the number of the call
that asks for a repository. -/
def noteShown (replies : List Reply) (first : ℕ) : Option AnchorNote := do
  let _ ← (replyAt replies first).output?
  let output ← (replyAt replies (first + 1)).output?
  AnchorNote.ofText? output

/-- Whether looking for the note lets the check go on. -/
def passesNote (replies : List Reply) (first : ℕ) : Bool :=
  (replyAt replies first).output?.isSome && (replyAt replies (first + 1)).hasExited

theorem runOn_readAnchor (h : Host) :
    (∃ h', Advanced 2 h h' ∧ passesNote h.gitReplies 0 = true ∧
        history.readAnchor.runOn h = (.ok (noteShown h.gitReplies 0), h')) ∨
      ∃ e h', history.readAnchor.runOn h = (.error e, h') ∧ passesNote h.gitReplies 0 = false := by
  obtain ⟨h₁, hone, hrepository⟩ := history.runOn_requireRepository h
  rcases hrepository with ⟨hrun, hsome⟩ | ⟨e, hrun, hnone, -⟩
  · obtain ⟨h₂, htwo, hgit⟩ := history.runOn_git "notes" [history.notesOption, "show", "HEAD"] none h₁
    obtain ⟨printed, hprinted⟩ := Option.isSome_iff_exists.mp hsome
    rw [hone.replyAt_eq] at hgit
    rw [readAnchor, Job.runOn_bind_ok hrun, passesNote, noteShown, hprinted]
    rcases hgit with ⟨exit, hexit, hgit⟩ | ⟨hnone, e, hgit, -⟩
    · left
      refine ⟨h₂, hone.trans htwo, Reply.hasExited_of_exit hexit, ?_⟩
      rw [Job.runOn_bind_ok hgit, Reply.output?_of_exit hexit]
      by_cases hzero : exit.code = 0
      · simp [hzero, Job.runOn_pure]
      · simp [hzero, Job.runOn_pure]
    · right
      exact ⟨e, h₂, Job.runOn_bind_error hgit, Reply.hasExited_of_exit_none hnone⟩
  · right
    refine ⟨e, h₁, Job.runOn_bind_error hrun, ?_⟩
    rw [passesNote, hnone]
    rfl

/-- The digest of what a path is compared by, when what was taken earlier covers a directory or does not. -/
def currentDigest (settings : IntegritySettings) (t : Tree) (p : Path) (overDirectory : Bool) :
    Except Trouble String :=
  (likeForLike t p overDirectory).bind (digestAt t settings.emptySentinel.toText)

theorem onFiles_currentDigest (settings : IntegritySettings) (t : Tree) (p : Path) (overDirectory : Bool) :
    OnFiles (currentDigest settings t p overDirectory) :=
  (onFiles_likeForLike t p overDirectory).bind fun _ => onFiles_digestAt t _ _

/-- What a check of the note says: nothing without a note, and otherwise whether its digest is the current one. -/
inductive NoteAnswer (settings : IntegritySettings) (t : Tree) (p : Path) :
    Option AnchorNote → CheckStatus → Prop
  | missing : NoteAnswer settings t p none .missing
  | compared {note : AnchorNote} {covers : Bool} {current : String}
      (hcovers : note.coversDirectory t = .ok covers)
      (hcurrent : currentDigest settings t p covers = .ok current) :
      NoteAnswer settings t p (some note) (.ofDigests note.digest current)

theorem runOn_verifyAnchor_read {note : AnchorNote} {h h' : Host} (p : Path)
    (hread : history.readAnchor.runOn h = (.ok (some note), h')) (htree : h'.tree = h.tree) :
    (history.verifyAnchor p).runOn h = ((note.coversDirectory h.tree).bind fun covers =>
      (currentDigest history.settings h.tree p covers).map (.ofDigests note.digest), h') := by
  have hfiles := Job.runOn_reading (fun t => do
    digestAt t history.settings.emptySentinel.toText (← likeForLike t p (← note.coversDirectory t))) h'
  have hvalue : (do
      digestAt h'.tree history.settings.emptySentinel.toText
        (← likeForLike h'.tree p (← note.coversDirectory h'.tree))) =
      (note.coversDirectory h.tree).bind (currentDigest history.settings h.tree p) := by
    rw [htree]
    rfl
  rw [hvalue] at hfiles
  unfold verifyAnchor
  rw [Job.runOn_bind_ok hread]
  rcases hcovers : note.coversDirectory h.tree with e | covers
  · rw [hcovers] at hfiles
    exact Job.runOn_bind_error hfiles
  · rw [hcovers] at hfiles
    change _ = (currentDigest history.settings h.tree p covers, h') at hfiles
    show _ = ((currentDigest history.settings h.tree p covers).map _, h')
    rcases hcurrent : currentDigest history.settings h.tree p covers with e | current
    · rw [hcurrent] at hfiles
      exact Job.runOn_bind_error hfiles
    · rw [hcurrent] at hfiles
      exact Job.runOn_bind_ok hfiles

theorem runOn_verifyAnchor (p : Path) (h : Host) :
    (∃ s h', Advanced 2 h h' ∧ passesNote h.gitReplies 0 = true ∧
        NoteAnswer history.settings h.tree p (noteShown h.gitReplies 0) s ∧
        (history.verifyAnchor p).runOn h = (.ok s, h')) ∨
      ∃ e h', (history.verifyAnchor p).runOn h = (.error e, h') ∧
        (passesNote h.gitReplies 0 = false ∨ isHistoryTrouble e = false) := by
  rcases history.runOn_readAnchor h with ⟨h₂, htwo, hpasses, hread⟩ | ⟨e, h', hread, hfails⟩
  · rcases hnote : noteShown h.gitReplies 0 with _ | note
    · rw [hnote] at hread
      refine Or.inl ⟨.missing, h₂, htwo, hpasses, .missing, ?_⟩
      rw [verifyAnchor, Job.runOn_bind_ok hread]
      rfl
    · rw [hnote] at hread
      rw [history.runOn_verifyAnchor_read p hread htwo.tree_eq]
      rcases hcovers : note.coversDirectory h.tree with e | covers
      · exact Or.inr ⟨e, h₂, rfl, Or.inr (onFiles_coversDirectory _ _ e hcovers)⟩
      · rcases hcurrent : currentDigest history.settings h.tree p covers with e | current
        · refine Or.inr ⟨e, h₂, ?_, Or.inr (onFiles_currentDigest _ _ _ _ e hcurrent)⟩
          rw [Except.bind, hcurrent]
          rfl
        · refine Or.inl ⟨_, h₂, htwo, hpasses, .compared hcovers hcurrent, ?_⟩
          rw [Except.bind, hcurrent]
          rfl
  · exact Or.inr ⟨e, h', Job.runOn_bind_error hread, Or.inl hfails⟩

/-! ## Uncommitted changes -/

/-- The difference that is shown, if its command is reached and succeeds: `first` is the number of the call that
asks for a repository. -/
def diffShown (replies : List Reply) (first : ℕ) : Option String := do
  let _ ← (replyAt replies first).output?
  let _ ← (replyAt replies (first + 1)).output?
  (replyAt replies (first + 2)).output?

theorem runOn_classifyChanges (target : Path) (h : Host) :
    (∃ d h', (history.classifyChanges target).runOn h = (.ok d, h') ∧
        (d = .modified ↔ ∃ diff, (replyAt h.gitReplies 0).output?.isSome = true ∧
          (replyAt h.gitReplies 1).output? = some diff ∧ diffTouchesSteps diff.toList = true)) ∨
      ∃ e h', (history.classifyChanges target).runOn h = (.error e, h') ∧
        ((replyAt h.gitReplies 0).output? = none ∨ (replyAt h.gitReplies 1).output? = none) := by
  obtain ⟨h₁, hone, htracked⟩ := history.runOn_git "ls-files"
    ["--error-unmatch", "--", target.toString] none h
  rcases htracked with ⟨tracked, hexit, htracked⟩ | ⟨hnone, e, htracked, -⟩
  swap
  · exact Or.inr ⟨e, h₁, Job.runOn_bind_error htracked, Or.inl (Reply.output?_of_exit_none hnone)⟩
  have hfirst := Reply.output?_of_exit hexit
  rw [classifyChanges, Job.runOn_bind_ok htracked]
  -- A file that is not tracked has no difference to look at.
  by_cases hcode : tracked.code = 0
  swap
  · rw [if_pos hcode]
    refine Or.inl ⟨_, h₁, rfl, ?_⟩
    simp [hfirst, hcode]
  rw [if_neg (not_not.mpr hcode)]
  obtain ⟨h₂, htwo, hdiff⟩ := history.runOn_git "diff" ["HEAD", "--", target.toString] none h₁
  rw [hone.replyAt_eq] at hdiff
  rcases hdiff with ⟨diff, hexit', hdiff⟩ | ⟨hnone, e, hdiff, -⟩
  swap
  · exact Or.inr ⟨e, h₂, Job.runOn_bind_error hdiff, Or.inr (Reply.output?_of_exit_none hnone)⟩
  have hsecond := Reply.output?_of_exit hexit'
  rw [Job.runOn_bind_ok hdiff]
  by_cases hcode' : diff.code = 0
  · rw [if_neg (not_not.mpr hcode')]
    rw [if_pos hcode'] at hsecond
    refine Or.inl ⟨_, h₂, Job.runOn_pure _ _, ?_⟩
    by_cases htouches : diffTouchesSteps diff.output.toList = true
    · simp [hfirst, hsecond, hcode, htouches]
    · simp [hfirst, hsecond, hcode, htouches]
  · rw [if_pos hcode']
    rw [if_neg hcode'] at hsecond
    exact Or.inr ⟨_, h₂, Job.runOn_fail _ _, Or.inr hsecond⟩

theorem diffShown_eq_some {replies : List Reply} {first : ℕ} {diff : String} :
    diffShown replies first = some diff ↔
      (replyAt replies first).output?.isSome = true ∧ (replyAt replies (first + 1)).output?.isSome = true ∧
        (replyAt replies (first + 2)).output? = some diff := by
  rw [diffShown]
  rcases (replyAt replies first).output? with _ | a
  · simp
  rcases (replyAt replies (first + 1)).output? with _ | b
  · simp
  · simp

theorem runOn_checkDrift (p : Path) (h : Host) :
    (∃ d h', (history.checkDrift p).runOn h = (.ok d, h') ∧
        (d = .modified ↔ ∃ diff, diffShown h.gitReplies 0 = some diff ∧
          diffTouchesSteps diff.toList = true)) ∨
      ∃ e h', (history.checkDrift p).runOn h = (.error e, h') ∧
        (diffShown h.gitReplies 0 = none ∨ isHistoryTrouble e = false) := by
  obtain ⟨h₁, hone, hrepository⟩ := history.runOn_requireRepository h
  rcases hrepository with ⟨hrun, hsome⟩ | ⟨e, hrun, hnone, -⟩
  swap
  · refine Or.inr ⟨e, h₁, Job.runOn_bind_error hrun, Or.inl ?_⟩
    rw [diffShown, hnone]
    rfl
  rw [checkDrift, Job.runOn_bind_ok hrun]
  -- What fails between the commands is trouble with files.
  rcases htarget : Tree.absolute p with e | target
  · refine Or.inr ⟨e, h₁, Job.runOn_bind_error (Job.runOn_settle _ _), Or.inr ?_⟩
    rw [Tree.absolute] at htarget
    split at htarget
    · cases htarget
      rfl
    · cases htarget
  rw [Job.runOn_bind_ok (Job.runOn_settle _ _)]
  have hfile := Job.runOn_reading (·.isFile target) h₁
  rcases hisFile : h₁.tree.isFile target with e | isFile
  · rw [hisFile] at hfile
    exact Or.inr ⟨e, h₁, Job.runOn_bind_error hfile, Or.inr (onFiles_isFile _ _ e hisFile)⟩
  rw [hisFile] at hfile
  rw [Job.runOn_bind_ok hfile]
  cases isFile with
  | false => exact Or.inr ⟨_, h₁, rfl, Or.inr rfl⟩
  | true =>
    rw [if_pos rfl]
    rcases history.runOn_classifyChanges target h₁ with ⟨d, h', hclassify, hmodified⟩ | ⟨e, h', hclassify, hfails⟩
    · refine Or.inl ⟨d, h', hclassify, ?_⟩
      rw [hone.replyAt_eq, hone.replyAt_eq] at hmodified
      simp only [hmodified, diffShown_eq_some, hsome, true_and, and_assoc]
    · rw [hone.replyAt_eq, hone.replyAt_eq] at hfails
      refine Or.inr ⟨e, h', hclassify, Or.inl ?_⟩
      rw [Option.eq_none_iff_forall_ne_some]
      intro diff hdiff
      obtain ⟨-, hfirst, hsecond⟩ := diffShown_eq_some.mp hdiff
      rcases hfails with hnone | hnone
      · have hcut : (replyAt h.gitReplies (0 + 1)).output? = none := hnone
        rw [hcut] at hfirst
        cases hfirst
      · have hcut : (replyAt h.gitReplies (0 + 2)).output? = none := hnone
        rw [hcut] at hsecond
        cases hsecond

/-- The drift channel that is read shows the changes that are reported. -/
theorem drift_eq_modified_iff {p : Path} {h h' : Host} {d : DriftStatus}
    (hrun : (orElseHistory (history.checkDrift p) (pure .skipped)).runOn h = (.ok d, h')) :
    d = .modified ↔ ∃ diff, diffShown h.gitReplies 0 = some diff ∧ diffTouchesSteps diff.toList = true := by
  rcases history.runOn_checkDrift p h with ⟨d', h₁, hcheck, hmodified⟩ | ⟨e, h₁, hcheck, hfails⟩
  · rw [runOn_orElse_ok hcheck] at hrun
    cases hrun
    exact hmodified
  · rw [runOn_orElse_error hcheck] at hrun
    by_cases hhistory : isHistoryTrouble e = true
    · rw [if_pos hhistory] at hrun
      cases hrun
      have hnone := hfails.resolve_right fun hother => Bool.eq_false_iff.mp hother hhistory
      rw [hnone]
      simp
    · rw [if_neg hhistory] at hrun
      cases hrun

end History

end ScenarioAudit
