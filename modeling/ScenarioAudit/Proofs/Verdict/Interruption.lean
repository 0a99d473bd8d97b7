import ScenarioAudit.Proofs.Record.Evidence
import ScenarioAudit.Proofs.Verdict.Evidence

/-! # What keeps a check from a verdict

A check of a file takes back all trouble of the version history but what nothing foresees: a command that may not be
started, or not the way it is asked for, or that leaves no text (`Reply.Unforeseen`). Trouble with files is never taken
back, and a check has two files to come to besides the one it is about: what the note on the last commit says it covers,
and the absolute path of the file. With none of these in the way a check gives a verdict, in which the channels that
could not be evaluated are skipped (`check_settles_iff`).

The calls are numbered as in the evidence of a check: a repository is asked for by calls 0, 1 and 3, the note is shown
by call 2, the file is looked up by call 4 and its difference shown by call 5.
-/

namespace ScenarioAudit

namespace History

/-! ## Trouble that is not taken back -/

/-- A job ends with trouble that is not about the version history. -/
def Aborts {α : Type} (job : Job α) (h : Host) : Prop :=
  ∃ e h', job.runOn h = (.error e, h') ∧ isHistoryTrouble e = false

section Aborts

variable {α β : Type} {h h₁ : Host} {P : Prop}

theorem not_aborts_of_ok {x : Job α} {a : α} (hx : x.runOn h = (.ok a, h₁)) : ¬ Aborts x h := by
  rintro ⟨e, h', herror, -⟩
  rw [hx] at herror
  cases herror

theorem aborts_of_error {x : Job α} {e : Trouble} (hx : x.runOn h = (.error e, h₁)) :
    Aborts x h ↔ isHistoryTrouble e = false := by
  constructor
  · rintro ⟨e', h', herror, hother⟩
    rw [hx] at herror
    cases herror
    exact hother
  · intro hother
    exact ⟨e, h₁, hx, hother⟩

theorem aborts_bind_of_ok {x : Job α} {f : α → Job β} {a : α} (hx : x.runOn h = (.ok a, h₁)) :
    Aborts (x >>= f) h ↔ Aborts (f a) h₁ := by
  simp only [Aborts, Job.runOn_bind_ok hx]

theorem aborts_bind_of_error {x : Job α} {f : α → Job β} {e : Trouble} (hx : x.runOn h = (.error e, h₁)) :
    Aborts (x >>= f) h ↔ isHistoryTrouble e = false :=
  aborts_of_error (Job.runOn_bind_error hx)

theorem settles_orElseHistory {x : Job α} (a : α) : Job.Settles (orElseHistory x (pure a)) h ↔ ¬ Aborts x h := by
  rcases hx : x.runOn h with ⟨e | b, h'⟩
  · rw [aborts_of_error hx, Job.Settles, runOn_orElse_error hx]
    cases hhistory : isHistoryTrouble e with
    | true => simp [Job.runOn_pure]
    | false => simp
  · exact iff_of_true ⟨b, h', runOn_orElse_ok hx⟩ (not_aborts_of_ok hx)

variable (history : History)

/-- A command aborts if nothing foresees what becomes of it, or if it ends and what comes after it aborts. -/
theorem aborts_git_bind {command : String} {args : List String} {f : Exit → Job α}
    (hf : ∀ exit h₁, Advanced 1 h h₁ → (replyAt h.gitReplies 0).exit? = some exit → (Aborts (f exit) h₁ ↔ P)) :
    Aborts (history.git command args none >>= f) h ↔
      (replyAt h.gitReplies 0).Unforeseen ∨ (replyAt h.gitReplies 0).hasExited = true ∧ P := by
  obtain ⟨h', hadvanced, ⟨exit, hexit, hgit⟩ | ⟨hnone, e, hgit, hunforeseen⟩⟩ := history.runOn_git command args none h
  · rw [aborts_bind_of_ok hgit, hf exit h' hadvanced hexit, and_iff_right (Reply.hasExited_of_exit hexit)]
    refine (or_iff_right fun hunforeseen => ?_).symm
    rw [hunforeseen.exit?_eq] at hexit
    cases hexit
  · rw [aborts_bind_of_error hgit, hunforeseen, Reply.hasExited_of_exit_none hnone]
    simp

/-- Asking for a repository aborts if nothing foresees what becomes of the command, or if there is one and what comes
after it aborts. -/
theorem aborts_requireRepository_bind {f : Unit → Job α} (hf : ∀ h₁, Advanced 1 h h₁ → (Aborts (f ()) h₁ ↔ P)) :
    Aborts (history.requireRepository >>= f) h ↔
      (replyAt h.gitReplies 0).Unforeseen ∨ (replyAt h.gitReplies 0).output?.isSome = true ∧ P := by
  obtain ⟨h', hadvanced, ⟨hrun, hsome⟩ | ⟨e, hrun, hnone, hunforeseen⟩⟩ := history.runOn_requireRepository h
  · rw [aborts_bind_of_ok hrun, hf h' hadvanced, and_iff_right hsome]
    refine (or_iff_right fun hunforeseen => ?_).symm
    rw [hunforeseen.output?_eq] at hsome
    cases hsome
  · rw [aborts_bind_of_error hrun, hunforeseen, hnone]
    simp

theorem settles_git_bind {command : String} {args : List String} {f : Exit → Job α}
    (hf : ∀ exit h₁, Advanced 1 h h₁ → (replyAt h.gitReplies 0).exit? = some exit → (Job.Settles (f exit) h₁ ↔ P)) :
    Job.Settles (history.git command args none >>= f) h ↔ (replyAt h.gitReplies 0).hasExited = true ∧ P := by
  obtain ⟨h', hadvanced, ⟨exit, hexit, hgit⟩ | ⟨hnone, e, hgit, -⟩⟩ := history.runOn_git command args none h
  · rw [Job.settles_bind hgit, hf exit h' hadvanced hexit, and_iff_right (Reply.hasExited_of_exit hexit)]
  · exact iff_of_false (Job.not_settles_bind hgit) (by simp [Reply.hasExited_of_exit_none hnone])

theorem settles_requireRepository_bind {f : Unit → Job α}
    (hf : ∀ h₁, Advanced 1 h h₁ → (Job.Settles (f ()) h₁ ↔ P)) :
    Job.Settles (history.requireRepository >>= f) h ↔ (replyAt h.gitReplies 0).output?.isSome = true ∧ P := by
  obtain ⟨h', hadvanced, ⟨hrun, hsome⟩ | ⟨e, hrun, hnone, -⟩⟩ := history.runOn_requireRepository h
  · rw [Job.settles_bind hrun, hf h' hadvanced, and_iff_right hsome]
  · exact iff_of_false (Job.not_settles_bind hrun) (by simp [hnone])

end Aborts

/-! ## The two channels -/

section Channels

variable (history : History) {h : Host}

theorem aborts_readAnchor : Aborts history.readAnchor h ↔ (replyAt h.gitReplies 0).Unforeseen ∨
    (replyAt h.gitReplies 0).output?.isSome = true ∧ (replyAt h.gitReplies 1).Unforeseen := by
  unfold readAnchor
  refine history.aborts_requireRepository_bind fun h₁ hone => ?_
  rw [history.aborts_git_bind (P := False) fun exit h₂ _ _ => iff_of_false ?_ id, hone.replyAt_eq]
  · simp
  · split
    · exact not_aborts_of_ok rfl
    · exact not_aborts_of_ok rfl

/-- The digest that a note is compared with cannot be computed. -/
def NoteRefused (settings : IntegritySettings) (t : Tree) (p : Path) (note : AnchorNote) : Prop :=
  ∃ e, (note.coversDirectory t).bind (currentDigest settings t p) = .error e

theorem aborts_verifyAnchor (p : Path) : Aborts (history.verifyAnchor p) h ↔
    Aborts history.readAnchor h ∨
      ∃ note, noteShown h.gitReplies 0 = some note ∧ NoteRefused history.settings h.tree p note := by
  rcases history.runOn_readAnchor h with ⟨h₂, htwo, -, hread⟩ | ⟨e, h', hread, hfails⟩
  · rw [or_iff_right (not_aborts_of_ok hread)]
    cases hnote : noteShown h.gitReplies 0 with
    | none =>
      rw [hnote] at hread
      unfold verifyAnchor
      rw [aborts_bind_of_ok hread]
      simpa using not_aborts_of_ok (Job.runOn_pure _ _)
    | some note =>
      rw [hnote] at hread
      have hrun := history.runOn_verifyAnchor_read p hread htwo.tree_eq
      simp only [Option.some.injEq, exists_eq_left', NoteRefused]
      cases hcovers : note.coversDirectory h.tree with
      | error e =>
        rw [hcovers] at hrun
        exact iff_of_true ((aborts_of_error hrun).mpr (onFiles_coversDirectory _ _ e hcovers)) ⟨e, rfl⟩
      | ok covers =>
        rw [hcovers] at hrun
        show _ ↔ ∃ e, currentDigest history.settings h.tree p covers = .error e
        change _ = ((currentDigest history.settings h.tree p covers).map _, h₂) at hrun
        cases hcurrent : currentDigest history.settings h.tree p covers with
        | error e =>
          rw [hcurrent] at hrun
          exact iff_of_true ((aborts_of_error hrun).mpr (onFiles_currentDigest _ _ _ _ e hcurrent)) ⟨e, rfl⟩
        | ok current =>
          rw [hcurrent] at hrun
          exact iff_of_false (not_aborts_of_ok hrun) (by simp)
  · unfold verifyAnchor
    rw [aborts_bind_of_error hread, aborts_of_error hread]
    refine (or_iff_left ?_).symm
    rintro ⟨note, hnote, -⟩
    rw [passesNote_of_noteShown hnote] at hfails
    cases hfails

theorem aborts_classifyChanges (target : Path) : Aborts (history.classifyChanges target) h ↔
    (replyAt h.gitReplies 0).Unforeseen ∨
      (replyAt h.gitReplies 0).output?.isSome = true ∧ (replyAt h.gitReplies 1).Unforeseen := by
  unfold classifyChanges
  rw [history.aborts_git_bind
    (P := (replyAt h.gitReplies 0).output?.isSome = true ∧ (replyAt h.gitReplies 1).Unforeseen)]
  · refine or_congr_right (and_iff_right_of_imp fun hnext => ?_)
    exact Reply.hasExited_of_output hnext.1
  · intro tracked h₁ hone hexit
    rw [Reply.output?_of_exit hexit]
    by_cases hcode : tracked.code = 0
    · -- The difference that is asked for then is only looked at.
      rw [if_neg (not_not.mpr hcode), history.aborts_git_bind (P := False) fun diff h₂ _ _ =>
        iff_of_false ?_ id, hone.replyAt_eq]
      · simp [hcode]
      · split
        · rw [aborts_of_error (Job.runOn_fail _ _)]
          simp [isHistoryTrouble]
        · exact not_aborts_of_ok (Job.runOn_pure _ _)
    · rw [if_pos hcode]
      refine iff_of_false (not_aborts_of_ok (Job.runOn_pure _ _)) ?_
      simp [hcode]

/-- The drift check of a file comes to the absolute path of the file between its commands. -/
theorem aborts_checkDrift {p : Path} (hfile : h.tree.isFile p = .ok true) : Aborts (history.checkDrift p) h ↔
    (replyAt h.gitReplies 0).Unforeseen ∨ (replyAt h.gitReplies 0).output?.isSome = true ∧
      (Tree.pathLimit < p.resolve.toString.utf8ByteSize ∨ (replyAt h.gitReplies 1).Unforeseen ∨
        (replyAt h.gitReplies 1).output?.isSome = true ∧ (replyAt h.gitReplies 2).Unforeseen) := by
  unfold checkDrift
  refine history.aborts_requireRepository_bind fun h₁ hone => ?_
  obtain ⟨habsolute, hresolve⟩ := Tree.isFile_resolve hfile
  rw [habsolute, aborts_bind_of_ok (Job.runOn_settle _ _)]
  have hread := Job.runOn_reading (·.isFile p.resolve) h₁
  rw [hone.tree_eq, hresolve] at hread
  by_cases hlong : Tree.pathLimit < p.resolve.toString.utf8ByteSize
  · rw [if_pos hlong] at hread
    rw [aborts_bind_of_error hread]
    exact iff_of_true rfl (Or.inl hlong)
  · rw [if_neg hlong] at hread
    rw [aborts_bind_of_ok hread, if_pos rfl, aborts_classifyChanges, hone.replyAt_eq, hone.replyAt_eq,
      or_iff_right hlong]

theorem settles_classifyChanges (target : Path) : Job.Settles (history.classifyChanges target) h ↔
    (replyAt h.gitReplies 0).hasExited = true ∧
      ((replyAt h.gitReplies 0).output?.isSome = true → (replyAt h.gitReplies 1).output?.isSome = true) := by
  unfold classifyChanges
  refine history.settles_git_bind fun tracked h₁ hone hexit => ?_
  rw [Reply.output?_of_exit hexit]
  by_cases hcode : tracked.code = 0
  · rw [if_neg (not_not.mpr hcode), history.settles_git_bind (P := (replyAt h.gitReplies 1).output?.isSome = true),
      hone.replyAt_eq]
    · simpa [hcode] using Reply.hasExited_of_output
    · intro diff h₂ _ hexit'
      rw [hone.replyAt_eq] at hexit'
      rw [Reply.output?_of_exit hexit']
      by_cases hcode' : diff.code = 0
      · rw [if_neg (not_not.mpr hcode')]
        exact iff_of_true (Job.settles_pure _ _) (by simp [hcode'])
      · rw [if_pos hcode']
        exact iff_of_false (by simp [Job.Settles, Job.runOn_fail]) (by simp [hcode'])
  · rw [if_pos hcode]
    exact iff_of_true (Job.settles_pure _ _) (by simp [hcode])

theorem settles_checkDrift {p : Path} (hfile : h.tree.isFile p = .ok true) : Job.Settles (history.checkDrift p) h ↔
    (replyAt h.gitReplies 0).output?.isSome = true ∧ ¬ Tree.pathLimit < p.resolve.toString.utf8ByteSize ∧
      (replyAt h.gitReplies 1).hasExited = true ∧
        ((replyAt h.gitReplies 1).output?.isSome = true → (replyAt h.gitReplies 2).output?.isSome = true) := by
  unfold checkDrift
  refine history.settles_requireRepository_bind fun h₁ hone => ?_
  obtain ⟨habsolute, hresolve⟩ := Tree.isFile_resolve hfile
  have hread := Job.runOn_reading (·.isFile p.resolve) h₁
  rw [hone.tree_eq, hresolve] at hread
  rw [habsolute, Job.settles_bind (Job.runOn_settle _ _)]
  by_cases hlong : Tree.pathLimit < p.resolve.toString.utf8ByteSize
  · rw [if_pos hlong] at hread
    exact iff_of_false (Job.not_settles_bind hread) fun hshort => hshort.1 hlong
  · rw [if_neg hlong] at hread
    rw [Job.settles_bind hread, if_pos rfl, settles_classifyChanges, hone.replyAt_eq, hone.replyAt_eq,
      and_iff_right hlong]

theorem checkDrift_ne_skipped {p : Path} {h' : Host} {d : DriftStatus}
    (hrun : (history.checkDrift p).runOn h = (.ok d, h')) : d ≠ .skipped := by
  unfold checkDrift at hrun
  obtain ⟨-, h₁, -, hrun⟩ := Job.runOn_bind_eq_ok hrun
  obtain ⟨target, -, hrun⟩ := Job.runOn_settle_bind_eq_ok hrun
  obtain ⟨isFile, -, hrun⟩ := Job.runOn_reading_bind_eq_ok hrun
  cases isFile with
  | false => cases hrun
  | true =>
    rw [if_pos rfl, classifyChanges] at hrun
    obtain ⟨tracked, h₂, -, hrun⟩ := Job.runOn_bind_eq_ok hrun
    split at hrun
    · cases hrun
      exact DriftStatus.noConfusion
    · obtain ⟨diff, h₃, -, hrun⟩ := Job.runOn_bind_eq_ok hrun
      split at hrun
      · cases hrun
      · cases hrun
        split
        · exact DriftStatus.noConfusion
        · exact DriftStatus.noConfusion

/-- A drift check with its fallback skips the drift exactly if it does not end well. -/
theorem drift_skipped_iff {p : Path} {h' : Host} {d : DriftStatus}
    (hrun : (orElseHistory (history.checkDrift p) (pure .skipped)).runOn h = (.ok d, h')) :
    d = .skipped ↔ ¬ Job.Settles (history.checkDrift p) h := by
  rcases hcheck : (history.checkDrift p).runOn h with ⟨e | d', h₁⟩
  · rw [runOn_orElse_error hcheck] at hrun
    split at hrun
    · cases hrun
      exact iff_of_true rfl (by simp [Job.Settles, hcheck])
    · cases hrun
  · rw [runOn_orElse_ok hcheck] at hrun
    cases hrun
    exact iff_of_false (history.checkDrift_ne_skipped hcheck) (not_not.mpr ⟨_, _, hcheck⟩)

theorem NoteAnswer.ne_skipped {settings : IntegritySettings} {t : Tree} {p : Path} {note : Option AnchorNote}
    {s : CheckStatus} (h : NoteAnswer settings t p note s) : s ≠ .skipped := by
  cases h with
  | missing => exact CheckStatus.noConfusion
  | compared hcovers hcurrent =>
    rw [CheckStatus.ofDigests]
    split
    · exact CheckStatus.noConfusion
    · exact CheckStatus.noConfusion

/-- What becomes of an anchor with its fallback. -/
inductive Anchored (p : Path) (h : Host) : Except Trouble (Option CheckStatus) → Host → Prop
  | compared {s : CheckStatus} {h₁ : Host} (htwo : Advanced 2 h h₁) (hpasses : passesNote h.gitReplies 0 = true)
    (hs : s ≠ .skipped) (hthrough : ¬ Aborts (history.verifyAnchor p) h) : Anchored p h (.ok (some s)) h₁
  | unread {h₁ : Host} (hstops : passesNote h.gitReplies 0 = false)
    (hthrough : ¬ Aborts (history.verifyAnchor p) h) : Anchored p h (.ok none) h₁
  | aborted {e : Trouble} {h₁ : Host} (haborts : Aborts (history.verifyAnchor p) h) : Anchored p h (.error e) h₁

theorem runOn_anchored (p : Path) (h : Host) :
    ∃ r h₁, (orElseHistory (do return some (← history.verifyAnchor p)) (pure none)).runOn h = (r, h₁) ∧
      history.Anchored p h r h₁ := by
  rcases history.runOn_verifyAnchor p h with ⟨s, h₁, htwo, hpasses, hanswer, hverify⟩ | ⟨e, h₁, hverify, hfails⟩
  · have hjob : (do return some (← history.verifyAnchor p) : Job (Option CheckStatus)).runOn h = (.ok (some s), h₁) :=
      Job.runOn_bind_ok hverify
    exact ⟨_, _, runOn_orElse_ok hjob, .compared htwo hpasses hanswer.ne_skipped (not_aborts_of_ok hverify)⟩
  · have hjob : (do return some (← history.verifyAnchor p) : Job (Option CheckStatus)).runOn h = (.error e, h₁) :=
      Job.runOn_bind_error hverify
    have haborts := aborts_of_error hverify
    refine ⟨_, _, runOn_orElse_error hjob, ?_⟩
    cases hhistory : isHistoryTrouble e with
    | true =>
      exact .unread (hfails.resolve_right (by simp [hhistory])) (mt haborts.mp (by simp [hhistory]))
    | false => exact .aborted (haborts.mpr hhistory)

end Channels

end History

/-! ## Checks -/

/-- Whether a check goes on after the reply to one of its calls: the note may be missing, everything else has to
succeed. -/
def LetsOn (replies : List Reply) (n : ℕ) : Prop :=
  if n = 2 then (replyAt replies n).hasExited = true else (replyAt replies n).output?.isSome = true

/-- Whether the replies let a check come to a call. -/
def Reached (replies : List Reply) (n : ℕ) : Prop :=
  n < 6 ∧ ∀ k < n, LetsOn replies k

/-- The replies tell what became of the file since the last commit: it is not tracked, or its difference is shown. -/
def TellsDrift (replies : List Reply) : Prop :=
  Reached replies 4 ∧ (replyAt replies 4).hasExited = true ∧
    ((replyAt replies 4).output?.isSome = true → (replyAt replies 5).output?.isSome = true)

/-- What keeps the channels of the version history from a result. -/
inductive Interrupted (settings : IntegritySettings) (t : Tree) (p : Path) (replies : List Reply) : Prop
  /-- A command comes to what nothing foresees: it may not be started, or not as it is asked for, or leaves no text. -/
  | unforeseen {n : ℕ} (hreached : Reached replies n) (hunforeseen : (replyAt replies n).Unforeseen)
  /-- What the note is compared with cannot be digested. -/
  | note {note : AnchorNote} (hreached : Reached replies 3) (hnote : History.noteShown replies 1 = some note)
      (hrefused : History.NoteRefused settings t p note)
  /-- The system does not take the absolute path of the file. -/
  | path (hreached : Reached replies 4) (hlong : Tree.pathLimit < p.resolve.toString.utf8ByteSize)

theorem interrupted_iff {settings : IntegritySettings} {t : Tree} {p : Path} {replies : List Reply} :
    Interrupted settings t p replies ↔
      (∃ n, Reached replies n ∧ (replyAt replies n).Unforeseen) ∨
      (Reached replies 3 ∧ ∃ note, History.noteShown replies 1 = some note ∧ History.NoteRefused settings t p note) ∨
      (Reached replies 4 ∧ Tree.pathLimit < p.resolve.toString.utf8ByteSize) := by
  constructor
  · intro h
    cases h with
    | unforeseen hreached hunforeseen => exact Or.inl ⟨_, hreached, hunforeseen⟩
    | note hreached hnote hrefused => exact Or.inr (Or.inl ⟨hreached, _, hnote, hrefused⟩)
    | path hreached hlong => exact Or.inr (Or.inr ⟨hreached, hlong⟩)
  · rintro (⟨n, hreached, hunforeseen⟩ | ⟨hreached, note, hnote, hrefused⟩ | ⟨hreached, hlong⟩)
    · exact .unforeseen hreached hunforeseen
    · exact .note hreached hnote hrefused
    · exact .path hreached hlong

/-- A call is come to if the first one is, or if it lets on and the call is come to from there. -/
theorem exists_lt_succ {m : ℕ} {L D : ℕ → Prop} :
    (∃ n, (n < m + 1 ∧ ∀ k < n, L k) ∧ D n) ↔
      D 0 ∨ L 0 ∧ ∃ n, (n < m ∧ ∀ k < n, L (k + 1)) ∧ D (n + 1) := by
  constructor
  · rintro ⟨n, ⟨hn, hall⟩, hD⟩
    cases n with
    | zero => exact Or.inl hD
    | succ n =>
      refine Or.inr ⟨hall 0 (Nat.succ_pos n), n, ⟨Nat.lt_of_succ_lt_succ hn, ?_⟩, hD⟩
      intro k hk
      exact hall (k + 1) (Nat.succ_lt_succ hk)
  · rintro (hD | ⟨hL, n, ⟨hn, hall⟩, hD⟩)
    · exact ⟨0, ⟨Nat.succ_pos m, fun k hk => absurd hk (Nat.not_lt_zero k)⟩, hD⟩
    · refine ⟨n + 1, ⟨Nat.succ_lt_succ hn, ?_⟩, hD⟩
      intro k hk
      cases k with
      | zero => exact hL
      | succ k => exact hall k (Nat.lt_of_succ_lt_succ hk)

section Channels

variable {settings : IntegritySettings} {t : Tree} {p : Path} {replies : List Reply}

/-- The calls at which a check can come to what nothing foresees, one after the other. -/
theorem exists_unforeseen_iff : (∃ n, Reached replies n ∧ (replyAt replies n).Unforeseen) ↔
    (replyAt replies 0).Unforeseen ∨ (replyAt replies 0).output?.isSome = true ∧
      ((replyAt replies 1).Unforeseen ∨ (replyAt replies 1).output?.isSome = true ∧
        ((replyAt replies 2).Unforeseen ∨ (replyAt replies 2).hasExited = true ∧
          ((replyAt replies 3).Unforeseen ∨ (replyAt replies 3).output?.isSome = true ∧
            ((replyAt replies 4).Unforeseen ∨ (replyAt replies 4).output?.isSome = true ∧
              (replyAt replies 5).Unforeseen)))) := by
  unfold Reached
  simp only [exists_lt_succ (m := 5), exists_lt_succ (m := 4), exists_lt_succ (m := 3), exists_lt_succ (m := 2),
    exists_lt_succ (m := 1), exists_lt_succ (m := 0)]
  simp [LetsOn]

theorem reached_three_iff : Reached replies 3 ↔
    (replyAt replies 0).output?.isSome = true ∧ History.passesNote replies 1 = true := by
  unfold Reached History.passesNote
  simp only [Nat.forall_lt_succ_right, Nat.not_lt_zero, false_imp_iff, implies_true, true_and]
  simp [LetsOn, and_assoc]

theorem reached_four_iff : Reached replies 4 ↔
    Reached replies 3 ∧ (replyAt replies 3).output?.isSome = true := by
  unfold Reached
  rw [Nat.forall_lt_succ_right]
  simp [LetsOn]

/-- **When the channels of the version history give a result.** -/
theorem settles_historyChannels (history : History) {h : Host} (hfile : h.tree.isFile p = .ok true) :
    Job.Settles (historyChannels history p) h ↔ ¬ Interrupted history.settings h.tree p h.gitReplies := by
  rw [interrupted_iff, exists_unforeseen_iff, reached_four_iff, reached_three_iff]
  unfold historyChannels
  obtain ⟨h₁, hone, hrepository⟩ := history.runOn_isRepository h
  rcases hrepository with ⟨hstarted, hrepository⟩ | ⟨hunforeseen, e, hrepository, -⟩
  swap
  · exact iff_of_false (Job.not_settles_bind hrepository) (by simp [hunforeseen])
  rw [Job.settles_bind hrepository]
  cases hsome : (replyAt h.gitReplies 0).output?.isSome with
  | false => simp [hstarted, Job.settles_pure]
  | true =>
    rw [if_pos rfl]
    have haborts := history.aborts_verifyAnchor (h := h₁) p
    rw [history.aborts_readAnchor, hone.replyAt_eq, hone.replyAt_eq, hone.noteShown_eq, hone.tree_eq] at haborts
    obtain ⟨r, h₂, hanchored, hcase⟩ := history.runOn_anchored p h₁
    cases hcase with
    | compared htwo hpasses hs hthrough =>
      -- The drift check is come to, and everything before it has gone well.
      have hfile' : h₂.tree.isFile p = .ok true := by rw [htwo.tree_eq, hone.tree_eq, hfile]
      rw [Job.settles_bind hanchored, Job.settles_bind_iff fun _ _ => Job.settles_pure _ _,
        History.settles_orElseHistory, history.aborts_checkDrift hfile', (hone.trans htwo).replyAt_eq,
        (hone.trans htwo).replyAt_eq, (hone.trans htwo).replyAt_eq]
      rw [hone.passesNote_eq] at hpasses
      obtain ⟨hfirst, hexited⟩ := Bool.and_eq_true_iff.mp hpasses
      simp only [haborts, Nat.reduceAdd, not_or, not_and] at hthrough
      obtain ⟨⟨hsecond, hthird⟩, hnote⟩ := hthrough
      simp only [hstarted, hsecond, hthird hfirst, hnote, hpasses, hfirst, hexited, Nat.reduceAdd, true_and, false_or,
        and_true, and_false]
      rw [and_or_left, or_left_comm, or_comm]
    | unread hstops hthrough =>
      rw [Job.settles_bind hanchored]
      refine iff_of_true (Job.settles_pure _ _) ?_
      rw [hone.passesNote_eq] at hstops
      rw [haborts] at hthrough
      rintro ((hdenied | ⟨-, hdenied | ⟨hfirst, hdenied | ⟨hexited, -⟩⟩⟩) | ⟨⟨-, hpasses⟩, -⟩ |
        ⟨⟨⟨-, hpasses⟩, -⟩, -⟩)
      · exact hstarted hdenied
      · exact hthrough (Or.inl (Or.inl hdenied))
      · exact hthrough (Or.inl (Or.inr ⟨hfirst, hdenied⟩))
      · rw [History.passesNote, hfirst, hexited] at hstops
        cases hstops
      · rw [hpasses] at hstops
        cases hstops
      · rw [hpasses] at hstops
        cases hstops
    | aborted haborted =>
      refine iff_of_false (Job.not_settles_bind hanchored) (not_not.mpr ?_)
      rcases haborts.mp haborted with (hdenied | ⟨hfirst, hdenied⟩) | ⟨note, hnote, hrefused⟩
      · exact Or.inl (Or.inr ⟨rfl, Or.inl hdenied⟩)
      · exact Or.inl (Or.inr ⟨rfl, Or.inr ⟨hfirst, Or.inl hdenied⟩⟩)
      · exact Or.inr (Or.inl ⟨⟨rfl, passesNote_of_noteShown hnote⟩, note, hnote, hrefused⟩)

theorem historyChannels_skipped_iff {history : History} {h h' : Host} {anchor : CheckStatus} {drift : DriftStatus}
    (hfile : h.tree.isFile p = .ok true) (hrun : (historyChannels history p).runOn h = (.ok (anchor, drift), h')) :
    (anchor = .skipped ↔ ¬ Reached h.gitReplies 3) ∧ (drift = .skipped ↔ ¬ TellsDrift h.gitReplies) := by
  have hthrough := (settles_historyChannels history hfile).mp ⟨_, _, hrun⟩
  have hskipped (hnot : ¬ Reached h.gitReplies 3) : ¬ TellsDrift h.gitReplies :=
    fun htells => hnot (reached_four_iff.mp htells.1).1
  unfold historyChannels at hrun
  obtain ⟨h₁, hone, ⟨-, hrepository⟩ | ⟨-, e, hrepository, -⟩⟩ := history.runOn_isRepository h
  swap
  · rw [Job.runOn_bind_error hrepository] at hrun
    cases hrun
  rw [Job.runOn_bind_ok hrepository] at hrun
  cases hsome : (replyAt h.gitReplies 0).output?.isSome with
  | false =>
    have hnot : ¬ Reached h.gitReplies 3 := by simp [reached_three_iff, hsome]
    rw [hsome] at hrun
    cases hrun
    exact ⟨iff_of_true rfl hnot, iff_of_true rfl (hskipped hnot)⟩
  | true =>
    rw [hsome, if_pos rfl] at hrun
    obtain ⟨r, h₂, hanchored, hcase⟩ := history.runOn_anchored p h₁
    cases hcase with
    | compared htwo hpasses hs _ =>
      rw [Job.runOn_bind_ok hanchored] at hrun
      obtain ⟨d, h₃, hdrift, hrun⟩ := Job.runOn_bind_eq_ok hrun
      cases hrun
      rw [hone.passesNote_eq] at hpasses
      have hreached : Reached h.gitReplies 3 := reached_three_iff.mpr ⟨hsome, hpasses⟩
      refine ⟨iff_of_false hs (not_not.mpr hreached), ?_⟩
      have hfile' : h₂.tree.isFile p = .ok true := by rw [htwo.tree_eq, hone.tree_eq, hfile]
      have hsettles := history.settles_checkDrift hfile'
      rw [(hone.trans htwo).replyAt_eq, (hone.trans htwo).replyAt_eq, (hone.trans htwo).replyAt_eq] at hsettles
      have htells : TellsDrift h.gitReplies ↔ Job.Settles (history.checkDrift p) h₂ := by
        rw [hsettles]
        constructor
        · rintro ⟨hfour, hexited, hshown⟩
          exact ⟨(reached_four_iff.mp hfour).2, fun hlong => hthrough (.path hfour hlong), hexited, hshown⟩
        · rintro ⟨hthird, -, hexited, hshown⟩
          exact ⟨reached_four_iff.mpr ⟨hreached, hthird⟩, hexited, hshown⟩
      rw [htells]
      exact history.drift_skipped_iff hdrift
    | unread hstops _ =>
      rw [Job.runOn_bind_ok hanchored] at hrun
      cases hrun
      rw [hone.passesNote_eq] at hstops
      have hnot : ¬ Reached h.gitReplies 3 := by simp [reached_three_iff, hstops]
      exact ⟨iff_of_true rfl hnot, iff_of_true rfl (hskipped hnot)⟩
    | aborted _ =>
      rw [Job.runOn_bind_error hanchored] at hrun
      cases hrun

theorem exists_ofDirectory (settings : IntegritySettings) (hfile : t.isFile p = .ok true) :
    ∃ workdir, History.ofDirectory (some p.parent) settings = .ok ⟨workdir, settings⟩ := by
  obtain ⟨found, hlook, hfound⟩ := map_eq_ok hfile
  obtain ⟨u, rfl, -⟩ := (Option.any_eq_true _ _).mp hfound
  obtain ⟨place, hwalk, -⟩ := Tree.find_eq_ok.mp (Tree.find_of_look hlook)
  have hnul : p.parent.names.any Tree.hasNul = false := by
    have hall := (Tree.walk_eq_ok.mp hwalk).1
    rw [List.any_eq_false] at hall ⊢
    intro n hn
    exact hall n (List.mem_of_mem_dropLast hn)
  refine ⟨p.parent.resolve, ?_⟩
  rw [History.ofDirectory, Option.getD_some, Tree.absolute, hnul]
  rfl

theorem runOn_historyResults (settings : IntegritySettings) {h : Host} (hfile : h.tree.isFile p = .ok true) :
    ∃ history : History, history.settings = settings ∧
      (historyResults settings p).runOn h = (historyChannels history p).runOn h := by
  obtain ⟨workdir, hhistory⟩ := exists_ofDirectory settings hfile
  refine ⟨⟨workdir, settings⟩, rfl, ?_⟩
  have hread := Job.runOn_reading (·.isFile p) h
  rw [hfile] at hread
  rw [historyResults, Job.runOn_bind_ok hread, if_pos rfl, hhistory]
  exact Job.runOn_bind_ok (Job.runOn_settle _ _)

theorem exists_verify_of_currentDigest {place : Path} {record : Option IntegrityRecord}
    {room : ℕ} (hrecord : RecordStore.readRecord ⟨place, settings⟩ t room = .ok record) {current : String}
    (hcurrent : History.currentDigest settings t p (record.any fun r => r.sourceDirectory.isSome) = .ok current) :
    ∃ status, RecordStore.verify ⟨place, settings⟩ t p room = .ok status := by
  cases record with
  | none =>
    refine ⟨.missing, ?_⟩
    rw [RecordStore.verify, hrecord]
    rfl
  | some record =>
    refine ⟨.ofDigests record.digest current, ?_⟩
    rw [RecordStore.verify, hrecord]
    obtain ⟨compared, hcompared, hdigest⟩ := bind_eq_ok hcurrent
    have hinput : RecordStore.hashInput t p (some record) = .ok compared := hcompared
    show (RecordStore.hashInput t p (some record) >>= fun compared =>
      RecordStore.digestOf ⟨place, settings⟩ t compared >>= fun digest => _) = _
    rw [hinput]
    show (RecordStore.digestOf ⟨place, settings⟩ t compared >>= fun digest => _) = _
    rw [RecordStore.digestOf, hdigest]
    rfl

/-- All channels of a file give a result if what the record is compared with can be digested and the version history
does not get in the way. -/
theorem settles_collectChannels {root : Option Path} {h : Host} {place : Path} {record : Option IntegrityRecord}
    (hfile : h.tree.isFile p = .ok true) (hplace : recordRoot h.tree root p = .ok place)
    (hrecord : RecordStore.readRecord ⟨place, settings⟩ h.tree h.showRoom = .ok record) :
    Job.Settles (collectChannels settings root p) h ↔
      (∃ current, History.currentDigest settings h.tree p (record.any fun r => r.sourceDirectory.isSome) =
        .ok current) ∧ ¬ Interrupted settings h.tree p h.gitReplies := by
  obtain ⟨history, hsettings, hrun⟩ := runOn_historyResults settings hfile
  have hhistory := settles_historyChannels history hfile
  rw [hsettings, Job.Settles, ← hrun] at hhistory
  unfold collectChannels
  simp only [Job.settles_reading_bind, Job.settles_looking_bind, hplace, hrecord, Except.ok.injEq, exists_eq_left']
  -- The last two steps put the results together.
  have hend (status : CheckStatus) (current : String) : Job.Settles (do
      let history ← historyResults settings p
      return {
        path := p.toString
        digest := status
        anchor := history.1
        drift := history.2
        currentDigest := current
        storedDigest := record.map (·.digest)
        checkedAt := (← get).now : ChannelResults }) h ↔ ¬ Interrupted settings h.tree p h.gitReplies :=
    (Job.settles_bind_iff fun history h₁ => ⟨_, h₁, rfl⟩).trans hhistory
  simp only [hend]
  constructor
  · rintro ⟨status, -, current, hcurrent, hthrough⟩
    exact ⟨⟨current, hcurrent⟩, hthrough⟩
  · rintro ⟨⟨current, hcurrent⟩, hthrough⟩
    obtain ⟨status, hstatus⟩ := exists_verify_of_currentDigest hrecord hcurrent
    exact ⟨status, hstatus, current, hcurrent, hthrough⟩

/-- With a time limit that is never waited for, the channels give a result only if the program is not there. -/
theorem interrupted_of_neverWaits {call : Call} (hwaits : call.NeverWaits) (hreply : call.CanGet (replyAt replies 0)) :
    Interrupted settings t p replies ↔ replyAt replies 0 ≠ .missing := by
  rw [interrupted_iff, exists_unforeseen_iff, reached_four_iff, reached_three_iff]
  rcases hwaits.refused_or hreply with ⟨fault, hrefused⟩ | hmissing | hdenied
  · rw [hrefused]
    exact iff_of_true (Or.inl (Or.inl (.refused fault))) Reply.noConfusion
  · rw [hmissing]
    simp [Reply.output?]
  · rw [hdenied]
    exact iff_of_true (Or.inl (Or.inl .denied)) Reply.noConfusion

end Channels

/-- **When a check of a file gives a verdict.** For every script of replies: a check of a file whose record can be read
gives a verdict exactly if what the record is compared with can be digested, no command that is come to may not be
started, is refused the way it is asked for or leaves bytes that are no text, what a note is compared with can be
digested, and the system takes the absolute path of the file. In the verdict the anchor is skipped exactly if the note
is not asked for with success or shown missing, and the drift exactly if the replies do not tell it. With a time limit
that is never waited for, which is refused to every program that is started, there is a verdict only without the
program. -/
theorem check_settles_iff {settings : IntegritySettings} {root : Option Path} {p : Path} {h : Host} {place : Path}
    {record : Option IntegrityRecord} (hfile : h.tree.isFile p = .ok true)
    (hplace : recordRoot h.tree root p = .ok place)
    (hrecord : RecordStore.readRecord ⟨place, settings⟩ h.tree h.showRoom = .ok record) (policy : Policy) :
    (Job.Settles (checkIntegrity settings root p policy) h ↔
      (∃ current, History.currentDigest settings h.tree p (record.any fun r => r.sourceDirectory.isSome) =
        .ok current) ∧ ¬ Interrupted settings h.tree p h.gitReplies) ∧
    (∀ v h', (checkIntegrity settings root p policy).runOn h = (.ok v, h') →
      (v.checks.anchor = .skipped ↔ ¬ Reached h.gitReplies 3) ∧
      (v.checks.drift = .skipped ↔ ¬ TellsDrift h.gitReplies)) ∧
    ∀ call : Call, call.timeout = settings.gitTimeout → call.NeverWaits → call.CanGet (replyAt h.gitReplies 0) →
      (Job.Settles (checkIntegrity settings root p policy) h ↔
        (∃ current, History.currentDigest settings h.tree p (record.any fun r => r.sourceDirectory.isSome) =
          .ok current) ∧ replyAt h.gitReplies 0 = .missing) := by
  have hsettles : Job.Settles (checkIntegrity settings root p policy) h ↔
      (∃ current, History.currentDigest settings h.tree p (record.any fun r => r.sourceDirectory.isSome) =
        .ok current) ∧ ¬ Interrupted settings h.tree p h.gitReplies := by
    rw [← settles_collectChannels hfile hplace hrecord, checkIntegrity]
    exact Job.settles_bind_iff fun r h₁ => Job.settles_pure _ h₁
  refine ⟨hsettles, ?_, ?_⟩
  swap
  · intro call _ hwaits hreply
    rw [hsettles, interrupted_of_neverWaits hwaits hreply, not_not]
  · intro v h' hrun
    obtain ⟨r, hcollect, rfl⟩ := checkIntegrity_ok hrun
    rw [collectChannels] at hcollect
    obtain ⟨place', -, hcollect⟩ := Job.runOn_reading_bind_eq_ok hcollect
    obtain ⟨record', -, hcollect⟩ := Job.runOn_looking_bind_eq_ok hcollect
    obtain ⟨status, -, hcollect⟩ := Job.runOn_looking_bind_eq_ok hcollect
    obtain ⟨current, -, hcollect⟩ := Job.runOn_reading_bind_eq_ok hcollect
    obtain ⟨⟨anchor, drift⟩, h₁, hresults, hcollect⟩ := Job.runOn_bind_eq_ok hcollect
    cases hcollect
    obtain ⟨history, -, hhistory⟩ := runOn_historyResults settings hfile
    rw [hhistory] at hresults
    exact historyChannels_skipped_iff hfile hresults

/-- A host with a feature file under version control, and the replies of the version-history tool. -/
def trackedHost (replies : List Reply) : Host where
  tree := .dir [("specs", .dir [("a.feature", .file (Text.encodeUtf8 "Given x\n".toList))])]
  gitReplies := replies

/-- There is no note, and asking for a repository before the drift check takes too long. -/
def slowReplies : List Reply :=
  [.exited 0 ".git" "", .exited 0 ".git" "", .exited 1 "" "", .timedOut .nothing]

/-- A command that takes too long does not keep the check from a verdict, in which the drift is skipped. -/
theorem check_settles_timedOut : ∃ v h', (checkIntegrity {} none (Path.ofString "specs/a.feature") .optional).runOn
      (trackedHost slowReplies) = (.ok v, h') ∧ v.checks.anchor ≠ .skipped ∧ v.checks.drift = .skipped := by
  have hfile : (trackedHost slowReplies).tree.isFile (Path.ofString "specs/a.feature") = .ok true := rfl
  have hplace : recordRoot (trackedHost slowReplies).tree none (Path.ofString "specs/a.feature") = .ok Path.here := rfl
  have hrecord : RecordStore.readRecord ⟨Path.here, {}⟩ (trackedHost slowReplies).tree
      (trackedHost slowReplies).showRoom = .ok none := rfl
  obtain ⟨hsettles, hskipped, -⟩ := check_settles_iff hfile hplace hrecord .optional
  have hreached : Reached slowReplies 3 := reached_three_iff.mpr ⟨rfl, rfl⟩
  have hstops : ¬ Reached slowReplies 4 := fun hfour => absurd (reached_four_iff.mp hfour).2 (by decide)
  have hthrough : ¬ Interrupted {} (trackedHost slowReplies).tree (Path.ofString "specs/a.feature") slowReplies := by
    rw [interrupted_iff, exists_unforeseen_iff]
    simp only [hstops, false_and, or_false]
    simp [slowReplies, replyAt, Reply.output?, History.noteShown]
  obtain ⟨current, hcurrent, -⟩ := exists_of_toOption_map (f := fun _ => ()) (b := ())
    (x := History.currentDigest {} (trackedHost slowReplies).tree (Path.ofString "specs/a.feature") false)
    (by decide +kernel)
  obtain ⟨v, h', hrun⟩ := hsettles.mpr ⟨⟨current, hcurrent⟩, hthrough⟩
  obtain ⟨hanchor, hdrift⟩ := hskipped v h' hrun
  exact ⟨v, h', hrun, fun hanchor' => hanchor.mp hanchor' hreached, hdrift.mpr fun htells => hstops htells.1⟩

theorem denied_command_escapes : ¬ Job.Settles (checkIntegrity {} none (Path.ofString "specs/a.feature") .optional)
    (trackedHost [.denied]) := by
  rintro ⟨v, h', hrun⟩
  have herror : ((checkIntegrity {} none (Path.ofString "specs/a.feature") .optional).runOn
      (trackedHost [.denied])).1.toOption.isNone = true := by decide +kernel
  rw [hrun] at herror
  cases herror

end ScenarioAudit
