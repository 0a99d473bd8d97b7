import Mathlib.Tactic.Common
import ScenarioAudit.Host

/-! # Running jobs on a host

What a job does to a host is computed step by step (`Job.runOn_bind_ok`, `Job.runOn_tryCatch_ok`), and so is whether it
gives a result (`Job.Settles`). The replies of the version-history tool are numbered by the calls that take them
(`replyAt`), and `Advanced` says that nothing but some calls has happened between two hosts.
-/

namespace ScenarioAudit

namespace Job

variable {α β : Type}

theorem runOn_pure (a : α) (h : Host) : (pure a : Job α).runOn h = (.ok a, h) :=
  rfl

theorem runOn_fail (e : Trouble) (h : Host) : (fail e : Job α).runOn h = (.error e, h) :=
  rfl

theorem runOn_settle (x : Except Trouble α) (h : Host) : (settle x).runOn h = (x, h) := by
  cases x with
  | error e => rfl
  | ok a => rfl

theorem runOn_looking (f : Host → Except Trouble α) (h : Host) : (looking f).runOn h = (f h, h) :=
  runOn_settle (f h) h

theorem runOn_reading (f : Tree → Except Trouble α) (h : Host) : (reading f).runOn h = (f h.tree, h) :=
  runOn_looking (fun h => f h.tree) h

theorem runOn_bind_ok {x : Job α} {f : α → Job β} {h h₁ : Host} {a : α} (hx : x.runOn h = (.ok a, h₁)) :
    (x >>= f).runOn h = (f a).runOn h₁ := by
  rw [runOn] at hx
  rw [runOn, ExceptT.run_bind, StateT.run_bind, hx]
  rfl

theorem runOn_bind_error {x : Job α} {f : α → Job β} {h h₁ : Host} {e : Trouble}
    (hx : x.runOn h = (.error e, h₁)) : (x >>= f).runOn h = (.error e, h₁) := by
  rw [runOn] at hx
  rw [runOn, ExceptT.run_bind, StateT.run_bind, hx]
  rfl

theorem runOn_bind_eq_ok {x : Job α} {f : α → Job β} {h h' : Host} {b : β}
    (hrun : (x >>= f).runOn h = (.ok b, h')) :
    ∃ a h₁, x.runOn h = (.ok a, h₁) ∧ (f a).runOn h₁ = (.ok b, h') := by
  rcases hx : x.runOn h with ⟨e | a, h₁⟩
  · rw [runOn_bind_error hx] at hrun
    cases hrun
  · rw [runOn_bind_ok hx] at hrun
    exact ⟨a, h₁, rfl, hrun⟩

theorem runOn_settle_bind_eq_ok {x : Except Trouble α} {f : α → Job β} {h h' : Host} {b : β}
    (hrun : (settle x >>= f).runOn h = (.ok b, h')) : ∃ a, x = .ok a ∧ (f a).runOn h = (.ok b, h') := by
  cases x with
  | error e => cases hrun
  | ok a => exact ⟨a, rfl, hrun⟩

theorem runOn_looking_bind_eq_ok {x : Host → Except Trouble α} {f : α → Job β} {h h' : Host} {b : β}
    (hrun : (looking x >>= f).runOn h = (.ok b, h')) : ∃ a, x h = .ok a ∧ (f a).runOn h = (.ok b, h') := by
  obtain ⟨a, h₁, hx, hrun⟩ := runOn_bind_eq_ok hrun
  rw [runOn_looking] at hx
  cases hx' : x h with
  | error e =>
    rw [hx'] at hx
    cases hx
  | ok a' =>
    rw [hx'] at hx
    cases hx
    exact ⟨a, rfl, hrun⟩

theorem runOn_reading_bind_eq_ok {x : Tree → Except Trouble α} {f : α → Job β} {h h' : Host} {b : β}
    (hrun : (reading x >>= f).runOn h = (.ok b, h')) :
    ∃ a, x h.tree = .ok a ∧ (f a).runOn h = (.ok b, h') :=
  runOn_looking_bind_eq_ok hrun

theorem runOn_tryCatch_ok {x : Job α} {f : Trouble → Job α} {h h₁ : Host} {a : α}
    (hx : x.runOn h = (.ok a, h₁)) : (tryCatch x f).runOn h = (.ok a, h₁) := by
  rw [runOn] at hx
  rw [runOn, ExceptT.run_tryCatch, StateT.run_bind, hx]
  rfl

theorem runOn_tryCatch_error {x : Job α} {f : Trouble → Job α} {h h₁ : Host} {e : Trouble}
    (hx : x.runOn h = (.error e, h₁)) : (tryCatch x f).runOn h = (f e).runOn h₁ := by
  rw [runOn] at hx
  rw [runOn, ExceptT.run_tryCatch, StateT.run_bind, hx]
  rfl

/-! ### Jobs that give a result -/

def Settles (job : Job α) (h : Host) : Prop :=
  ∃ a h', job.runOn h = (.ok a, h')

theorem settles_pure (a : α) (h : Host) : (pure a : Job α).Settles h :=
  ⟨a, h, rfl⟩

theorem settles_bind {x : Job α} {f : α → Job β} {h h₁ : Host} {a : α} (hx : x.runOn h = (.ok a, h₁)) :
    (x >>= f).Settles h ↔ (f a).Settles h₁ := by
  simp only [Settles, runOn_bind_ok hx]

theorem not_settles_bind {x : Job α} {f : α → Job β} {h h₁ : Host} {e : Trouble}
    (hx : x.runOn h = (.error e, h₁)) : ¬ (x >>= f).Settles h := by
  rintro ⟨b, h', hrun⟩
  rw [runOn_bind_error hx] at hrun
  cases hrun

/-- What always gives a result keeps none back. -/
theorem settles_bind_iff {x : Job α} {f : α → Job β} {h : Host} (hf : ∀ a h₁, (f a).Settles h₁) :
    (x >>= f).Settles h ↔ x.Settles h := by
  rcases hx : x.runOn h with ⟨e | a, h₁⟩
  · exact iff_of_false (not_settles_bind hx) (by simp [Settles, hx])
  · rw [settles_bind hx]
    exact iff_of_true (hf a h₁) ⟨a, h₁, hx⟩

theorem settles_looking_bind {x : Host → Except Trouble α} {f : α → Job β} {h : Host} :
    (looking x >>= f).Settles h ↔ ∃ a, x h = .ok a ∧ (f a).Settles h := by
  have hlook := runOn_looking x h
  cases hx : x h with
  | error e =>
    rw [hx] at hlook
    exact iff_of_false (not_settles_bind hlook) nofun
  | ok a =>
    rw [hx] at hlook
    simp [settles_bind hlook]

theorem settles_reading_bind {x : Tree → Except Trouble α} {f : α → Job β} {h : Host} :
    (reading x >>= f).Settles h ↔ ∃ a, x h.tree = .ok a ∧ (f a).Settles h :=
  settles_looking_bind

end Job

theorem runOn_startTool (call : Call) (h : Host) :
    (Host.startTool call).runOn h = (.ok h.toolReply, { h with calls := h.calls ++ [call] }) :=
  rfl

/-! ## Replies that a call can get

A NUL character in a call is found before anything is started, an unusable time limit only when the system first waits
for the program, so a program that is not there is still reported as missing then.
-/

/-- The longest time that the system waits for a program, in milliseconds. -/
def longestWait : ℕ := 2147483647

/-- A time limit in seconds is longer than the system waits. -/
def Number.Binary64.exceedsWait : Binary64 → Bool
  | .finite false m e => longestWait * (ratio m e).2 < 1000 * (ratio m e).1
  | _ => false

namespace Call

variable (call : Call)

/-- A word of a call, or its directory, has a NUL character. -/
def hasNul : Bool :=
  (call.cwd.toList ++ call.argv).any Tree.hasNul

/-- A time limit that the system never waits for. -/
def NeverWaits : Prop :=
  call.timeout = .nan ∨ call.timeout = .infinite false

/-- What can become of a call. -/
def CanGet : Reply → Prop
  | .refused .nulCharacter => call.hasNul = true
  | .refused .limitNotANumber => call.hasNul = false ∧ call.timeout = .nan
  | .refused .limitTooLong => call.hasNul = false ∧ (call.timeout = .infinite false ∨ call.timeout.exceedsWait = true)
  | .missing | .denied => call.hasNul = false
  | .exited _ _ _ | .ended _ _ _ | .timedOut _ => call.hasNul = false ∧ ¬ call.NeverWaits

variable {call}

/-- With a time limit that is never waited for, a program that is started is a program that is refused. -/
theorem NeverWaits.refused_or (h : call.NeverWaits) {reply : Reply} (hreply : call.CanGet reply) :
    (∃ fault, reply = .refused fault) ∨ reply = .missing ∨ reply = .denied := by
  cases reply with
  | refused fault => exact Or.inl ⟨fault, rfl⟩
  | missing => exact Or.inr (Or.inl rfl)
  | denied => exact Or.inr (Or.inr rfl)
  | exited code output errors => exact absurd h hreply.2
  | ended code output errors => exact absurd h hreply.2
  | timedOut output => exact absurd h hreply.2

end Call

/-! ## Replies of the version-history tool -/

/-- The reply to the call of a given number, counted from zero. -/
def replyAt (replies : List Reply) (n : ℕ) : Reply :=
  (replies[n]?).getD Host.exhausted

theorem replyAt_drop (replies : List Reply) (n k : ℕ) :
    replyAt (replies.drop n) k = replyAt replies (n + k) := by
  rw [replyAt, replyAt, List.getElem?_drop]

/-- Between two hosts nothing has happened but `n` calls of the version-history tool. -/
structure Advanced (n : ℕ) (h h' : Host) : Prop where
  tree_eq : h'.tree = h.tree
  replies_eq : h'.gitReplies = h.gitReplies.drop n

namespace Advanced

theorem refl (h : Host) : Advanced 0 h h :=
  ⟨rfl, rfl⟩

theorem trans {m n : ℕ} {h h₁ h₂ : Host} (hm : Advanced m h h₁) (hn : Advanced n h₁ h₂) :
    Advanced (m + n) h h₂ where
  tree_eq := hn.tree_eq.trans hm.tree_eq
  replies_eq := by rw [hn.replies_eq, hm.replies_eq, List.drop_drop]

theorem replyAt_eq {n : ℕ} {h h' : Host} (hn : Advanced n h h') (k : ℕ) :
    replyAt h'.gitReplies k = replyAt h.gitReplies (n + k) := by
  rw [hn.replies_eq, replyAt_drop]

end Advanced

theorem runOn_startGit (call : Call) (h : Host) :
    ∃ h', (Host.startGit call).runOn h = (.ok (replyAt h.gitReplies 0), h') ∧ Advanced 1 h h' ∧
      h'.calls = h.calls ++ [call] := by
  cases h with
  | mk tree now environment programs replies =>
    cases replies with
    | nil => exact ⟨_, rfl, ⟨rfl, rfl⟩, rfl⟩
    | cons r rs => exact ⟨_, rfl, ⟨rfl, rfl⟩, rfl⟩

end ScenarioAudit
