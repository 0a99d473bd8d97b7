import Mathlib.Data.List.Infix
import ScenarioAudit.Verdict.Basic

/-! # Gates only tighten a verdict

The channels and the gates find issues, some of which block and some of which only warn. A verdict that gates were laid
over, call after call, is `Explained` by the list of all issues found, in the order in which they were found: its status
is the one they call for, and its reason is the first one that blocks, or the first one if none does. So laying more
gates over a verdict only appends to that list, and it never becomes milder (`gates_tighten`).
-/

namespace ScenarioAudit

/-! ## Issues -/

/-- Something that was found wrong. It blocks, or it only warns. -/
structure Issue where
  message : String
  blocks : Bool
  deriving DecidableEq, Repr

namespace Issue

def statusOf (found : List Issue) : GateStatus :=
  if found.any Issue.blocks then .blocked
  else if found.isEmpty then .pass
  else .warn

/-- The first issue that blocks, or the first one if none blocks. -/
def foremost? (found : List Issue) : Option Issue :=
  (found.find? Issue.blocks).or found.head?

/-- The message of the foremost issue; empty if there is none. -/
def reasonOf (found : List Issue) : String :=
  (foremost? found).elim "" Issue.message

variable {found : List Issue}

theorem statusOf_eq_blocked_iff : statusOf found = .blocked ↔ ∃ i ∈ found, i.blocks = true := by
  rw [← List.any_eq_true, statusOf]
  cases found.any Issue.blocks with
  | true => simp
  | false => cases found.isEmpty <;> simp

theorem statusOf_eq_pass_iff : statusOf found = .pass ↔ found = [] := by
  cases found with
  | nil => simp [statusOf]
  | cons i found =>
    rw [statusOf]
    split
    · simp
    · simp

theorem statusOf_ne_degraded (found : List Issue) : statusOf found ≠ .degraded := by
  rw [statusOf]
  split
  · nofun
  · split
    · nofun
    · nofun

theorem foremost_of_blocked (h : statusOf found = .blocked) : foremost? found = found.find? Issue.blocks := by
  have hsome : (found.find? Issue.blocks).isSome = true := List.find?_isSome.mpr (statusOf_eq_blocked_iff.mp h)
  rw [foremost?, Option.or_of_isSome hsome]

theorem foremost_mem {i : Issue} (h : foremost? found = some i) : i ∈ found := by
  rw [foremost?, Option.or_eq_some_iff] at h
  rcases h with hblocks | ⟨-, hfirst⟩
  · exact List.mem_of_find?_eq_some hblocks
  · exact List.mem_of_head? hfirst

theorem exists_foremost (h : found ≠ []) : ∃ i, foremost? found = some i := by
  cases found with
  | nil => exact absurd rfl h
  | cons i found =>
    rw [foremost?]
    cases List.find? Issue.blocks (i :: found) with
    | none => exact ⟨i, rfl⟩
    | some j => exact ⟨j, rfl⟩

theorem foremost_append_of_blocked (h : statusOf found = .blocked) (more : List Issue) :
    foremost? (found ++ more) = foremost? found := by
  obtain ⟨i, hi⟩ := Option.isSome_iff_exists.mp (List.find?_isSome.mpr (statusOf_eq_blocked_iff.mp h))
  rw [foremost?, foremost?, List.find?_append, hi]
  rfl

theorem foremost_append_blocking (h : statusOf found ≠ .blocked) (message : String) :
    foremost? (found ++ [⟨message, true⟩]) = some ⟨message, true⟩ := by
  have hnone : found.find? Issue.blocks = none := by
    rw [← Option.not_isSome_iff_eq_none, List.find?_isSome]
    exact fun hblocks => h (statusOf_eq_blocked_iff.mpr hblocks)
  rw [foremost?, List.find?_append, hnone]
  rfl

theorem foremost_append_warning (h : found ≠ []) (message : String) :
    foremost? (found ++ [⟨message, false⟩]) = foremost? found := by
  rw [foremost?, foremost?, List.find?_append, List.head?_append_of_ne_nil found h]
  cases List.find? Issue.blocks found with
  | none => rfl
  | some i => rfl

end Issue

/-- How severe the status of a verdict is. Only gates are degraded; that is a warning about the verdict. -/
def GateStatus.severity : GateStatus → ℕ
  | .pass => 0
  | .warn | .degraded => 1
  | .blocked => 2

theorem Issue.severity_statusOf_append (found more : List Issue) :
    (statusOf found).severity ≤ (statusOf (found ++ more)).severity := by
  cases hstatus : statusOf found with
  | pass => exact Nat.zero_le _
  | degraded => exact absurd hstatus (statusOf_ne_degraded found)
  | blocked =>
    obtain ⟨i, hi, hblocks⟩ := statusOf_eq_blocked_iff.mp hstatus
    rw [statusOf_eq_blocked_iff.mpr ⟨i, List.mem_append_left more hi, hblocks⟩]
  | warn =>
    have hsome : statusOf (found ++ more) ≠ .pass := by
      rw [Ne, statusOf_eq_pass_iff, List.append_eq_nil_iff]
      rintro ⟨rfl, -⟩
      cases hstatus
    cases hmore : statusOf (found ++ more) with
    | pass => exact absurd hmore hsome
    | degraded => exact le_rfl
    | blocked => exact Nat.le_succ 1
    | warn => exact le_rfl

/-! ## What is found -/

def channelIssues (integrity anchor : CheckStatus) (drift : DriftStatus) (policy : Policy) : List Issue :=
  match judge integrity anchor drift policy with
  | (.pass, _) => []
  | (status, reason) => [⟨reason, status = .blocked⟩]

def CoverageGate.issues (gate : CoverageGate) : List Issue :=
  match gate.status with
  | .blocked =>
    [⟨"Step coverage incomplete: " ++ toString gate.undefinedSteps ++ " undefined, " ++ toString gate.pendingSteps
      ++ " pending", true⟩]
  | .degraded => [⟨"Step coverage unverifiable: " ++ gate.message, false⟩]
  | .pass | .warn => []

def QualityGate.issues (gate : QualityGate) : List Issue :=
  match gate.status with
  | .blocked =>
    [⟨"Step quality failures: " ++ toString gate.failed ++ " of " ++ toString gate.total ++ " steps", true⟩]
  | .pass | .warn | .degraded => []

/-- The gates of one call; each of them may be left out. -/
structure Gating where
  coverage : Option CoverageGate
  quality : Option QualityGate

namespace Gating

def issues (call : Gating) : List Issue :=
  call.coverage.elim [] CoverageGate.issues ++ call.quality.elim [] QualityGate.issues

def Blocks (call : Gating) : Prop :=
  (∃ gate, call.coverage = some gate ∧ gate.status = .blocked) ∨
    ∃ gate, call.quality = some gate ∧ gate.status = .blocked

end Gating

/-- Lays gates over a verdict, call after call. -/
def Verdict.applyCalls (v : Verdict) (calls : List Gating) : Verdict :=
  calls.foldl (fun v call => v.applyGates call.coverage call.quality) v

theorem CoverageGate.exists_blocking_iff {gate : CoverageGate} :
    (∃ i ∈ gate.issues, i.blocks = true) ↔ gate.status = .blocked := by
  unfold issues
  cases gate.status <;> simp

theorem QualityGate.exists_blocking_iff {gate : QualityGate} :
    (∃ i ∈ gate.issues, i.blocks = true) ↔ gate.status = .blocked := by
  unfold issues
  cases gate.status <;> simp

theorem Gating.exists_blocking_iff {call : Gating} : (∃ i ∈ call.issues, i.blocks = true) ↔ call.Blocks := by
  rcases call with ⟨coverage, quality⟩
  simp only [issues, Blocks, List.mem_append, or_and_right, exists_or]
  refine or_congr ?_ ?_
  · cases coverage with
    | none => simp
    | some gate => simpa using CoverageGate.exists_blocking_iff
  · cases quality with
    | none => simp
    | some gate => simpa using QualityGate.exists_blocking_iff

theorem message_ne_empty_of_channels {integrity anchor : CheckStatus} {drift : DriftStatus} {policy : Policy}
    {i : Issue} (h : i ∈ channelIssues integrity anchor drift policy) : i.message ≠ "" := by
  unfold channelIssues judge at h
  split_ifs at h <;> simp_all [reasonModified, reasonDrift, reasonMandatory, reasonOptional]

theorem Gating.message_ne_empty {call : Gating} {i : Issue} (h : i ∈ call.issues) : i.message ≠ "" := by
  rcases call with ⟨coverage, quality⟩
  rcases List.mem_append.mp h with hcoverage | hquality
  · cases coverage with
    | none => cases hcoverage
    | some gate =>
      rw [Option.elim_some, CoverageGate.issues] at hcoverage
      cases hstatus : gate.status <;> simp_all
  · cases quality with
    | none => cases hquality
    | some gate =>
      rw [Option.elim_some, QualityGate.issues] at hquality
      cases hstatus : gate.status <;> simp_all

/-! ## Verdicts and what was found -/

/-- A verdict is told by the issues found so far. -/
structure Verdict.Explained (found : List Issue) (v : Verdict) : Prop where
  status : v.status = Issue.statusOf found
  reason : v.reason = Issue.reasonOf found
  issues : v.issues = found.map Issue.message

/-- Two verdicts are about the same channels. -/
structure Verdict.SameChannels (v w : Verdict) : Prop where
  policy : w.policy = v.policy
  integrity : w.checks.integrity = v.checks.integrity
  anchor : w.checks.anchor = v.checks.anchor
  drift : w.checks.drift = v.checks.drift

namespace Verdict

open Issue

variable {found : List Issue} {v w u : Verdict}

theorem SameChannels.refl (v : Verdict) : v.SameChannels v :=
  ⟨rfl, rfl, rfl, rfl⟩

theorem SameChannels.trans (h : v.SameChannels w) (h' : w.SameChannels u) : v.SameChannels u where
  policy := h'.policy.trans h.policy
  integrity := h'.integrity.trans h.integrity
  anchor := h'.anchor.trans h.anchor
  drift := h'.drift.trans h.drift

theorem sameChannels_block (message : String) (v : Verdict) : v.SameChannels (v.block message) := by
  unfold block
  split
  · exact ⟨rfl, rfl, rfl, rfl⟩
  · exact ⟨rfl, rfl, rfl, rfl⟩

theorem sameChannels_degrade (message : String) (v : Verdict) : v.SameChannels (v.degrade message) := by
  unfold degrade
  split
  · exact ⟨rfl, rfl, rfl, rfl⟩
  · exact ⟨rfl, rfl, rfl, rfl⟩

theorem explained_aggregate (integrity anchor : CheckStatus) (drift : DriftStatus) (policy : Policy) :
    (aggregate integrity anchor drift policy).Explained (channelIssues integrity anchor drift policy) := by
  unfold aggregate channelIssues judge
  split_ifs
  all_goals exact ⟨rfl, rfl, rfl⟩

theorem Explained.withChecks (h : v.Explained found) (checks : VerdictChecks) :
    { v with checks := checks }.Explained found :=
  ⟨h.status, h.reason, h.issues⟩

theorem Explained.block (h : v.Explained found) (message : String) :
    (v.block message).Explained (found ++ [⟨message, true⟩]) := by
  have hstatus : statusOf (found ++ [⟨message, true⟩]) = .blocked := by simp [statusOf]
  unfold Verdict.block
  split
  next hblocked =>
    have hbefore : statusOf found = .blocked := h.status ▸ hblocked
    refine ⟨hblocked.trans hstatus.symm, ?_, ?_⟩
    · rw [reasonOf, foremost_append_of_blocked hbefore]
      exact h.reason
    · simp [h.issues]
  next hblocked =>
    have hbefore : statusOf found ≠ .blocked := h.status ▸ hblocked
    refine ⟨hstatus.symm, ?_, ?_⟩
    · rw [reasonOf, foremost_append_blocking hbefore]
      rfl
    · simp [h.issues]

theorem Explained.degrade (h : v.Explained found) (message : String) :
    (v.degrade message).Explained (found ++ [⟨message, false⟩]) := by
  unfold Verdict.degrade
  split
  next hpass =>
    obtain rfl : found = [] := statusOf_eq_pass_iff.mp (h.status ▸ hpass)
    exact ⟨rfl, rfl, by simp [h.issues]⟩
  next hpass =>
    have hfound : found ≠ [] := fun hnil => hpass (h.status.trans (statusOf_eq_pass_iff.mpr hnil))
    refine ⟨?_, ?_, ?_⟩
    · rw [h.status]
      simp [statusOf, hfound]
    · rw [reasonOf, foremost_append_warning hfound]
      exact h.reason
    · simp [h.issues]

theorem Explained.applyCoverage (h : v.Explained found) (gate : CoverageGate) :
    (v.applyCoverage gate).Explained (found ++ gate.issues) := by
  unfold Verdict.applyCoverage CoverageGate.issues
  cases gate.status with
  | blocked => exact (h.withChecks _).block _
  | degraded => exact (h.withChecks _).degrade _
  | pass | warn =>
    rw [List.append_nil]
    exact h.withChecks _

theorem Explained.applyQuality (h : v.Explained found) (gate : QualityGate) :
    (v.applyQuality gate).Explained (found ++ gate.issues) := by
  unfold Verdict.applyQuality QualityGate.issues
  cases gate.status with
  | blocked => exact (h.withChecks _).block _
  | pass | warn | degraded =>
    rw [List.append_nil]
    exact h.withChecks _

theorem Explained.applyGates (h : v.Explained found) (call : Gating) :
    (v.applyGates call.coverage call.quality).Explained (found ++ call.issues) := by
  rcases call with ⟨coverage, quality⟩
  unfold Verdict.applyGates Gating.issues
  rw [← List.append_assoc]
  have hcoverage : (coverage.elim v v.applyCoverage).Explained (found ++ coverage.elim [] CoverageGate.issues) := by
    cases coverage with
    | none => simpa using h
    | some gate => exact h.applyCoverage gate
  cases quality with
  | none => cases coverage <;> simpa using hcoverage
  | some gate => cases coverage <;> exact hcoverage.applyQuality gate

/-- **A verdict is explained by all that was found,** in the order in which it was found. -/
theorem Explained.applyCalls (h : v.Explained found) (calls : List Gating) :
    (v.applyCalls calls).Explained (found ++ calls.flatMap Gating.issues) := by
  induction calls generalizing v found with
  | nil => simpa [Verdict.applyCalls] using h
  | cons call calls ih =>
    rw [List.flatMap_cons, ← List.append_assoc]
    exact ih (h.applyGates call)

theorem sameChannels_applyCoverage (gate : CoverageGate) (v : Verdict) : v.SameChannels (v.applyCoverage gate) := by
  have hchecks (status : GateStatus) :
      v.SameChannels { v with checks := { v.checks with coverage := some status } } := ⟨rfl, rfl, rfl, rfl⟩
  unfold applyCoverage
  cases gate.status with
  | blocked => exact (hchecks _).trans (sameChannels_block _ _)
  | degraded => exact (hchecks _).trans (sameChannels_degrade _ _)
  | pass | warn => exact hchecks _

theorem sameChannels_applyQuality (gate : QualityGate) (v : Verdict) : v.SameChannels (v.applyQuality gate) := by
  have hchecks (status : GateStatus) :
      v.SameChannels { v with checks := { v.checks with quality := some status } } := ⟨rfl, rfl, rfl, rfl⟩
  unfold applyQuality
  cases gate.status with
  | blocked => exact (hchecks _).trans (sameChannels_block _ _)
  | pass | warn | degraded => exact hchecks _

theorem sameChannels_applyGates (coverage : Option CoverageGate) (quality : Option QualityGate) (v : Verdict) :
    v.SameChannels (v.applyGates coverage quality) := by
  unfold applyGates
  cases coverage with
  | none =>
    cases quality with
    | none => exact .refl v
    | some gate => exact sameChannels_applyQuality gate v
  | some gate =>
    cases quality with
    | none => exact sameChannels_applyCoverage gate v
    | some gate' => exact (sameChannels_applyCoverage gate v).trans (sameChannels_applyQuality gate' _)

theorem sameChannels_applyCalls (calls : List Gating) (v : Verdict) : v.SameChannels (v.applyCalls calls) := by
  induction calls generalizing v with
  | nil => exact .refl v
  | cons call calls ih => exact (sameChannels_applyGates call.coverage call.quality v).trans (ih _)

/-- Both gates in one call are the coverage gate first and the quality gate in a second call. -/
theorem applyGates_split (coverage : Option CoverageGate) (quality : Option QualityGate) (v : Verdict) :
    v.applyGates coverage quality = (v.applyGates coverage none).applyGates none quality := by
  cases coverage with
  | none => rfl
  | some gate => rfl

/-! ## What explains a verdict -/

theorem Explained.status_eq_pass_iff (h : v.Explained found) : v.status = .pass ↔ v.issues = [] := by
  rw [h.status, h.issues, statusOf_eq_pass_iff, List.map_eq_nil_iff]

theorem Explained.reason_mem (h : v.Explained found) (hfound : found ≠ []) : v.reason ∈ v.issues := by
  obtain ⟨i, hi⟩ := exists_foremost hfound
  rw [h.reason, h.issues, reasonOf, hi]
  exact List.mem_map_of_mem (foremost_mem hi)

theorem Explained.reason_eq_empty_iff (h : v.Explained found) (hmessages : ∀ i ∈ found, i.message ≠ "") :
    v.reason = "" ↔ v.status = .pass := by
  rw [h.status, statusOf_eq_pass_iff]
  constructor
  · intro hempty
    by_contra hfound
    have hmem := h.reason_mem hfound
    rw [hempty, h.issues] at hmem
    obtain ⟨i, hi, hmessage⟩ := List.mem_map.mp hmem
    exact hmessages i hi hmessage
  · rintro rfl
    rw [h.reason]
    rfl

theorem Explained.exists_blocking (h : v.Explained found) (hblocked : v.status = .blocked) :
    ∃ i, found.find? Issue.blocks = some i ∧ v.reason = i.message := by
  have hfound : statusOf found = .blocked := h.status ▸ hblocked
  obtain ⟨i, hi⟩ := Option.isSome_iff_exists.mp (List.find?_isSome.mpr (statusOf_eq_blocked_iff.mp hfound))
  refine ⟨i, hi, ?_⟩
  rw [h.reason, reasonOf, foremost_of_blocked hfound, hi]
  rfl

end Verdict

/-- **Gates only tighten a verdict.** Let gates be laid over the verdict of the channels, call after call, and then more
of them. The verdict never becomes milder; it is blocked exactly if the channels or some gate block. Issues are only
appended. It passes exactly if there are no issues, and exactly if it has no reason, which is one of the issues
otherwise. The reason of a blocked verdict is the first issue that blocks and stays. The policy and the three channels
stay, and it makes no difference whether both gates are laid in one call or in two. -/
theorem gates_tighten (integrity anchor : CheckStatus) (drift : DriftStatus) (policy : Policy)
    (earlier later : List Gating) :
    let base := aggregate integrity anchor drift policy
    let before := base.applyCalls earlier
    let after := base.applyCalls (earlier ++ later)
    let found := channelIssues integrity anchor drift policy ++ (earlier ++ later).flatMap Gating.issues
    (before.status.severity ≤ after.status.severity ∧ after.status ≠ .degraded) ∧
    (after.status = .blocked ↔ base.status = .blocked ∨ ∃ call ∈ earlier ++ later, call.Blocks) ∧
    before.issues <+: after.issues ∧
    ((after.status = .pass ↔ after.issues = []) ∧ (after.status = .pass ↔ after.reason = "") ∧
      (after.status ≠ .pass → after.reason ∈ after.issues)) ∧
    ((before.status = .blocked → after.reason = before.reason) ∧ after.issues = found.map Issue.message ∧
      (after.status = .blocked → ∃ i, found.find? Issue.blocks = some i ∧ after.reason = i.message)) ∧
    base.SameChannels after ∧
    ∀ coverage quality,
      after.applyGates coverage quality = (after.applyGates coverage none).applyGates none quality := by
  intro base before after found
  have hbase : base.Explained (channelIssues integrity anchor drift policy) :=
    Verdict.explained_aggregate integrity anchor drift policy
  have hbefore := hbase.applyCalls earlier
  have hafter : after.Explained found := hbase.applyCalls (earlier ++ later)
  have happend : found = channelIssues integrity anchor drift policy ++ earlier.flatMap Gating.issues ++
      later.flatMap Gating.issues := by
    simp only [found, List.flatMap_append, List.append_assoc]
  have hmessages : ∀ i ∈ found, i.message ≠ "" := by
    intro i hi
    rcases List.mem_append.mp hi with hchannels | hcalls
    · exact message_ne_empty_of_channels hchannels
    · obtain ⟨call, -, hcall⟩ := List.mem_flatMap.mp hcalls
      exact Gating.message_ne_empty hcall
  refine ⟨⟨?_, ?_⟩, ?_, ?_, ⟨hafter.status_eq_pass_iff, (hafter.reason_eq_empty_iff hmessages).symm, ?_⟩,
    ⟨?_, hafter.issues, hafter.exists_blocking⟩, Verdict.sameChannels_applyCalls _ base,
    fun coverage quality => Verdict.applyGates_split coverage quality after⟩
  · rw [hbefore.status, hafter.status, happend]
    exact Issue.severity_statusOf_append _ _
  · rw [hafter.status]
    exact Issue.statusOf_ne_degraded found
  · rw [hafter.status, hbase.status, Issue.statusOf_eq_blocked_iff, Issue.statusOf_eq_blocked_iff]
    simp only [found, List.mem_append, List.mem_flatMap, or_and_right, exists_or, ← Gating.exists_blocking_iff]
    grind
  · rw [hbefore.issues, hafter.issues, happend]
    exact (List.prefix_append _ _).map _
  · intro hpass
    refine hafter.reason_mem fun hnil => hpass ?_
    rw [hafter.status, hnil]
    rfl
  · intro hblocked
    rw [hafter.reason, hbefore.reason, happend, Issue.reasonOf,
      Issue.foremost_append_of_blocked (hbefore.status ▸ hblocked), Issue.reasonOf]

/-- A degraded coverage gate warns about a verdict that passes; a quality gate that blocks then gives the reason. -/
example :
    ((aggregate .valid .valid .clean .mandatory).applyCalls
      [⟨some { status := .degraded, message := "no tool" }, none⟩,
        ⟨none, some { status := .blocked, failed := 1, total := 2 }⟩]).reason =
        "Step quality failures: 1 of 2 steps" := by
  decide

end ScenarioAudit
