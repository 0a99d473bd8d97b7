import Mathlib.Tactic.Common

/-! # Results and failures

A computation that may fail, taken apart: at a bind, at a map, over a list, and as an option. `Gives` says that there is
a result, `FailsOnly` what kind of failure there can be without one.
-/

namespace ScenarioAudit

variable {ε α β γ : Type}

/-! ## Steps that succeed -/

/-- A step before another one that succeeds has succeeded itself. -/
theorem bind_eq_ok {x : Except ε α} {f : α → Except ε β} {b : β} (h : (x >>= f) = .ok b) :
    ∃ a, x = .ok a ∧ f a = .ok b := by
  cases x with
  | error e => cases h
  | ok a => exact ⟨a, rfl, h⟩

theorem exists_bind_eq_ok {x : Except ε α} {f : α → Except ε β} {p : β → Prop} :
    (∃ b, (x >>= f) = .ok b ∧ p b) ↔ ∃ a, x = .ok a ∧ ∃ b, f a = .ok b ∧ p b := by
  cases x with
  | error e => exact iff_of_false nofun nofun
  | ok a => simp [bind, Except.bind]

theorem map_eq_ok {x : Except ε α} {f : α → β} {b : β} (h : x.map f = .ok b) : ∃ a, x = .ok a ∧ f a = b := by
  cases x with
  | error e => cases h
  | ok a => exact ⟨a, rfl, Except.ok.inj h⟩

/-! ## Results as options -/

theorem exists_of_toOption {x : Except ε α} (h : x.toOption.isSome = true) : ∃ a, x = .ok a := by
  cases x with
  | error e => cases h
  | ok a => exact ⟨a, rfl⟩

theorem exists_of_toOption_map {x : Except ε α} {f : α → β} {b : β} (h : x.toOption.map f = some b) :
    ∃ a, x = .ok a ∧ f a = b := by
  cases x with
  | error e => cases h
  | ok a => exact ⟨a, rfl, Option.some.inj h⟩

theorem exists_of_toOption_none {x : Except ε α} (h : x.toOption.isSome = false) : ∃ e, x = .error e := by
  cases x with
  | error e => exact ⟨e, rfl⟩
  | ok a => cases h

/-! ## Lists -/

theorem exists_of_mapM {f : α → Except ε β} {xs : List α} {ys : List β} (h : xs.mapM f = .ok ys) :
    ∀ x ∈ xs, ∃ y, f x = .ok y := by
  induction xs generalizing ys with
  | nil => exact fun x hx => nomatch hx
  | cons x xs ih =>
    rw [List.mapM_cons] at h
    obtain ⟨y, hy, h⟩ := bind_eq_ok h
    obtain ⟨zs, hzs, -⟩ := bind_eq_ok h
    intro x' hx'
    rcases List.mem_cons.mp hx' with rfl | hx'
    · exact ⟨y, hy⟩
    · exact ih hzs x' hx'

theorem exists_mapM {f : α → Except ε β} {xs : List α} (h : ∀ x ∈ xs, ∃ y, f x = .ok y) :
    ∃ ys, xs.mapM f = .ok ys := by
  induction xs with
  | nil => exact ⟨[], rfl⟩
  | cons x xs ih =>
    obtain ⟨y, hy⟩ := h x List.mem_cons_self
    obtain ⟨ys, hys⟩ := ih fun x' hx' => h x' (List.mem_cons_of_mem x hx')
    refine ⟨y :: ys, ?_⟩
    rw [List.mapM_cons, hy, hys]
    rfl

theorem mapM_congr {f g : α → Except ε β} {xs : List α} (h : ∀ x ∈ xs, f x = g x) : xs.mapM f = xs.mapM g := by
  induction xs with
  | nil => rfl
  | cons x xs ih =>
    rw [List.mapM_cons, List.mapM_cons, h x List.mem_cons_self, ih fun y hy => h y (List.mem_cons_of_mem _ hy)]

theorem mapM_map_eq_ok {f : α → Except ε β} {g : β → γ} {xs : List α} {zs : List γ}
    (h : xs.mapM (fun x => (f x).map g) = .ok zs) : ∃ ys, xs.mapM f = .ok ys ∧ zs = ys.map g := by
  induction xs generalizing zs with
  | nil =>
    cases h
    exact ⟨[], rfl, rfl⟩
  | cons x xs ih =>
    rw [List.mapM_cons] at h
    obtain ⟨z, hz, h⟩ := bind_eq_ok h
    obtain ⟨zs', hzs, h⟩ := bind_eq_ok h
    cases h
    obtain ⟨y, hy, rfl⟩ := map_eq_ok hz
    obtain ⟨ys, hys, rfl⟩ := ih hzs
    refine ⟨y :: ys, ?_, rfl⟩
    rw [List.mapM_cons, hy, hys]
    rfl

theorem forM_eq_ok {f : α → Except ε PUnit} {as : List α} (h : ∀ a ∈ as, f a = .ok ⟨⟩) : as.forM f = .ok ⟨⟩ := by
  induction as with
  | nil => rfl
  | cons a as ih =>
    obtain ⟨ha, has⟩ := List.forall_mem_cons.mp h
    rw [List.forM, ha]
    exact ih has

/-! ## Whether there is a result -/

def Gives (x : Except ε α) : Prop :=
  ∃ a, x = .ok a

theorem gives_ok (a : α) : Gives (.ok a : Except ε α) :=
  ⟨a, rfl⟩

theorem not_gives_error (e : ε) : ¬ Gives (.error e : Except ε α) :=
  nofun

theorem gives_bind {x : Except ε α} {f : α → Except ε β} : Gives (x >>= f) ↔ ∃ a, x = .ok a ∧ Gives (f a) := by
  cases x with
  | error e => exact iff_of_false nofun nofun
  | ok a => simp [Gives, bind, Except.bind]

theorem gives_pure (a : α) : Gives (pure a : Except ε α) ↔ True :=
  iff_true_intro ⟨a, rfl⟩

/-- Steps that do not depend on each other give results one by one. -/
theorem gives_bind_const {x : Except ε α} {f : α → Except ε β} {p : Prop} (hf : ∀ a, Gives (f a) ↔ p) :
    Gives (x >>= f) ↔ Gives x ∧ p := by
  simp only [gives_bind, hf, exists_and_right]
  rfl

theorem gives_map {x : Except ε α} {f : α → β} : Gives (x.map f) ↔ Gives x := by
  cases x with
  | error e => exact iff_of_false nofun nofun
  | ok a => exact iff_of_true (gives_ok _) (gives_ok _)

/-! ## The kind of a failure -/

def FailsOnly (kind : ε → Prop) (x : Except ε α) : Prop :=
  ∀ e, x = .error e → kind e

section FailsOnly

variable {kind : ε → Prop}

theorem failsOnly_ok (a : α) : FailsOnly kind (.ok a : Except ε α) :=
  nofun

theorem failsOnly_error {e : ε} (h : kind e) : FailsOnly kind (.error e : Except ε α) := by
  rintro _ ⟨⟩
  exact h

theorem FailsOnly.bind {x : Except ε α} {f : α → Except ε β} (hx : FailsOnly kind x)
    (hf : ∀ a, FailsOnly kind (f a)) : FailsOnly kind (x >>= f) := by
  cases x with
  | error e => exact failsOnly_error (hx e rfl)
  | ok a => exact hf a

theorem FailsOnly.map {x : Except ε α} (hx : FailsOnly kind x) (f : α → β) : FailsOnly kind (x.map f) := by
  cases x with
  | error e => exact failsOnly_error (hx e rfl)
  | ok a => exact failsOnly_ok _

theorem failsOnly_mapM {f : α → Except ε β} (hf : ∀ a, FailsOnly kind (f a)) (as : List α) :
    FailsOnly kind (as.mapM f) := by
  induction as with
  | nil => exact failsOnly_ok _
  | cons a as ih =>
    rw [List.mapM_cons]
    exact (hf a).bind fun b => ih.bind fun bs => failsOnly_ok _

theorem failsOnly_forM {f : α → Except ε PUnit} (hf : ∀ a, FailsOnly kind (f a)) (as : List α) :
    FailsOnly kind (as.forM f) := by
  induction as with
  | nil => exact failsOnly_ok _
  | cons a as ih => exact (hf a).bind fun _ => ih

end FailsOnly

end ScenarioAudit
