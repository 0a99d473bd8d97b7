import Mathlib.Data.List.Nodup
import ScenarioAudit.Framework.Registry

/-! # Calls of a registry

A registry only grows: each registration that succeeds adds one profile behind the others (`register_eq_ok`), and no
other call changes it. So a profile that was registered stays there, and names stay different (`nodup_names_run`). It is
found under its own name exactly if no blanks stand around that name (`registered_found_iff`): a profile is registered
under its name as it is, but a name that is looked up is stripped first.
-/

namespace ScenarioAudit

open ScenarioAudit.Text

namespace Registry

variable {r r' : Registry} {p q : FrameworkProfile} {name : String}

/-! ## Calls -/

inductive Call where
  | register (p : FrameworkProfile)
  /-- Asks for the profile of a name, which may be missing. -/
  | seek (name : String)
  /-- Asks for the profile of a name that has to be there. -/
  | demand (name : String)
  | contains (name : String)

inductive Answer where
  | registered
  | sought (found : Option FrameworkProfile)
  | given (p : FrameworkProfile)
  | contained (yes : Bool)
  | failed (e : Trouble)

def Answer.isRegistered : Answer → Bool
  | .registered => true
  | _ => false

def call (r : Registry) : Call → Answer × Registry
  | .register p =>
    match r.register p with
    | .ok r' => (.registered, r')
    | .error e => (.failed e, r)
  | .seek name => (.sought (r.get? name), r)
  | .demand name =>
    match r.get name with
    | .ok p => (.given p, r)
    | .error e => (.failed e, r)
  | .contains name => (.contained (r.contains name), r)

/-- The answers to calls, one after the other, and the registry after them. -/
def run (r : Registry) : List Call → List Answer × Registry
  | [] => ([], r)
  | c :: cs => ((r.call c).1 :: ((r.call c).2.run cs).1, ((r.call c).2.run cs).2)

theorem run_append (r : Registry) (cs ds : List Call) :
    r.run (cs ++ ds) = ((r.run cs).1 ++ ((r.run cs).2.run ds).1, ((r.run cs).2.run ds).2) := by
  induction cs generalizing r with
  | nil => rfl
  | cons c cs ih =>
    rw [List.cons_append, run, ih]
    rfl

/-! ## Names -/

/-- A name without the blanks around it. -/
def trim (name : String) : String :=
  String.ofList (strip name.toList)

theorem named?_eq_none : r.named? name = none ↔ ∀ q ∈ r.profiles, q.name ≠ name := by
  simp [named?]

theorem mem_of_named? (h : r.named? name = some p) : p ∈ r.profiles ∧ p.name = name :=
  ⟨List.mem_of_find?_eq_some h, by simpa using List.find?_some h⟩

/-- Among different names, a profile is found under its name. -/
theorem named?_eq_some_iff (hnames : (r.profiles.map (·.name)).Nodup) :
    r.named? name = some p ↔ p ∈ r.profiles ∧ p.name = name := by
  refine ⟨mem_of_named?, ?_⟩
  rintro ⟨hmem, rfl⟩
  cases hfound : r.named? p.name with
  | none => exact absurd rfl (named?_eq_none.mp hfound p hmem)
  | some q =>
    obtain ⟨hq, hname⟩ := mem_of_named? hfound
    rw [List.inj_on_of_nodup_map hnames hq hmem hname]

/-- **A registration succeeds exactly if the name is new,** and then adds the profile behind the others. -/
theorem register_eq_ok :
    r.register p = .ok r' ↔ (∀ q ∈ r.profiles, q.name ≠ p.name) ∧ r' = ⟨r.profiles ++ [p]⟩ := by
  rw [← named?_eq_none, register]
  cases r.named? p.name with
  | none => simp [eq_comm]
  | some q => simp

/-! ## What calls keep -/

theorem call_cases (r : Registry) (c : Call) :
    (∃ p, c = .register p ∧ (r.call c).1 = .registered ∧ r.register p = .ok (r.call c).2) ∨
      (r.call c).1.isRegistered = false ∧ (r.call c).2 = r := by
  cases c with
  | register p =>
    rw [call]
    cases hregister : r.register p with
    | ok r' => exact Or.inl ⟨p, rfl, rfl, hregister⟩
    | error e => exact Or.inr ⟨rfl, rfl⟩
  | seek name => exact Or.inr ⟨rfl, rfl⟩
  | demand name =>
    rw [call]
    cases r.get name with
    | ok p => exact Or.inr ⟨rfl, rfl⟩
    | error e => exact Or.inr ⟨rfl, rfl⟩
  | contains name => exact Or.inr ⟨rfl, rfl⟩

theorem isPrefix_call (r : Registry) (c : Call) : r.profiles <+: (r.call c).2.profiles := by
  obtain ⟨p, -, -, hregister⟩ | ⟨-, hsame⟩ := call_cases r c
  · rw [(register_eq_ok.mp hregister).2]
    exact List.prefix_append _ _
  · exact hsame.symm ▸ List.prefix_rfl

/-- **What was registered stays registered.** -/
theorem isPrefix_run (r : Registry) (cs : List Call) : r.profiles <+: (r.run cs).2.profiles := by
  induction cs generalizing r with
  | nil => exact List.prefix_rfl
  | cons c cs ih => exact (isPrefix_call r c).trans (ih (r.call c).2)

theorem nodup_names_call (h : (r.profiles.map (·.name)).Nodup) (c : Call) :
    ((r.call c).2.profiles.map (·.name)).Nodup := by
  obtain ⟨p, -, -, hregister⟩ | ⟨-, hsame⟩ := call_cases r c
  · obtain ⟨hnew, hprofiles⟩ := register_eq_ok.mp hregister
    rw [hprofiles, List.map_append, List.map_singleton, List.nodup_append]
    refine ⟨h, List.nodup_singleton _, ?_⟩
    intro n hn m hm
    obtain ⟨q, hq, rfl⟩ := List.mem_map.mp hn
    rw [List.mem_singleton.mp hm]
    exact hnew q hq
  · rwa [hsame]

/-- **No two profiles ever have one name.** -/
theorem nodup_names_run (h : (r.profiles.map (·.name)).Nodup) (cs : List Call) :
    ((r.run cs).2.profiles.map (·.name)).Nodup := by
  induction cs generalizing r with
  | nil => exact h
  | cons c cs ih => exact ih (nodup_names_call h c)

/-- **There are as many profiles as registrations that succeeded.** -/
theorem length_run (r : Registry) (cs : List Call) :
    (r.run cs).2.profiles.length = r.profiles.length + ((r.run cs).1.filter Answer.isRegistered).length := by
  induction cs generalizing r with
  | nil => rfl
  | cons c cs ih =>
    rw [run, ih]
    obtain ⟨p, -, hanswer, hregister⟩ | ⟨hanswer, hsame⟩ := call_cases r c
    · rw [hanswer, List.filter_cons_of_pos rfl, (register_eq_ok.mp hregister).2, List.length_append,
        List.length_singleton, List.length_cons, Nat.add_assoc, Nat.add_comm 1]
    · rw [List.filter_cons_of_neg (by simp [hanswer]), hsame]

/-! ## A registered profile under its name -/

/-- A profile that is there is found under its name exactly if no blanks stand around the name. -/
theorem get?_name_iff (hnames : (r.profiles.map (·.name)).Nodup) (hp : p ∈ r.profiles) :
    r.get? p.name = some p ↔ trim p.name = p.name := by
  show r.named? (trim p.name) = some p ↔ _
  rw [named?_eq_some_iff hnames]
  exact ⟨fun h => h.2.symm, fun h => ⟨hp, h.symm⟩⟩

theorem get_eq_ok_iff : r.get name = .ok p ↔ r.get? name = some p := by
  rw [get]
  cases r.get? name with
  | none => simp
  | some q => simp

theorem contains_iff : r.contains name = true ↔ ∃ q ∈ r.profiles, q.name = trim name := by
  rw [contains, ← not_iff_not, Bool.not_eq_true, Option.isSome_eq_false_iff, Option.isNone_iff_eq_none]
  show r.named? (trim name) = none ↔ _
  rw [named?_eq_none]
  simp

/-- **A registered profile is found under its own name, whatever is called afterwards, exactly if no blanks stand
around the name.** With blanks around it, its name is in the registry only if another profile has the stripped one. A
registration fails exactly if the name is taken as it is, and then the later calls are answered as without it. There are
as many profiles as registrations that succeeded. -/
theorem registered_found_iff (earlier later : List Call) (p : FrameworkProfile) :
    let before := (empty.run earlier).2
    let after := (empty.run (earlier ++ .register p :: later)).2
    ((∃ r, before.register p = .ok r) →
      (after.get? p.name = some p ↔ trim p.name = p.name) ∧
      (after.get p.name = .ok p ↔ trim p.name = p.name) ∧
      (after.contains p.name = true ↔ ∃ q ∈ after.profiles, q.name = trim p.name)) ∧
    ((∃ q ∈ before.profiles, q.name = p.name) ↔ ∃ e, before.register p = .error e) ∧
    (∀ e, before.register p = .error e →
      empty.run (earlier ++ .register p :: later) =
        ((empty.run earlier).1 ++ .failed e :: (before.run later).1, (empty.run (earlier ++ later)).2)) ∧
    before.profiles.length = ((empty.run earlier).1.filter Answer.isRegistered).length := by
  intro before after
  have hafter : after = ((before.call (.register p)).2.run later).2 := by
    show (empty.run (earlier ++ .register p :: later)).2 = _
    rw [run_append, run]
  have hnames : (after.profiles.map (·.name)).Nodup := nodup_names_run (r := empty) List.nodup_nil _
  refine ⟨?_, ?_, ?_, ?_⟩
  · rintro ⟨r, hr⟩
    have hmem : p ∈ after.profiles := by
      have hcall : (before.call (.register p)).2 = r := by rw [call, hr]
      rw [hafter, hcall]
      apply (isPrefix_run r later).subset
      rw [(register_eq_ok.mp hr).2]
      exact List.mem_append_right _ List.mem_cons_self
    exact ⟨get?_name_iff hnames hmem, get_eq_ok_iff.trans (get?_name_iff hnames hmem), contains_iff⟩
  · rw [← not_iff_not]
    cases hregister : before.register p with
    | ok r => simpa using (register_eq_ok.mp hregister).1
    | error e =>
      have hnot : ¬ ∀ q ∈ before.profiles, q.name ≠ p.name := fun hnew => by
        rw [register_eq_ok.mpr ⟨hnew, rfl⟩] at hregister
        cases hregister
      simpa using hnot
  · intro e he
    rw [run_append, run_append, run, call]
    show _ = ((empty.run earlier).1 ++ .failed e :: (before.run later).1, (before.run later).2)
    rw [show (empty.run earlier).2.register p = .error e from he]
  · rw [show before = (empty.run earlier).2 from rfl, length_run]
    exact Nat.zero_add _

def sampleProfile (name : String) : FrameworkProfile :=
  ⟨name, .go, ["x"], "godog", [], ""⟩

/-- A profile is found under its name after another one was registered and its own name was refused. -/
theorem registered_found_iff_sample :
    ∃ r, empty.register (sampleProfile "x") = .ok r ∧
      (r.run [.register (sampleProfile " x "), .register (sampleProfile "x")]).2.get? "x" =
        some (sampleProfile "x") := by
  have hr : empty.register (sampleProfile "x") = .ok ⟨[sampleProfile "x"]⟩ := register_eq_ok.mpr ⟨by nofun, rfl⟩
  have hfound := (registered_found_iff [] [.register (sampleProfile " x "), .register (sampleProfile "x")]
    (sampleProfile "x")).1 ⟨_, hr⟩
  refine ⟨_, hr, ?_⟩
  exact hfound.1.mpr (by decide +kernel)

/-- **A profile with blanks around its name is registered and cannot be found:** the registry has its name, but does not
contain it. -/
theorem spaced_profile_lost :
    ∃ r, empty.register (sampleProfile " x ") = .ok r ∧ r.names = [" x "] ∧ r.get? " x " = none ∧
      (∀ p, r.get " x " ≠ .ok p) ∧ r.contains " x " = false := by
  have hnone : get? ⟨[sampleProfile " x "]⟩ " x " = none := by decide +kernel
  refine ⟨⟨[sampleProfile " x "]⟩, register_eq_ok.mpr ⟨by nofun, rfl⟩, by decide +kernel, hnone, ?_, by decide +kernel⟩
  intro p hp
  rw [get_eq_ok_iff, hnone] at hp
  cases hp

end Registry

end ScenarioAudit
