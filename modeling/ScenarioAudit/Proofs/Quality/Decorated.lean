import Mathlib.Data.List.Perm.Basic
import ScenarioAudit.Proofs.Number.Numeral
import ScenarioAudit.Proofs.Syntax.Visits
import ScenarioAudit.Proofs.Text.Case
import ScenarioAudit.Proofs.Tree
import ScenarioAudit.Quality.Structural

/-! # Decorated functions

Each function of a module that has a step decorator gives one binding, wherever it stands, and nothing else gives one
(`ofModule_exact_iff`). There are two exceptions: where a whole number that is too long to be written stands for the text
of a step, or where the module is deeper than there is room for, there are no bindings at all.
-/

namespace ScenarioAudit.Syntax

open ScenarioAudit.Number ScenarioAudit.Text

/-! ## Step decorators -/

/-- An expression that is a name, alone or as an attribute. -/
inductive Expr.Names : Expr → List Char → Prop where
  | alone (id : List Char) : Names (.name id) id
  | member (value : Expr) (id : List Char) : Names (.attribute value id) id

/-- A decorator that is a name or a call of one, with its arguments by position. -/
inductive Expr.Applies : Expr → List Char → List Expr → Prop where
  | bare {e : Expr} {id : List Char} (h : e.Names id) : Applies e id []
  | called {f : Expr} {id : List Char} (h : f.Names id) (arguments keywords : List Expr) :
      Applies (.call f arguments keywords) id arguments

/-- A decorator that marks a step of some kind: its name is the word for the kind in any letter case. -/
def Expr.MarksStep (e : Expr) (kind : StepKind) (arguments : List Expr) : Prop :=
  ∃ id, e.Applies id arguments ∧ Spells id kind.toString

def FunctionDef.FirstMark (f : FunctionDef) (kind : StepKind) (arguments : List Expr) : Prop :=
  ∃ before e after, f.decorators = before ++ e :: after ∧ e.MarksStep kind arguments ∧
    ∀ d ∈ before, ∀ k as, ¬ d.MarksStep k as

def FunctionDef.IsStep (f : FunctionDef) : Prop :=
  ∃ e ∈ f.decorators, ∃ kind arguments, e.MarksStep kind arguments

theorem isOwnLetter_kind (kind : StepKind) : ∀ l ∈ kind.toString.toList, IsOwnLetter l := by
  cases kind <;> decide +kernel

theorem Expr.Names.calledName {e : Expr} {id : List Char} (h : e.Names id) : e.calledName = id := by
  cases h <;> rfl

theorem Expr.names_calledName {e : Expr} (h : e.calledName ≠ []) : e.Names e.calledName := by
  revert h
  unfold Expr.calledName
  split
  next id => exact fun _ => .alone id
  next value id => exact fun _ => .member value id
  next => exact fun h => absurd rfl h

theorem Expr.Applies.decoration {e : Expr} {id : List Char} {arguments : List Expr} (h : e.Applies id arguments) :
    e.decoration = (id, arguments) := by
  cases h with
  | bare h => cases h <;> rfl
  | called h _ _ => rw [Expr.decoration, h.calledName]

theorem Expr.applies_decoration {e : Expr} (h : e.decoration.1 ≠ []) : e.Applies e.decoration.1 e.decoration.2 := by
  cases e with
  | call f arguments keywords => exact .called (names_calledName h) arguments keywords
  | _ => exact .bare (names_calledName h)

theorem mem_stepDecorators_iff {w : String} : w ∈ stepDecorators ↔ ∃ kind : StepKind, kind.toString = w := by
  constructor
  · intro h
    simp only [stepDecorators, List.mem_cons, List.not_mem_nil, or_false] at h
    rcases h with rfl | rfl | rfl | rfl
    exacts [⟨.context, rfl⟩, ⟨.event, rfl⟩, ⟨.outcome, rfl⟩, ⟨.any, rfl⟩]
  · rintro ⟨kind, rfl⟩
    cases kind <;> decide

theorem lower_eq_kind_iff {id : List Char} {kind : StepKind} :
    kind.toString = String.ofList (lower id) ↔ Spells id kind.toString := by
  rw [← lower_eq_iff (isOwnLetter_kind kind), ← String.toList_inj, String.toList_ofList, eq_comm]

/-- A name that is the word for a kind, in any letter case, is read as this kind. -/
theorem ofKeyword_of_spells {id : List Char} {kind : StepKind} (h : Spells id kind.toString) :
    StepKind.ofKeyword id = kind := by
  have hblank := h.not_isBlank (isOwnLetter_kind kind)
  have hstrip : strip id = id := by
    cases id with
    | nil => rfl
    | cons c id =>
      rw [strip, stripLeft_cons (hblank c List.mem_cons_self)]
      simpa [stripRight] using stripRight_middle (List.cons_ne_nil c id) hblank [] []
  rw [StepKind.ofKeyword, hstrip, ← lower_eq_kind_iff.mpr h]
  cases kind <;> rfl

theorem Expr.isStepDecorator_iff {e : Expr} :
    e.isStepDecorator = true ↔ ∃ kind arguments, e.MarksStep kind arguments := by
  rw [isStepDecorator, List.contains_iff_mem, mem_stepDecorators_iff]
  simp only [lower_eq_kind_iff]
  constructor
  · rintro ⟨kind, hspells⟩
    refine ⟨kind, e.decoration.2, e.decoration.1, applies_decoration ?_, hspells⟩
    intro hnil
    rw [hnil] at hspells
    cases kind <;> cases hspells
  · rintro ⟨kind, arguments, id, happlies, hspells⟩
    exact ⟨kind, by rwa [happlies.decoration]⟩

theorem FunctionDef.exists_firstMark {f : FunctionDef} (h : f.IsStep) :
    ∃ kind arguments, f.FirstMark kind arguments := by
  obtain ⟨e, he, hmark⟩ := h
  cases hfind : f.decorators.find? Expr.isStepDecorator with
  | none => exact absurd (Expr.isStepDecorator_iff.mpr hmark) (List.find?_eq_none.mp hfind e he)
  | some d =>
    obtain ⟨hd, before, after, hsplit, hbefore⟩ := List.find?_eq_some_iff_append.mp hfind
    obtain ⟨kind, arguments, hmark⟩ := Expr.isStepDecorator_iff.mp hd
    refine ⟨kind, arguments, before, d, after, hsplit, hmark, fun c hc k as hmark' => ?_⟩
    have hnot := hbefore c hc
    rw [Expr.isStepDecorator_iff.mpr ⟨k, as, hmark'⟩] at hnot
    cases hnot

theorem Expr.MarksStep.unique {e : Expr} {kind kind' : StepKind} {arguments arguments' : List Expr}
    (h : e.MarksStep kind arguments) (h' : e.MarksStep kind' arguments') :
    kind = kind' ∧ arguments = arguments' := by
  obtain ⟨id, happlies, hspells⟩ := h
  obtain ⟨id', happlies', hspells'⟩ := h'
  obtain ⟨rfl, rfl⟩ := Prod.mk.inj (happlies.decoration.symm.trans happlies'.decoration)
  exact ⟨(ofKeyword_of_spells hspells).symm.trans (ofKeyword_of_spells hspells'), rfl⟩

theorem FunctionDef.FirstMark.find {f : FunctionDef} {kind : StepKind} {arguments : List Expr}
    (h : f.FirstMark kind arguments) :
    ∃ e, f.decorators.find? Expr.isStepDecorator = some e ∧ e.MarksStep kind arguments := by
  obtain ⟨before, e, after, hsplit, hmark, hbefore⟩ := h
  refine ⟨e, List.find?_eq_some_iff_append.mpr ⟨Expr.isStepDecorator_iff.mpr ⟨_, _, hmark⟩, before, after, hsplit, ?_⟩,
    hmark⟩
  intro d hd
  rw [Bool.not_eq_true', Bool.eq_false_iff]
  intro hstep
  obtain ⟨k, as, hmark'⟩ := Expr.isStepDecorator_iff.mp hstep
  exact hbefore d hd k as hmark'

theorem FunctionDef.FirstMark.unique {f : FunctionDef} {kind kind' : StepKind} {arguments arguments' : List Expr}
    (h : f.FirstMark kind arguments) (h' : f.FirstMark kind' arguments') :
    kind = kind' ∧ arguments = arguments' := by
  obtain ⟨e, hfind, hmark⟩ := h.find
  obtain ⟨e', hfind', hmark'⟩ := h'.find
  obtain rfl := Option.some.inj (hfind.symm.trans hfind')
  exact hmark.unique hmark'

theorem FunctionDef.FirstMark.isStep {f : FunctionDef} {kind : StepKind} {arguments : List Expr}
    (h : f.FirstMark kind arguments) : f.IsStep := by
  obtain ⟨before, e, after, hsplit, hmark, -⟩ := h
  exact ⟨e, by rw [hsplit]; simp, kind, arguments, hmark⟩

/-! ## Texts of steps -/

/-- The constant that gives the text of a step: the first argument, or the first one of a call in its place. -/
inductive GivenBy : List Expr → Constant → Prop where
  | direct (c : Constant) (others : List Expr) : GivenBy (.constant c :: others) c
  | wrapped (parser : Expr) (c : Constant) (inner keywords others : List Expr) :
      GivenBy (.call parser (.constant c :: inner) keywords :: others) c

/-- The text of a step with these arguments: how its constant is shown, and empty without one. -/
inductive HasText : List Expr → CodePoints → Prop where
  | shown {arguments : List Expr} {c : Constant} {text : CodePoints} (h : GivenBy arguments c)
      (hdisplay : c.display = .ok text) : HasText arguments text
  | empty {arguments : List Expr} (h : ∀ c, ¬ GivenBy arguments c) : HasText arguments []

/-- The text of a step is given by a whole number that has more digits than are written. -/
def Unwritten (arguments : List Expr) : Prop :=
  ∃ n, GivenBy arguments (.whole n) ∧ ¬ Readable n

/-- The text of a step function is given by such a number. -/
def FunctionDef.Unwritten (f : FunctionDef) : Prop :=
  ∃ kind arguments, f.FirstMark kind arguments ∧ Syntax.Unwritten arguments

theorem FunctionDef.Unwritten.isStep {f : FunctionDef} (h : f.Unwritten) : f.IsStep := by
  obtain ⟨kind, arguments, hmark, -⟩ := h
  exact hmark.isStep

theorem constant?_eq_some {e : Expr} {c : Constant} : e.constant? = some c ↔ e = .constant c := by
  cases e <;> simp [Expr.constant?]

theorem stepArgument_eq_some {arguments : List Expr} {c : Constant} :
    stepArgument arguments = some c ↔ GivenBy arguments c := by
  constructor
  · unfold stepArgument
    split
    next f first inner keywords others =>
      intro h
      rw [constant?_eq_some.mp h]
      exact .wrapped f c inner keywords others
    next first others _ =>
      intro h
      rw [constant?_eq_some.mp h]
      exact .direct c others
    next =>
      intro h
      cases h
  · intro h
    cases h <;> rfl

def stepText (arguments : List Expr) : Except Trouble CodePoints :=
  (stepArgument arguments).elim (.ok []) Constant.display

/-- **Only a number that is too long has no text.** -/
theorem stepText_cases (arguments : List Expr) :
    (¬ Unwritten arguments ∧ ∃ text, HasText arguments text ∧ stepText arguments = .ok text) ∨
      (Unwritten arguments ∧ stepText arguments = .error (.numeral .tooLarge)) := by
  simp only [Unwritten, ← stepArgument_eq_some, stepText]
  cases harg : stepArgument arguments with
  | none =>
    refine Or.inl ⟨by simp, [], .empty fun c hc => ?_, rfl⟩
    rw [stepArgument_eq_some.mpr hc] at harg
    cases harg
  | some c =>
    have hgiven := stepArgument_eq_some.mp harg
    cases c with
    | whole n =>
      by_cases hn : Readable n
      · have hdisplay : (Constant.whole n).display = .ok (codePoints (numeral n)) := if_neg (Nat.not_lt.mpr hn)
        exact Or.inl ⟨by simp [hn], _, .shown hgiven hdisplay, hdisplay⟩
      · exact Or.inr ⟨⟨n, rfl, hn⟩, if_pos (Nat.not_le.mp hn)⟩
    | _ => exact Or.inl ⟨by simp, _, .shown hgiven rfl, rfl⟩

theorem FunctionDef.step_of_not_isStep {f : FunctionDef} (h : ¬ f.IsStep) : f.step = .ok none := by
  have hfind : f.decorators.find? Expr.isStepDecorator = none :=
    List.find?_eq_none.mpr fun e he hstep => h ⟨e, he, Expr.isStepDecorator_iff.mp hstep⟩
  rw [step, hfind]

theorem FunctionDef.FirstMark.step {f : FunctionDef} {kind : StepKind} {arguments : List Expr}
    (h : f.FirstMark kind arguments) :
    f.step = (stepText arguments).map fun text => some (kind, text) := by
  obtain ⟨e, hfind, hmark⟩ := h.find
  obtain ⟨id, happlies, hspells⟩ := hmark
  rw [FunctionDef.step, hfind]
  simp only [happlies.decoration, ofKeyword_of_spells hspells]
  rw [stepText]
  cases stepArgument arguments with
  | none => rfl
  | some c => cases hc : c.display <;> simp [hc, bind, Except.bind, pure, Except.pure, Except.map]

end ScenarioAudit.Syntax

namespace ScenarioAudit

open ScenarioAudit.Number ScenarioAudit.Syntax ScenarioAudit.Text

/-! ## Bindings of functions -/

/-- A binding says of a step function what its first step decorator and its body say. -/
structure StepBinding.Describes (file : String) (keywords : List String) (f : FunctionDef) (b : StepBinding) : Prop where
  mark : ∃ arguments, f.FirstMark b.kind arguments ∧ HasText arguments b.text
  function : b.function = f.name
  file : b.file = file
  line : b.line = f.line
  body : b.body = bodyFacts (keywords.map fun k => lower k.toList) f.body

/-- **What a function gives:** nothing, its binding, or the refusal to write a number. -/
theorem ofFunction_cases (file : String) (keywords : List String) (f : FunctionDef) :
    (¬ f.IsStep ∧ StepBinding.ofFunction file (keywords.map fun k => lower k.toList) f = .ok none) ∨
      (f.IsStep ∧ ¬ f.Unwritten ∧ ∃ b, StepBinding.Describes file keywords f b ∧
        StepBinding.ofFunction file (keywords.map fun k => lower k.toList) f = .ok (some b)) ∨
      (f.Unwritten ∧
        StepBinding.ofFunction file (keywords.map fun k => lower k.toList) f = .error (.numeral .tooLarge)) := by
  unfold StepBinding.ofFunction
  by_cases hstep : f.IsStep
  · obtain ⟨kind, arguments, hmark⟩ := FunctionDef.exists_firstMark hstep
    rw [hmark.step]
    rcases stepText_cases arguments with ⟨hwritten, text, htext, hshown⟩ | ⟨hunwritten, hrefused⟩
    · rw [hshown]
      refine Or.inr (Or.inl ⟨hstep, ?_, _, ⟨⟨arguments, hmark, htext⟩, rfl, rfl, rfl, rfl⟩, rfl⟩)
      rintro ⟨kind', arguments', hmark', hunwritten⟩
      obtain ⟨rfl, rfl⟩ := hmark.unique hmark'
      exact hwritten hunwritten
    · rw [hrefused]
      exact Or.inr (Or.inr ⟨⟨kind, arguments, hmark, hunwritten⟩, rfl⟩)
  · rw [FunctionDef.step_of_not_isStep hstep]
    exact Or.inl ⟨hstep, rfl⟩

/-! ## Bindings of modules -/

/-- Bindings for step functions with their places: all that the module has, each of them once, in the order of lines. -/
structure StepBinding.Covers (file : String) (keywords : List String) (module : List Stmt)
    (placed : List (List ℕ × FunctionDef)) (bs : List StepBinding) : Prop where
  nodup : (placed.map Prod.fst).Nodup
  mem_iff : ∀ p f, (p, f) ∈ placed ↔ functionAt? module p = some f ∧ f.IsStep
  describes : List.Forall₂ (fun x b => Describes file keywords x.2 b) placed bs
  sorted : bs.Pairwise fun a b => a.line ≤ b.line

/-- The text of some step function of a module is given by a number that is not written. -/
def Syntax.HasUnwritten (module : List Stmt) : Prop :=
  ∃ p f, functionAt? module p = some f ∧ f.Unwritten

theorem hasUnwritten_iff {module : List Stmt} : HasUnwritten module ↔ ∃ f ∈ Stmt.allFunctions module, f.Unwritten := by
  obtain ⟨placed, hlisting, hfunctions⟩ := exists_listing module
  simp only [← hfunctions, List.mem_map, Prod.exists, exists_eq_right, hlisting.mem_iff, HasUnwritten]
  grind

theorem exists_steps {file : String} {keywords : List String} {placed : List (List ℕ × FunctionDef)}
    {found : List (Option StepBinding)}
    (h : (placed.map Prod.snd).mapM (StepBinding.ofFunction file (keywords.map fun k => lower k.toList)) = .ok found) :
    ∃ steps, steps.Sublist placed ∧ (∀ x, x ∈ steps ↔ x ∈ placed ∧ x.2.IsStep) ∧
      List.Forall₂ (fun x b => StepBinding.Describes file keywords x.2 b) steps found.reduceOption := by
  -- Each function adds an entry to what is found, and a step function also a place and its binding.
  induction placed generalizing found with
  | nil =>
    cases h
    exact ⟨[], .slnil, by simp, .nil⟩
  | cons x placed ih =>
    rw [List.map_cons, List.mapM_cons] at h
    obtain ⟨entry, hentry, h⟩ := bind_eq_ok h
    obtain ⟨others, hothers, h⟩ := bind_eq_ok h
    cases h
    obtain ⟨steps, hsub, hsteps, hdescribes⟩ := ih hothers
    rcases ofFunction_cases file keywords x.2 with ⟨hstep, hnone⟩ | ⟨hstep, -, b, hb, hsome⟩ | ⟨-, herror⟩
    · obtain rfl := Except.ok.inj (hnone.symm.trans hentry)
      refine ⟨steps, hsub.cons x, fun y => ?_, hdescribes⟩
      rw [hsteps, List.mem_cons]
      grind
    · obtain rfl := Except.ok.inj (hsome.symm.trans hentry)
      refine ⟨x :: steps, hsub.cons_cons x, fun y => ?_, .cons hb hdescribes⟩
      rw [List.mem_cons, hsteps, List.mem_cons]
      grind
    · rw [herror] at hentry
      cases hentry

/-- What the functions of a module give covers the module when it is put in the order of lines. -/
theorem exists_covers {file : String} {keywords : List String} {module : List Stmt} {found : List (Option StepBinding)}
    (h : (Stmt.allFunctions module).mapM (StepBinding.ofFunction file (keywords.map fun k => lower k.toList)) =
      .ok found) :
    ∃ placed, StepBinding.Covers file keywords module placed
      (found.reduceOption.mergeSort fun a b => decide (a.line ≤ b.line)) := by
  obtain ⟨placed, hlisting, hfunctions⟩ := exists_listing module
  rw [← hfunctions] at h
  obtain ⟨steps, hsub, hsteps, hdescribes⟩ := exists_steps h
  -- The places follow their bindings when these are put in the order of lines.
  obtain ⟨places, hplaces, hperm⟩ :=
    List.perm_comp_forall₂ (List.mergeSort_perm found.reduceOption fun a b => decide (a.line ≤ b.line)) hdescribes.flip
  refine ⟨places, ?_, fun p f => ?_, hplaces.flip, pairwise_mergeSort_by StepBinding.line found.reduceOption⟩
  · exact ((hperm.map Prod.fst).nodup_iff).mpr ((hsub.map Prod.fst).nodup hlisting.nodup)
  · rw [hperm.mem_iff, hsteps, hlisting.mem_iff]

/-- **What a module gives:** all of its bindings, the refusal to write a number, or none since it is too deep. -/
theorem ofModule_cases (file : String) (keywords : List String) (module : List Stmt) (room : ℕ) :
    (¬ HasUnwritten module ∧ Module.frames module ≤ room ∧
      ∃ bs placed, StepBinding.ofModule file keywords module room = .ok bs ∧
        StepBinding.Covers file keywords module placed bs) ∨
      (HasUnwritten module ∧ StepBinding.ofModule file keywords module room = .error (.numeral .tooLarge)) ∨
      (room < Module.frames module ∧ StepBinding.ofModule file keywords module room = .error .tooDeep) := by
  have hvisited := Module.visited (StepBinding.ofFunction file (keywords.map fun k => lower k.toList)) room module
  simp only [StepBinding.ofModule]
  generalize Module.visit _ room module = x at hvisited
  cases hvisited with
  | @through found hroom hfound =>
    obtain ⟨placed, hcovers⟩ := exists_covers hfound
    refine Or.inl ⟨fun hunwritten => ?_, hroom, _, placed, rfl, hcovers⟩
    obtain ⟨f, hf, hunwritten⟩ := hasUnwritten_iff.mp hunwritten
    obtain ⟨entry, hentry⟩ := exists_of_mapM hfound f hf
    rcases ofFunction_cases file keywords f with ⟨hstep, -⟩ | ⟨-, hwritten, -⟩ | ⟨-, herror⟩
    · exact hstep hunwritten.isStep
    · exact hwritten hunwritten
    · rw [herror] at hentry
      cases hentry
  | tooDeep hroom => exact Or.inr (Or.inr ⟨Nat.lt_of_not_le hroom, rfl⟩)
  | @refused f e hf herror =>
    refine Or.inr (Or.inl ?_)
    rcases ofFunction_cases file keywords f with ⟨-, hnone⟩ | ⟨-, -, b, -, hsome⟩ | ⟨hunwritten, hrefused⟩
    · rw [hnone] at herror
      cases herror
    · rw [hsome] at herror
      cases herror
    · obtain rfl := Except.error.inj (hrefused.symm.trans herror)
      exact ⟨hasUnwritten_iff.mpr ⟨f, hf, hunwritten⟩, rfl⟩

/-- **Each decorated function is found once, and nothing else**, if and only if the text of no step function is given by
a number that is not written, and there is room to go through the module. Else the whole module is refused. -/
theorem ofModule_exact_iff (file : String) (keywords : List String) (module : List Stmt) (room : ℕ) :
    ((∃ bs placed, StepBinding.ofModule file keywords module room = .ok bs ∧
        StepBinding.Covers file keywords module placed bs) ↔
      ¬ HasUnwritten module ∧ Module.frames module ≤ room) ∧
    (∀ bs, StepBinding.ofModule file keywords module room = .ok bs →
      ∃ placed, StepBinding.Covers file keywords module placed bs) ∧
    (StepBinding.ofModule file keywords module room = .error (.numeral .tooLarge) → HasUnwritten module) ∧
    (StepBinding.ofModule file keywords module room = .error .tooDeep → room < Module.frames module) ∧
    ∀ e, StepBinding.ofModule file keywords module room = .error e → e = .numeral .tooLarge ∨ e = .tooDeep := by
  rcases ofModule_cases file keywords module room with ⟨hwritten, hroom, bs, placed, hok, hcovers⟩ |
    ⟨hunwritten, herror⟩ | ⟨hroom, herror⟩
  · rw [hok]
    refine ⟨iff_of_true ⟨bs, placed, rfl, hcovers⟩ ⟨hwritten, hroom⟩, ?_, nofun, nofun, nofun⟩
    rintro _ ⟨⟩
    exact ⟨placed, hcovers⟩
  · rw [herror]
    refine ⟨iff_of_false nofun fun h => h.1 hunwritten, nofun, fun _ => hunwritten, nofun, ?_⟩
    rintro _ ⟨⟩
    exact Or.inl rfl
  · rw [herror]
    refine ⟨iff_of_false nofun fun h => Nat.not_le.mpr hroom h.2, nofun, nofun, fun _ => hroom, ?_⟩
    rintro _ ⟨⟩
    exact Or.inr rfl

/-! ## A number that is not written -/

/-- Two step functions; the text of the first one is given by a number of 4335 digits. -/
def longNumber : List Stmt :=
  [.function 2 "f".toList [.call (.name "given".toList) [.constant (.whole (16 ^ 3600))] []]
      (.compound .parameters [.compound .parameter []]) none [.pass],
    .function 6 "g".toList [.call (.name "when".toList) [.constant (.text (codesOf "it rains"))] []]
      (.compound .parameters [.compound .parameter []]) none [.pass]]

theorem not_readable_long : ¬ Readable (16 ^ 3600) := by
  intro h
  have hlt := (Nat.length_toDigits_le_iff (by decide) (by decide)).mp h
  have hle : 10 ^ digitLimit ≤ 16 ^ 3600 := calc
    10 ^ digitLimit = (10 ^ 43) ^ 100 := by rw [show digitLimit = 43 * 100 from rfl, Nat.pow_mul]
    _ ≤ (16 ^ 36) ^ 100 := Nat.pow_le_pow_left (by decide) 100
    _ = 16 ^ 3600 := by rw [show 3600 = 36 * 100 from rfl, Nat.pow_mul]
  exact Nat.not_le.mpr hlt hle

/-- **A number that is too long hides the step functions of its module**, which there is room for. -/
theorem longNumber_hides :
    Module.frames longNumber ≤ usualRoom ∧
      ¬ ∃ bs placed, StepBinding.ofModule "s.py" [] longNumber = .ok bs ∧
        StepBinding.Covers "s.py" [] longNumber placed bs := by
  have hunwritten : HasUnwritten longNumber := by
    refine ⟨[0], _, rfl, .context, _, ⟨[], _, [], rfl, ⟨_, .called (.alone "given".toList) _ _, by decide⟩, by simp⟩, ?_⟩
    exact ⟨16 ^ 3600, .direct _ _, not_readable_long⟩
  refine ⟨by decide, ?_⟩
  rintro ⟨bs, placed, hok, hcovers⟩
  rcases ofModule_cases "s.py" [] longNumber usualRoom with ⟨hwritten, -⟩ | ⟨-, herror⟩ | ⟨-, herror⟩
  · exact hwritten hunwritten
  · rw [herror] at hok
    cases hok
  · rw [herror] at hok
    cases hok

end ScenarioAudit
