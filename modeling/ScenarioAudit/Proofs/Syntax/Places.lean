import Mathlib.Tactic.Common
import ScenarioAudit.Syntax.Checks

/-! # The places of a tree

A statement of a module is told by its place: its number in a block, after the place of the statement that has the
block. A module lists its functions by these places (`exists_listing`): every function that stands at some place, at
whatever depth and in whatever kind of block, is listed, and it is listed once. Functions are those that are
asynchronous, too: a tree has one form for both.
-/

namespace ScenarioAudit.Syntax

/-! ## Places -/

/-- The statements in the blocks of a statement, block after block. -/
def Stmt.children : Stmt → List Stmt
  | .function _ _ _ _ _ body => body
  | .classDef _ _ _ body => body
  | .compound _ _ blocks => blocks.flatten
  | _ => []

/-- The statement at a place in a statement, which is itself at the empty place. -/
def Stmt.below? (s : Stmt) : List ℕ → Option Stmt
  | [] => some s
  | i :: p => s.children[i]?.bind fun t => t.below? p

def Stmt.at? (module : List Stmt) : List ℕ → Option Stmt
  | [] => none
  | i :: p => module[i]?.bind fun s => s.below? p

def Stmt.function? : Stmt → Option FunctionDef
  | .function line name decorators _ _ body => some ⟨line, name, decorators, body⟩
  | _ => none

def functionAt? (module : List Stmt) (p : List ℕ) : Option FunctionDef :=
  (Stmt.at? module p).bind Stmt.function?

theorem Stmt.sizeOf_lt_of_mem_children {s t : Stmt} (h : t ∈ s.children) : sizeOf t < sizeOf s := by
  cases s with
  | function line name decorators parameters result body =>
    have hlt := List.sizeOf_lt_of_mem (show t ∈ body from h)
    rw [Stmt.function.sizeOf_spec]
    omega
  | classDef name decorators bases body =>
    have hlt := List.sizeOf_lt_of_mem (show t ∈ body from h)
    rw [Stmt.classDef.sizeOf_spec]
    omega
  | compound form parts blocks =>
    obtain ⟨block, hblock, ht⟩ := List.mem_flatten.mp (show t ∈ blocks.flatten from h)
    have hlt := List.sizeOf_lt_of_mem hblock
    have hlt' := List.sizeOf_lt_of_mem ht
    rw [Stmt.compound.sizeOf_spec]
    omega
  | returned | raised | assertion | expression | pass | plain => cases h

/-- What holds of a statement if it holds of those in its blocks, holds of every statement. -/
theorem Stmt.children_induction {P : Stmt → Prop} (step : ∀ s, (∀ t ∈ s.children, P t) → P s) (s : Stmt) : P s :=
  step s fun t _ => children_induction step t
termination_by sizeOf s
decreasing_by exact sizeOf_lt_of_mem_children ‹_›

/-! ## Functions of blocks -/

theorem allFunctions_eq (ss : List Stmt) : Stmt.allFunctions ss = ss.flatMap Stmt.functions := by
  induction ss with
  | nil => rw [Stmt.allFunctions, List.flatMap_nil]
  | cons s ss ih => rw [Stmt.allFunctions, ih, List.flatMap_cons]

theorem blockFunctions_eq (bs : List (List Stmt)) : Stmt.blockFunctions bs = Stmt.allFunctions bs.flatten := by
  induction bs with
  | nil => rw [Stmt.blockFunctions, List.flatten_nil, Stmt.allFunctions]
  | cons b bs ih =>
    rw [Stmt.blockFunctions, ih, List.flatten_cons, allFunctions_eq, allFunctions_eq, allFunctions_eq,
      List.flatMap_append]

theorem Stmt.functions_eq (s : Stmt) : s.functions = s.function?.toList ++ Stmt.allFunctions s.children := by
  cases s with
  | function line name decorators parameters result body => rw [functions]; rfl
  | classDef name decorators bases body => rw [functions]; rfl
  | compound form parts blocks => rw [functions, blockFunctions_eq]; rfl
  | returned | raised | assertion | expression | pass | plain => simp [functions, function?, children, allFunctions]

/-! ## Listings -/

/-- Functions with their places: all that are found at places, each of them once, in the order of the places. -/
structure Listing (find? : List ℕ → Option FunctionDef) (placed : List (List ℕ × FunctionDef)) : Prop where
  mem_iff : ∀ p f, (p, f) ∈ placed ↔ find? p = some f
  sorted : placed.Pairwise fun x y => x.1 < y.1

theorem Listing.nodup {find? : List ℕ → Option FunctionDef} {placed : List (List ℕ × FunctionDef)}
    (h : Listing find? placed) : (placed.map Prod.fst).Nodup := by
  refine List.pairwise_map.mpr (h.sorted.imp ?_)
  intro x y hlt heq
  rw [heq] at hlt
  exact List.lt_irrefl _ hlt

def numbered (i : ℕ) (placed : List (List ℕ × FunctionDef)) : List (List ℕ × FunctionDef) :=
  placed.map fun x => (i :: x.1, x.2)

theorem mem_numbered {i : ℕ} {placed : List (List ℕ × FunctionDef)} {p : List ℕ} {f : FunctionDef} :
    (p, f) ∈ numbered i placed ↔ ∃ q, (q, f) ∈ placed ∧ p = i :: q := by
  simp only [numbered, List.mem_map, Prod.exists, Prod.mk.injEq]
  grind

theorem map_snd_numbered (i : ℕ) (placed : List (List ℕ × FunctionDef)) :
    (numbered i placed).map Prod.snd = placed.map Prod.snd := by
  rw [numbered, List.map_map]
  rfl

theorem exists_listing_block {ss : List Stmt}
    (h : ∀ s ∈ ss, ∃ placed, Listing (fun p => (s.below? p).bind Stmt.function?) placed ∧
      placed.map Prod.snd = s.functions) :
    ∃ placed, Listing (functionAt? ss) placed ∧ placed.map Prod.snd = Stmt.allFunctions ss := by
  choose! inside hlisting hfunctions using h
  have hmem (x : Stmt × ℕ) (hx : x ∈ ss.zipIdx) : x.1 ∈ ss :=
    List.mem_of_getElem? (List.mem_zipIdx_iff_getElem?.mp hx)
  refine ⟨ss.zipIdx.flatMap fun x => numbered x.2 (inside x.1), ⟨fun p f => ?_, ?_⟩, ?_⟩
  · -- A place of the block is the number of a statement, and then a place in that statement.
    simp only [List.mem_flatMap, mem_numbered]
    constructor
    · rintro ⟨⟨s, i⟩, hx, q, hq, rfl⟩
      have hget : ss[i]? = some s := List.mem_zipIdx_iff_getElem?.mp hx
      rw [functionAt?, Stmt.at?, hget]
      exact ((hlisting s (hmem _ hx)).mem_iff q f).mp hq
    · intro hfind
      cases p with
      | nil => cases hfind
      | cons i q =>
        obtain ⟨t, hat, hdef⟩ := Option.bind_eq_some_iff.mp hfind
        obtain ⟨s, hget, hbelow⟩ := Option.bind_eq_some_iff.mp hat
        have hx : (s, i) ∈ ss.zipIdx := List.mem_zipIdx_iff_getElem?.mpr hget
        refine ⟨(s, i), hx, q, ((hlisting s (hmem _ hx)).mem_iff q f).mpr ?_, rfl⟩
        rw [hbelow]
        exact hdef
  · -- Within a statement the places keep their order; of two statements the first one has the lower number.
    have hnumbers : ss.zipIdx.Pairwise fun x y => x.2 < y.2 := by
      rw [← List.pairwise_map (f := Prod.snd), List.zipIdx_map_snd]
      exact List.pairwise_lt_range'
    refine List.pairwise_flatMap.mpr ⟨fun x hx => ?_, hnumbers.imp fun hlt => ?_⟩
    · refine List.pairwise_map.mpr ((hlisting x.1 (hmem x hx)).sorted.imp fun hlt => ?_)
      exact List.cons_lt_cons_iff.mpr (Or.inr ⟨rfl, hlt⟩)
    · rintro ⟨p, f⟩ hp ⟨q, g⟩ hq
      obtain ⟨p', -, rfl⟩ := mem_numbered.mp hp
      obtain ⟨q', -, rfl⟩ := mem_numbered.mp hq
      exact List.cons_lt_cons_iff.mpr (Or.inl hlt)
  · have hvalues (x : Stmt × ℕ) (hx : x ∈ ss.zipIdx) : (numbered x.2 (inside x.1)).map Prod.snd = x.1.functions :=
      (map_snd_numbered _ _).trans (hfunctions x.1 (hmem x hx))
    rw [List.map_flatMap, List.flatMap_def, List.map_congr_left hvalues, ← List.flatMap_def, allFunctions_eq]
    conv_rhs => rw [← List.zipIdx_map_fst 0 ss, List.flatMap_map]

theorem exists_listing_below (s : Stmt) :
    ∃ placed, Listing (fun p => (s.below? p).bind Stmt.function?) placed ∧ placed.map Prod.snd = s.functions := by
  induction s using Stmt.children_induction with
  | step s ih =>
    obtain ⟨inside, hinside, hfunctions⟩ := exists_listing_block ih
    refine ⟨s.function?.toList.map (fun f => ([], f)) ++ inside, ⟨fun p f => ?_, ?_⟩, ?_⟩
    · have hnil : ([], f) ∉ inside := by
        intro hmem
        cases (hinside.mem_iff [] f).mp hmem
      cases p with
      | nil => simp [hnil, Stmt.below?]
      | cons i q =>
        rw [List.mem_append, or_iff_right (by simp), hinside.mem_iff]
        rfl
    · refine List.pairwise_append.mpr ⟨?_, hinside.sorted, ?_⟩
      · cases s.function? <;> simp
      · rintro x hx ⟨p, f⟩ hy
        obtain ⟨g, -, rfl⟩ := List.mem_map.mp hx
        cases p with
        | nil => cases (hinside.mem_iff [] f).mp hy
        | cons i q => exact List.nil_lt_cons i q
    · rw [List.map_append, hfunctions, List.map_map, s.functions_eq]
      exact congrArg (· ++ _) (List.map_id _)

/-- **The functions of a module are those that stand at its places, each of them once.** -/
theorem exists_listing (module : List Stmt) :
    ∃ placed, Listing (functionAt? module) placed ∧ placed.map Prod.snd = Stmt.allFunctions module :=
  exists_listing_block fun s _ => exists_listing_below s

end ScenarioAudit.Syntax
