import ScenarioAudit.Number.Binary64

/-!
# JSON values

An object keeps its members in the order of their first appearance; setting a key that is already there
replaces the value in its place. Main statements: a key that was set is found, and setting a key changes no
other one.
-/

namespace ScenarioAudit

open ScenarioAudit.Number

/-- A JSON value. Whole numbers and binary fractions are told apart. -/
inductive Json where
  | null
  | bool (b : Bool)
  | int (i : Int)
  | float (x : Binary64)
  | str (s : String)
  | arr (items : List Json)
  | obj (members : List (String × Json))
  deriving Repr, Inhabited

namespace Json

abbrev Members := List (String × Json)

def Members.get? : Members → String → Option Json
  | [], _ => none
  | (k, v) :: ms, key => if k = key then some v else Members.get? ms key

def Members.set : Members → String → Json → Members
  | [], key, v => [(key, v)]
  | (k, w) :: ms, key, v => if k = key then (k, v) :: ms else (k, w) :: Members.set ms key v

@[simp] theorem Members.get?_set_self (ms : Members) (key : String) (v : Json) :
    (ms.set key v).get? key = some v := by
  induction ms with
  | nil => simp [set, get?]
  | cons m ms ih =>
    obtain ⟨k, w⟩ := m
    by_cases h : k = key <;> simp [set, get?, h, ih]

@[simp] theorem Members.get?_set_ne (ms : Members) {key other : String} (v : Json) (h : key ≠ other) :
    (ms.set key v).get? other = ms.get? other := by
  induction ms with
  | nil => simp [set, get?, h]
  | cons m ms ih =>
    obtain ⟨k, w⟩ := m
    by_cases hk : k = key
    · subst hk
      simp [set, get?, h]
    · by_cases ho : k = other <;> simp [set, get?, hk, ho, ih, Ne.symm h]

mutual
/-- How many containers stand inside one another. -/
def depth : Json → Nat
  | .arr items => depthItems items + 1
  | .obj members => depthMembers members + 1
  | _ => 0
def depthItems : List Json → Nat
  | [] => 0
  | v :: vs => max (depth v) (depthItems vs)
def depthMembers : List (String × Json) → Nat
  | [] => 0
  | (_, v) :: ms => max (depth v) (depthMembers ms)
end

mutual
/-- Whether every whole number fits 64 bits, signed or unsigned. -/
def fitsWord : Json → Bool
  | .int i => isWord i
  | .arr items => fitsWordItems items
  | .obj members => fitsWordMembers members
  | _ => true
def fitsWordItems : List Json → Bool
  | [] => true
  | v :: vs => fitsWord v && fitsWordItems vs
def fitsWordMembers : List (String × Json) → Bool
  | [] => true
  | (_, v) :: ms => fitsWord v && fitsWordMembers ms
end

end Json

end ScenarioAudit
