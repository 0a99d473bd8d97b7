import ScenarioAudit.Framework.Profile

/-!
# The registry of frameworks

Profiles by name, in the order of their registration. A name is registered once; looking a name up ignores
blanks around it.
-/

namespace ScenarioAudit

open ScenarioAudit.Text

/-- The registered profiles. -/
structure Registry where
  profiles : List FrameworkProfile
  deriving Repr

namespace Registry

def empty : Registry :=
  ⟨[]⟩

def named? (r : Registry) (name : String) : Option FrameworkProfile :=
  r.profiles.find? (·.name = name)

/-- Adds a profile under its name, unless the name is taken. -/
def register (r : Registry) (p : FrameworkProfile) : Except Trouble Registry :=
  if (r.named? p.name).isSome then .error (.duplicateFramework p.name)
  else .ok ⟨r.profiles ++ [p]⟩

def get? (r : Registry) (name : String) : Option FrameworkProfile :=
  r.named? (String.ofList (strip name.toList))

def names (r : Registry) : List String :=
  (r.profiles.map (·.name)).mergeSort fun a b => decide (a ≤ b)

def get (r : Registry) (name : String) : Except Trouble FrameworkProfile :=
  match r.get? name with
  | some p => .ok p
  | none => .error (.unknownFramework name r.names)

def forLanguage (r : Registry) (language : String) : List FrameworkProfile :=
  r.profiles.filter (·.language.toString = language)

def contains (r : Registry) (name : String) : Bool :=
  (r.get? name).isSome

def display (r : Registry) : String :=
  "<FrameworkRegistry frameworks=" ++ Trouble.quoteList r.names ++ ">"

@[deprecated display (since := "2025-06-01")]
def show_ (r : Registry) : String :=
  r.display

def standard : Registry :=
  ⟨FrameworkProfile.builtIn⟩

end Registry

end ScenarioAudit
