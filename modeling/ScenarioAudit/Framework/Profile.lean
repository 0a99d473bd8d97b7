import ScenarioAudit.Text.Case
import ScenarioAudit.Text.Blank
import ScenarioAudit.Trouble

/-!
# Framework profiles

What is known about each test framework: its language, how it is asked for a dry run, which grammar reads the
output, and in which manifest it is declared.
-/

namespace ScenarioAudit

open ScenarioAudit.Text

/-- The languages of step definitions. -/
inductive Language where
  | python
  | javascript
  | typescript
  | go
  | java
  | rust
  | csharp
  deriving DecidableEq, Repr

namespace Language

def toString : Language → String
  | python => "python"
  | javascript => "javascript"
  | typescript => "typescript"
  | go => "go"
  | java => "java"
  | rust => "rust"
  | csharp => "csharp"

instance : ToString Language := ⟨toString⟩

def all : List Language :=
  [python, javascript, typescript, go, java, rust, csharp]

def ofString? (s : String) : Option Language :=
  all.find? fun l => l.toString = s

def aliases : List (String × Language) :=
  [("py", python), ("js", javascript), ("node", javascript), ("ts", typescript), ("golang", go),
    ("rs", rust), ("c#", csharp), ("cs", csharp), ("dotnet", csharp)]

/-- A spelling without blanks around it and in lower case. -/
def fold (token : String) : String :=
  String.ofList (lower (strip token.toList))

def parse? (token : String) : Option Language :=
  let t := fold token
  (ofString? t).or ((aliases.find? (·.1 = t)).map (·.2))

end Language

/-- What is known about a test framework. -/
structure FrameworkProfile where
  name : String
  language : Language
  dryRun : List String
  grammar : String
  dependencyFiles : List String := []
  dependencyMarker : String := ""
  deriving Repr, DecidableEq

namespace FrameworkProfile

def executable (p : FrameworkProfile) : Except Trouble String :=
  match p.dryRun with
  | program :: _ => .ok program
  | [] => .error .noSuchItem

/-- The manifests of the language whose frameworks share them. -/
def pythonManifests : List String :=
  ["requirements*.txt", "pyproject.toml", "setup.py", "setup.cfg", "Pipfile"]

def builtIn : List FrameworkProfile :=
  [⟨"pytest-bdd", .python, ["pytest", "--collect-only", "tests/"], "pytest-bdd", pythonManifests,
      "pytest-bdd"⟩,
    ⟨"behave", .python, ["behave", "--dry-run", "--strict"], "behave", pythonManifests, "behave"⟩,
    ⟨"@cucumber/cucumber", .javascript, ["npx", "cucumber-js", "--dry-run", "--strict"],
      "@cucumber/cucumber", ["package.json"], "@cucumber/cucumber"⟩,
    ⟨"godog", .go, ["godog", "--strict", "--no-colors", "--dry-run"], "godog", ["go.mod"], "godog"⟩,
    ⟨"cucumber-jvm-maven", .java, ["mvn", "test", "-Dcucumber.options=--dry-run --strict"], "cucumber-jvm",
      ["pom.xml"], "cucumber"⟩,
    ⟨"cucumber-jvm-gradle", .java, ["gradle", "test", "-Dcucumber.options=--dry-run --strict"],
      "cucumber-jvm", ["build.gradle", "build.gradle.kts"], "cucumber"⟩,
    ⟨"cucumber-rs", .rust, ["cargo", "test"], "cucumber-rs", ["Cargo.toml"], "cucumber"⟩,
    ⟨"reqnroll", .csharp, ["dotnet", "test", "-e", "REQNROLL_DRY_RUN=true"], "reqnroll", ["*.csproj"],
      "Reqnroll"⟩]

end FrameworkProfile

end ScenarioAudit
