import ScenarioAudit.Framework.Registry
import ScenarioAudit.PathPattern
import ScenarioAudit.Text.Lines

/-!
# Finding the framework of a project

A declaration is searched for framework names first and for hints of a language second. Without an answer
there, the file suffixes up to three levels below the project decide. A manifest that declares the framework
is looked for by name and by marker.
-/

namespace ScenarioAudit

open ScenarioAudit.Text Pattern

/-- A framework with the patterns that all have to occur. -/
structure NameRule where
  framework : String
  patterns : List Pattern

/-- The names of frameworks, most specific first. -/
def nameRules : List NameRule :=
  [⟨"pytest-bdd", [word "pytest-bdd"]⟩,
    ⟨"behave", [wholeWord "behave"]⟩,
    ⟨"@cucumber/cucumber", [oneOf ["@cucumber/cucumber", "cucumber-js", "cucumber.js"]]⟩,
    ⟨"godog", [wholeWord "godog"]⟩,
    ⟨"cucumber-jvm-maven", [word "cucumber", oneOf ["maven", "pom.xml"]]⟩,
    ⟨"cucumber-jvm-gradle", [word "cucumber", word "gradle"]⟩,
    ⟨"cucumber-rs",
      [firstOf [word "cucumber-rs", word "cucumber" ++ inLine ++ word "rust",
        word "rust" ++ inLine ++ word "cucumber"]]⟩,
    ⟨"reqnroll", [wholeWord "reqnroll"]⟩]

/-- What a language hint leads to. -/
inductive HintTarget where
  | framework (name : String)
  /-- One of the two builds of the same framework. -/
  | byBuildTool
  deriving DecidableEq, Repr

/-- The build tools and libraries that go with the language of `byBuildTool`. -/
def buildWord : Pattern :=
  edge ++ oneOf ["jdk", "jre", "spring", "maven", "gradle"] ++ edge

def languageHints : List (Pattern × HintTarget) :=
  [(firstOf [wholeWord "python", wholeWord "pytest"], .framework "pytest-bdd"),
    (firstOf [wholeWord "javascript", wholeWord "typescript", word "node.js", wholeWord "jest",
      wholeWord "vitest"], .framework "@cucumber/cucumber"),
    (firstOf [wholeWord "golang", wholeWord "go test", edge ++ word "go 1."], .framework "godog"),
    (firstOf [wholeWord "java" ++ inLine ++ buildWord, buildWord ++ inLine ++ wholeWord "java"],
      .byBuildTool),
    (firstOf [wholeWord "rust", wholeWord "cargo"], .framework "cucumber-rs"),
    (firstOf [word "c#", wholeWord "csharp", word ".net" ++ edge, wholeWord "dotnet"],
      .framework "reqnroll")]

def namedFramework? (text : List Char) : Option String :=
  (nameRules.find? fun r => r.patterns.all (·.occurs text)).map (·.framework)

def hintedFramework? (text : List Char) : Option String :=
  (languageHints.find? fun h => h.1.occurs text).map fun h =>
    match h.2 with
    | .framework name => name
    | .byBuildTool =>
      if (word "gradle").occurs text then "cucumber-jvm-gradle" else "cucumber-jvm-maven"

namespace Registry

def fromDeclaration (r : Registry) (declaration : List Char) : Option FrameworkProfile :=
  let text := lower declaration
  ((namedFramework? text).or (hintedFramework? text)).bind r.get?

end Registry

/-- The suffixes that point to a framework, in order of precedence. -/
def suffixRules : List (List String × String) :=
  [([".py"], "pytest-bdd"), ([".ts", ".js"], "@cucumber/cucumber"), ([".go"], "godog"),
    ([".rs"], "cucumber-rs"), ([".cs"], "reqnroll"), ([".java"], "cucumber-jvm-maven")]

/-- How many levels below a directory are looked at. -/
def sniffDepth : Nat := 3

/-- The entries of the directories of a level; a directory that cannot be listed has none. -/
def entriesOf (t : Tree) (level : List Path) : List Path :=
  level.flatMap fun d =>
    match t.list d with
    | .ok es => es.map fun e => d.child e.1
    | .error _ => []

/-- The files found in `depth` levels, level by level. -/
def filesWithin (t : Tree) : Nat → List Path → Except Trouble (List Path)
  | 0, _ => .ok []
  | depth + 1, level => do
    let entries := entriesOf t level
    let directories ← entries.filterM t.isDir
    let files ← entries.filterM t.isFile
    return files ++ (← filesWithin t depth directories)

namespace Registry

def fromSuffixes (r : Registry) (t : Tree) (root : Path) : Except Trouble (Option FrameworkProfile) := do
  if !(← t.isDir root) then return none
  else
    let suffixes := (← filesWithin t sniffDepth [root]).map Path.suffix
    match suffixRules.find? fun rule => rule.1.any suffixes.contains with
    | some (_, name) => return r.get? name
    | none => return none

def detect (r : Registry) (t : Tree) (declaration : Option (List Char)) (features : Path) :
    Except Trouble (Option FrameworkProfile) :=
  let declared := match declaration with
    | some text => if text.isEmpty then none else r.fromDeclaration text
    | none => none
  match declared with
  | some profile => .ok (some profile)
  | none => r.fromSuffixes t features.parent

end Registry

/-- The first path that fits and holds the marker, pattern by pattern. A pattern is read when its turn comes. -/
def firstDeclaring (t : Tree) (marker : List Char) (root : Path) :
    List String → Except Trouble (Option Path)
  | [] => .ok none
  | pattern :: patterns => do
    let paths ← (← PathPattern.ofString pattern).below t root
    let declares (p : Path) : Bool :=
      match t.readText p with
      | .ok text => isInside marker (lower text)
      | .error _ => false
    match paths.find? declares with
    | some p => return some p
    | none => firstDeclaring t marker root patterns

def findManifest (t : Tree) (profile : FrameworkProfile) (root : Path) : Except Trouble (Option Path) := do
  let marker := lower profile.dependencyMarker.toList
  if marker.isEmpty then return none
  else if ← t.isDir root then firstDeclaring t marker root profile.dependencyFiles
  else return none

end ScenarioAudit
