import ScenarioAudit.Settings.Reading
import ScenarioAudit.Yaml.Document
import ScenarioAudit.Json.Reader
import ScenarioAudit.Host

/-!
# Loading settings

Settings come from three layers: the defaults, a document that may be laid over them, and four environment
variables that win over both. The result has to fit the types of the fields.
-/

namespace ScenarioAudit

open ScenarioAudit.Number

/-! ## Settings as a document -/

def LoggingSettings.toYaml (s : LoggingSettings) : Yaml :=
  .map [(.str "level", .ofCodes s.level), (.str "format", .ofCodes s.format)]

def IntegritySettings.toYaml (s : IntegritySettings) : Yaml :=
  .map [(.str "record_filename", .ofCodes s.recordFilename), (.str "record_key", .ofCodes s.recordKey),
    (.str "notes_ref", .ofCodes s.notesRef), (.str "empty_sentinel", .ofCodes s.emptySentinel),
    (.str "git_timeout_s", .float s.gitTimeout)]

def CoverageSettings.toYaml (s : CoverageSettings) : Yaml :=
  .map [(.str "dry_run_timeout_s", .float s.dryRunTimeout), (.str "max_detail_lines", .int s.maxDetailLines)]

def QualitySettings.toYaml (s : QualitySettings) : Yaml :=
  .map [(.str "heuristic_lookahead", .int s.lookahead),
    (.str "assertion_keywords", .seq (s.assertionKeywords.map .ofCodes))]

namespace Settings

def toEntries (s : Settings) : Yaml.Entries :=
  [(.str "logging", s.logging.toYaml), (.str "integrity", s.integrity.toYaml),
    (.str "coverage", s.coverage.toYaml), (.str "quality", s.quality.toYaml)]

def requireTextKeys (es : Yaml.Entries) : Except Trouble Unit :=
  let isText (e : Yaml × Yaml) : Bool :=
    match e.1 with
    | .str _ | .codes _ => true
    | _ => false
  if es.all isText then .ok () else .error .wrongType

def ofEntries (es : Yaml.Entries) : Except Trouble Settings := do
  let d : Settings := {}
  return {
    logging := ← Setting.field es "logging" (Setting.mapping LoggingSettings.ofEntries) d.logging
    integrity := ← Setting.field es "integrity" (Setting.mapping IntegritySettings.ofEntries) d.integrity
    coverage := ← Setting.field es "coverage" (Setting.mapping CoverageSettings.ofEntries) d.coverage
    quality := ← Setting.field es "quality" (Setting.mapping QualitySettings.ofEntries) d.quality }

/-! ## Layers -/

/-- The document of a file; an empty one is an empty mapping. -/
def documentAt (t : Tree) (p : Path) : Except Trouble Yaml.Entries := do
  match Yaml.ofText (← t.readStrict p) with
  | .error .malformed => .error (.configMalformed p.toString)
  | .error (.cause e) => .error e
  | .ok v =>
    if v.isEmpty then return []
    else
      match v with
      | .map es => return es
      | _ => .error (.configNotMapping p.toString)

/-- The defaults with the document of a file laid over them. -/
def layered (t : Tree) (overlay : Option Path) : Except Trouble Yaml.Entries := do
  let defaults := toEntries {}
  match overlay with
  | none => return defaults
  | some p =>
    if ← t.pathExists p then return defaults.overlay (← documentAt t p)
    else .error (.configMissing p.toString)

def setField (section_ key : String) (v : Yaml) (es : Yaml.Entries) : Except Trouble Yaml.Entries :=
  match (es.field? section_).getD (.map []) with
  | .map fields => .ok (es.put (.str section_) (.map (Yaml.Entries.put fields (.str key) v)))
  | _ => .error .wrongType

/-- An environment variable that sets a field of a section. -/
structure Override where
  name : String
  section_ : String
  field : String
  read : String → Except Trouble Yaml

def fractionOfVariable (s : String) : Except Trouble Yaml :=
  match binaryOfText s with
  | .ok x => .ok (.float x)
  | .error e => .error (.numeral e)

def overrides : List Override :=
  let text := fun s => Except.ok (Yaml.str s)
  [⟨"STEPGUARD_LOGGING__LEVEL", "logging", "level", text⟩,
    ⟨"STEPGUARD_LOGGING__FORMAT", "logging", "format", text⟩,
    ⟨"STEPGUARD_COVERAGE__DRY_RUN_TIMEOUT_S", "coverage", "dry_run_timeout_s", fractionOfVariable⟩,
    ⟨"STEPGUARD_INTEGRITY__NOTES_REF", "integrity", "notes_ref", text⟩]

def withOverrides (valueOf : String → Option String) (es : Yaml.Entries) : Except Trouble Yaml.Entries :=
  overrides.foldlM (fun es x =>
    match valueOf x.name with
    | none => .ok es
    | some s => do setField x.section_ x.field (← x.read s) es) es

/-- The value of a variable whose name may be written in any mixture of cases. -/
def caselessValue? (environment : List (String × String)) (name : String) : Option String :=
  (environment.reverse.find? fun v => String.ofList (Text.lower v.1.toList) = name).map (·.2)

def sections : List (String × List String) :=
  [("logging", []), ("integrity", []), ("coverage", []), ("quality", ["assertion_keywords"])]

/-- Whether the variables for a section and for its lists hold JSON where they are there. If the section is set to
something without fields, its lists are not looked at. -/
def readsSection (environment : List (String × String)) (section_ : String) (lists : List String) : Bool :=
  let json? (s : String) := Json.ofText? Json.wideRule s.toList
  let name := "stepguard_" ++ section_
  let readsLists := lists.all fun key =>
    (caselessValue? environment (name ++ "__" ++ key)).all fun s => s.isEmpty || (json? s).isSome
  match (caselessValue? environment name).map json? with
  | none | some (some (.obj _)) => readsLists
  | some none => false
  | some (some _) => true

/-- Checks the variables that no field is taken from, since all fields are set already. -/
def checkVariables (environment : List (String × String)) : Except Trouble Unit :=
  sections.forM fun (section_, lists) =>
    if readsSection environment section_ lists then .ok () else .error (.variableMalformed section_)

def variableNames : List String :=
  overrides.map (·.name) ++ sections.flatMap fun (section_, lists) =>
    ("STEPGUARD_" ++ section_.toUpper)
      :: lists.map fun key => "STEPGUARD_" ++ section_.toUpper ++ "__" ++ key.toUpper

def ofFields (h : Host) (document : Yaml.Entries) : Except Trouble Settings := do
  checkVariables h.environment
  ofEntries document

end Settings

/-! ## The library -/

/-- The library that makes settings of a document. Some keys are parameters of its own: what it makes of a document with
such a key, and whether it fails, is its own affair. -/
structure SettingsLibrary where
  owns : String → Bool
  /-- The settings that a document with such a key leads to; none if the library fails. -/
  build : Tree → List (String × String) → Yaml.Entries → Option Settings
  owns_section : ∀ s ∈ Settings.sections, owns s.1 = false

namespace SettingsLibrary

def plain : SettingsLibrary where
  owns _ := false
  build _ _ _ := none
  owns_section _ _ := rfl

def ownsKey (library : SettingsLibrary) : Yaml → Bool
  | .str s => library.owns s
  | _ => false

def settingsOf (library : SettingsLibrary) (h : Host) (document : Yaml.Entries) : Except Trouble Settings :=
  if document.any fun e => library.ownsKey e.1 then
    match library.build h.tree h.environment document with
    | some settings => .ok settings
    | none => .error .libraryFailed
  else Settings.ofFields h document

end SettingsLibrary

namespace Settings

/-- Loads the settings, with a document laid over the defaults if one is given. -/
def load (overlay : Option Path) (library : SettingsLibrary := .plain) : Job Settings :=
  Job.looking fun h => do
    let document ← withOverrides h.valueOf? (← layered h.tree overlay)
    requireTextKeys document
    library.settingsOf h document

end Settings

end ScenarioAudit
