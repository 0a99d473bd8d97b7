import ScenarioAudit.Proofs.Tree
import ScenarioAudit.Proofs.Yaml.Overlay
import ScenarioAudit.CommandLine.Run

/-! # What settings can be read from

Settings are read from a document exactly if its sections are mappings whose fields have values of their types
(`gives_ofEntries`). A variable that sets a field makes the value there irrelevant, but not whether the section around
it is a mapping (`fits_setField`). What reading fails for is never told as trouble with the configuration file.
-/

namespace ScenarioAudit

open ScenarioAudit.Number ScenarioAudit.Text ScenarioAudit.CommandLine Yaml

/-! ## Results and failures -/

section

variable {α : Type}

/-- A failure, if there is one, is no trouble with the configuration file itself. -/
abbrev Foreign (x : Except Trouble α) : Prop :=
  FailsOnly (fun e => isConfigTrouble e = false) x

theorem foreign_rejected : Foreign (.error .rejected : Except Trouble α) :=
  failsOnly_error rfl

end

/-! ## Readers -/

namespace Setting

theorem foreign_utf8Text (b : List UInt8) : Foreign (utf8Text b) := by
  rw [utf8Text]
  split
  · exact failsOnly_ok _
  · exact foreign_rejected

theorem foreign_text (v : Yaml) : Foreign (text v) := by
  cases v with
  | str s => exact failsOnly_ok _
  | bytes b => exact foreign_utf8Text b
  | _ => exact foreign_rejected

theorem foreign_codes (v : Yaml) : Foreign (codes v) := by
  rw [codes.eq_def]
  split
  · exact failsOnly_ok _
  · exact (foreign_text v).map _

theorem foreign_wholeOfField (s : String) : Foreign (wholeOfField s) := by
  rw [wholeOfField]
  split
  · split
    · exact foreign_rejected
    · split
      · exact failsOnly_ok _
      · exact foreign_rejected
  · exact foreign_rejected

theorem foreign_whole (v : Yaml) : Foreign (whole v) := by
  cases v with
  | int i | bool b => exact failsOnly_ok _
  | float x =>
    simp only [whole]
    split
    · split
      · exact failsOnly_ok _
      · exact foreign_rejected
    · exact foreign_rejected
  | str s => exact foreign_wholeOfField s
  | bytes b => exact (foreign_utf8Text b).bind foreign_wholeOfField
  | _ => exact foreign_rejected

theorem foreign_fractionOfField (s : String) : Foreign (fractionOfField s) := by
  rw [fractionOfField]
  split
  · exact failsOnly_ok _
  · exact foreign_rejected

theorem foreign_fraction (v : Yaml) : Foreign (fraction v) := by
  cases v with
  | float x | bool b => exact failsOnly_ok _
  | int i =>
    simp only [fraction]
    split
    · exact foreign_rejected
    · exact failsOnly_ok _
  | str s => exact foreign_fractionOfField s
  | bytes b => exact (foreign_utf8Text b).bind foreign_fractionOfField
  | _ => exact foreign_rejected

theorem foreign_texts (v : Yaml) : Foreign (texts v) := by
  cases v with
  | seq items | set items => exact failsOnly_mapM foreign_codes items
  | _ => exact foreign_rejected

theorem foreign_field {α : Type} {read : Yaml → Except Trouble α} (hread : ∀ v, Foreign (read v)) (es : Entries)
    (key : String) (default : α) : Foreign (field es key read default) := by
  rw [field]
  split
  · exact hread _
  · exact failsOnly_ok _

theorem foreign_mapping {α : Type} {read : Entries → Except Trouble α} (hread : ∀ es, Foreign (read es)) (v : Yaml) :
    Foreign (mapping read v) := by
  cases v with
  | map es => exact hread es
  | _ => exact foreign_rejected

theorem gives_field {α : Type} {read : Yaml → Except Trouble α} {es : Entries} {key : String} {default : α} :
    Gives (field es key read default) ↔ ∀ v, es.field? key = some v → Gives (read v) := by
  rw [field]
  cases es.field? key with
  | none => exact iff_of_true (gives_ok _) nofun
  | some v => simp

end Setting

open Setting

theorem LoggingSettings.foreign_ofEntries (es : Entries) : Foreign (LoggingSettings.ofEntries es) :=
  (foreign_field foreign_codes es _ _).bind fun _ => (foreign_field foreign_codes es _ _).bind fun _ => failsOnly_ok _

theorem IntegritySettings.foreign_ofEntries (es : Entries) : Foreign (IntegritySettings.ofEntries es) :=
  (foreign_field foreign_codes es _ _).bind fun _ => (foreign_field foreign_codes es _ _).bind fun _ =>
    (foreign_field foreign_codes es _ _).bind fun _ => (foreign_field foreign_codes es _ _).bind fun _ =>
      (foreign_field foreign_fraction es _ _).bind fun _ => failsOnly_ok _

theorem CoverageSettings.foreign_ofEntries (es : Entries) : Foreign (CoverageSettings.ofEntries es) :=
  (foreign_field foreign_fraction es _ _).bind fun _ => (foreign_field foreign_whole es _ _).bind fun _ => failsOnly_ok _

theorem QualitySettings.foreign_ofEntries (es : Entries) : Foreign (QualitySettings.ofEntries es) :=
  (foreign_field (fun v => (foreign_texts v).map _) es _ _).bind fun _ =>
    (foreign_field foreign_whole es _ _).bind fun _ => failsOnly_ok _

namespace Settings

theorem foreign_ofEntries (doc : Entries) : Foreign (ofEntries doc) :=
  (foreign_field (foreign_mapping LoggingSettings.foreign_ofEntries) doc _ _).bind fun _ =>
    (foreign_field (foreign_mapping IntegritySettings.foreign_ofEntries) doc _ _).bind fun _ =>
      (foreign_field (foreign_mapping CoverageSettings.foreign_ofEntries) doc _ _).bind fun _ =>
        (foreign_field (foreign_mapping QualitySettings.foreign_ofEntries) doc _ _).bind fun _ => failsOnly_ok _

/-! ## What a document has to hold -/

/-- A section of a document: its fields, each with the values that it takes. -/
structure SectionRule where
  name : String
  fields : List (String × (Yaml → Prop))

def loggingRule : SectionRule :=
  ⟨"logging", [("level", fun v => Gives (codes v)), ("format", fun v => Gives (codes v))]⟩

def integrityRule : SectionRule :=
  ⟨"integrity", [("record_filename", fun v => Gives (codes v)), ("record_key", fun v => Gives (codes v)),
    ("notes_ref", fun v => Gives (codes v)), ("empty_sentinel", fun v => Gives (codes v)),
    ("git_timeout_s", fun v => Gives (fraction v))]⟩

def coverageRule : SectionRule :=
  ⟨"coverage", [("dry_run_timeout_s", fun v => Gives (fraction v)), ("max_detail_lines", fun v => Gives (whole v))]⟩

def qualityRule : SectionRule :=
  ⟨"quality", [("assertion_keywords", fun v => Gives (texts v)), ("heuristic_lookahead", fun v => Gives (whole v))]⟩

def sectionRules : List SectionRule :=
  [loggingRule, integrityRule, coverageRule, qualityRule]

/-- A section that is there is a mapping, and the fields in it have values that they take, or are exempt. -/
structure SectionFits (exempt : String → String → Prop) (doc : Entries) (r : SectionRule) : Prop where
  isMapping : ∀ v, doc.field? r.name = some v → v.IsMapping
  takes : ∀ f ∈ r.fields, ∀ v, at? (.map doc) [.str r.name, .str f.1] = some v → f.2 v ∨ exempt r.name f.1

def Fits (exempt : String → String → Prop) (doc : Entries) : Prop :=
  ∀ r ∈ sectionRules, SectionFits exempt doc r

theorem at?_section (doc : Entries) (s f : String) :
    at? (.map doc) [.str s, .str f] = (doc.field? s).bind fun v => v.at? [.str f] :=
  at?_map _ _ _

theorem at?_field (es : Entries) (f : String) : at? (.map es) [.str f] = es.field? f := by
  simp [at?_map, Entries.field?]

theorem gives_section {α : Type} {read : Entries → Except Trouble α} {doc : Entries} {r : SectionRule} {default : α}
    (hread : ∀ es, Gives (read es) ↔ ∀ f ∈ r.fields, ∀ v, es.field? f.1 = some v → f.2 v) :
    Gives (field doc r.name (mapping read) default) ↔ SectionFits (fun _ _ => False) doc r := by
  rw [gives_field]
  constructor
  · intro h
    refine ⟨fun v hv => ?_, fun f hf w hw => Or.inl ?_⟩
    · obtain ⟨a, ha⟩ := h v hv
      cases v with
      | map es => trivial
      | _ => cases ha
    · rw [at?_section] at hw
      obtain ⟨v, hv, hw⟩ := Option.bind_eq_some_iff.mp hw
      cases v with
      | map es => exact (hread es).mp (h _ hv) f hf w ((at?_field es f.1).symm.trans hw)
      | _ => simp [at?] at hw
  · intro h v hv
    cases v with
    | map es =>
      refine (hread es).mpr fun f hf w hw => (h.takes f hf w ?_).resolve_right id
      rw [at?_section, hv, Option.bind_some, at?_field, hw]
    | _ => exact (h.isMapping _ hv).elim

theorem gives_logging (es : Entries) : Gives (LoggingSettings.ofEntries es) ↔
    ∀ f ∈ loggingRule.fields, ∀ v, es.field? f.1 = some v → f.2 v := by
  refine (gives_bind_const fun _ => gives_bind_const fun _ => gives_pure _).trans ?_
  simp only [loggingRule, List.forall_mem_cons, gives_field, List.not_mem_nil, false_imp_iff, implies_true]

theorem gives_integrity (es : Entries) : Gives (IntegritySettings.ofEntries es) ↔
    ∀ f ∈ integrityRule.fields, ∀ v, es.field? f.1 = some v → f.2 v := by
  refine (gives_bind_const fun _ => gives_bind_const fun _ => gives_bind_const fun _ => gives_bind_const fun _ =>
    gives_bind_const fun _ => gives_pure _).trans ?_
  simp only [integrityRule, List.forall_mem_cons, gives_field, List.not_mem_nil, false_imp_iff, implies_true]

theorem gives_coverage (es : Entries) : Gives (CoverageSettings.ofEntries es) ↔
    ∀ f ∈ coverageRule.fields, ∀ v, es.field? f.1 = some v → f.2 v := by
  refine (gives_bind_const fun _ => gives_bind_const fun _ => gives_pure _).trans ?_
  simp only [coverageRule, List.forall_mem_cons, gives_field, List.not_mem_nil, false_imp_iff, implies_true]

theorem gives_quality (es : Entries) : Gives (QualitySettings.ofEntries es) ↔
    ∀ f ∈ qualityRule.fields, ∀ v, es.field? f.1 = some v → f.2 v := by
  refine (gives_bind_const fun _ => gives_bind_const fun _ => gives_pure _).trans ?_
  simp only [qualityRule, List.forall_mem_cons, gives_field, gives_map, List.not_mem_nil, false_imp_iff, implies_true]

/-- **Settings are read from a document that fits**, and from no other. -/
theorem gives_ofEntries {doc : Entries} : Gives (ofEntries doc) ↔ Fits (fun _ _ => False) doc := by
  refine (gives_bind_const fun _ => gives_bind_const fun _ => gives_bind_const fun _ => gives_bind_const fun _ =>
    gives_pure _).trans ?_
  refine (and_congr (gives_section gives_logging) (and_congr (gives_section gives_integrity)
    (and_congr (gives_section gives_coverage) (and_congr (gives_section gives_quality) Iff.rfl)))).trans ?_
  simp only [Fits, sectionRules, List.forall_mem_cons, List.not_mem_nil, false_imp_iff, implies_true]

/-! ## Variables that set a field -/

theorem gives_setField {s f : String} {v : Yaml} {doc : Entries} :
    Gives (setField s f v doc) ↔ ∀ w, doc.field? s = some w → w.IsMapping := by
  rw [setField]
  cases hs : doc.field? s with
  | none => exact iff_of_true (gives_ok _) nofun
  | some w =>
    cases w with
    | map fields => exact iff_of_true (gives_ok _) fun w hw => Option.some.inj hw ▸ trivial
    | _ => exact iff_of_false (not_gives_error _) fun h => h _ rfl

section

variable {s f : String} {v : Yaml} {doc doc' : Entries}

/-- Setting a field puts a section with the field in the place of the section that was there. -/
theorem setField_eq_ok (h : setField s f v doc = .ok doc') :
    ∃ fields : Entries, doc' = doc.put (.str s) (.map (fields.put (.str f) v)) ∧
      ∀ f', at? (.map doc) [.str s, .str f'] = fields.field? f' := by
  rw [setField] at h
  split at h
  case h_1 fields hfields =>
    refine ⟨fields, (Except.ok.inj h).symm, fun f' => ?_⟩
    rw [at?_section]
    cases hs : doc.field? s with
    | none =>
      rw [hs] at hfields
      cases hfields
      rfl
    | some w =>
      rw [hs] at hfields
      cases hfields
      exact at?_field fields f'
  case h_2 => cases h

theorem at?_setField (h : setField s f v doc = .ok doc') (s' f' : String) :
    at? (.map doc') [.str s', .str f'] = if s = s' ∧ f = f' then some v else at? (.map doc) [.str s', .str f'] := by
  obtain ⟨fields, rfl, hfields⟩ := setField_eq_ok h
  rw [at?_section, Entries.field?_put]
  by_cases hs : s = s'
  · subst hs
    rw [if_pos rfl, Option.bind_some, at?_field, Entries.field?_put, hfields]
    simp
  · rw [if_neg hs, if_neg fun h => hs h.1, at?_section]

theorem isMapping_setField (h : setField s f v doc = .ok doc') (s' : String) :
    (∀ w, doc'.field? s' = some w → w.IsMapping) ↔ s = s' ∨ ∀ w, doc.field? s' = some w → w.IsMapping := by
  obtain ⟨fields, rfl, -⟩ := setField_eq_ok h
  rw [Entries.field?_put]
  by_cases hs : s = s'
  · rw [if_pos hs]
    exact iff_of_true (fun w hw => Option.some.inj hw ▸ trivial) (Or.inl hs)
  · simp [hs]

end

/-- **Setting a field.** It succeeds with a document that fits if the document before it does but for the value of the
field. -/
theorem fits_setField {exempt : String → String → Prop} {s f : String} {v : Yaml} {doc : Entries}
    (hs : ∃ r ∈ sectionRules, r.name = s)
    (hv : ∀ r ∈ sectionRules, r.name = s → ∀ g ∈ r.fields, g.1 = f → g.2 v) :
    (∃ doc', setField s f v doc = .ok doc' ∧ Fits exempt doc') ↔
      Fits (fun s' f' => exempt s' f' ∨ s = s' ∧ f = f') doc := by
  constructor
  · rintro ⟨doc', hset, hfits⟩ r hr
    have hmappings := gives_setField.mp ⟨doc', hset⟩
    refine ⟨fun w hw => ?_, fun g hg w hw => ?_⟩
    · by_cases hname : s = r.name
      · exact hmappings w (hname ▸ hw)
      · exact ((isMapping_setField hset r.name).mp (hfits r hr).isMapping).resolve_left hname w hw
    · by_cases hsame : s = r.name ∧ f = g.1
      · exact Or.inr (Or.inr hsame)
      · refine ((hfits r hr).takes g hg w ?_).imp_right Or.inl
        rw [at?_setField hset, if_neg hsame, hw]
  · intro hfits
    obtain ⟨r₀, hr₀, rfl⟩ := hs
    obtain ⟨doc', hset⟩ := gives_setField.mpr (hfits r₀ hr₀).isMapping
    refine ⟨doc', hset, fun r hr => ⟨(isMapping_setField hset r.name).mpr (Or.inr (hfits r hr).isMapping), ?_⟩⟩
    intro g hg w hw
    rw [at?_setField hset] at hw
    by_cases hsame : r₀.name = r.name ∧ f = g.1
    · rw [if_pos hsame] at hw
      obtain rfl := Option.some.inj hw
      exact Or.inl (hv r hr hsame.1.symm g hg hsame.2.symm)
    · rw [if_neg hsame] at hw
      exact ((hfits r hr).takes g hg w hw).imp_right fun hex => hex.resolve_right hsame

end Settings

end ScenarioAudit
