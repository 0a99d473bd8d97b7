import Mathlib
import ScenarioAudit.Proofs.Corpus.Source
import ScenarioAudit.Proofs.Host
import ScenarioAudit.Proofs.Settings.Fields
import ScenarioAudit.Proofs.Text.LineEnds
import ScenarioAudit.Proofs.Yaml.Document

/-! # Which configurations are told

Loading settings ends with the settings, with a failure that is told as trouble with the configuration file, or with
any other failure. `load_told_iff` says of which files and variables it is one of the first two: besides a file that
cannot be read, a section that is no mapping, a value of another type, a key that is no text, a key that is a parameter
of the library which it fails on, and a time limit in a variable that is no numeral are not told
(`bad_settings_escape`).
-/

namespace ScenarioAudit.Settings

open ScenarioAudit.Number ScenarioAudit.Text ScenarioAudit.CommandLine ScenarioAudit.Setting Yaml

/-! ## Variables -/

/-- A document with the value of one variable set, if the variable has one. -/
def applyOverride (valueOf : String → Option String) (doc : Entries) (x : Override) : Except Trouble Entries :=
  match valueOf x.name with
  | none => .ok doc
  | some s => do setField x.section_ x.field (← x.read s) doc

theorem applyOverride_none {valueOf : String → Option String} {x : Override} (h : valueOf x.name = none)
    (doc : Entries) : applyOverride valueOf doc x = .ok doc := by
  rw [applyOverride, h]

theorem applyOverride_some {valueOf : String → Option String} {x : Override} {text : String}
    (h : valueOf x.name = some text) (doc : Entries) :
    applyOverride valueOf doc x = x.read text >>= fun v => setField x.section_ x.field v doc := by
  rw [applyOverride, h]

def SetBy (valueOf : String → Option String) (xs : List Override) (s f : String) : Prop :=
  ∃ x ∈ xs, (valueOf x.name).isSome ∧ x.section_ = s ∧ x.field = f

theorem setBy_nil (valueOf : String → Option String) : SetBy valueOf [] = fun _ _ => False := by
  funext s f
  simp [SetBy]

theorem setBy_cons_none {valueOf : String → Option String} {x : Override} (h : valueOf x.name = none)
    (xs : List Override) : SetBy valueOf (x :: xs) = SetBy valueOf xs := by
  funext s f
  simp [SetBy, h]

theorem setBy_cons_some {valueOf : String → Option String} {x : Override} {text : String}
    (h : valueOf x.name = some text) (xs : List Override) :
    SetBy valueOf (x :: xs) = fun s f => SetBy valueOf xs s f ∨ x.section_ = s ∧ x.field = f := by
  funext s f
  simp [SetBy, h, or_comm]

theorem overrides_section {x : Override} (hx : x ∈ overrides) : ∃ r ∈ sectionRules, r.name = x.section_ := by
  simp only [overrides, List.mem_cons, List.not_mem_nil, or_false] at hx
  rcases hx with rfl | rfl | rfl | rfl <;> simp [sectionRules, loggingRule, integrityRule, coverageRule, qualityRule]

theorem overrides_take {x : Override} (hx : x ∈ overrides) {text : String} {v : Yaml} (hv : x.read text = .ok v) :
    ∀ r ∈ sectionRules, r.name = x.section_ → ∀ g ∈ r.fields, g.1 = x.field → g.2 v := by
  simp only [overrides, List.mem_cons, List.not_mem_nil, or_false] at hx
  have htext : Gives (Setting.codes (.str text)) := gives_ok _
  have hnumber : ∀ {y}, Gives (fraction (.float y)) := gives_ok _
  rcases hx with rfl | rfl | rfl | rfl
  case inr.inr.inl =>
    simp only [fractionOfVariable] at hv
    split at hv
    · obtain rfl := Except.ok.inj hv
      simp only [sectionRules, loggingRule, integrityRule, coverageRule, qualityRule, List.forall_mem_cons]
      simp [hnumber]
    · cases hv
  all_goals
    obtain rfl := Except.ok.inj hv
    simp only [sectionRules, loggingRule, integrityRule, coverageRule, qualityRule, List.forall_mem_cons]
    simp [htext]

/-- **Variables fill a document.** All of them are read, and the document fits after them, exactly if each one that is
set has a value and the document before them fits but for the fields that they set. -/
theorem fits_overrides {valueOf : String → Option String} {xs : List Override} (hxs : ∀ x ∈ xs, x ∈ overrides)
    (doc : Entries) :
    (∃ doc', xs.foldlM (applyOverride valueOf) doc = .ok doc' ∧ Fits (fun _ _ => False) doc') ↔
      (∀ x ∈ xs, ∀ text, valueOf x.name = some text → Gives (x.read text)) ∧ Fits (SetBy valueOf xs) doc := by
  induction xs generalizing doc with
  | nil => simp [setBy_nil, pure, Except.pure]
  | cons x xs ih =>
    obtain ⟨hx, hxs⟩ := List.forall_mem_cons.mp hxs
    rw [List.foldlM_cons, exists_bind_eq_ok, List.forall_mem_cons]
    simp only [ih hxs]
    cases hvalue : valueOf x.name with
    | none => simp [applyOverride_none hvalue, setBy_cons_none hvalue]
    | some text =>
      rw [applyOverride_some hvalue, setBy_cons_some hvalue]
      cases hread : x.read text with
      | error e => exact iff_of_false nofun fun h => not_gives_error e (hread ▸ h.1.1 text rfl)
      | ok v =>
        rw [← fits_setField (overrides_section hx) (overrides_take hx hread)]
        constructor
        · rintro ⟨doc', hset, hread', hfits⟩
          exact ⟨⟨fun _ h => Option.some.inj h ▸ ⟨v, hread⟩, hread'⟩, doc', hset, hfits⟩
        · rintro ⟨⟨-, hread'⟩, doc', hset, hfits⟩
          exact ⟨doc', hset, hread', hfits⟩

theorem foreign_setField (s f : String) (v : Yaml) (doc : Entries) : Foreign (setField s f v doc) := by
  rw [setField]
  split
  · exact failsOnly_ok _
  · exact failsOnly_error rfl

theorem foreign_read {x : Override} (hx : x ∈ overrides) (text : String) : Foreign (x.read text) := by
  simp only [overrides, List.mem_cons, List.not_mem_nil, or_false] at hx
  rcases hx with rfl | rfl | rfl | rfl
  case inr.inr.inl =>
    simp only [fractionOfVariable]
    split
    · exact failsOnly_ok _
    · exact failsOnly_error rfl
  all_goals exact failsOnly_ok _

theorem foreign_overrides {valueOf : String → Option String} {xs : List Override} (hxs : ∀ x ∈ xs, x ∈ overrides)
    (doc : Entries) : Foreign (xs.foldlM (applyOverride valueOf) doc) := by
  induction xs generalizing doc with
  | nil => exact failsOnly_ok _
  | cons x xs ih =>
    obtain ⟨hx, hxs⟩ := List.forall_mem_cons.mp hxs
    rw [List.foldlM_cons]
    refine FailsOnly.bind ?_ (ih hxs)
    cases hvalue : valueOf x.name with
    | none =>
      rw [applyOverride_none hvalue]
      exact failsOnly_ok _
    | some text =>
      rw [applyOverride_some hvalue]
      exact (foreign_read hx text).bind fun v => foreign_setField _ _ _ _

/-! ## Keys -/

section AllKeys

def AllKeys (P : Yaml → Prop) (doc : Entries) : Prop :=
  ∀ e ∈ doc, P e.1

variable {P : Yaml → Prop} (hP : ∀ k k', sameKey k k' = true → P k → P k')

include hP

theorem allKeys_put {doc : Entries} {k v : Yaml} : AllKeys P (doc.put k v) ↔ AllKeys P doc ∧ P k := by
  simp only [AllKeys]
  induction doc with
  | nil => simp [Entries.put]
  | cons e doc ih =>
    obtain ⟨k', w⟩ := e
    rw [Entries.put]
    split
    next hsame =>
      rw [List.forall_mem_cons, List.forall_mem_cons, and_assoc]
      exact and_congr_right fun hk' => (and_iff_left (hP k' k hsame hk')).symm
    next => rw [List.forall_mem_cons, List.forall_mem_cons, ih, and_assoc]

theorem allKeys_overlay {below above : Entries} :
    AllKeys P (below.overlay above) ↔ AllKeys P below ∧ AllKeys P above := by
  induction above generalizing below with
  | nil => simp [Entries.overlay, AllKeys]
  | cons e above ih =>
    obtain ⟨k, v⟩ := e
    rw [Entries.overlay, ih, allKeys_put hP, and_assoc]
    simp only [AllKeys, List.forall_mem_cons]

theorem allKeys_setField {s f : String} (hs : P (.str s)) {v : Yaml} {doc doc' : Entries}
    (h : setField s f v doc = .ok doc') : AllKeys P doc' ↔ AllKeys P doc := by
  obtain ⟨fields, rfl, -⟩ := setField_eq_ok h
  rw [allKeys_put hP]
  exact and_iff_left hs

theorem allKeys_overrides {valueOf : String → Option String} {xs : List Override}
    (hxs : ∀ x ∈ xs, P (.str x.section_)) {doc doc' : Entries}
    (h : xs.foldlM (applyOverride valueOf) doc = .ok doc') : AllKeys P doc' ↔ AllKeys P doc := by
  induction xs generalizing doc with
  | nil => rw [Except.ok.inj h]
  | cons x xs ih =>
    obtain ⟨hx, hxs⟩ := List.forall_mem_cons.mp hxs
    rw [List.foldlM_cons] at h
    obtain ⟨doc₁, hfirst, h⟩ := bind_eq_ok h
    rw [ih hxs h]
    cases hvalue : valueOf x.name with
    | none =>
      rw [applyOverride_none hvalue] at hfirst
      rw [Except.ok.inj hfirst]
    | some text =>
      rw [applyOverride_some hvalue] at hfirst
      obtain ⟨v, -, hset⟩ := bind_eq_ok hfirst
      exact allKeys_setField hP hx hset

end AllKeys

/-- A key that can name a section. -/
def IsText : Yaml → Prop
  | .str _ | .codes _ => True
  | _ => False

abbrev TextKeys (doc : Entries) : Prop :=
  AllKeys IsText doc

theorem isText_of_sameKey (k k' : Yaml) (h : sameKey k k' = true) (hk : IsText k) : IsText k' := by
  cases k with
  | str s | codes s =>
    cases k' with
    | str t | codes t => trivial
    | _ => simp [sameKey] at h
  | _ => exact hk.elim

abbrev Unasked (library : SettingsLibrary) (doc : Entries) : Prop :=
  AllKeys (fun k => library.ownsKey k = false) doc

theorem ownsKey_of_sameKey (library : SettingsLibrary) (k k' : Yaml) (h : sameKey k k' = true)
    (hk : library.ownsKey k = false) : library.ownsKey k' = false := by
  cases k' with
  | str s => exact sameKey_str_iff.mp h ▸ hk
  | _ => rfl

theorem unasked_plain (doc : Entries) : Unasked .plain doc := by
  intro e _
  cases e.1 with
  | _ => rfl

theorem gives_requireTextKeys {doc : Entries} : Gives (requireTextKeys doc) ↔ TextKeys doc := by
  simp only [requireTextKeys]
  split
  · refine iff_of_true (gives_ok _) fun e he => ?_
    have htext := List.all_eq_true.mp ‹_› e he
    cases hk : e.1 with
    | str | codes => trivial
    | _ => simp [hk] at htext
  · refine iff_of_false (not_gives_error _) fun hkeys => ‹¬ _› (List.all_eq_true.mpr fun e he => ?_)
    have htext := hkeys e he
    cases hk : e.1 with
    | str | codes => rfl
    | _ =>
      rw [hk] at htext
      exact htext.elim

theorem foreign_requireTextKeys (doc : Entries) : Foreign (requireTextKeys doc) := by
  simp only [requireTextKeys]
  split
  · exact failsOnly_ok _
  · exact failsOnly_error rfl

/-! ## From a document -/

section FromDocument

variable (library : SettingsLibrary) (h : Host)

/-- The settings of a document, after the variables are looked at. -/
def ofDocument (doc : Entries) : Except Trouble Settings := do
  let document ← withOverrides h.valueOf? doc
  requireTextKeys document
  library.settingsOf h document

theorem runOn_load (overlay : Option Path) :
    (load overlay library).runOn h = (layered h.tree overlay >>= ofDocument library h, h) :=
  Job.runOn_looking _ h

theorem foreign_checkVariables (environment : List (String × String)) : Foreign (checkVariables environment) := by
  refine failsOnly_forM (fun s => ?_) sections
  obtain ⟨section_, lists⟩ := s
  dsimp only
  split
  · exact failsOnly_ok _
  · exact failsOnly_error rfl

theorem foreign_settingsOf (doc : Entries) : Foreign (library.settingsOf h doc) := by
  rw [SettingsLibrary.settingsOf]
  split
  · cases library.build h.tree h.environment doc with
    | none => exact failsOnly_error rfl
    | some settings => exact failsOnly_ok _
  · exact (foreign_checkVariables h.environment).bind fun _ => foreign_ofEntries doc

theorem foreign_ofDocument (doc : Entries) : Foreign (ofDocument library h doc) :=
  (foreign_overrides (fun _ hx => hx) doc).bind fun document => (foreign_requireTextKeys document).bind fun _ =>
    foreign_settingsOf library h document

variable {library h} {doc : Entries}

theorem asked_iff : (doc.any fun e => library.ownsKey e.1) = true ↔ ¬ Unasked library doc := by
  simp [Unasked, AllKeys]

theorem gives_settingsOf_of_unasked (hunasked : Unasked library doc) :
    Gives (library.settingsOf h doc) ↔ Gives (checkVariables h.environment) ∧ Fits (fun _ _ => False) doc := by
  rw [SettingsLibrary.settingsOf, if_neg (mt asked_iff.mp (not_not.mpr hunasked))]
  exact gives_bind_const fun _ => gives_ofEntries

theorem gives_settingsOf_of_asked (hasked : ¬ Unasked library doc) :
    Gives (library.settingsOf h doc) ↔ (library.build h.tree h.environment doc).isSome = true := by
  rw [SettingsLibrary.settingsOf, if_pos (asked_iff.mpr hasked)]
  cases library.build h.tree h.environment doc with
  | none => exact iff_of_false (not_gives_error _) Bool.false_ne_true
  | some settings => exact iff_of_true (gives_ok _) rfl

theorem ownsKey_section {x : Override} (hx : x ∈ overrides) : library.ownsKey (.str x.section_) = false := by
  have hmem : ∀ x ∈ overrides, ∃ s ∈ sections, s.1 = x.section_ := by simp [overrides, sections]
  obtain ⟨s, hs, hname⟩ := hmem x hx
  exact hname ▸ library.owns_section s hs

theorem unasked_overrides {document : Entries} (hdoc : withOverrides h.valueOf? doc = .ok document) :
    Unasked library document ↔ Unasked library doc :=
  allKeys_overrides (ownsKey_of_sameKey library) (fun _ hx => ownsKey_section hx) hdoc

theorem textKeys_overrides {document : Entries} (hdoc : withOverrides h.valueOf? doc = .ok document) :
    TextKeys document ↔ TextKeys doc :=
  allKeys_overrides isText_of_sameKey (fun _ _ => trivial) hdoc

theorem gives_ofDocument_of_unasked (hunasked : Unasked library doc) :
    Gives (ofDocument library h doc) ↔
      (∀ x ∈ overrides, ∀ text, h.valueOf? x.name = some text → Gives (x.read text)) ∧
        Fits (SetBy h.valueOf? overrides) doc ∧ TextKeys doc ∧ Gives (checkVariables h.environment) := by
  rw [← and_assoc, ← fits_overrides (fun _ hx => hx) doc, ofDocument, gives_bind]
  constructor
  · rintro ⟨document, hdoc, hrest⟩
    rw [gives_bind_const fun _ => gives_settingsOf_of_unasked ((unasked_overrides hdoc).mpr hunasked),
      gives_requireTextKeys] at hrest
    obtain ⟨hkeys, hvariables, hfits⟩ := hrest
    exact ⟨⟨document, hdoc, hfits⟩, (textKeys_overrides hdoc).mp hkeys, hvariables⟩
  · rintro ⟨⟨document, hdoc, hfits⟩, hkeys, hvariables⟩
    refine ⟨document, hdoc, ?_⟩
    rw [gives_bind_const fun _ => gives_settingsOf_of_unasked ((unasked_overrides hdoc).mpr hunasked),
      gives_requireTextKeys]
    exact ⟨(textKeys_overrides hdoc).mpr hkeys, hvariables, hfits⟩

theorem gives_ofDocument_of_asked (hasked : ¬ Unasked library doc) :
    Gives (ofDocument library h doc) ↔ TextKeys doc ∧ ∃ document, withOverrides h.valueOf? doc = .ok document ∧
      (library.build h.tree h.environment document).isSome = true := by
  rw [ofDocument, gives_bind, ← exists_and_left]
  refine exists_congr fun document => ?_
  rw [and_left_comm]
  refine and_congr_right fun hdoc => ?_
  rw [gives_bind_const fun _ => gives_settingsOf_of_asked (mt (unasked_overrides hdoc).mp hasked),
    gives_requireTextKeys, textKeys_overrides hdoc]

end FromDocument

/-! ## Defaults -/

theorem regular_defaults : Regular (.map (toEntries {})) := by
  have hwhole (i : ℤ) : (Binary64.ofInt i).Proper := (Binary64.rounded_ofInt i).proper
  refine ⟨by simp [toEntries, Entries.Distinct, sameKey], ?_⟩
  simp [toEntries, LoggingSettings.toYaml, IntegritySettings.toYaml, CoverageSettings.toYaml,
    QualitySettings.toYaml, RegularEntries, Regular, regularItems_iff, Entries.Distinct, sameKey, regular_ofCodes,
    hwhole]

theorem gives_codes_ofCodes (s : CodePoints) : Gives (Setting.codes (Yaml.ofCodes s)) := by
  rw [ofCodes]
  split <;> exact gives_ok _

theorem not_isMapping_ofCodes (s : CodePoints) : ¬ (ofCodes s).IsMapping := by
  rw [ofCodes]
  split <;> exact id

theorem toEntries_hold (s : Settings) {r : SectionRule} (hr : r ∈ sectionRules) :
    (∃ fields, s.toEntries.field? r.name = some (.map fields)) ∧
      ∀ f ∈ r.fields, ∃ v, at? (.map s.toEntries) [.str r.name, .str f.1] = some v ∧ ¬ v.IsMapping ∧ f.2 v := by
  have hnumber (x : Binary64) : Gives (fraction (.float x)) := gives_ok x
  have hcount (i : ℤ) : Gives (whole (.int i)) := gives_ok i
  have hwords (ks : List CodePoints) : Gives (texts (.seq (ks.map ofCodes))) := exists_mapM fun v hv => by
    obtain ⟨k, -, rfl⟩ := List.mem_map.mp hv
    exact gives_codes_ofCodes k
  have hplain : (∀ x, ¬ (Yaml.float x).IsMapping) ∧ (∀ i, ¬ (Yaml.int i).IsMapping) ∧ ∀ vs, ¬ (Yaml.seq vs).IsMapping :=
    ⟨fun _ => id, fun _ => id, fun _ => id⟩
  simp only [sectionRules, List.mem_cons, List.not_mem_nil, or_false] at hr
  rcases hr with rfl | rfl | rfl | rfl
  all_goals
    simp only [loggingRule, integrityRule, coverageRule, qualityRule, List.forall_mem_cons]
  · refine ⟨⟨_, rfl⟩, ?_, ?_, List.forall_mem_nil _⟩ <;>
      simp [toEntries, LoggingSettings.toYaml, Entries.get?_cons, sameKey, at?_map, not_isMapping_ofCodes,
        gives_codes_ofCodes]
  · refine ⟨⟨_, rfl⟩, ?_, ?_, ?_, ?_, ?_, List.forall_mem_nil _⟩ <;>
      simp [toEntries, IntegritySettings.toYaml, Entries.get?_cons, sameKey, at?_map, not_isMapping_ofCodes,
        gives_codes_ofCodes, hnumber, hplain]
  · refine ⟨⟨_, rfl⟩, ?_, ?_, List.forall_mem_nil _⟩ <;>
      simp [toEntries, CoverageSettings.toYaml, Entries.get?_cons, sameKey, at?_map, hnumber, hcount, hplain]
  · refine ⟨⟨_, rfl⟩, ?_, ?_, List.forall_mem_nil _⟩ <;>
      simp [toEntries, QualitySettings.toYaml, Entries.get?_cons, sameKey, at?_map, hwords, hcount, hplain]

theorem textKeys_defaults : TextKeys (toEntries {}) := by
  simp [AllKeys, toEntries, IsText]

theorem unasked_defaults (library : SettingsLibrary) : Unasked library (toEntries {}) := by
  intro e he
  have hmem : ∃ s ∈ sections, e.1 = .str s.1 := by
    revert e
    simp [toEntries, sections]
  obtain ⟨s, hs, hkey⟩ := hmem
  rw [hkey]
  exact library.owns_section s hs

theorem SectionFits.not_blocks {exempt : String → String → Prop} {es : Entries} {r : SectionRule}
    (h : SectionFits exempt es r) {f : String} : ¬ Blocks (.map es) [.str r.name, .str f] := by
  rw [blocks_map]
  rintro ⟨v, hv, hblock⟩
  cases v with
  | map fields =>
    obtain ⟨w, -, hblock⟩ := blocks_map.mp hblock
    exact not_blocks_nil w hblock
  | _ => exact h.isMapping _ hv

/-- **The defaults fit under every document**: what is laid over them fits if the document does. -/
theorem fits_overlay {exempt : String → String → Prop} {es : Entries} (hes : Regular (.map es)) :
    Fits exempt ((toEntries {}).overlay es) ↔ Fits exempt es := by
  have hover : overlayAt (some (.map (toEntries {}))) (.map es) = .map ((toEntries {}).overlay es) := by
    rw [overlayAt]
  have hdefaults : ∀ w ∈ some (Yaml.map (toEntries {})), w.Regular := fun w hw =>
    Option.some.inj hw ▸ regular_defaults
  have hpath (s f : String) : RegularItems [.str s, .str f] := ⟨trivial, trivial, trivial⟩
  have hkey (s : String) : (Yaml.str s).Regular := trivial
  have hset {s : String} {v : Yaml} (hv : es.field? s = some v) :
      ((toEntries {}).overlay es).field? s = some (overlayAt ((toEntries {}).field? s) v) := by
    simp only [Entries.field?] at hv ⊢
    rw [Entries.get?_overlay regular_defaults.keys hes.keys hes.1 (hkey s), hv]
  have hunset {s : String} (hv : es.field? s = none) :
      ((toEntries {}).overlay es).field? s = (toEntries {}).field? s := by
    simp only [Entries.field?] at hv ⊢
    rw [Entries.get?_overlay regular_defaults.keys hes.keys hes.1 (hkey s), hv]
  constructor
  · intro hfits r hr
    obtain ⟨-, hholds⟩ := toEntries_hold {} hr
    refine ⟨fun v hv => ?_, fun f hf v hv => ?_⟩
    · exact isMapping_overlayAt.mp ((hfits r hr).isMapping _ (hset hv))
    · obtain ⟨d, hd, hplain, -⟩ := hholds f hf
      refine (hfits r hr).takes f hf v ?_
      rw [← hover, at?_overlayAt hdefaults hes (hpath r.name f.1) hv, Option.bind_some, hd,
        overlayAt_some_of_not_mapping hplain]
  · intro hfits r hr
    obtain ⟨⟨fields, hfields⟩, hholds⟩ := toEntries_hold {} hr
    refine ⟨fun w hw => ?_, fun f hf w hw => ?_⟩
    · cases hv : es.field? r.name with
      | none =>
        rw [hunset hv, hfields] at hw
        exact Option.some.inj hw ▸ trivial
      | some v =>
        rw [hset hv] at hw
        exact Option.some.inj hw ▸ isMapping_overlayAt.mpr ((hfits r hr).isMapping v hv)
    · obtain ⟨d, hd, hplain, htakes⟩ := hholds f hf
      rw [← hover] at hw
      cases hv : at? (.map es) [.str r.name, .str f.1] with
      | none =>
        rw [at?_overlayAt_of_not_blocks hdefaults hes (hpath r.name f.1) hv (hfits r hr).not_blocks, Option.bind_some,
          hd] at hw
        exact Or.inl (Option.some.inj hw ▸ htakes)
      | some v =>
        rw [at?_overlayAt hdefaults hes (hpath r.name f.1) hv, Option.bind_some, hd,
          overlayAt_some_of_not_mapping hplain] at hw
        exact Option.some.inj hw ▸ (hfits r hr).takes f hf v hv

/-! ## Layers -/

/-- The document that is laid over the defaults: none, the mapping that a file holds, or an empty one if the file holds
nothing that counts. -/
inductive LaidOver (t : Tree) : Option Path → Entries → Prop
  | none : LaidOver t none []
  | mapping {p : Path} {s : List Char} {es : Entries} (hexists : t.pathExists p = .ok true)
    (hread : t.readStrict p = .ok s) (hvalue : Yaml.ofText s = .ok (.map es)) : LaidOver t (some p) es
  | nothing {p : Path} {s : List Char} {v : Yaml} (hexists : t.pathExists p = .ok true)
    (hread : t.readStrict p = .ok s) (hvalue : Yaml.ofText s = .ok v) (hempty : v.isEmpty = true) :
    LaidOver t (some p) []

/-- A file cannot be looked up, cannot be read as text, or has a scalar without a value, for a cause that is not
told. -/
inductive Unread (t : Tree) : Option Path → Trouble → Prop
  | path {p : Path} {e : Trouble} (h : t.pathExists p = .error e) : Unread t (some p) e
  | text {p : Path} {e : Trouble} (hexists : t.pathExists p = .ok true) (h : t.readStrict p = .error e) :
    Unread t (some p) e
  | value {p : Path} {s : List Char} {e : Trouble} (hexists : t.pathExists p = .ok true)
    (hread : t.readStrict p = .ok s) (h : Yaml.ofText s = .error (.cause e)) (hforeign : isConfigTrouble e = false) :
    Unread t (some p) e

theorem foreign_find (t : Tree) (p : Path) : Foreign (t.find p) := by
  refine FailsOnly.bind ?_ fun place => ?_
  · rw [Tree.walk]
    split
    · exact failsOnly_error rfl
    split
    · exact failsOnly_error rfl
    split
    · exact failsOnly_error rfl
    · exact failsOnly_ok _
  · cases place with
    | outside => exact failsOnly_ok _
    | inside names =>
      dsimp only
      split
      · exact failsOnly_ok _
      · exact failsOnly_error rfl

theorem foreign_pathExists (t : Tree) (p : Path) : Foreign (t.pathExists p) := by
  refine FailsOnly.map ?_ _
  rw [Tree.look]
  split
  · exact failsOnly_ok _
  · split
    · exact failsOnly_ok _
    · exact failsOnly_error (foreign_find t p _ ‹_›)

theorem foreign_readStrict (t : Tree) (p : Path) : Foreign (t.readStrict p) := by
  refine FailsOnly.bind ?_ fun bytes => ?_
  · rw [Tree.readBytes]
    split
    · exact failsOnly_ok _
    · exact failsOnly_error rfl
    · exact failsOnly_error (foreign_find t p _ ‹_›)
  · rw [Tree.strictText]
    split
    · exact failsOnly_ok _
    · exact failsOnly_error rfl

section

variable {t : Tree} {overlay : Option Path}

theorem Unread.foreign {e : Trouble} (h : Unread t overlay e) : isConfigTrouble e = false := by
  cases h with
  | path h => exact foreign_pathExists t _ e h
  | text _ h => exact foreign_readStrict t _ e h
  | value _ _ _ hforeign => exact hforeign

theorem LaidOver.regular {es : Entries} (h : LaidOver t overlay es) : Regular (.map es) := by
  cases h with
  | mapping _ _ hvalue => exact regular_of_ofText hvalue
  | none | nothing => exact ⟨List.Pairwise.nil, trivial⟩

theorem layered_of_exists {p : Path} (h : t.pathExists p = .ok true) :
    layered t (some p) = documentAt t p >>= fun es => .ok ((toEntries {}).overlay es) := by
  simp only [layered, h]
  rfl

theorem documentAt_of_read {p : Path} {s : List Char} (h : t.readStrict p = .ok s) :
    documentAt t p =
      match Yaml.ofText s with
      | .error .malformed => .error (.configMalformed p.toString)
      | .error (.cause e) => .error e
      | .ok v =>
        if v.isEmpty then .ok []
        else
          match v with
          | .map es => .ok es
          | _ => .error (.configNotMapping p.toString) := by
  simp only [documentAt, h]
  rfl

theorem LaidOver.layered {es : Entries} (h : LaidOver t overlay es) :
    layered t overlay = .ok ((toEntries {}).overlay es) := by
  cases h with
  | none => rfl
  | mapping hexists hread hvalue =>
    rw [layered_of_exists hexists, documentAt_of_read hread, hvalue]
    cases es <;> rfl
  | nothing hexists hread hvalue hempty =>
    rw [layered_of_exists hexists, documentAt_of_read hread, hvalue]
    simp only [hempty]
    rfl

theorem Unread.layered {e : Trouble} (h : Unread t overlay e) : layered t overlay = .error e := by
  cases h with
  | path h =>
    simp only [Settings.layered, h]
    rfl
  | text hexists h =>
    rw [layered_of_exists hexists, documentAt, h]
    rfl
  | value hexists hread h _ =>
    rw [layered_of_exists hexists, documentAt_of_read hread, h]
    rfl

/-- A document is laid over the defaults, its file cannot be read, or its trouble is told. -/
theorem layered_cases (t : Tree) (overlay : Option Path) :
    (∃ es, LaidOver t overlay es) ∨ (∃ e, Unread t overlay e) ∨
      ∃ e, layered t overlay = .error e ∧ isConfigTrouble e = true := by
  cases overlay with
  | none => exact Or.inl ⟨[], .none⟩
  | some p =>
    cases hexists : t.pathExists p with
    | error e => exact Or.inr (Or.inl ⟨e, .path hexists⟩)
    | ok found =>
      cases found with
      | false =>
        refine Or.inr (Or.inr ⟨.configMissing p.toString, ?_, rfl⟩)
        simp only [layered, hexists]
        rfl
      | true =>
        cases hread : t.readStrict p with
        | error e => exact Or.inr (Or.inl ⟨e, .text hexists hread⟩)
        | ok s =>
          have htold {e : Trouble} (h : documentAt t p = .error e) : layered t (some p) = .error e := by
            rw [layered_of_exists hexists, h]
            rfl
          cases hvalue : Yaml.ofText s with
          | error fault =>
            cases fault with
            | malformed =>
              refine Or.inr (Or.inr ⟨.configMalformed p.toString, htold ?_, rfl⟩)
              rw [documentAt_of_read hread, hvalue]
            | cause e =>
              cases htrouble : isConfigTrouble e with
              | false => exact Or.inr (Or.inl ⟨e, .value hexists hread hvalue htrouble⟩)
              | true =>
                refine Or.inr (Or.inr ⟨e, htold ?_, htrouble⟩)
                rw [documentAt_of_read hread, hvalue]
          | ok v =>
            cases hempty : v.isEmpty with
            | true => exact Or.inl ⟨[], .nothing hexists hread hvalue hempty⟩
            | false =>
              cases v with
              | map es => exact Or.inl ⟨es, .mapping hexists hread hvalue⟩
              | _ =>
                refine Or.inr (Or.inr ⟨.configNotMapping p.toString, htold ?_, rfl⟩)
                rw [documentAt_of_read hread, hvalue]
                simp only [hempty]
                rfl

end

/-! ## What is told -/

/-- A result is there, or a failure that is told as trouble with the configuration file. -/
def Told {α : Type} (x : Except Trouble α) : Prop :=
  Gives x ∨ ∃ e, x = .error e ∧ isConfigTrouble e = true

theorem told_iff_gives {α : Type} {x : Except Trouble α} (hx : Foreign x) : Told x ↔ Gives x := by
  refine or_iff_left ?_
  rintro ⟨e, he, htold⟩
  exact Bool.false_ne_true ((hx e he).symm.trans htold)

/-- What a document that is laid over the defaults, and the variables, have to be like for settings to come out. -/
structure Loadable (h : Host) (es : Entries) : Prop where
  /-- Only texts are keys. -/
  textKeys : TextKeys es
  /-- The sections are mappings, and their fields have values of their types unless a variable sets them. -/
  fits : Fits (SetBy h.valueOf? overrides) es
  /-- The time limit in a variable is a numeral. -/
  timeLimit : ∀ s, h.valueOf? "STEPGUARD_COVERAGE__DRY_RUN_TIMEOUT_S" = some s → Gives (binaryOfText s)
  /-- The variables for whole sections hold JSON. -/
  wholeSections : Gives (checkVariables h.environment)

theorem gives_reads_iff {valueOf : String → Option String} :
    (∀ x ∈ overrides, ∀ text, valueOf x.name = some text → Gives (x.read text)) ↔
      ∀ s, valueOf "STEPGUARD_COVERAGE__DRY_RUN_TIMEOUT_S" = some s → Gives (binaryOfText s) := by
  have hfraction (s : String) : Gives (fractionOfVariable s) ↔ Gives (binaryOfText s) := by
    rw [fractionOfVariable]
    split
    · exact iff_of_true (gives_ok _) ⟨_, ‹_›⟩
    · refine iff_of_false (not_gives_error _) ?_
      rintro ⟨x, hx⟩
      simp_all
  have htext (s : String) : Gives (Except.ok (Yaml.str s) : Except Trouble Yaml) := gives_ok _
  simp only [overrides, List.forall_mem_cons, hfraction, htext, implies_true, true_and]
  simp

/-- What a document that names a parameter of the library has to be like for settings to come out. -/
structure Buildable (library : SettingsLibrary) (h : Host) (es : Entries) : Prop where
  /-- Only texts are keys. -/
  textKeys : TextKeys es
  /-- The variables can be set, and the library does not fail on the document with them. -/
  built : ∃ document, withOverrides h.valueOf? ((toEntries {}).overlay es) = .ok document ∧
    (library.build h.tree h.environment document).isSome = true

section Told

variable {library : SettingsLibrary} {overlay : Option Path} {h : Host} {es : Entries}

theorem told_iff_ofDocument (hes : LaidOver h.tree overlay es) :
    Told ((load overlay library).runOn h).1 ↔ Gives (ofDocument library h ((toEntries {}).overlay es)) := by
  rw [runOn_load, hes.layered]
  exact told_iff_gives (foreign_ofDocument library h _)

theorem unasked_overlay : Unasked library ((toEntries {}).overlay es) ↔ Unasked library es :=
  (allKeys_overlay (ownsKey_of_sameKey library)).trans (and_iff_right (unasked_defaults library))

theorem textKeys_overlay : TextKeys ((toEntries {}).overlay es) ↔ TextKeys es :=
  (allKeys_overlay isText_of_sameKey).trans (and_iff_right textKeys_defaults)

/-- With a document over the defaults that asks nothing of the library, only what is loadable is told, since it gives
settings. -/
theorem told_iff_loadable (hes : LaidOver h.tree overlay es) (hunasked : Unasked library es) :
    Told ((load overlay library).runOn h).1 ↔ Loadable h es := by
  rw [told_iff_ofDocument hes, gives_ofDocument_of_unasked (unasked_overlay.mpr hunasked), fits_overlay hes.regular,
    textKeys_overlay, gives_reads_iff]
  exact ⟨fun ⟨htime, hfits, hkeys, hvariables⟩ => ⟨hkeys, hfits, htime, hvariables⟩,
    fun hl => ⟨hl.timeLimit, hl.fits, hl.textKeys, hl.wholeSections⟩⟩

theorem told_iff_buildable (hes : LaidOver h.tree overlay es) (hasked : ¬ Unasked library es) :
    Told ((load overlay library).runOn h).1 ↔ Buildable library h es := by
  rw [told_iff_ofDocument hes, gives_ofDocument_of_asked (mt unasked_overlay.mp hasked), textKeys_overlay]
  exact ⟨fun ⟨hkeys, hbuilt⟩ => ⟨hkeys, hbuilt⟩, fun hb => ⟨hb.textKeys, hb.built⟩⟩

end Told

/-- The names of the variables for whole sections and for their lists, in lower case. -/
def sectionVariables : List String :=
  sections.flatMap fun s => ("stepguard_" ++ s.1) :: s.2.map fun key => "stepguard_" ++ s.1 ++ "__" ++ key

theorem checkVariables_of_unset {environment : List (String × String)}
    (h : ∀ name ∈ sectionVariables, caselessValue? environment name = none) :
    checkVariables environment = .ok () := by
  have hreads : ∀ s ∈ sections, readsSection environment s.1 s.2 = true := by
    intro s hs
    have hnames := fun name hname => h name (List.mem_flatMap.mpr ⟨s, hs, hname⟩)
    obtain ⟨hsection, hlists⟩ := List.forall_mem_cons.mp hnames
    simp only [readsSection, hsection, Option.map_none, List.all_eq_true]
    intro key hkey
    rw [hlists _ (List.mem_map_of_mem hkey)]
    rfl
  exact forM_eq_ok fun s hs => if_pos (hreads s hs)

/-- With no other variables than the four that set a field, the variables for whole sections are in order. -/
theorem checkVariables_of_overrides {environment : List (String × String)}
    (h : ∀ v ∈ environment, v.1 ∈ overrides.map (·.name)) : checkVariables environment = .ok () := by
  have hother : ∀ n ∈ overrides.map (·.name), String.ofList (lower n.toList) ∉ sectionVariables := by
    decide +kernel
  refine checkVariables_of_unset fun name hname => Option.map_eq_none_iff.mpr ?_
  refine List.find?_eq_none.mpr fun v hv heq => ?_
  exact hother v.1 (h v (List.mem_reverse.mp hv)) (of_decide_eq_true heq ▸ hname)

/-- **Which configurations are told.** Loading gives settings or a failure that is told exactly if the file can be read
and the document that it holds, if it holds one, is loadable with the variables, or, if it names parameters of the
library, the library makes settings of it. The variables for whole sections are in order wherever only the four that set
a field are there. -/
theorem load_told_iff (library : SettingsLibrary) (overlay : Option Path) (h : Host) :
    (Told ((load overlay library).runOn h).1 ↔
      (¬ ∃ e, Unread h.tree overlay e) ∧ ∀ es, LaidOver h.tree overlay es →
        (Unasked library es → Loadable h es) ∧ (¬ Unasked library es → Buildable library h es)) ∧
    ((∀ v ∈ h.environment, v.1 ∈ overrides.map (·.name)) → Gives (checkVariables h.environment)) := by
  refine ⟨?_, fun hfour => ⟨(), checkVariables_of_overrides hfour⟩⟩
  have htold_iff {es : Entries} (hes : LaidOver h.tree overlay es) : Told ((load overlay library).runOn h).1 ↔
      (Unasked library es → Loadable h es) ∧ (¬ Unasked library es → Buildable library h es) := by
    by_cases hunasked : Unasked library es
    · simp only [told_iff_loadable hes hunasked, hunasked, true_imp_iff, not_true_eq_false, false_imp_iff, and_true]
    · simp only [told_iff_buildable hes hunasked, hunasked, false_imp_iff, not_false_eq_true, true_imp_iff, true_and]
  obtain ⟨es, hes⟩ | ⟨e, he⟩ | ⟨e, he, htold⟩ := layered_cases h.tree overlay
  · have hread : ¬ ∃ e, Unread h.tree overlay e := by
      rintro ⟨e, he⟩
      cases hes.layered.symm.trans he.layered
    rw [and_iff_right hread]
    exact ⟨fun htold es' hes' => (htold_iff hes').mp htold, fun hall => (htold_iff hes).mpr (hall es hes)⟩
  · rw [runOn_load, he.layered]
    refine iff_of_false ?_ fun hread => hread.1 ⟨e, he⟩
    exact mt (told_iff_gives (failsOnly_error he.foreign)).mp (not_gives_error e)
  · rw [runOn_load, he]
    refine iff_of_true (Or.inr ⟨e, rfl, htold⟩) ⟨?_, fun es hes => ?_⟩
    · rintro ⟨e', he'⟩
      obtain rfl := Except.error.inj (he.symm.trans he'.layered)
      exact Bool.false_ne_true (he'.foreign.symm.trans htold)
    · cases he.symm.trans hes.layered

def configured (text : String) : Host :=
  { tree := .dir [("c.yaml", .file (encodeUtf8 text.toList))] }

theorem laidOver_configured {text : String} {es : Entries}
    (hvalue : Yaml.ofText (universalNewlines text.toList) = .ok (.map es)) :
    LaidOver (configured text).tree (some (Path.ofString "c.yaml")) es :=
  .mapping rfl (strictText_encodeUtf8 text.toList) hvalue

/-- A time limit that is no numeral is not told, and neither is a section that is no mapping. -/
theorem bad_settings_escape :
    ¬ Told ((load none).runOn { environment := [("STEPGUARD_COVERAGE__DRY_RUN_TIMEOUT_S", "soon")] }).1 ∧
      ¬ Told ((load (some (Path.ofString "c.yaml"))).runOn (configured "logging: 1\n")).1 := by
  constructor
  · rw [told_iff_loadable .none (unasked_plain _)]
    intro hloadable
    obtain ⟨x, hx⟩ := hloadable.timeLimit "soon" rfl
    have hno : (binaryOfText "soon").toOption = none := by decide +kernel
    rw [hx] at hno
    cases hno
  · have hvalue : Yaml.ofText (universalNewlines "logging: 1\n".toList) = .ok (.map [(.str "logging", .int 1)]) := by
      cbv
    rw [told_iff_loadable (laidOver_configured hvalue) (unasked_plain _)]
    intro hloadable
    exact (hloadable.fits loggingRule List.mem_cons_self).isMapping (.int 1) rfl

end ScenarioAudit.Settings
