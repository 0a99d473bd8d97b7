import Mathlib.Logic.Basic
import ScenarioAudit.Proofs.Record.Evidence

/-! # Entries in normal form

Reading an entry makes texts and counts of whatever JSON values stand in it, and the entry that is written of the
record has one of two shapes. A record is `Settled` if reading can have returned it: it has a digest, and its source is
a directory with a name or a document of the kind that its name tells. These are exactly the records that read back
from their own entries (`ofEntry_toEntry_iff`), so reading and writing an entry a second time changes nothing
(`entry_settles`).
-/

namespace ScenarioAudit

open ScenarioAudit.Text

namespace IntegrityRecord

variable {r : IntegrityRecord} {entry : Json.Members} {room : ℕ}

/-- The sources that an entry can name. -/
inductive Named : Origin → Prop
  | directory {path : String} (hpath : path ≠ "") (n : ℤ) : Named (.directory path n)
  | document (path : String) :
    Named (.document path (if isFeatureName path then .scenarioFile else .legacyDocument))

/-- A record that reading an entry can return. -/
structure Settled (r : IntegrityRecord) : Prop where
  digest : r.digest ≠ ""
  source : Named r.origin

theorem textField_ne_empty {key value : String} (h : textField? entry key = some value) : value ≠ "" := by
  unfold textField? at h
  split at h
  next s hget =>
    split at h
    next => cases h
    next hs =>
      cases h
      exact fun hempty => hs (String.isEmpty_iff.mpr hempty)
  next => cases h

theorem ofEntry_eq_some (h : ofEntry entry room = .ok (some r)) :
    textField? entry "assertion_hash" = some r.digest ∧ anyField entry "generated_at" room = .ok r.generatedAt ∧
      ((∃ path n, textField? entry "features_dir" = some path ∧ r.origin = .directory path n) ∨
        ∃ path, textField? entry "features_dir" = none ∧ anyField entry "test_specs_file" room = .ok path ∧
          r.origin = .document path (if isFeatureName path then .scenarioFile else .legacyDocument)) := by
  unfold ofEntry at h
  cases hdigest : textField? entry "assertion_hash" with
  | none =>
    rw [hdigest] at h
    cases h
  | some digest =>
    rw [hdigest] at h
    cases hdirectory : textField? entry "features_dir" with
    | some path =>
      rw [hdirectory] at h
      obtain ⟨generatedAt, hat, h⟩ := bind_eq_ok h
      obtain ⟨n, hcount, h⟩ := bind_eq_ok h
      cases h
      exact ⟨rfl, hat, Or.inl ⟨path, n, rfl, rfl⟩⟩
    | none =>
      rw [hdirectory] at h
      obtain ⟨path, hpath, h⟩ := bind_eq_ok h
      obtain ⟨generatedAt, hat, h⟩ := bind_eq_ok h
      cases h
      exact ⟨rfl, hat, Or.inr ⟨path, rfl, hpath, rfl⟩⟩

theorem settled_of_ofEntry (h : ofEntry entry room = .ok (some r)) : r.Settled := by
  obtain ⟨hdigest, -, ⟨path, n, hpath, hsource⟩ | ⟨path, -, -, hsource⟩⟩ := ofEntry_eq_some h
  · refine ⟨textField_ne_empty hdigest, ?_⟩
    rw [hsource]
    exact .directory (textField_ne_empty hpath) n
  · refine ⟨textField_ne_empty hdigest, ?_⟩
    rw [hsource]
    exact .document path

/-- **The records that read back from their own entries** are the settled ones. -/
theorem ofEntry_toEntry_iff : ofEntry r.toEntry room = .ok (some r) ↔ r.Settled := by
  refine ⟨settled_of_ofEntry, ?_⟩
  rintro ⟨hdigest, hsource⟩
  rcases r with ⟨digest, generatedAt, source⟩
  cases hsource with
  | directory hpath n => exact ofEntry_toEntry hdigest hpath room
  | document path =>
    -- A document may have no name at all, so the lemma for records with a place does not apply.
    apply ofEntry_document
    · exact textField_str hdigest (by simp [toEntry, Json.Members.get?])
    · exact anyField_str (by simp [toEntry, Json.Members.get?]) room
    · simp [textField?, toEntry, Json.Members.get?]
    · exact anyField_str (by simp [toEntry, Json.Members.get?]) room

theorem Settled.sourceKind_iff (h : r.Settled) : r.sourceKind = .directory ↔ r.sourceDirectory.isSome := by
  rcases r with ⟨digest, generatedAt, source⟩
  obtain ⟨-, hsource⟩ := h
  cases hsource with
  | directory hpath n => simp [sourceKind, sourceDirectory]
  | document path =>
    simp only [sourceKind, sourceDirectory, Option.isSome_none, Bool.false_eq_true, iff_false]
    split
    · simp
    · simp

theorem xor_source (r : IntegrityRecord) : Xor (r.sourceDirectory.isSome = true) (r.sourceDocument.isSome = true) := by
  rcases r with ⟨digest, generatedAt, path | path⟩
  · exact Or.inl ⟨rfl, nofun⟩
  · exact Or.inr ⟨rfl, nofun⟩

theorem sourceDirectory_of_ofEntry (h : ofEntry entry room = .ok (some r)) :
    r.sourceDirectory = textField? entry "features_dir" := by
  obtain ⟨-, -, ⟨path, n, hpath, hsource⟩ | ⟨path, hpath, -, hsource⟩⟩ := ofEntry_eq_some h
  · rw [hpath, sourceDirectory, hsource]
  · rw [hpath, sourceDirectory, hsource]

/-- **Reading an entry settles it.** Whatever JSON values stand in the fields of an entry, if it is read as a record,
the entry of that record is read as the same record, however few levels of a value can be shown then. The record names
either a directory or a document, a directory exactly if the entry has a text for one, and its kind says which of them. -/
theorem entry_settles (h : ofEntry entry room = .ok (some r)) :
    (∀ room, ofEntry r.toEntry room = .ok (some r)) ∧
    Xor (r.sourceDirectory.isSome = true) (r.sourceDocument.isSome = true) ∧
    r.sourceDirectory = textField? entry "features_dir" ∧
    (r.sourceKind = .directory ↔ r.sourceDirectory.isSome) := by
  have hsettled := settled_of_ofEntry h
  exact ⟨fun _ => ofEntry_toEntry_iff.mpr hsettled, r.xor_source, sourceDirectory_of_ofEntry h, hsettled.sourceKind_iff⟩

/-- An entry with a list for its time, a numeral for its count and a number where a document could be named. -/
def oddEntry : Json.Members :=
  [("assertion_hash", .str "d"), ("generated_at", .arr [.null, .str "t"]), ("features_dir", .str "f"),
    ("file_count", .str " 1_2 "), ("test_specs_file", .int 3)]

/-- It is read as the record of a directory with twelve files, and so is the entry of that record. -/
theorem entry_settles_odd :
    ofEntry oddEntry = .ok (some ⟨"d", "[None, 't']", .directory "f" 12⟩) ∧
      ofEntry (toEntry ⟨"d", "[None, 't']", .directory "f" 12⟩) =
        .ok (some ⟨"d", "[None, 't']", .directory "f" 12⟩) := by
  obtain ⟨found, hread, hfound⟩ := exists_of_toOption_map (f := id)
    (b := some (⟨"d", "[None, 't']", .directory "f" 12⟩ : IntegrityRecord)) (x := ofEntry oddEntry) (by decide +kernel)
  cases hfound
  exact ⟨hread, (entry_settles hread).1 _⟩

end IntegrityRecord

end ScenarioAudit
