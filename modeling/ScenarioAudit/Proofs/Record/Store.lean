import ScenarioAudit.Proofs.Corpus.Digest
import ScenarioAudit.Proofs.Corpus.Source
import ScenarioAudit.Proofs.Json.RoundTrip
import ScenarioAudit.Proofs.Path
import ScenarioAudit.Proofs.Tree.Writing
import ScenarioAudit.Record.Store

/-! # A record that was stored is read

Storing writes one entry into the document of the record file, and as long as the bytes of that file stay what
they are, reading finds the entry again (`readRecord_of_store`): the document is regular, so its text reads back,
and a record survives becoming an entry but for the kind of a document, which is told from its name again
(`ofEntry_toEntry`).
-/

namespace ScenarioAudit

open ScenarioAudit.Text

/-! ## Entries -/

namespace IntegrityRecord

/-- A record as it is read from its own entry: the kind of a document is told from its name. -/
def reread (r : IntegrityRecord) : IntegrityRecord :=
  match r.origin with
  | .directory _ _ => r
  | .document path _ =>
    { r with origin := .document path (if isFeatureName path then .scenarioFile else .legacyDocument) }

def place (r : IntegrityRecord) : String :=
  match r.origin with
  | .directory path _ => path
  | .document path _ => path

@[simp] theorem reread_digest (r : IntegrityRecord) : r.reread.digest = r.digest := by
  rcases r with ⟨digest, generatedAt, path | path⟩
  · rfl
  · rfl

@[simp] theorem reread_sourceDirectory (r : IntegrityRecord) :
    r.reread.sourceDirectory = r.sourceDirectory := by
  rcases r with ⟨digest, generatedAt, path | path⟩
  · rfl
  · rfl

theorem toCount_int (n : ℤ) : (Json.int n).toCount = .ok n := by
  rw [Json.toCount]
  by_cases hn : n = 0
  · subst hn
    rfl
  · have hempty : (Json.int n).isEmpty = false := beq_eq_false_iff_ne.mpr hn
    rw [hempty]
    rfl

theorem textField_str {entry : Json.Members} {key value : String} (hne : value ≠ "")
    (h : entry.get? key = some (.str value)) : textField? entry key = some value := by
  have hempty : ¬ value.isEmpty = true := fun he => hne (String.isEmpty_iff.mp he)
  simp only [textField?, h, if_neg hempty]

theorem anyField_str {entry : Json.Members} {key value : String}
    (h : entry.get? key = some (.str value)) (room : ℕ) : anyField entry key room = .ok value := by
  simp only [anyField, h, Option.getD_some, Json.toText]

theorem ofEntry_directory {entry : Json.Members} {digest generatedAt path : String} {n : ℤ} {room : ℕ}
    (hdigest : textField? entry "assertion_hash" = some digest)
    (hat : anyField entry "generated_at" room = .ok generatedAt)
    (hpath : textField? entry "features_dir" = some path)
    (hcount : entry.get? "file_count" = some (.int n)) :
    ofEntry entry room = .ok (some ⟨digest, generatedAt, .directory path n⟩) := by
  simp only [ofEntry, hdigest, hat, hpath, hcount, Option.getD_some, toCount_int]
  rfl

theorem ofEntry_document {entry : Json.Members} {digest generatedAt path : String} {room : ℕ}
    (hdigest : textField? entry "assertion_hash" = some digest)
    (hat : anyField entry "generated_at" room = .ok generatedAt)
    (hdirectory : textField? entry "features_dir" = none)
    (hpath : anyField entry "test_specs_file" room = .ok path) :
    ofEntry entry room = .ok (some ⟨digest, generatedAt,
      .document path (if isFeatureName path then .scenarioFile else .legacyDocument)⟩) := by
  simp only [ofEntry, hdigest, hat, hdirectory, hpath]
  rfl

/-- **A record reads back from its entry** when it has a digest and a place. -/
theorem ofEntry_toEntry {r : IntegrityRecord} (hdigest : r.digest ≠ "") (hplace : r.place ≠ "") (room : ℕ) :
    ofEntry r.toEntry room = .ok (some r.reread) := by
  rcases r with ⟨digest, generatedAt, ⟨path, n⟩ | ⟨path, kind⟩⟩
  · apply ofEntry_directory
    · exact textField_str hdigest (by simp [toEntry, Json.Members.get?])
    · exact anyField_str (by simp [toEntry, Json.Members.get?]) room
    · exact textField_str hplace (by simp [toEntry, Json.Members.get?])
    · simp [toEntry, Json.Members.get?]
  · apply ofEntry_document
    · exact textField_str hdigest (by simp [toEntry, Json.Members.get?])
    · exact anyField_str (by simp [toEntry, Json.Members.get?]) room
    · simp [textField?, toEntry, Json.Members.get?]
    · exact anyField_str (by simp [toEntry, Json.Members.get?]) room

open Json in
theorem regular_toEntry {r : IntegrityRecord} (h : (Json.obj r.toEntry).fitsWord = true) :
    Regular (.obj r.toEntry) := by
  rcases r with ⟨digest, generatedAt, ⟨path, n⟩ | ⟨path, kind⟩⟩
  · have hn : Number.isWord n = true := by
      simpa [toEntry, fitsWord, fitsWordMembers] using h
    refine ⟨by simp [toEntry], trivial, trivial, trivial, hn, trivial⟩
  · exact ⟨by simp [toEntry], trivial, trivial, trivial, trivial⟩

end IntegrityRecord

/-- How a record names a source whose path is written down as `shown`. -/
def Source.origin (shown : String) : Source → Origin
  | .directory _ files => .directory shown files.length
  | other => .document shown other.kind

theorem Source.place_origin (shown : String) (source : Source) (stamp digest : String) :
    (⟨digest, stamp, source.origin shown⟩ : IntegrityRecord).place = shown := by
  cases source <;> rfl

/-! ## The document -/

namespace Json

theorem fitsWord_get {ms : Members} (h : fitsWordMembers ms = true) {key : String} {v : Json}
    (hv : ms.get? key = some v) : v.fitsWord = true := by
  induction ms with
  | nil => cases hv
  | cons m ms ih =>
    obtain ⟨k, w⟩ := m
    rw [fitsWordMembers, Bool.and_eq_true] at h
    rw [Members.get?] at hv
    split at hv
    · cases hv
      exact h.1
    · exact ih h.2 hv

theorem fitsWord_of_render {v : Json} {text : List Char} (h : render? v = some text) :
    v.fitsWord = true := by
  rw [render?] at h
  split at h
  next hlimits => exact (Bool.and_eq_true_iff.mp hlimits).2
  next => cases h

end Json

namespace RecordStore

variable {s : RecordStore} {t t₁ : Tree}

theorem regular_document {members : Json.Members} (h : s.document t = .ok members) :
    Json.Regular (.obj members) := by
  unfold document at h
  split at h
  · split at h
    next hread =>
      cases h
      exact Json.regular_of_ofBytes hread
    next =>
      cases h
      exact ⟨List.nodup_nil, trivial⟩
  · cases h
    exact ⟨List.nodup_nil, trivial⟩
  · cases h

/-! ### Replacing the record file -/

theorem makeScratch_create {bytes : List UInt8} {word tries : ℕ} {scratch : Path}
    (h : s.makeScratch t bytes word tries = .ok (scratch, t₁)) : t.create scratch (.file bytes) = .ok t₁ := by
  induction tries generalizing word with
  | zero => cases h
  | succ tries ih =>
    unfold makeScratch at h
    split at h
    next hcreate =>
      cases h
      exact hcreate
    next => exact ih h
    next => cases h

theorem replaceRecord_eq_ok {bytes : List UInt8} :
    s.replaceRecord t bytes = (t₁, none) ↔
      (∃ made, s.makeScratch t bytes 0 scratchTries = .ok made) ∧ t.writeBytes s.recordPath bytes = .ok t₁ := by
  unfold replaceRecord
  rcases hmade : s.makeScratch t bytes 0 scratchTries with e | ⟨scratch, t'⟩
  · simp
  · rw [← Tree.moveFile_create (makeScratch_create hmade)]
    dsimp only
    rcases hmove : t'.moveFile scratch s.recordPath with e | t''
    · simp
    · simp

/-- **A record file that cannot be replaced is left alone,** and so is everything else. -/
theorem replaceRecord_eq_error {bytes : List UInt8} {e : Trouble} (h : s.replaceRecord t bytes = (t₁, some e)) :
    t₁ = t := by
  unfold replaceRecord at h
  split at h
  · cases h
    rfl
  next scratch t' hmade =>
    split at h
    · cases h
    · cases h
      exact Tree.removeFile_create (makeScratch_create hmade)

def documentBytes (members : Json.Members) : Option (List UInt8) :=
  (Json.render? (.obj members)).map fun text => encodeUtf8 (text ++ ['\n'])

theorem writeDocument_eq_ok {members : Json.Members} (h : s.writeDocument t members = (t₁, none)) :
    ∃ t' bytes, Tree.Within ∅ (t'.wayTo s.root) t t' ∧ documentBytes members = some bytes ∧
      t'.writeBytes s.recordPath bytes = .ok t₁ := by
  unfold writeDocument at h
  split at h
  · cases h
  next t' hroot =>
    split at h
    · cases h
    next text hrender =>
      refine ⟨t', _, Tree.within_ensureDir hroot, ?_, (replaceRecord_eq_ok.mp h).2⟩
      rw [documentBytes, hrender, Option.map_some]

/-- A document that cannot be written leaves all files as they were. -/
theorem writeDocument_eq_error {members : Json.Members} {e : Trouble}
    (h : s.writeDocument t members = (t₁, some e)) : Tree.Within ∅ (t₁.wayTo s.root) t t₁ := by
  unfold writeDocument at h
  split at h
  next hroot =>
    cases h
    exact Tree.within_ensureDir hroot
  next hroot =>
    have hmade := Tree.within_ensureDir hroot
    split at h
    · cases h
      exact hmade
    · rw [replaceRecord_eq_error h]
      exact hmade

/-! ### Storing -/

theorem document_of_readBytes {bytes : List UInt8} {members : Json.Members}
    (hregular : Json.Regular (.obj members)) (hbytes : documentBytes members = some bytes)
    (h : t.readBytes s.recordPath = .ok bytes) : s.document t = .ok members := by
  obtain ⟨text, hrender, rfl⟩ := Option.map_eq_some_iff.mp hbytes
  simp only [document, h, Json.ofBytes_render hregular hrender]

/-- What storing did: the record is that of the source, and it went into the document under its key. -/
theorem store_eq_ok {shown : String} {now : Moment} {r : IntegrityRecord}
    (h : s.store t shown now = (t₁, .ok r)) :
    s.recordOf t shown now = .ok r ∧ ∃ members, s.document t = .ok members ∧
      s.writeDocument t (members.set s.settings.recordKey.toText (.obj r.toEntry)) = (t₁, none) := by
  unfold store at h
  split at h
  · cases h
  next record hrecord =>
    split at h
    · cases h
    next members hmembers =>
      split at h
      · cases h
      next hwrite =>
        cases h
        exact ⟨hrecord, members, hmembers, hwrite⟩

theorem recordOf_eq (s : RecordStore) (t : Tree) (shown : String) (now : Moment) :
    s.recordOf t shown now = (Corpus.ofPath t (Path.ofString shown)).map fun c =>
      ⟨c.digest s.settings.emptySentinel.toText, now.stamp, c.source.origin shown⟩ := by
  unfold recordOf Corpus.ofPath
  rcases classifyPath t (Path.ofString shown) with e | source
  · rfl
  · show (Corpus.ofSource t source >>= _) = (Corpus.ofSource t source).map _
    rcases hc : Corpus.ofSource t source with e | c
    · rfl
    · obtain rfl := Corpus.source_of_ofSource hc
      rcases c with ⟨⟨p, files⟩ | p | p | p, lines⟩
      all_goals rfl

theorem recordOf_eq_ok {shown : String} {now : Moment} {r : IntegrityRecord}
    (h : s.recordOf t shown now = .ok r) :
    ∃ c, Corpus.ofPath t (Path.ofString shown) = .ok c ∧
      r.digest = c.digest s.settings.emptySentinel.toText ∧ r.place = shown ∧
      (t.isDir (Path.ofString shown) = .ok true → r.sourceDirectory = some shown) := by
  rw [recordOf_eq] at h
  obtain ⟨c, hc, rfl⟩ := map_eq_ok h
  refine ⟨c, hc, rfl, Source.place_origin shown c.source now.stamp _, fun hdir => ?_⟩
  obtain ⟨found, hlook, hdir⟩ := map_eq_ok hdir
  obtain ⟨hsource, -⟩ := Corpus.ofPath_eq_ok.mp hc
  rw [classifyPath_look, hlook] at hsource
  change (if found.any Tree.isDirNode = true then _ else _) = _ at hsource
  rw [if_pos hdir] at hsource
  obtain ⟨files, -, hsource⟩ := map_eq_ok hsource
  rw [← hsource]
  rfl

theorem regular_stored {members : Json.Members} {bytes : List UInt8} {r : IntegrityRecord}
    (hmembers : s.document t = .ok members)
    (hbytes : documentBytes (members.set s.settings.recordKey.toText (.obj r.toEntry)) = some bytes) :
    Json.Regular (.obj (members.set s.settings.recordKey.toText (.obj r.toEntry))) := by
  obtain ⟨text, hrender, -⟩ := Option.map_eq_some_iff.mp hbytes
  have hentry := Json.fitsWord_get (Json.fitsWord_of_render hrender) (Json.Members.get?_set_self members _ _)
  exact (regular_document hmembers).set _ (IntegrityRecord.regular_toEntry hentry)

/-- **A stored record is read for as long as the record file is what it was.** -/
theorem readRecord_of_store {shown : String} {now : Moment} {r : IntegrityRecord}
    (h : s.store t shown now = (t₁, .ok r)) (hshown : shown ≠ "") (hdigest : r.digest ≠ "")
    {t' : Tree} (hsame : t'.readBytes s.recordPath = t₁.readBytes s.recordPath) (room : ℕ) :
    s.readRecord t' room = .ok (some r.reread) := by
  obtain ⟨hrecord, members, hmembers, hwrite⟩ := store_eq_ok h
  obtain ⟨-, -, -, hplace, -⟩ := recordOf_eq_ok hrecord
  obtain ⟨t₀, bytes, -, hbytes, hwritten⟩ := writeDocument_eq_ok hwrite
  have hread := hsame.trans (Tree.readBytes_writeBytes hwritten)
  simp only [readRecord, document_of_readBytes (regular_stored hmembers hbytes) hbytes hread, bind, Except.bind,
    Json.Members.get?_set_self]
  exact IntegrityRecord.ofEntry_toEntry hdigest (hplace.symm ▸ hshown) room

end RecordStore

end ScenarioAudit
