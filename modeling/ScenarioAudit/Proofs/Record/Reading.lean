import ScenarioAudit.Proofs.Record.Evidence

/-! # Which record files can be read

A record file may hold any bytes: what is no JSON, no object or no entry counts as no record. The fields of an entry
are converted without a look at what they are. The number of feature files of a directory may be something else than a
number, and what stands for a time or for a document may be nested more deeply than can be shown. Such an entry is read
neither as a record nor as none (`readRecord_settles_iff`), and nothing else goes wrong.
-/

namespace ScenarioAudit

open ScenarioAudit.Text ScenarioAudit.Number

namespace Json

/-- A value that is not empty and no number either: a list, an object, or a text that is no numeral. -/
def Uncountable : Json → Prop
  | .arr items => items ≠ []
  | .obj members => members ≠ []
  | .str s => s ≠ "" ∧ ∃ e, wholeOfText s = .error e
  | _ => False

/-- **A regular value is a count unless it is uncountable.** -/
theorem exists_toCount_iff {v : Json} (h : Regular v) : (∃ n, v.toCount = .ok n) ↔ ¬ v.Uncountable := by
  cases v with
  | null => simp [toCount, isEmpty, Uncountable]
  | bool b =>
    cases b with
    | false => simp [toCount, isEmpty, Uncountable]
    | true => simp [toCount, isEmpty, Uncountable]
  | int i => exact iff_of_true ⟨i, IntegrityRecord.toCount_int i⟩ id
  | float x =>
    obtain ⟨neg, m, e, rfl, -⟩ : FiniteCanonical x := h
    refine iff_of_true ?_ id
    unfold toCount
    split
    · exact ⟨0, rfl⟩
    · exact ⟨_, rfl⟩
  | str s =>
    unfold toCount Uncountable
    by_cases hs : s = ""
    · simp [isEmpty, hs]
    · simp only [isEmpty, String.isEmpty_iff, hs, if_false]
      cases wholeOfText s with
      | error e => simp [Except.mapError, hs]
      | ok n => simp [Except.mapError]
  | arr items =>
    cases items with
    | nil => simp [toCount, isEmpty, Uncountable]
    | cons item items => simp [toCount, isEmpty, Uncountable]
  | obj members =>
    cases members with
    | nil => simp [toCount, isEmpty, Uncountable]
    | cons member members => simp [toCount, isEmpty, Uncountable]

/-- A value that is no text and is nested more deeply than can be shown. -/
def TooDeep (v : Json) (room : ℕ) : Prop :=
  (∀ s, v ≠ .str s) ∧ room < v.levels

theorem exists_toText_iff {v : Json} {room : ℕ} : (∃ s, v.toText room = .ok s) ↔ ¬ v.TooDeep room := by
  unfold toText TooDeep
  split
  next s => exact iff_of_true ⟨s, rfl⟩ fun h => h.1 s rfl
  next hother =>
    rw [and_iff_right hother, not_lt]
    split
    next hfits => exact iff_of_true ⟨_, rfl⟩ hfits
    next hdeep => exact iff_of_false nofun hdeep

theorem regular_get {ms : Members} (h : RegularMembers ms) {key : String} {v : Json} (hv : ms.get? key = some v) :
    Regular v := by
  induction ms with
  | nil => cases hv
  | cons m ms ih =>
    obtain ⟨k, w⟩ := m
    rw [Members.get?] at hv
    split at hv
    · cases hv
      exact h.1
    · exact ih h.2 hv

end Json

/-! ## Entries -/

namespace IntegrityRecord

variable {entry : Json.Members} {room : ℕ}

def HasText (entry : Json.Members) (key : String) : Prop :=
  ∃ s, s ≠ "" ∧ entry.get? key = some (.str s)

theorem textField_isSome {key : String} : (textField? entry key).isSome ↔ HasText entry key := by
  unfold textField? HasText
  cases entry.get? key with
  | none => simp
  | some v =>
    cases v with
    | str s =>
      by_cases hs : s = ""
      · simp [hs]
      · simp [hs]
    | _ => simp

/-- An entry of a directory whose number of files is no number. -/
structure Miscounted (entry : Json.Members) : Prop where
  digest : HasText entry "assertion_hash"
  directory : HasText entry "features_dir"
  count : ∃ v, entry.get? "file_count" = some v ∧ v.Uncountable

/-- A key has a value that is nested more deeply than can be shown. -/
def HasDeep (entry : Json.Members) (key : String) (room : ℕ) : Prop :=
  ∃ v, entry.get? key = some v ∧ v.TooDeep room

/-- An entry of a record whose time is nested too deeply, or of a document whose name is. -/
structure Overdeep (entry : Json.Members) (room : ℕ) : Prop where
  digest : HasText entry "assertion_hash"
  deep : HasDeep entry "generated_at" room ∨ ¬ HasText entry "features_dir" ∧ HasDeep entry "test_specs_file" room

/-- An entry that is read neither as a record nor as none. -/
def Unreadable (entry : Json.Members) (room : ℕ) : Prop :=
  Miscounted entry ∨ Overdeep entry room

theorem exists_anyField_iff {key : String} : (∃ s, anyField entry key room = .ok s) ↔ ¬ HasDeep entry key room := by
  rw [anyField, Json.exists_toText_iff, HasDeep]
  cases entry.get? key with
  | none => simp [Json.TooDeep]
  | some v => simp

theorem exists_count_iff (h : Json.RegularMembers entry) :
    (∃ n, ((entry.get? "file_count").getD .null).toCount = .ok n) ↔
      ¬ ∃ v, entry.get? "file_count" = some v ∧ v.Uncountable := by
  cases hv : entry.get? "file_count" with
  | none => exact iff_of_true ⟨0, rfl⟩ (by simp)
  | some v => simpa using Json.exists_toCount_iff (Json.regular_get h hv)

/-- **Which entries are read,** as a record or as none. -/
theorem exists_ofEntry_iff (h : Json.RegularMembers entry) :
    (∃ found, ofEntry entry room = .ok found) ↔ ¬ Unreadable entry room := by
  have hmiscounted : Miscounted entry ↔ HasText entry "assertion_hash" ∧ HasText entry "features_dir" ∧
      ∃ v, entry.get? "file_count" = some v ∧ v.Uncountable :=
    ⟨fun ⟨hdigest, hdirectory, hcount⟩ => ⟨hdigest, hdirectory, hcount⟩,
      fun ⟨hdigest, hdirectory, hcount⟩ => ⟨hdigest, hdirectory, hcount⟩⟩
  have hoverdeep : Overdeep entry room ↔ HasText entry "assertion_hash" ∧ (HasDeep entry "generated_at" room ∨
      ¬ HasText entry "features_dir" ∧ HasDeep entry "test_specs_file" room) :=
    ⟨fun ⟨hdigest, hdeep⟩ => ⟨hdigest, hdeep⟩, fun ⟨hdigest, hdeep⟩ => ⟨hdigest, hdeep⟩⟩
  rw [Unreadable, hmiscounted, hoverdeep, ← textField_isSome, ← textField_isSome]
  show Gives (ofEntry entry room) ↔ _
  unfold ofEntry
  cases textField? entry "assertion_hash" with
  | none => exact iff_of_true ⟨none, rfl⟩ (by simp)
  | some digest =>
    cases textField? entry "features_dir" with
    | none =>
      have hrest (path : String) : Gives (do
          let generatedAt ← anyField entry "generated_at" room
          return some (⟨digest, generatedAt,
            .document path (if isFeatureName path then .scenarioFile else .legacyDocument)⟩ : IntegrityRecord)) ↔
          ¬ HasDeep entry "generated_at" room :=
        (gives_bind_const fun _ => gives_pure _).trans ((and_iff_left trivial).trans exists_anyField_iff)
      refine (gives_bind_const hrest).trans ?_
      rw [Gives, exists_anyField_iff]
      simp [and_comm]
    | some path =>
      have hrest (generatedAt : String) : Gives (do
          let n ← ((entry.get? "file_count").getD .null).toCount
          return some (⟨digest, generatedAt, .directory path n⟩ : IntegrityRecord)) ↔
          ¬ ∃ v, entry.get? "file_count" = some v ∧ v.Uncountable :=
        (gives_bind_const fun _ => gives_pure _).trans ((and_iff_left trivial).trans (exists_count_iff h))
      refine (gives_bind_const hrest).trans ?_
      rw [Gives, exists_anyField_iff]
      simp [and_comm]

theorem ofEntry_ne_none {digest : String} (h : textField? entry "assertion_hash" = some digest) :
    ofEntry entry room ≠ .ok none := by
  intro hnone
  unfold ofEntry at hnone
  rw [h] at hnone
  cases hdirectory : textField? entry "features_dir" with
  | none =>
    rw [hdirectory] at hnone
    obtain ⟨path, -, hnone⟩ := bind_eq_ok hnone
    obtain ⟨generatedAt, -, hnone⟩ := bind_eq_ok hnone
    cases hnone
  | some path =>
    rw [hdirectory] at hnone
    obtain ⟨generatedAt, -, hnone⟩ := bind_eq_ok hnone
    obtain ⟨n, -, hnone⟩ := bind_eq_ok hnone
    cases hnone

theorem ofEntry_eq_none_iff : ofEntry entry room = .ok none ↔ ¬ HasText entry "assertion_hash" := by
  rw [← textField_isSome]
  cases hdigest : textField? entry "assertion_hash" with
  | none =>
    refine iff_of_true ?_ (by simp)
    rw [ofEntry, hdigest]
    rfl
  | some digest => exact iff_of_false (ofEntry_ne_none hdigest) (by simp)

end IntegrityRecord

/-! ## Record files -/

namespace RecordStore

variable {s : RecordStore} {t : Tree} {bytes : List UInt8} {room : ℕ}

/-- The bytes are an object in JSON, with an object under a key. -/
def HoldsEntry (bytes : List UInt8) (key : String) (entry : Json.Members) : Prop :=
  ∃ members : Json.Members, Json.ofBytes? bytes = some (.obj members) ∧ members.get? key = some (.obj entry)

theorem HoldsEntry.unique {key : String} {entry entry' : Json.Members} (h : HoldsEntry bytes key entry)
    (h' : HoldsEntry bytes key entry') : entry = entry' := by
  obtain ⟨members, hmembers, hentry⟩ := h
  obtain ⟨members', hmembers', hentry'⟩ := h'
  cases hmembers.symm.trans hmembers'
  cases hentry.symm.trans hentry'
  rfl

theorem HoldsEntry.regular {key : String} {entry : Json.Members} (h : HoldsEntry bytes key entry) :
    Json.RegularMembers entry := by
  obtain ⟨members, hmembers, hentry⟩ := h
  have hregular : Json.Regular (.obj entry) := Json.regular_get (Json.regular_of_ofBytes hmembers).2 hentry
  exact hregular.2

theorem readRecord_cases (h : t.readBytes s.recordPath = .ok bytes) :
    (∃ entry, HoldsEntry bytes s.settings.recordKey.toText entry ∧
        s.readRecord t room = IntegrityRecord.ofEntry entry room) ∨
      (∀ entry, ¬ HoldsEntry bytes s.settings.recordKey.toText entry) ∧ s.readRecord t room = .ok none := by
  by_cases hobject : ∃ members : Json.Members, Json.ofBytes? bytes = some (.obj members)
  · obtain ⟨members, hmembers⟩ := hobject
    have hdocument : s.document t = .ok members := by simp only [document, h, hmembers]
    by_cases hentry : ∃ entry, members.get? s.settings.recordKey.toText = some (.obj entry)
    · obtain ⟨entry, hentry⟩ := hentry
      refine Or.inl ⟨entry, ⟨members, hmembers, hentry⟩, ?_⟩
      simp only [readRecord, hdocument, hentry, bind, Except.bind]
    · refine Or.inr ⟨?_, ?_⟩
      · rintro entry ⟨members', hmembers', hentry'⟩
        cases hmembers.symm.trans hmembers'
        exact hentry ⟨entry, hentry'⟩
      · simp only [readRecord, hdocument, bind, Except.bind]
        split
        next entry hget => exact absurd ⟨entry, hget⟩ hentry
        next => rfl
  · have hdocument : s.document t = .ok [] := by
      simp only [document, h]
      split
      next members hmembers => exact absurd ⟨members, hmembers⟩ hobject
      next => rfl
    refine Or.inr ⟨?_, ?_⟩
    · rintro entry ⟨members, hmembers, -⟩
      exact hobject ⟨members, hmembers⟩
    · simp only [readRecord, hdocument]
      rfl

/-- The record file holds an entry that is neither read as a record nor as none. -/
def HoldsUnreadable (bytes : List UInt8) (key : String) (room : ℕ) : Prop :=
  ∃ entry, HoldsEntry bytes key entry ∧ IntegrityRecord.Unreadable entry room

/-- What a path is compared by can be digested, whether a record was taken of a directory or of a document. -/
def Digestible (s : RecordStore) (t : Tree) (p : Path) : Prop :=
  ∀ record, ∃ compared digest, hashInput t p record = .ok compared ∧ s.digestOf t compared = .ok digest

theorem exists_verify_iff {p : Path} (hp : s.Digestible t p) :
    (∃ status ∈ [CheckStatus.missing, .valid, .invalid], s.verify t p room = .ok status) ↔
      ∃ found, s.readRecord t room = .ok found := by
  unfold verify
  cases hread : s.readRecord t room with
  | error e => simp [bind, Except.bind]
  | ok found =>
    refine iff_of_true ?_ ⟨found, rfl⟩
    cases found with
    | none => exact ⟨.missing, by simp, rfl⟩
    | some record =>
      obtain ⟨compared, digest, hcompared, hdigest⟩ := hp (some record)
      refine ⟨.ofDigests record.digest digest, ?_, ?_⟩
      · unfold CheckStatus.ofDigests
        split
        · simp
        · simp
      · show (hashInput t p (some record) >>= fun compared => s.digestOf t compared >>= fun digest => _) = _
        rw [hcompared]
        show (s.digestOf t compared >>= fun digest => _) = _
        rw [hdigest]
        rfl

/-- **Which record files can be read.** Whatever bytes the record file holds, and however many levels of a value can be
shown, reading it gives a record or none, unless it holds an entry whose number of files is no number, or whose time or
document is nested more deeply than can be shown. It gives none exactly if there is no entry, or one without a digest. A
check of a path that can be digested says missing, valid or invalid in the same cases. -/
theorem readRecord_settles_iff (h : t.readBytes s.recordPath = .ok bytes) (room : ℕ) :
    ((∃ found, s.readRecord t room = .ok found) ↔ ¬ HoldsUnreadable bytes s.settings.recordKey.toText room) ∧
    (s.readRecord t room = .ok none ↔ ∀ entry, HoldsEntry bytes s.settings.recordKey.toText entry →
      ¬ IntegrityRecord.HasText entry "assertion_hash") ∧
    ∀ p, s.Digestible t p →
      ((∃ status ∈ [CheckStatus.missing, .valid, .invalid], s.verify t p room = .ok status) ↔
        ¬ HoldsUnreadable bytes s.settings.recordKey.toText room) := by
  have hread : (∃ found, s.readRecord t room = .ok found) ↔
      ¬ HoldsUnreadable bytes s.settings.recordKey.toText room := by
    rcases readRecord_cases h with ⟨entry, hentry, hread⟩ | ⟨hnone, hread⟩
    · rw [hread, IntegrityRecord.exists_ofEntry_iff hentry.regular, not_iff_not]
      constructor
      · intro hunreadable
        exact ⟨entry, hentry, hunreadable⟩
      · rintro ⟨entry', hentry', hunreadable⟩
        rwa [hentry.unique hentry']
    · refine iff_of_true ⟨none, hread⟩ ?_
      rintro ⟨entry, hentry, -⟩
      exact hnone entry hentry
  refine ⟨hread, ?_, fun p hp => (exists_verify_iff hp).trans hread⟩
  rcases readRecord_cases h with ⟨entry, hentry, hread⟩ | ⟨hnone, hread⟩
  · rw [hread, IntegrityRecord.ofEntry_eq_none_iff]
    constructor
    · intro hdigest entry' hentry'
      rwa [← hentry.unique hentry']
    · intro hall
      exact hall entry hentry
  · exact iff_of_true hread fun entry hentry => absurd hentry (hnone entry)

/-- A workspace with a feature file and a record file. -/
def recordedAs (text : String) : Tree :=
  .dir [("context.json", .file (encodeUtf8 text.toList)),
    ("specs", .dir [("a.feature", .file (encodeUtf8 "Given x\n".toList))])]

/-- A record file that is no JSON is read as none, and the check of the feature file says missing. -/
theorem readRecord_settles_broken :
    (defaultStore Path.here).readRecord (recordedAs "\x7b") = .ok none ∧
      ∃ status ∈ [CheckStatus.missing, .valid, .invalid],
        (defaultStore Path.here).verify (recordedAs "\x7b") (Path.ofString "specs/a.feature") = .ok status := by
  have hbytes : (recordedAs "\x7b").readBytes (defaultStore Path.here).recordPath = .ok (encodeUtf8 ['\x7b']) := by
    rw [recordPath_defaultStore]
    rfl
  have hnone : ∀ key entry, ¬ HoldsEntry (encodeUtf8 ['\x7b']) key entry := by
    rintro key entry ⟨members, hmembers, -⟩
    have hbroken : (Json.ofBytes? (encodeUtf8 ['\x7b'])).isNone = true := by decide +kernel
    rw [hmembers] at hbroken
    cases hbroken
  have hdigestible : (defaultStore Path.here).Digestible (recordedAs "\x7b") (Path.ofString "specs/a.feature") := by
    intro record
    rw [hashInput]
    cases record.any fun r => r.sourceDirectory.isSome with
    | false =>
      obtain ⟨digest, hdigest, -⟩ := exists_of_toOption_map (f := fun _ => ()) (b := ())
        (x := (defaultStore Path.here).digestOf (recordedAs "\x7b") (Path.ofString "specs/a.feature"))
        (by decide +kernel)
      exact ⟨_, digest, rfl, hdigest⟩
    | true =>
      obtain ⟨digest, hdigest, -⟩ := exists_of_toOption_map (f := fun _ => ()) (b := ())
        (x := (defaultStore Path.here).digestOf (recordedAs "\x7b") (Path.ofString "specs")) (by decide +kernel)
      exact ⟨_, digest, rfl, hdigest⟩
  obtain ⟨-, hmissing, hverify⟩ := readRecord_settles_iff hbytes Json.usualRoom
  refine ⟨hmissing.mpr fun entry hentry => absurd hentry (hnone _ entry), (hverify _ hdigestible).mpr ?_⟩
  rintro ⟨entry, hentry, -⟩
  exact hnone _ entry hentry

/-- A record file with an entry whose number of files is a word. -/
def wordCounted : Tree :=
  recordedAs "\x7b\"testify\": \x7b\"assertion_hash\": \"x\", \"features_dir\": \"f\", \"file_count\": \"many\"\x7d\x7d"

theorem word_count_escapes : ¬ ∃ found, (defaultStore Path.here).readRecord wordCounted = .ok found := by
  rintro ⟨found, hread⟩
  have herror : ((defaultStore Path.here).readRecord wordCounted).toOption.isNone = true := by decide +kernel
  rw [hread] at herror
  cases herror

end RecordStore

end ScenarioAudit
