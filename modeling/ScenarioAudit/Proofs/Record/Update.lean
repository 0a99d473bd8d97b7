import ScenarioAudit.Proofs.Record.Evidence

/-! # Storing is all or nothing

Storing that fails leaves every file as it was and makes no new one; at most directories on the way to the root were
made. Storing that succeeds writes the record file and no other one, scratch files included, and the document in it is
the one that was there with one key set: every other key keeps its value and its place (`store_framed`).
-/

namespace ScenarioAudit

open ScenarioAudit.Text

/-! ## Setting one key -/

namespace Json

/-- A document and the one with a key set: in its place if the key is there, and at the end otherwise. -/
inductive SetsKey (key : String) (v : Json) : Members → Members → Prop
  | replaced (front back : Members) (old : Json) (hfront : key ∉ front.map Prod.fst)
      (hback : key ∉ back.map Prod.fst) : SetsKey key v (front ++ (key, old) :: back) (front ++ (key, v) :: back)
  | added (ms : Members) (hms : key ∉ ms.map Prod.fst) : SetsKey key v ms (ms ++ [(key, v)])

theorem setsKey_set {ms : Members} (h : (ms.map Prod.fst).Nodup) (key : String) (v : Json) :
    SetsKey key v ms (ms.set key v) := by
  induction ms with
  | nil => exact .added [] List.not_mem_nil
  | cons m ms ih =>
    obtain ⟨k, w⟩ := m
    rw [List.map_cons, List.nodup_cons] at h
    by_cases hk : k = key
    · subst hk
      rw [Members.set, if_pos rfl]
      exact .replaced [] ms w List.not_mem_nil h.1
    · rw [Members.set, if_neg hk]
      have hkey {ks : List String} (hks : key ∉ ks) : key ∉ k :: ks := by
        rw [List.mem_cons, not_or]
        exact ⟨Ne.symm hk, hks⟩
      have hrest := ih h.2
      generalize Members.set ms key v = ms' at hrest ⊢
      cases hrest with
      | replaced front back old hfront hback => exact .replaced ((k, w) :: front) back old (hkey hfront) hback
      | added _ hms => exact .added ((k, w) :: ms) (hkey hms)

end Json

/-! ## What storing does -/

namespace RecordStore

variable {s : RecordStore} {t t₁ : Tree}

/-- The document that the record file holds. A file that is missing or that is no document counts as an empty one. -/
inductive Holds (s : RecordStore) (t : Tree) : Json.Members → Prop
  | document {bytes : List UInt8} {members : Json.Members} (hread : t.readBytes s.recordPath = .ok bytes)
      (hdocument : Json.ofBytes? bytes = some (.obj members)) : Holds s t members
  | other {bytes : List UInt8} (hread : t.readBytes s.recordPath = .ok bytes)
      (hother : ∀ members, Json.ofBytes? bytes ≠ some (.obj members)) : Holds s t []
  | missing {shown : String} (hread : t.readBytes s.recordPath = .error (.path .noEntry shown)) : Holds s t []

theorem holds_of_document {members : Json.Members} (h : s.document t = .ok members) : s.Holds t members := by
  unfold document at h
  split at h
  next hread =>
    split at h
    next hdocument =>
      cases h
      exact .document hread hdocument
    next hother =>
      cases h
      exact .other hread hother
  next hread =>
    cases h
    exact .missing hread
  next => cases h

/-- The record file was written with one key set, and nothing else was. -/
structure Updated (s : RecordStore) (t t₁ : Tree) (r : IntegrityRecord) : Prop where
  /-- No file but the record file was written or is new, and directories are new only on the way to the root. -/
  frame : ∃ names, t₁.walk s.recordPath s.recordPath.names = .ok (.inside names) ∧
    Tree.Within {names} (t₁.wayTo s.root) t t₁
  /-- The document in the record file is the one that was there, with the entry of the record set. -/
  document : ∃ members members' bytes, s.Holds t members ∧
    Json.SetsKey s.settings.recordKey.toText (.obj r.toEntry) members members' ∧
    t₁.readBytes s.recordPath = .ok bytes ∧ Json.ofBytes? bytes = some (.obj members')

theorem updated_of_store {shown : String} {now : Moment} {r : IntegrityRecord}
    (h : s.store t shown now = (t₁, .ok r)) : s.Updated t t₁ r := by
  obtain ⟨-, members, hmembers, hwrite⟩ := store_eq_ok h
  obtain ⟨t₀, bytes, hroot, hbytes, hwritten⟩ := writeDocument_eq_ok hwrite
  obtain ⟨names, hwithin, hwalk, -⟩ := Tree.within_writeBytes hwritten
  constructor
  case frame =>
    refine ⟨names, hwalk, (hroot.trans hwithin).mono ?_ ?_⟩
    · rw [Set.empty_union]
    · rw [Set.union_empty]
      exact hwithin.wayTo s.root
  case document =>
    have hregular := regular_document hmembers
    refine ⟨members, _, bytes, holds_of_document hmembers, Json.setsKey_set hregular.1 _ _,
      Tree.readBytes_writeBytes hwritten, ?_⟩
    obtain ⟨text, hrender, rfl⟩ := Option.map_eq_some_iff.mp hbytes
    exact Json.ofBytes_render (regular_stored hmembers hbytes) hrender

/-- Storing that fails stops before anything is written, or writing fails. -/
theorem within_of_store_error {shown : String} {now : Moment} {e : Trouble}
    (h : s.store t shown now = (t₁, .error e)) : Tree.Within ∅ (t₁.wayTo s.root) t t₁ := by
  have hsame (made : Set (List String)) : Tree.Within ∅ made t t :=
    (Tree.Framed.refl _).mono (Set.Subset.refl _) (Set.empty_subset _)
  unfold store at h
  split at h
  · cases h
    exact hsame _
  split at h
  · cases h
    exact hsame _
  split at h
  next hwrite =>
    cases h
    exact writeDocument_eq_error hwrite
  next => cases h

/-! ## The record that was stored -/

/-- The record of a path that is there is read as it was stored: its kind is told from its name. -/
theorem reread_recordOf {p : Path} (hp : p.Parsed) {now : Moment} {r : IntegrityRecord}
    (h : s.recordOf t p.toString now = .ok r) (hexists : t.pathExists p = .ok true) : r.reread = r := by
  rw [recordOf_eq, hp.ofString_toString] at h
  obtain ⟨c, hc, rfl⟩ := map_eq_ok h
  obtain ⟨hsource, -⟩ := Corpus.ofPath_eq_ok.mp hc
  obtain ⟨u, hfind⟩ := Tree.exists_find hexists
  cases u with
  | file bytes =>
    rw [classifyPath_file hfind, ← isFeatureName_toString] at hsource
    rw [← Except.ok.inj hsource]
    by_cases hname : isFeatureName p.toString = true
    · simp [IntegrityRecord.reread, Source.origin, Source.kind, hname]
    · simp [IntegrityRecord.reread, Source.origin, Source.kind, hname]
  | dir es =>
    rw [classifyPath_dir hfind] at hsource
    obtain ⟨files, -, hsource⟩ := map_eq_ok hsource
    rw [← hsource]
    rfl

/-- **Storing is all or nothing.** If it fails, then no file was written and none is new. If it succeeds, then the
record file is the only one that was written, scratch files included; its document is the one that was there before,
empty if there was none, with the entry of the record set under its key; and the record of a path that was there is
read back as it was returned, if it has a digest. -/
theorem store_framed {s : RecordStore} {t t₁ : Tree} {shown : String} {now : Moment}
    {outcome : Except Trouble IntegrityRecord} (h : s.store t shown now = (t₁, outcome)) :
    (∀ e, outcome = .error e → Tree.Within ∅ (t₁.wayTo s.root) t t₁) ∧
      ∀ r, outcome = .ok r → s.Updated t t₁ r ∧
        ∀ text, shown = (Path.ofString text).toString → t.pathExists (Path.ofString text) = .ok true →
          r.digest ≠ "" → ∀ room, s.readRecord t₁ room = .ok (some r) := by
  constructor
  · rintro e rfl
    exact within_of_store_error h
  · rintro r rfl
    refine ⟨updated_of_store h, ?_⟩
    rintro text rfl hexists hdigest room
    have hparsed := Path.parsed_ofString text
    have hread := readRecord_of_store h hparsed.toString_ne_empty hdigest rfl room
    rwa [reread_recordOf hparsed (store_eq_ok h).1 hexists] at hread

/-- A path that was there under another name than the record file has is not the record file. -/
theorem not_samePlace_of_store {t t₁ : Tree} {root p : Path} {shown : String} {now : Moment} {r : IntegrityRecord}
    {names : List String} (h : (defaultStore root).store t shown now = (t₁, .ok r))
    (hwalk : t.walk p p.names = .ok (.inside names)) (hlast : names.getLast? ≠ some "context.json") :
    ¬ t₁.SamePlace p (defaultStore root).recordPath := by
  rintro ⟨names', hp, hrecord⟩
  obtain ⟨written, -, hwithin⟩ := (updated_of_store h).frame
  have hsame := hwithin.walk hwalk
  rw [hp] at hsame
  cases hsame
  rw [recordPath_defaultStore] at hrecord
  obtain ⟨at_, -, hat⟩ := Tree.exists_walk_child (by decide) hrecord
  rw [Tree.Place.inside.inj hat, List.getLast?_concat] at hlast
  exact hlast rfl

/-- A store whose record file is to be in a directory of its own, which nobody makes. -/
def strandedStore : RecordStore :=
  ⟨Path.ofString "out", { recordFilename := codesOf "own/context.json" }⟩

/-- Storing the record of a directory succeeds under the default settings, and it is read back; the stranded store
fails after its root was made. -/
theorem store_framed_specs :
    (∃ t₁ r, (defaultStore Path.here).store specsTree (Path.ofString "specs").toString default = (t₁, .ok r) ∧
        Updated (defaultStore Path.here) specsTree t₁ r ∧
        (r.digest ≠ "" → ∀ room, (defaultStore Path.here).readRecord t₁ room = .ok (some r))) ∧
      ∃ t₁ e, strandedStore.store specsTree (Path.ofString "specs").toString default = (t₁, .error e) ∧
        (t₁.below? ["out"]).isSome = true ∧
        Tree.Within ∅ (t₁.wayTo strandedStore.root) specsTree t₁ := by
  constructor
  · obtain ⟨r, hr⟩ := exists_of_toOption (x := ((defaultStore Path.here).store specsTree
      (Path.ofString "specs").toString default).2) (by decide +kernel)
    have hstore : (defaultStore Path.here).store specsTree (Path.ofString "specs").toString default =
        (((defaultStore Path.here).store specsTree (Path.ofString "specs").toString default).1, .ok r) :=
      Prod.ext rfl hr
    obtain ⟨hupdated, hread⟩ := (store_framed hstore).2 r rfl
    exact ⟨_, r, hstore, hupdated, hread "specs" rfl rfl⟩
  · obtain ⟨e, he⟩ := exists_of_toOption_none (x := (strandedStore.store specsTree
      (Path.ofString "specs").toString default).2) (by decide +kernel)
    have hstore : strandedStore.store specsTree (Path.ofString "specs").toString default =
        ((strandedStore.store specsTree (Path.ofString "specs").toString default).1, .error e) :=
      Prod.ext rfl he
    exact ⟨_, e, hstore, by decide +kernel, (store_framed hstore).1 e rfl⟩

end RecordStore

end ScenarioAudit
