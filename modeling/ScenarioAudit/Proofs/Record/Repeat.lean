import ScenarioAudit.Proofs.Record.Update

/-! # The last store wins, and when

Whatever was stored before in the same record file, the last of several stores that succeed leaves the bytes that it
would have left alone, if it records the same (`last_store_iff`): the earlier ones only set the same key and at most make
the root. Making the root is where the two can differ: a path that leads nowhere at first may lead to the root then, or
through it. So the last store alone does the same exactly if its path is there before all of them as it is before the
last, or is a document without steps, whose record says nothing else than that of a missing path
(`last_store_wins_iff`). Storing twice is the case of one earlier store.
-/

namespace ScenarioAudit

open ScenarioAudit.Text

theorem Json.Members.set_set (ms : Members) (key : String) (v w : Json) : (ms.set key v).set key w = ms.set key w := by
  induction ms with
  | nil => simp [set]
  | cons m ms ih =>
    obtain ⟨k, u⟩ := m
    by_cases hk : k = key
    · simp [set, hk]
    · simp [set, hk, ih]

namespace RecordStore

variable {s : RecordStore} {t t₁ : Tree}

/-! ## Writing another document -/

theorem makeScratch_other {bytes : List UInt8} {word tries : ℕ} {made : Path × Tree}
    (h : s.makeScratch t bytes word tries = .ok made) (bytes' : List UInt8) :
    ∃ made', s.makeScratch t bytes' word tries = .ok made' := by
  induction tries generalizing word with
  | zero => cases h
  | succ tries ih =>
    have hcongr := t.create_congr (s.scratchPath (scratchWord word)) (.file bytes) (.file bytes')
    unfold makeScratch at h ⊢
    rcases hmade' : t.create (s.scratchPath (scratchWord word)) (.file bytes') with e | t'
    · rcases hmade : t.create (s.scratchPath (scratchWord word)) (.file bytes) with e' | t''
      · rw [hmade, hmade'] at hcongr
        obtain rfl := Except.error.inj hcongr
        rw [hmade] at h
        split at h
        next heq => cases heq
        next heq =>
          cases heq
          exact ih h
        next => cases h
      · rw [hmade, hmade'] at hcongr
        cases hcongr
    · exact ⟨_, rfl⟩

theorem writeDocument_other {members members' : Json.Members} {bytes : List UInt8}
    (h : s.writeDocument t members = (t₁, none)) (hbytes : documentBytes members' = some bytes) :
    ∃ t₂, s.writeDocument t members' = (t₂, none) ∧ t₂.readBytes s.recordPath = .ok bytes := by
  obtain ⟨text, hrender, rfl⟩ := Option.map_eq_some_iff.mp hbytes
  unfold writeDocument at h
  split at h
  · cases h
  next t' hroot =>
    split at h
    · cases h
    obtain ⟨⟨made, hmade⟩, hwritten⟩ := replaceRecord_eq_ok.mp h
    obtain ⟨made', hmade'⟩ := makeScratch_other hmade (encodeUtf8 (text ++ ['\n']))
    obtain ⟨t₂, hwritten'⟩ := Tree.exists_writeBytes hwritten (encodeUtf8 (text ++ ['\n']))
    refine ⟨t₂, ?_, Tree.readBytes_writeBytes hwritten'⟩
    simp only [writeDocument, hroot, hrender]
    exact replaceRecord_eq_ok.mpr ⟨⟨made', hmade'⟩, hwritten'⟩

/-! ## Several stores -/

/-- Several stores, one after the other, that all succeed: each with its path, as it is written down, and its time. -/
inductive Stores (s : RecordStore) : Tree → List (String × Moment) → Tree → Prop
  | nil (t : Tree) : Stores s t [] t
  | snoc {t t₁ t₂ : Tree} {earlier : List (String × Moment)} {shown : String} {now : Moment} {r : IntegrityRecord}
      (h : Stores s t earlier t₁) (hlast : s.store t₁ shown now = (t₂, .ok r)) :
      Stores s t (earlier ++ [(shown, now)]) t₂

/-- What several stores keep: only the record file is written, its document is the one that was there but for the one
key, and what can be written after them can be written before. -/
structure Follows (s : RecordStore) (t₀ t : Tree) : Prop where
  frame : ∃ written, Tree.Within written Set.univ t₀ t ∧
    ∀ names ∈ written, t.walk s.recordPath s.recordPath.names = .ok (.inside names)
  document {members : Json.Members} (h : s.document t = .ok members) : ∃ members₀, s.document t₀ = .ok members₀ ∧
    ∀ v, members.set s.settings.recordKey.toText v = members₀.set s.settings.recordKey.toText v
  writes {members : Json.Members} {t' : Tree} (h : s.writeDocument t members = (t', none)) :
    ∃ t₁, s.writeDocument t₀ members = (t₁, none)

theorem Follows.refl (s : RecordStore) (t : Tree) : s.Follows t t where
  frame := ⟨∅, (Tree.Framed.refl _).mono (Set.Subset.refl _) (Set.empty_subset _), fun _ h => nomatch h⟩
  document h := ⟨_, h, fun _ => rfl⟩
  writes h := ⟨_, h⟩

theorem document_of_store {shown : String} {now : Moment} {r : IntegrityRecord} {members : Json.Members}
    (h : s.store t shown now = (t₁, .ok r)) (hmembers : s.document t = .ok members) :
    s.document t₁ = .ok (members.set s.settings.recordKey.toText (.obj r.toEntry)) := by
  obtain ⟨-, members', hmembers', hwrite⟩ := store_eq_ok h
  obtain rfl := Except.ok.inj (hmembers.symm.trans hmembers')
  obtain ⟨t', bytes, -, hbytes, hwritten⟩ := writeDocument_eq_ok hwrite
  exact document_of_readBytes (regular_stored hmembers hbytes) hbytes (Tree.readBytes_writeBytes hwritten)

theorem Follows.store {t₀ t t' : Tree} (h : s.Follows t₀ t) {shown : String} {now : Moment} {r : IntegrityRecord}
    (hstore : s.store t shown now = (t', .ok r)) : s.Follows t₀ t' := by
  obtain ⟨-, members, hmembers, hwrite⟩ := store_eq_ok hstore
  constructor
  case frame =>
    obtain ⟨written, hwithin, hwritten⟩ := h.frame
    obtain ⟨names, hwalk, hlast⟩ := (updated_of_store hstore).frame
    refine ⟨written ∪ {names}, (hwithin.trans hlast).mono (Set.Subset.refl _) (Set.subset_univ _), ?_⟩
    rintro names' (hnames | rfl)
    · exact hlast.walk (hwritten _ hnames)
    · exact hwalk
  case document =>
    intro members' hmembers'
    obtain ⟨members₀, hmembers₀, hset⟩ := h.document hmembers
    refine ⟨members₀, hmembers₀, fun v => ?_⟩
    rw [document_of_store hstore hmembers] at hmembers'
    rw [← Except.ok.inj hmembers', Json.Members.set_set, hset]
  case writes =>
    intro members' t₁ hwrite'
    obtain ⟨-, bytes, -, hbytes, -⟩ := writeDocument_eq_ok hwrite'
    obtain ⟨t₂, hfirst⟩ := h.writes hwrite
    obtain ⟨t₃, hwritten, -⟩ := writeDocument_other hfirst hbytes
    exact ⟨t₃, hwritten⟩

/-- **Any number of stores keeps it.** -/
theorem Stores.follows {t₀ t : Tree} {earlier : List (String × Moment)} (h : s.Stores t₀ earlier t) :
    s.Follows t₀ t := by
  induction h with
  | nil => exact Follows.refl s _
  | snoc _ hlast ih => exact ih.store hlast

/-! ## The last store -/

section Last

variable {t₀ t' : Tree} {shown : String} {now : Moment} {r : IntegrityRecord} (h : s.Follows t₀ t)
  (hlast : s.store t shown now = (t', .ok r))

include h hlast

/-- **The last store alone leaves the same bytes exactly if it makes the same entry.** -/
theorem last_store_iff :
    (∃ t₁ r₁, s.store t₀ shown now = (t₁, .ok r₁) ∧ t₁.readBytes s.recordPath = t'.readBytes s.recordPath) ↔
      ∃ r₁, s.recordOf t₀ shown now = .ok r₁ ∧ r₁.toEntry = r.toEntry := by
  obtain ⟨-, members, hmembers, hwrite⟩ := store_eq_ok hlast
  obtain ⟨t'', bytes, -, hbytes, hwritten⟩ := writeDocument_eq_ok hwrite
  obtain ⟨members₀, hmembers₀, hset⟩ := h.document hmembers
  constructor
  · rintro ⟨t₁, r₁, hstore, hsame⟩
    refine ⟨r₁, (store_eq_ok hstore).1, ?_⟩
    -- The same bytes are the same document, which has both entries under its key.
    have hdocument : s.document t₁ = s.document t' := by
      rw [document, document, hsame]
    rw [document_of_store hstore hmembers₀, document_of_store hlast hmembers] at hdocument
    have hentry := congrArg (Json.Members.get? · s.settings.recordKey.toText) (Except.ok.inj hdocument)
    simpa using hentry
  · rintro ⟨r₁, hrecord, hentry⟩
    obtain ⟨t₁, hfirst⟩ := h.writes hwrite
    obtain ⟨t₂, hwrite₀, hread⟩ := writeDocument_other hfirst hbytes
    rw [hset, ← hentry] at hwrite₀
    refine ⟨t₂, r₁, ?_, hread.trans (Tree.readBytes_writeBytes hwritten).symm⟩
    simp only [store, hrecord, hmembers₀, hwrite₀]

end Last

/-! ## What the last store records -/

/-- The entry of a missing path is the entry of a path that is there exactly if that is a document without steps. -/
theorem entry_missing_iff {p : Path} {c : Corpus} (hexists : t.pathExists p = .ok true)
    (hc : Corpus.ofPath t p = .ok c) (shown stamp sentinel digest : String) :
    (⟨sentinel, stamp, (Source.missing p).origin shown⟩ : IntegrityRecord).toEntry =
        (⟨digest, stamp, c.source.origin shown⟩ : IntegrityRecord).toEntry ↔
      t.isFile p = .ok true ∧ digest = sentinel := by
  obtain ⟨hsource, -⟩ := Corpus.ofPath_eq_ok.mp hc
  obtain ⟨u, hfind⟩ := Tree.exists_find hexists
  have hfile : t.isFile p = .ok (!u.isDirNode) := by
    rw [Tree.isFile, Tree.look_of_find hfind]
    rfl
  rw [hfile]
  cases u with
  | file bytes =>
    rw [classifyPath_file hfind] at hsource
    have horigin : ∃ kind, c.source.origin shown = .document shown kind := by
      rw [← Except.ok.inj hsource]
      split
      · exact ⟨_, rfl⟩
      · exact ⟨_, rfl⟩
    obtain ⟨kind, horigin⟩ := horigin
    rw [horigin]
    simp [Source.origin, IntegrityRecord.toEntry, Tree.isDirNode, eq_comm]
  | dir es =>
    rw [classifyPath_dir hfind] at hsource
    obtain ⟨files, -, hsource⟩ := map_eq_ok hsource
    simp [← hsource, Source.origin, IntegrityRecord.toEntry, Tree.isDirNode]

/-- Before and after the other stores a path is there or not; looking it up does not begin to work. -/
theorem pathExists_cases {t₀ : Tree} (h : s.Follows t₀ t) {p : Path} {c : Corpus} (hc : Corpus.ofPath t p = .ok c) :
    (t₀.pathExists p = .ok false ∧ t.pathExists p = .ok false) ∨
      (t₀.pathExists p = .ok false ∧ t.pathExists p = .ok true) ∨
      (t₀.pathExists p = .ok true ∧ t.pathExists p = .ok true) := by
  obtain ⟨written, hwithin, -⟩ := h.frame
  have hlook {e : Trouble} (he : t.look p = .error e) : False := by
    obtain ⟨hsource, -⟩ := Corpus.ofPath_eq_ok.mp hc
    rw [classifyPath_look, he] at hsource
    cases hsource
  have hthere (found : Option Tree) {t : Tree} (h : t.look p = .ok found) : t.pathExists p = .ok found.isSome := by
    rw [Tree.pathExists, h]
    rfl
  rcases hfound₀ : t₀.look p with e | found₀
  · exact (hlook (hwithin.look_error hfound₀)).elim
  rcases hfound : t.look p with e | found
  · exact (hlook hfound).elim
  rw [hthere _ hfound₀, hthere _ hfound]
  rcases found₀ with _ | u₀
  · rcases found with _ | u
    · exact Or.inl ⟨rfl, rfl⟩
    · exact Or.inr (Or.inl ⟨rfl, rfl⟩)
  · have hstays := hwithin.pathExists (hthere _ hfound₀)
    rw [hthere _ hfound] at hstays
    exact Or.inr (Or.inr ⟨rfl, hstays⟩)

/-- The last store makes the entry that it would make alone exactly if its path is there before all stores as it is
before the last, or is a document without steps. -/
theorem recordOf_iff {t₀ : Tree} (h : s.Follows t₀ t) {shown : String} {now : Moment} {r : IntegrityRecord} {c : Corpus}
    (hrecord : s.recordOf t shown now = .ok r) (hc : Corpus.ofPath t (Path.ofString shown) = .ok c)
    (hfiles : ∀ q ∈ c.source.files, ¬ t.SamePlace q s.recordPath) :
    (∃ r₁, s.recordOf t₀ shown now = .ok r₁ ∧ r₁.toEntry = r.toEntry) ↔
      t₀.pathExists (Path.ofString shown) = t.pathExists (Path.ofString shown) ∨
        t.isFile (Path.ofString shown) = .ok true ∧
          c.digest s.settings.emptySentinel.toText = s.settings.emptySentinel.toText := by
  obtain ⟨written, hwithin, hwritten⟩ := h.frame
  have hsame (hcorpus : Corpus.ofPath t₀ (Path.ofString shown) = .ok c) :
      ∃ r₁, s.recordOf t₀ shown now = .ok r₁ ∧ r₁.toEntry = r.toEntry := by
    refine ⟨r, ?_, rfl⟩
    rw [recordOf_eq, hc] at hrecord
    rw [recordOf_eq, hcorpus, hrecord]
  rcases pathExists_cases h hc with ⟨hfirst, hlast⟩ | ⟨hfirst, hlast⟩ | ⟨hfirst, hlast⟩
  · refine iff_of_true (hsame ?_) (Or.inl (hfirst.trans hlast.symm))
    rw [ofPath_missing hlast] at hc
    rw [ofPath_missing hfirst, hc]
  · -- The path has come to be there, so alone the store would record that it is missing.
    have hfirstRecord : s.recordOf t₀ shown now = .ok ⟨s.settings.emptySentinel.toText, now.stamp,
        (Source.missing (Path.ofString shown)).origin shown⟩ := by
      rw [recordOf_eq, ofPath_missing hfirst]
      rfl
    rw [recordOf_eq, hc] at hrecord
    obtain rfl := Except.ok.inj hrecord
    have hentry := entry_missing_iff hlast hc shown now.stamp s.settings.emptySentinel.toText
      (c.digest s.settings.emptySentinel.toText)
    constructor
    · rintro ⟨r₁, hr₁, hsameEntry⟩
      rw [hfirstRecord] at hr₁
      obtain rfl := Except.ok.inj hr₁
      exact Or.inr (hentry.mp hsameEntry)
    · rintro (hthere | hfile)
      · rw [hfirst, hlast] at hthere
        cases hthere
      · exact ⟨_, hfirstRecord, hentry.mpr hfile⟩
  · refine iff_of_true (hsame (hwithin.ofPath hfirst hc ?_)) (Or.inl (hfirst.trans hlast.symm))
    intro q hq names hnames hwalk
    exact hfiles q hq ⟨names, hwalk, hwritten names hnames⟩

/-- **The last store wins exactly if its path does not come to be there meanwhile.** Let the record file be none of the
files that the last corpus is read from. Then the last of several stores that succeed leaves the bytes that it would
have left alone, on the workspace as it was at first, exactly if its path was there then as it is before the last store,
or is a document without steps. In particular a store that is repeated at the same time changes no byte exactly then. -/
theorem last_store_wins_iff {s : RecordStore} {t₀ t t' : Tree} {earlier : List (String × Moment)} {shown : String}
    {now : Moment} {r : IntegrityRecord} {c : Corpus} (hearlier : s.Stores t₀ earlier t)
    (hlast : s.store t shown now = (t', .ok r)) (hc : Corpus.ofPath t (Path.ofString shown) = .ok c)
    (hfiles : ∀ q ∈ c.source.files, ¬ t.SamePlace q s.recordPath) :
    (∃ t₁ r₁, s.store t₀ shown now = (t₁, .ok r₁) ∧ t₁.readBytes s.recordPath = t'.readBytes s.recordPath) ↔
      t₀.pathExists (Path.ofString shown) = t.pathExists (Path.ofString shown) ∨
        t.isFile (Path.ofString shown) = .ok true ∧
          c.digest s.settings.emptySentinel.toText = s.settings.emptySentinel.toText :=
  (last_store_iff hearlier.follows hlast).trans (recordOf_iff hearlier.follows (store_eq_ok hlast).1 hc hfiles)

/-- A workspace with one directory, which has no files yet. -/
def bareTree : Tree :=
  .dir [("specs", .dir [])]

/-- That directory is there before and after it is stored, so storing it twice at the same time leaves the bytes that
storing it once leaves. -/
theorem last_store_wins_bare :
    ∃ t₁ t₂ r₁ r₂, (defaultStore Path.here).store bareTree "specs" default = (t₁, .ok r₁) ∧
      (defaultStore Path.here).store t₁ "specs" default = (t₂, .ok r₂) ∧
      ∃ t₃ r₃, (defaultStore Path.here).store bareTree "specs" default = (t₃, .ok r₃) ∧
        t₃.readBytes (defaultStore Path.here).recordPath = t₂.readBytes (defaultStore Path.here).recordPath := by
  obtain ⟨r₁, hr₁⟩ := exists_of_toOption (x := ((defaultStore Path.here).store bareTree "specs" default).2)
    (by decide +kernel)
  obtain ⟨r₂, hr₂⟩ := exists_of_toOption (x := ((defaultStore Path.here).store
    ((defaultStore Path.here).store bareTree "specs" default).1 "specs" default).2) (by decide +kernel)
  have hfirst : (defaultStore Path.here).store bareTree "specs" default =
      (((defaultStore Path.here).store bareTree "specs" default).1, .ok r₁) := Prod.ext rfl hr₁
  have hsecond : (defaultStore Path.here).store ((defaultStore Path.here).store bareTree "specs" default).1 "specs"
      default = (((defaultStore Path.here).store ((defaultStore Path.here).store bareTree "specs" default).1 "specs"
        default).1, .ok r₂) := Prod.ext rfl hr₂
  generalize ((defaultStore Path.here).store bareTree "specs" default).1 = t₁ at hfirst hsecond
  generalize ((defaultStore Path.here).store t₁ "specs" default).1 = t₂ at hsecond
  obtain ⟨c, hc, -⟩ := recordOf_eq_ok (store_eq_ok hsecond).1
  have hexists : bareTree.pathExists (Path.ofString "specs") = .ok true := rfl
  have hwalk : bareTree.walk (Path.ofString "specs") (Path.ofString "specs").names = .ok (.inside ["specs"]) := rfl
  obtain ⟨names, -, hwithin⟩ := (updated_of_store hfirst).frame
  have hfiles : ∀ q ∈ c.source.files, ¬ t₁.SamePlace q (defaultStore Path.here).recordPath := by
    intro q hq hsame
    rw [recordPath_defaultStore] at hsame
    have hspecs := samePlace_of_mem_files (Corpus.ofPath_eq_ok.mp hc).1 (by decide) (by decide) hq hsame
    rw [← recordPath_defaultStore] at hspecs
    exact not_samePlace_of_store hfirst hwalk (by decide) hspecs
  refine ⟨t₁, t₂, r₁, r₂, hfirst, hsecond, ?_⟩
  exact (last_store_wins_iff (.snoc (.nil _) hfirst) hsecond hc hfiles).mpr
    (Or.inl (hexists.trans (hwithin.pathExists hexists).symm))

/-- The store whose root is the path that its record is taken of. -/
def ownRoot : RecordStore :=
  ⟨Path.ofString "r", {}⟩

/-- In an empty workspace that path is missing at first; storing makes it the root, so storing again records a
directory. No file is read for either record. -/
theorem repeated_store_differs :
    ∃ t₁ t₂ r₁ r₂ c₁ c₂, ownRoot.store (.dir []) "r" default = (t₁, .ok r₁) ∧
      ownRoot.store t₁ "r" default = (t₂, .ok r₂) ∧
      Corpus.ofPath (.dir []) (Path.ofString "r") = .ok c₁ ∧ c₁.source.files = [] ∧
      Corpus.ofPath t₁ (Path.ofString "r") = .ok c₂ ∧ c₂.source.files = [] ∧
      t₂.readBytes ownRoot.recordPath ≠ t₁.readBytes ownRoot.recordPath := by
  obtain ⟨r₁, hr₁⟩ := exists_of_toOption (x := (ownRoot.store (.dir []) "r" default).2) (by decide +kernel)
  obtain ⟨hsecond, hbytes⟩ :
      (ownRoot.store (ownRoot.store (.dir []) "r" default).1 "r" default).2.toOption.isSome = true ∧
      ((ownRoot.store (ownRoot.store (.dir []) "r" default).1 "r" default).1.readBytes ownRoot.recordPath).toOption ≠
        ((ownRoot.store (.dir []) "r" default).1.readBytes ownRoot.recordPath).toOption := by decide +kernel
  obtain ⟨r₂, hr₂⟩ := exists_of_toOption hsecond
  obtain ⟨c₂, hc₂, -⟩ := recordOf_eq_ok (store_eq_ok (Prod.ext rfl hr₂)).1
  have hfiles : ((Corpus.ofPath (ownRoot.store (.dir []) "r" default).1 (Path.ofString "r")).toOption.map
      fun c => c.source.files) = some [] := by decide +kernel
  rw [hc₂] at hfiles
  exact ⟨_, _, r₁, r₂, _, c₂, Prod.ext rfl hr₁, Prod.ext rfl hr₂, rfl, rfl, hc₂, Option.some.inj hfiles,
    fun hsame => hbytes (congrArg Except.toOption hsame)⟩

end RecordStore

end ScenarioAudit
