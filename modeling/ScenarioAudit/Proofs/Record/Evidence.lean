import ScenarioAudit.Proofs.Record.Store

/-! # A record is evidence of tampering

A record that was stored under the default settings is compared with on every later check, whatever else became of
the workspace: the check finds it, calls the same lines valid and different lines invalid, and errs only on a
collision of the two joined texts (`verify_of_store`). The same holds for each feature file inside a directory that
was stored, since its record lies at the same root and its check compares the whole directory.
-/

namespace ScenarioAudit

open ScenarioAudit.Text

/-- What checking a path tells about the corpus that a record was taken of, however many levels of a value can be
shown. -/
structure Evident (s : RecordStore) (t : Tree) (p : Path) (record : IntegrityRecord) (stored : Corpus) :
    Prop where
  read : ∀ room, s.readRecord t room = .ok (some record)
  not_missing : ∀ room, s.verify t p room ≠ .ok .missing
  valid : ∀ {compared c} room, RecordStore.hashInput t p (some record) = .ok compared →
    Corpus.ofPath t compared = .ok c → c.lines = stored.lines → s.verify t p room = .ok .valid
  invalid : ∀ {compared c} room, RecordStore.hashInput t p (some record) = .ok compared →
    Corpus.ofPath t compared = .ok c → c.lines ≠ stored.lines →
      s.verify t p room = .ok .invalid ∨
        c.lines ≠ [] ∧ stored.lines ≠ [] ∧ Collision (encodeUtf8 c.joined) (encodeUtf8 stored.joined)

/-! ## What a check computes -/

namespace RecordStore

variable {s : RecordStore} {t : Tree} {p : Path} {record : IntegrityRecord}

theorem verify_eq {room : ℕ} (h : s.readRecord t room = .ok (some record)) :
    s.verify t p room = (hashInput t p (some record)).bind fun compared =>
      (Corpus.ofPath t compared).map fun c =>
        .ofDigests record.digest (c.digest s.settings.emptySentinel.toText) := by
  rw [verify, h]
  change (hashInput t p (some record) >>= fun compared => s.digestOf t compared >>= fun digest =>
    pure (CheckStatus.ofDigests record.digest digest)) = _
  rcases hashInput t p (some record) with e | compared
  · rfl
  · change (s.digestOf t compared >>= fun digest =>
      pure (CheckStatus.ofDigests record.digest digest)) = (Corpus.ofPath t compared).map _
    rw [digestOf, digestAt]
    rcases Corpus.ofPath t compared with e | c
    · rfl
    · rfl

theorem ofDigests_ne_missing (stored current : String) :
    CheckStatus.ofDigests stored current ≠ .missing := by
  rw [CheckStatus.ofDigests]
  split
  · exact CheckStatus.noConfusion
  · exact CheckStatus.noConfusion

theorem evident_of_readRecord {stored : Corpus} (hread : ∀ room, s.readRecord t room = .ok (some record))
    (hsentinel : s.settings.emptySentinel.toText.length ≠ 64) (hclean : ∀ l ∈ stored.lines, '\n' ∉ l)
    (hdigest : record.digest = stored.digest s.settings.emptySentinel.toText) :
    Evident s t p record stored where
  read := hread
  not_missing := by
    intro room
    rw [verify_eq (hread room)]
    rcases hashInput t p (some record) with e | compared
    · exact fun h => nomatch h
    · change (Corpus.ofPath t compared).map _ ≠ _
      rcases Corpus.ofPath t compared with e | c
      · exact fun h => nomatch h
      · exact fun h => ofDigests_ne_missing _ _ (Except.ok.inj h)
  valid := by
    intro compared c room hcompared hc hlines
    have hsame : c.digest s.settings.emptySentinel.toText = record.digest := by
      rw [hdigest]
      exact (digest_eq_iff hsentinel (Corpus.ofPath_clean hc) hclean).mpr (Or.inl hlines)
    rw [verify_eq (hread room), hcompared]
    change (Corpus.ofPath t compared).map _ = _
    rw [hc]
    change Except.ok (CheckStatus.ofDigests _ _) = _
    rw [CheckStatus.ofDigests, if_pos hsame]
  invalid := by
    intro compared c room hcompared hc hlines
    rw [verify_eq (hread room), hcompared]
    change (Corpus.ofPath t compared).map _ = _ ∨ _
    rw [hc]
    change Except.ok (CheckStatus.ofDigests _ _) = _ ∨ _
    by_cases hsame : c.digest s.settings.emptySentinel.toText = record.digest
    · rw [hdigest] at hsame
      exact Or.inr (((digest_eq_iff hsentinel (Corpus.ofPath_clean hc) hclean).mp hsame).resolve_left hlines)
    · left
      rw [CheckStatus.ofDigests, if_neg hsame]

end RecordStore

/-! ## The default settings -/

def defaultStore (root : Path) : RecordStore :=
  ⟨root, {}⟩

theorem recordPath_defaultStore (root : Path) :
    (defaultStore root).recordPath = root.child "context.json" := by
  have hname : Path.ofString (defaultStore root).settings.recordFilename.toText =
      ⟨.relative, ["context.json"]⟩ := by
    change Path.ofString ({} : IntegritySettings).recordFilename.toText = _
    decide
  rw [RecordStore.recordPath, hname]
  rfl

theorem sentinel_defaultStore (root : Path) :
    (defaultStore root).settings.emptySentinel.toText = "NO_ASSERTIONS" := by
  change ({} : IntegritySettings).emptySentinel.toText = _
  decide

theorem digest_ne_empty (c : Corpus) : c.digest "NO_ASSERTIONS" ≠ "" := by
  rw [Corpus.digest]
  split
  · decide
  · intro heq
    have hlength := length_sha256 (encodeUtf8 c.joined)
    rw [heq] at hlength
    exact absurd hlength (by decide)

/-! ## Files inside a directory -/

theorem artifactRoot_of_isDir {t : Tree} {p root : Path} (hdir : t.isDir p = .ok true)
    (h : artifactRoot t p = .ok root) : root = p.parent.parent := by
  obtain ⟨isDir, hisDir, h⟩ := bind_eq_ok h
  rw [hdir] at hisDir
  cases hisDir
  exact (Except.ok.inj h).symm

theorem isDir_of_isFile {t : Tree} {p : Path} (h : t.isFile p = .ok true) : t.isDir p = .ok false := by
  obtain ⟨found, hfound, h⟩ := map_eq_ok h
  rw [Tree.isDir, hfound]
  rcases found with _ | ⟨bytes | es⟩
  · cases h
  · rfl
  · cases h

theorem artifactRoot_of_feature {t : Tree} {p : Path} {name : String} (hname : isFeatureName name = true)
    (hfile : t.isFile (p.child name) = .ok true) :
    artifactRoot t (p.child name) = .ok p.parent.parent := by
  rw [artifactRoot, isDir_of_isFile hfile]
  change (if isFeatureName (p.child name).name = true then _ else _) = _
  rw [Path.name_child, if_pos hname, Path.parent_child]
  rfl

theorem hashInput_of_feature {t : Tree} {p : Path} {name : String} {record : IntegrityRecord}
    (hname : isFeatureName name = true) (hfile : t.isFile (p.child name) = .ok true)
    (hdirectory : record.sourceDirectory.isSome = true) :
    RecordStore.hashInput t (p.child name) (some record) = .ok p := by
  rw [RecordStore.hashInput, Option.any_some, hdirectory, likeForLike, if_pos rfl, hfile]
  change Except.ok (if (true && isFeatureName (p.child name).name) = true then _ else _) = _
  rw [Path.name_child, Bool.true_and, if_pos hname, Path.parent_child]

/-! ## Stored records -/

/-- **A stored record is evidence.** Let a record of the path that a text denotes be stored at its root. In every
tree whose record file has the bytes that storing left, checking the path is evident for the corpus at the time of
storing; and if the path was a directory then, so is checking any feature file that is right inside it now, at the
root of that file, the whole directory being compared. -/
theorem verify_of_store {t t₁ : Tree} {text : String} {now : Moment} {root : Path} {r : IntegrityRecord}
    (hroot : artifactRoot t (Path.ofString text) = .ok root)
    (hstore : (defaultStore root).store t (Path.ofString text).toString now = (t₁, .ok r)) :
    ∃ stored, Corpus.ofPath t (Path.ofString text) = .ok stored ∧
      ∀ t', t'.readBytes (defaultStore root).recordPath = t₁.readBytes (defaultStore root).recordPath →
        Evident (defaultStore root) t' (Path.ofString text) r.reread stored ∧
        (t.isDir (Path.ofString text) = .ok true → ∀ name, isFeatureName name = true →
          t'.isFile ((Path.ofString text).child name) = .ok true →
            artifactRoot t' ((Path.ofString text).child name) = .ok root ∧
            RecordStore.hashInput t' ((Path.ofString text).child name) (some r.reread) =
              .ok (Path.ofString text) ∧
            Evident (defaultStore root) t' ((Path.ofString text).child name) r.reread stored) := by
  have hparsed := Path.parsed_ofString text
  obtain ⟨stored, hstored, hdigest, -, hdirectory⟩ := RecordStore.recordOf_eq_ok (RecordStore.store_eq_ok hstore).1
  rw [hparsed.ofString_toString] at hstored hdirectory
  have hsentinel : (defaultStore root).settings.emptySentinel.toText.length ≠ 64 := by
    rw [sentinel_defaultStore]
    decide
  have hnonempty : r.digest ≠ "" := by
    rw [hdigest, sentinel_defaultStore]
    exact digest_ne_empty stored
  refine ⟨stored, hstored, ?_⟩
  intro t' hsame
  have hread := RecordStore.readRecord_of_store hstore hparsed.toString_ne_empty hnonempty hsame
  have hevident (p : Path) : Evident (defaultStore root) t' p r.reread stored :=
    RecordStore.evident_of_readRecord hread hsentinel (Corpus.ofPath_clean hstored)
      (r.reread_digest.trans hdigest)
  refine ⟨hevident _, ?_⟩
  intro hdir name hname hfile
  refine ⟨?_, ?_, hevident _⟩
  · rw [artifactRoot_of_isDir hdir hroot]
    exact artifactRoot_of_feature hname hfile
  · apply hashInput_of_feature hname hfile
    rw [IntegrityRecord.reread_sourceDirectory, hdirectory hdir]
    rfl

/-- A workspace with one feature file in one directory. -/
def specsTree : Tree :=
  .dir [("specs", .dir [("a.feature", .file (encodeUtf8 "Given a user\n".toList))])]

/-- Storing the record of that directory succeeds, so checking the directory or a feature file in it is evident
from then on. -/
theorem verify_of_store_specs :
    artifactRoot specsTree (Path.ofString "specs") = .ok Path.here ∧
      specsTree.isDir (Path.ofString "specs") = .ok true ∧
      ∃ t₁ r stored,
        (defaultStore Path.here).store specsTree (Path.ofString "specs").toString default = (t₁, .ok r) ∧
        Corpus.ofPath specsTree (Path.ofString "specs") = .ok stored ∧
        ∀ t', t'.readBytes (defaultStore Path.here).recordPath =
            t₁.readBytes (defaultStore Path.here).recordPath →
          Evident (defaultStore Path.here) t' (Path.ofString "specs") r.reread stored ∧
          ∀ name, isFeatureName name = true →
            t'.isFile ((Path.ofString "specs").child name) = .ok true →
              Evident (defaultStore Path.here) t' ((Path.ofString "specs").child name) r.reread stored := by
  have hroot : artifactRoot specsTree (Path.ofString "specs") = .ok Path.here := rfl
  have hdir : specsTree.isDir (Path.ofString "specs") = .ok true := rfl
  obtain ⟨r, hr⟩ := exists_of_toOption (x := ((defaultStore Path.here).store specsTree
    (Path.ofString "specs").toString default).2) (by decide +kernel)
  have hstore : (defaultStore Path.here).store specsTree (Path.ofString "specs").toString default =
      (((defaultStore Path.here).store specsTree (Path.ofString "specs").toString default).1, .ok r) :=
    Prod.ext rfl hr
  obtain ⟨stored, hstored, hevident⟩ := verify_of_store hroot hstore
  refine ⟨hroot, hdir, _, r, stored, hstore, hstored, ?_⟩
  intro t' hsame
  obtain ⟨hwhole, hinside⟩ := hevident t' hsame
  exact ⟨hwhole, fun name hname hfile => (hinside hdir name hname hfile).2.2⟩

end ScenarioAudit
