import ScenarioAudit.Proofs.Corpus.Change
import ScenarioAudit.Proofs.Corpus.Words
import ScenarioAudit.Proofs.Text.LineEnds
import ScenarioAudit.Proofs.Text.Order

/-! # The corpus of a directory

The corpus of a directory is read word by word from its feature files, one after the other in the order of the bytes
of their names (`directory_words`). Which entries the directory has decides which files these are
(`FeatureFilesOf.unique`): neither the order in which they are listed nor the other entries matter, and neither do the
line ends of the files.
-/

namespace ScenarioAudit

open ScenarioAudit.Text

namespace Tree

/-! ## Entries that can be opened -/

/-- The paths of the entries of a directory are such that the system takes them. -/
def TakesEntries (dir : Path) (es : Entries) : Prop :=
  ∀ e ∈ es, hasNul e.1 = false ∧ (dir.child e.1).toString.utf8ByteSize ≤ pathLimit

theorem exists_inside {t : Tree} {dir : Path} {es : Entries} (hdir : t.find dir = .ok (.dir es)) (hne : es ≠ []) :
    ∃ at_, t.walk dir dir.names = .ok (.inside at_) ∧ t.below? at_ = some (.dir es) := by
  obtain ⟨place, hwalk, hat⟩ := find_eq_ok.mp hdir
  cases place with
  | outside =>
    cases hat
    exact absurd rfl hne
  | inside at_ => exact ⟨at_, hwalk, hat⟩

/-- What a directory has is found through the path of its entry, unless that path is too long. -/
theorem find_child {t : Tree} {dir : Path} {es : Entries} (hdir : t.find dir = .ok (.dir es))
    {n : String} {u : Tree} (hget : es.get? n = some u) (hup : n ≠ "..") (hnul : hasNul n = false) :
    t.find (dir.child n) =
      if pathLimit < (dir.child n).toString.utf8ByteSize then .error (refuse (dir.child n) .tooLong) else .ok u := by
  have hne : es ≠ [] := by
    rintro rfl
    cases hget
  obtain ⟨at_, hwalk, hbelow⟩ := exists_inside hdir hne
  obtain ⟨hnuls, -, hfollow⟩ := walk_eq_ok.mp hwalk
  have hnames : (dir.child n).names.any hasNul = false := by
    rw [Path.child, List.any_append, hnuls, List.any_cons, hnul]
    rfl
  split
  next hlong => simp only [find, walk, hnames, hlong, if_true, Bool.false_eq_true, if_false, bind, Except.bind]
  next hfits =>
    have hentry : t.walk (dir.child n) (dir.child n).names = .ok (.inside (at_ ++ [n])) := by
      refine walk_eq_ok.mpr ⟨hnames, hfits, ?_⟩
      show Tree.follow t (start dir) (dir.names ++ [n]) = _
      rw [follow_append hfollow, follow_cons (.entry hbelow hup hget), follow]
    exact find_inside hentry ((below_concat hbelow n).trans hget)

theorem readBytes_child {t : Tree} {dir : Path} {es : Entries} (hdir : t.find dir = .ok (.dir es))
    {n : String} {bytes : List UInt8} (hget : es.get? n = some (.file bytes)) (hup : n ≠ "..")
    (hnul : hasNul n = false) (hfits : (dir.child n).toString.utf8ByteSize ≤ pathLimit) :
    t.readBytes (dir.child n) = .ok bytes := by
  rw [readBytes, find_child hdir hget hup hnul, if_neg (Nat.not_lt.mpr hfits)]

theorem takes_of_readBytes {t : Tree} {dir : Path} {n : String} {bytes : List UInt8}
    (h : t.readBytes (dir.child n) = .ok bytes) :
    hasNul n = false ∧ (dir.child n).toString.utf8ByteSize ≤ pathLimit := by
  obtain ⟨place, hwalk, -⟩ := find_eq_ok.mp (find_of_readBytes h)
  obtain ⟨hnuls, hlong, -⟩ := walk_eq_ok.mp hwalk
  rw [Path.child, List.any_append, Bool.or_eq_false_iff, List.any_cons, List.any_nil, Bool.or_false] at hnuls
  exact ⟨hnuls.2, Nat.not_lt.mp hlong⟩

/-- The entries with other line ends in the files among them. -/
def Entries.relined (ends : String → LineEnd) (es : Entries) : Entries :=
  es.map fun e =>
    match e with
    | (n, .file bytes) => (n, .file (Text.relined (ends n) bytes))
    | (n, .dir es) => (n, .dir es)

end Tree

/-! ## Feature files in order -/

/-- The feature files among some entries with their bytes, in the order of the bytes of their names. -/
structure FeatureFilesOf (es : Tree.Entries) (files : List (String × List UInt8)) : Prop where
  mem : ∀ n bytes, (n, bytes) ∈ files ↔ (n, Tree.file bytes) ∈ es ∧ ".feature".toList <:+ n.toList
  order : files.Pairwise fun f g => encodeUtf8 f.1.toList < encodeUtf8 g.1.toList

/-- The steps of feature files, one file after the other. -/
def stepsOf (files : List (String × List UInt8)) : List (List Char) :=
  files.flatMap fun f => wordSteps (Tree.lossyText f.2)

namespace FeatureFilesOf

variable {es : Tree.Entries} {files files' : List (String × List UInt8)}

/-- **The files are told by which entries there are,** in whatever order. -/
theorem unique (h : FeatureFilesOf es files) (h' : FeatureFilesOf es files') : files = files' := by
  have hnodup {fs : List (String × List UInt8)} (hfs : FeatureFilesOf es fs) : fs.Nodup :=
    hfs.order.imp fun hlt heq => by
      rw [heq] at hlt
      exact List.lt_irrefl _ hlt
  have hmem (f : String × List UInt8) : f ∈ files ↔ f ∈ files' := (h.mem f.1 f.2).trans (h'.mem f.1 f.2).symm
  have hperm : files.Perm files' := (List.perm_ext_iff_of_nodup (hnodup h) (hnodup h')).mpr hmem
  exact hperm.eq_of_pairwise (fun f g _ _ hfg hgf => absurd hgf (List.lt_asymm hfg)) h.order h'.order

theorem relined (h : FeatureFilesOf es files) (ends : String → LineEnd) :
    FeatureFilesOf (es.relined ends) (files.map fun f => (f.1, Text.relined (ends f.1) f.2)) where
  mem := by
    intro n bytes
    constructor
    · intro hmem
      obtain ⟨f, hf, heq⟩ := List.mem_map.mp hmem
      cases heq
      obtain ⟨hes, hname⟩ := (h.mem f.1 f.2).mp hf
      exact ⟨List.mem_map.mpr ⟨_, hes, rfl⟩, hname⟩
    · rintro ⟨hmem, hname⟩
      obtain ⟨⟨m, u⟩, hes, heq⟩ := List.mem_map.mp hmem
      cases u with
      | dir es' => cases heq
      | file bytes' =>
        cases heq
        exact List.mem_map.mpr ⟨(n, bytes'), (h.mem n bytes').mpr ⟨hes, hname⟩, rfl⟩
  order := by
    rw [List.pairwise_map]
    exact h.order

end FeatureFilesOf

/-- Files without carriage returns have the same steps with any line ends. -/
theorem stepsOf_relined {files : List (String × List UInt8)} (hfeed : ∀ f ∈ files, 13 ∉ f.2)
    (ends : String → LineEnd) : stepsOf (files.map fun f => (f.1, Text.relined (ends f.1) f.2)) = stepsOf files := by
  rw [stepsOf, stepsOf, List.flatMap_map]
  exact List.flatMap_congr fun f hf => by rw [lossyText_relined _ (hfeed f hf)]

theorem exists_featureFiles {es : Tree.Entries} (hnames : (es.map Prod.fst).Nodup) :
    ∃ files, FeatureFilesOf es files ∧ featureNames es = files.map Prod.fst := by
  have hfile : ∀ n ∈ featureNames es, ∃ bytes, (n, Tree.file bytes) ∈ es := by
    intro n hn
    obtain ⟨⟨m, u⟩, he, rfl⟩ := List.mem_map.mp (mem_featureNames.mp hn).1
    obtain ⟨hmem, hfile⟩ := List.mem_filter.mp he
    cases u with
    | file bytes => exact ⟨bytes, hmem⟩
    | dir es' => cases hfile
  choose! bytes hbytes using hfile
  have hnodup : (featureNames es).Nodup := by
    rw [featureNames, (List.mergeSort_perm _ _).nodup_iff]
    exact (hnames.sublist (List.filter_sublist.map _)).sublist List.filter_sublist
  have hsorted : (featureNames es).Pairwise (· ≤ ·) := pairwise_mergeSort_by id _
  refine ⟨(featureNames es).map fun n => (n, bytes n), ⟨?_, ?_⟩, ?_⟩
  · intro n content
    rw [List.mem_map]
    constructor
    · rintro ⟨m, hm, heq⟩
      cases heq
      exact ⟨hbytes n hm, List.isSuffixOf_iff_suffix.mp (mem_featureNames.mp hm).2⟩
    · rintro ⟨hmem, hname⟩
      have hn : n ∈ featureNames es := by
        refine mem_featureNames.mpr ⟨List.mem_map.mpr ⟨_, List.mem_filter.mpr ⟨hmem, rfl⟩, rfl⟩, ?_⟩
        exact List.isSuffixOf_iff_suffix.mpr hname
      -- The name is there once, so its file is the one that was found.
      have hget := (Tree.get?_eq_some hnames).mpr (hbytes n hn)
      rw [(Tree.get?_eq_some hnames).mpr hmem] at hget
      cases hget
      exact ⟨n, hn, rfl⟩
  · rw [List.pairwise_map]
    refine (hsorted.and hnodup).imp fun hle => ?_
    rw [encodeUtf8_lt_iff]
    by_contra hnot
    exact hle.2 (String.le_antisymm hle.1 (String.not_lt.mp hnot))
  · rw [List.map_map]
    exact (List.map_id _).symm

/-! ## The corpus -/

theorem ofPath_featureFiles {t : Tree} {dir : Path} {es : Tree.Entries} {files : List (String × List UInt8)}
    (hdir : t.find dir = .ok (.dir es)) (hnames : (es.map Prod.fst).Nodup) (hfiles : FeatureFilesOf es files)
    (htakes : ∀ f ∈ files, Tree.hasNul f.1 = false ∧ (dir.child f.1).toString.utf8ByteSize ≤ Tree.pathLimit) :
    Corpus.ofPath t dir = .ok ⟨.directory dir (files.map fun f => dir.child f.1), stepsOf files⟩ := by
  obtain ⟨files', hfiles', hfeature⟩ := exists_featureFiles hnames
  obtain rfl := hfiles.unique hfiles'
  have hread {f : String × List UInt8} (hf : f ∈ files) : t.readBytes (dir.child f.1) = .ok f.2 := by
    obtain ⟨hmem, hname⟩ := (hfiles.mem f.1 f.2).mp hf
    have hup : f.1 ≠ ".." := by
      intro heq
      rw [heq] at hname
      exact absurd hname (by decide)
    exact Tree.readBytes_child hdir ((Tree.get?_eq_some hnames).mpr hmem) hup (htakes f hf).1 (htakes f hf).2
  have hclass : classifyPath t dir = .ok (.directory dir (files.map fun f => dir.child f.1)) := by
    rw [classifyPath_dir hdir, featureFiles_eq hdir, hfeature, List.map_map]
    rfl
  have hlines : (files.map fun f => dir.child f.1).flatMap (fileSteps t) = stepsOf files := by
    rw [List.flatMap_map]
    exact List.flatMap_congr fun f hf => by rw [fileSteps_eq (hread hf), gherkinSteps_eq]
  rw [ofPath_directory hclass, hlines]
  intro path hpath
  obtain ⟨f, hf, rfl⟩ := List.mem_map.mp hpath
  exact ⟨f.2, hread hf⟩

theorem lines_of_ofPath {t : Tree} {dir : Path} {es : Tree.Entries} {files : List (String × List UInt8)}
    (hdir : t.find dir = .ok (.dir es)) (hnames : (es.map Prod.fst).Nodup) (hfiles : FeatureFilesOf es files)
    {c : Corpus} (h : Corpus.ofPath t dir = .ok c) : c.lines = stepsOf files := by
  obtain ⟨files', hfiles', hfeature⟩ := exists_featureFiles hnames
  obtain rfl := hfiles.unique hfiles'
  obtain ⟨hclass, hsource⟩ := Corpus.ofPath_eq_ok.mp h
  have hread := Corpus.exists_bytes hsource
  rw [classifyPath_dir hdir, featureFiles_eq hdir, hfeature] at hclass
  rw [← Except.ok.inj hclass] at hread
  have heq := ofPath_featureFiles hdir hnames hfiles fun f hf => by
    have hpath : dir.child f.1 ∈ (files.map Prod.fst).map dir.child :=
      List.mem_map_of_mem (List.mem_map_of_mem hf)
    obtain ⟨bytes, hbytes⟩ := hread _ hpath
    exact Tree.takes_of_readBytes hbytes
  rw [h] at heq
  rw [Except.ok.inj heq]

/-- **The corpus of a directory, word by word.** A directory has its feature files with their bytes, told by its
entries alone; its corpus is the steps of these files in the order of the bytes of their names, and it is read
whenever the system takes the paths of the entries. Each line is tidy, and other line ends in the files leave the
lines as they are. -/
theorem directory_words {t : Tree} {dir : Path} {es : Tree.Entries} (hdir : t.find dir = .ok (.dir es))
    (hnames : (es.map Prod.fst).Nodup) :
    ∃ files, FeatureFilesOf es files ∧ (∀ files', FeatureFilesOf es files' → files' = files) ∧
      (∀ c, Corpus.ofPath t dir = .ok c → c.lines = stepsOf files) ∧
      (Tree.TakesEntries dir es → ∃ c, Corpus.ofPath t dir = .ok c) ∧
      (∀ line ∈ stepsOf files, TidyStep line) ∧
      ((∀ f ∈ files, 13 ∉ f.2) → ∀ t' dir' ends, t'.find dir' = .ok (.dir (es.relined ends)) →
        ∀ c', Corpus.ofPath t' dir' = .ok c' → c'.lines = stepsOf files) := by
  obtain ⟨files, hfiles, -⟩ := exists_featureFiles hnames
  refine ⟨files, hfiles, fun files' h => h.unique hfiles, fun c => lines_of_ofPath hdir hnames hfiles, ?_, ?_, ?_⟩
  · intro htakes
    exact ⟨_, ofPath_featureFiles hdir hnames hfiles fun f hf => htakes _ ((hfiles.mem f.1 f.2).mp hf).1⟩
  · intro line hline
    obtain ⟨f, -, hstep⟩ := List.mem_flatMap.mp hline
    exact tidyStep_of_mem hstep
  · intro hfeed t' dir' ends hdir' c' hc'
    have hnames' : ((es.relined ends).map Prod.fst).Nodup := by
      have hkeep : (es.relined ends).map Prod.fst = es.map Prod.fst := by
        rw [Tree.Entries.relined, List.map_map]
        refine List.map_congr_left fun e _ => ?_
        obtain ⟨n, bytes | es'⟩ := e
        · rfl
        · rfl
      rwa [hkeep]
    rw [lines_of_ofPath hdir' hnames' (hfiles.relined ends) hc', stepsOf_relined hfeed]

/-- Entries out of order, with a directory and a document among the feature files. -/
def listedEntries : Tree.Entries :=
  [("é.feature", .file (encodeUtf8 "\tAnd\tlast".toList)), ("sub.feature", .dir []),
    ("b.feature", .file (encodeUtf8 "Given  one \nGiven\nwhen two\n".toList)),
    ("notes.md", .file (encodeUtf8 "Given none\n".toList)), ("a.feature", .file (encodeUtf8 "  When two\n".toList))]

/-- The feature files among the listed entries. -/
def listedFiles : List (String × List UInt8) :=
  [("a.feature", encodeUtf8 "  When two\n".toList), ("b.feature", encodeUtf8 "Given  one \nGiven\nwhen two\n".toList),
    ("é.feature", encodeUtf8 "\tAnd\tlast".toList)]

theorem directory_words_listed :
    (∃ c, Corpus.ofPath (.dir listedEntries) Path.here = .ok c ∧
      c.lines = ["When two".toList, "Given one".toList, "And last".toList]) ∧
    ∃ c, Corpus.ofPath (.dir (listedEntries.relined fun _ => .returnFeed)) Path.here = .ok c ∧
      c.lines = ["When two".toList, "Given one".toList, "And last".toList] := by
  have hnames : (listedEntries.map Prod.fst).Nodup := by decide
  have hlisted : FeatureFilesOf listedEntries listedFiles := by
    refine ⟨fun n bytes => ⟨fun h => ?_, ?_⟩, by decide +kernel⟩
    · simp only [listedFiles, List.mem_cons, Prod.mk.injEq, List.not_mem_nil, or_false] at h
      rcases h with ⟨rfl, rfl⟩ | ⟨rfl, rfl⟩ | ⟨rfl, rfl⟩
      · exact ⟨by simp [listedEntries], by decide⟩
      · exact ⟨by simp [listedEntries], by decide⟩
      · exact ⟨by simp [listedEntries], by decide⟩
    · rintro ⟨h, hname⟩
      simp only [listedEntries, List.mem_cons, Prod.mk.injEq, List.not_mem_nil, or_false, Tree.file.injEq, reduceCtorEq,
        and_false, false_or] at h
      rcases h with ⟨rfl, rfl⟩ | ⟨rfl, rfl⟩ | ⟨rfl, rfl⟩ | ⟨rfl, rfl⟩
      · simp [listedFiles]
      · simp [listedFiles]
      · exact absurd hname (by decide)
      · simp [listedFiles]
  have htakes : Tree.TakesEntries Path.here listedEntries := by
    unfold Tree.TakesEntries
    decide +kernel
  have htakes' : Tree.TakesEntries Path.here (listedEntries.relined fun _ => .returnFeed) := by
    unfold Tree.TakesEntries
    decide +kernel
  have hfind (es : Tree.Entries) : Tree.find (.dir es) Path.here = .ok (.dir es) := rfl
  obtain ⟨files, hfiles, hunique, hlines, hreads, -, hrelined⟩ := directory_words (hfind listedEntries) hnames
  obtain rfl := hunique _ hlisted
  have hsteps : stepsOf listedFiles = ["When two".toList, "Given one".toList, "And last".toList] := by
    decide +kernel
  obtain ⟨c, hc⟩ := hreads htakes
  obtain ⟨-, -, -, -, hreads', -⟩ := directory_words (hfind (listedEntries.relined fun _ => .returnFeed)) (by decide)
  obtain ⟨c', hc'⟩ := hreads' htakes'
  exact ⟨⟨c, hc, (hlines c hc).trans hsteps⟩, c', hc', (hrelined (by decide +kernel) _ _ _ rfl c' hc').trans hsteps⟩

end ScenarioAudit
