import Mathlib.Data.List.Sort
import ScenarioAudit.Corpus.Source
import ScenarioAudit.Proofs.Path
import ScenarioAudit.Proofs.Tree.Frame

/-! # What a corpus is read from

A path is classified by what it leads to (`classifyPath_look`), and a corpus is read from the files of its source.
The feature files of a directory are told by the names of its files, in whatever order they are listed
(`featureFiles_eq`). So a change of the tree that writes none of these files leaves the corpus of a path that was
there before as it was (`Within.ofPath`).
-/

namespace ScenarioAudit

open ScenarioAudit.Tree

/-! ## Classifying -/

section Classify

variable {t : Tree} {p : Path}

theorem classifyPath_look : classifyPath t p = (t.look p).bind fun found =>
    if found.any isDirNode then (featureFiles t p).map (.directory p)
    else if found.any (!isDirNode ·) then .ok (if isFeatureName p.name then .scenarioFile p else .legacyDocument p)
    else .ok (.missing p) := by
  unfold classifyPath isDir isFile
  rcases t.look p with e | _ | ⟨bytes | es⟩
  · rfl
  · rfl
  · show (pure (if isFeatureName p.name = true then _ else _) : Except Trouble Source) = _
    rfl
  · show (featureFiles t p >>= fun files => pure (Source.directory p files)) = (featureFiles t p).map _
    rcases featureFiles t p with e | files
    · rfl
    · rfl

theorem ofPath_missing (h : t.pathExists p = .ok false) : Corpus.ofPath t p = .ok ⟨.missing p, []⟩ := by
  obtain ⟨found, hlook, hnone⟩ := map_eq_ok h
  rw [Option.isSome_eq_false_iff, Option.isNone_iff_eq_none] at hnone
  rw [Corpus.ofPath, classifyPath_look, hlook, hnone]
  rfl

theorem classifyPath_file {bytes : List UInt8} (h : t.find p = .ok (.file bytes)) :
    classifyPath t p = .ok (if isFeatureName p.name then .scenarioFile p else .legacyDocument p) := by
  rw [classifyPath_look, look_of_find h]
  rfl

theorem classifyPath_dir {es : Entries} (h : t.find p = .ok (.dir es)) :
    classifyPath t p = (featureFiles t p).map (.directory p) := by
  rw [classifyPath_look, look_of_find h]
  rfl

end Classify

/-! ## Names of feature files -/

/-- What stands before a slash says nothing about a name. -/
theorem isFeatureName_slash (front name : String) :
    isFeatureName (front ++ "/" ++ name) = isFeatureName name := by
  have hslash : '/' ∉ featureSuffix.toList := by decide
  rw [Bool.eq_iff_iff, isFeatureName, isFeatureName, List.isSuffixOf_iff_suffix, List.isSuffixOf_iff_suffix]
  have htext : (front ++ "/" ++ name).toList = front.toList ++ '/' :: name.toList := by simp
  rw [htext]
  constructor
  · intro h
    rcases List.suffix_or_suffix_of_suffix h (List.suffix_append front.toList ('/' :: name.toList)) with h | h
    · rcases List.suffix_cons_iff.mp h with heq | h
      · exact absurd (heq ▸ List.mem_cons_self) hslash
      · exact h
    · exact absurd (h.subset List.mem_cons_self) hslash
  · exact fun h => (h.trans (List.suffix_cons _ _)).trans (List.suffix_append _ _)

theorem isFeatureName_toString (p : Path) : isFeatureName p.toString = isFeatureName p.name := by
  by_cases hnil : p.names = []
  · obtain ⟨anchor, names⟩ := p
    cases hnil
    cases anchor <;> rfl
  · rcases Path.toString_name hnil with h | ⟨front, h⟩
    · rw [h]
    · rw [h, isFeatureName_slash]

/-! ## Feature files -/

/-- The names of the feature files among some entries, in the order of names. -/
def featureNames (es : Entries) : List String :=
  (es.fileNames.filter isFeatureName).mergeSort

theorem eq_of_sorted_names {names names' : List String} (h : names.Pairwise (· ≤ ·))
    (h' : names'.Pairwise (· ≤ ·)) (hperm : names.Perm names') : names = names' :=
  List.Perm.eq_of_pairwise (fun _ _ _ _ => String.le_antisymm) h h' hperm

/-- **The feature files of a directory are told by the names of its files,** in whatever order these are listed. -/
theorem featureFiles_eq {t : Tree} {p : Path} {es : Entries} (h : t.find p = .ok (.dir es)) :
    featureFiles t p = .ok ((featureNames es).map p.child) := by
  have hnames : es.fileNames.filter isFeatureName =
      (es.filter fun e => !e.2.isDirNode && isFeatureName e.1).map Prod.fst := by
    rw [Entries.fileNames, List.filter_map, List.filter_filter]
    congr 1
    apply List.filter_congr
    intro e _
    exact Bool.and_comm _ _
  have hfiles : ((es.mergeSort fun a b => decide (a.1 ≤ b.1)).filter fun e =>
      !e.2.isDirNode && isFeatureName e.1).map Prod.fst = featureNames es := by
    apply eq_of_sorted_names
    · rw [List.pairwise_map]
      exact (pairwise_mergeSort_by Prod.fst es).filter _
    · exact pairwise_mergeSort_by id _
    · rw [featureNames, hnames]
      exact (((List.mergeSort_perm es _).filter _).map _).trans (List.mergeSort_perm _ _).symm
  rw [featureFiles, list, h, ← hfiles, List.map_map]
  rfl

theorem featureNames_nil : featureNames [] = [] := by
  simp [featureNames, Entries.fileNames]

theorem featureNames_congr {es es' : Entries}
    (h : ∀ n, isFeatureName n = true → es.fileNames.count n = es'.fileNames.count n) :
    featureNames es = featureNames es' := by
  apply eq_of_sorted_names (pairwise_mergeSort_by id _) (pairwise_mergeSort_by id _)
  refine (List.mergeSort_perm _ _).trans (List.Perm.trans ?_ (List.mergeSort_perm _ _).symm)
  rw [List.perm_iff_count]
  intro n
  by_cases hn : isFeatureName n = true
  · rw [List.count_filter hn, List.count_filter hn, h n hn]
  · rw [List.count_eq_zero.mpr (by simp [hn]), List.count_eq_zero.mpr (by simp [hn])]

theorem mem_featureNames {es : Entries} {n : String} :
    n ∈ featureNames es ↔ n ∈ es.fileNames ∧ isFeatureName n = true := by
  rw [featureNames, List.mem_mergeSort, List.mem_filter]

/-! ## Reading -/

namespace Source

def files : Source → List Path
  | directory _ fs => fs
  | scenarioFile p => [p]
  | legacyDocument p => [p]
  | missing _ => []

end Source

theorem files_document {p q : Path} {feature : Bool}
    (h : q ∈ (if feature then Source.scenarioFile p else .legacyDocument p).files) : q = p := by
  cases feature
  · exact List.mem_singleton.mp h
  · exact List.mem_singleton.mp h

namespace Corpus

variable {t t' : Tree} {source : Source} {c : Corpus}

theorem source_of_ofSource (h : ofSource t source = .ok c) : c.source = source := by
  cases source with
  | missing p =>
    cases h
    rfl
  | _ =>
    obtain ⟨text, -, h⟩ := bind_eq_ok h
    cases h
    rfl

theorem exists_bytes (h : ofSource t source = .ok c) :
    ∀ q ∈ source.files, ∃ bytes, t.readBytes q = .ok bytes := by
  have hbytes {q : Path} {text : List Char} (h : t.readText q = .ok text) : ∃ bytes, t.readBytes q = .ok bytes := by
    obtain ⟨bytes, hread, -⟩ := map_eq_ok h
    exact ⟨bytes, hread⟩
  cases source with
  | directory p fs =>
    obtain ⟨texts, htexts, -⟩ := bind_eq_ok h
    intro q hq
    obtain ⟨text, htext⟩ := exists_of_mapM htexts q hq
    exact hbytes htext
  | scenarioFile p =>
    obtain ⟨text, htext, -⟩ := bind_eq_ok h
    intro q hq
    rw [List.mem_singleton.mp hq]
    exact hbytes htext
  | legacyDocument p =>
    obtain ⟨text, htext, -⟩ := bind_eq_ok h
    intro q hq
    rw [List.mem_singleton.mp hq]
    exact hbytes htext
  | missing p => exact fun q hq => nomatch hq

/-- **A corpus is read from the files of its source alone.** -/
theorem ofSource_congr (h : ∀ q ∈ source.files, t.readBytes q = t'.readBytes q) :
    ofSource t source = ofSource t' source := by
  have htext (q : Path) (hq : q ∈ source.files) : t.readText q = t'.readText q := by
    rw [readText, readText, h q hq]
  cases source with
  | directory p fs =>
    have hmap : fs.mapM t.readText = fs.mapM t'.readText := mapM_congr htext
    rw [ofSource, ofSource, hmap]
  | scenarioFile p => rw [ofSource, ofSource, htext p List.mem_cons_self]
  | legacyDocument p => rw [ofSource, ofSource, htext p List.mem_cons_self]
  | missing p => rfl

theorem ofPath_eq_ok {p : Path} :
    ofPath t p = .ok c ↔ classifyPath t p = .ok c.source ∧ ofSource t c.source = .ok c := by
  constructor
  · intro h
    obtain ⟨source, hsource, h⟩ := bind_eq_ok h
    obtain rfl := source_of_ofSource h
    exact ⟨hsource, h⟩
  · rintro ⟨hsource, h⟩
    rw [ofPath, hsource]
    exact h

end Corpus

/-- A corpus is read from the path itself or from feature files right inside of it. -/
theorem mem_files {t : Tree} {p q : Path} {source : Source} (h : classifyPath t p = .ok source)
    (hq : q ∈ source.files) : q = p ∨ ∃ n, isFeatureName n = true ∧ q = p.child n := by
  rcases hlook : t.look p with e | _ | ⟨bytes | es⟩
  · rw [classifyPath_look, hlook] at h
    cases h
  · rw [classifyPath_look, hlook] at h
    cases h
    cases hq
  · rw [classifyPath_file (find_of_look hlook)] at h
    rw [← Except.ok.inj h] at hq
    exact Or.inl (files_document hq)
  · rw [classifyPath_dir (find_of_look hlook), featureFiles_eq (find_of_look hlook)] at h
    cases h
    obtain ⟨n, hn, rfl⟩ := List.mem_map.mp hq
    exact Or.inr ⟨n, (mem_featureNames.mp hn).2, rfl⟩

theorem samePlace_of_mem_files {t : Tree} {p q r : Path} {n : String} {source : Source}
    (h : classifyPath t p = .ok source) (hn : isFeatureName n = false) (hup : n ≠ "..")
    (hq : q ∈ source.files) (hsame : t.SamePlace q (r.child n)) : t.SamePlace p (r.child n) := by
  rcases mem_files h hq with rfl | ⟨m, hm, rfl⟩
  · exact hsame
  · obtain ⟨names, hwalk, hwalk'⟩ := hsame
    have hmup : m ≠ ".." := by
      rintro rfl
      exact absurd hm (by decide)
    obtain ⟨at_, -, hat⟩ := exists_walk_child hmup hwalk
    obtain ⟨at', -, hat'⟩ := exists_walk_child hup hwalk'
    obtain ⟨-, hlast⟩ := List.append_inj' (Place.inside.inj (hat.symm.trans hat')) rfl
    rw [List.singleton_inj.mp hlast, hn] at hm
    cases hm

/-! ## Changes that write other files -/

namespace Tree

theorem walk_child {t : Tree} {p : Path} {at_ : List String} {n : String} {place : Place}
    (hwalk : t.walk p p.names = .ok (.inside at_)) (hn : n ≠ "..")
    (hchild : t.walk (p.child n) (p.child n).names = .ok place) : place = .inside (at_ ++ [n]) := by
  obtain ⟨at', hfollow, rfl⟩ := exists_walk_child hn hchild
  rw [(walk_eq_ok.mp hwalk).2.2] at hfollow
  cases hfollow
  rfl

namespace Within

variable {written made : Set (List String)} {t t' : Tree} (h : Within written made t t')

include h

theorem readBytes_back {q : Path} {names : List String} {bytes : List UInt8}
    (hwalk : t.walk q q.names = .ok (.inside names)) (hnames : names ∉ written)
    (hread : t'.readBytes q = .ok bytes) : t.readBytes q = .ok bytes := by
  obtain ⟨place, hwalk', hat⟩ := find_eq_ok.mp (find_of_readBytes hread)
  rw [h.walk hwalk] at hwalk'
  cases hwalk'
  rw [readBytes, find_inside hwalk ((h.file hnames bytes).mp hat)]

theorem walk_child_back {p : Path} {at_ : List String} {es : Entries} {n : String} {bytes : List UInt8}
    (hwalk : t.walk p p.names = .ok (.inside at_)) (hdir : t.below? at_ = some (.dir es)) (hn : n ≠ "..")
    (hnames : at_ ++ [n] ∉ written) (hread : t'.readBytes (p.child n) = .ok bytes) :
    t.walk (p.child n) (p.child n).names = .ok (.inside (at_ ++ [n])) := by
  obtain ⟨place, hwalk', hat⟩ := find_eq_ok.mp (find_of_readBytes hread)
  obtain rfl := walk_child (h.walk hwalk) hn hwalk'
  have hget := (below_concat hdir n).symm.trans ((h.file hnames bytes).mp hat)
  obtain ⟨hnul, hlong, -⟩ := walk_eq_ok.mp hwalk'
  refine walk_eq_ok.mpr ⟨hnul, hlong, ?_⟩
  show Tree.follow t (start p) (p.names ++ [n]) = _
  rw [follow_append (walk_eq_ok.mp hwalk).2.2, follow_cons (.entry hdir hn hget), Tree.follow]

theorem ofPath_file {p : Path} {c : Corpus} {bytes : List UInt8} (hfind : t.find p = .ok (.file bytes))
    (hc : Corpus.ofPath t' p = .ok c)
    (hfiles : ∀ q ∈ c.source.files, ∀ names ∈ written, t'.walk q q.names ≠ .ok (.inside names)) :
    Corpus.ofPath t p = .ok c := by
  obtain ⟨hsource, hread⟩ := Corpus.ofPath_eq_ok.mp hc
  obtain ⟨place, hwalk, hat⟩ := find_eq_ok.mp hfind
  rcases place with names | _
  swap
  · cases hat
  obtain ⟨bytes', hat'⟩ := h.written hat
  rw [classifyPath_file (find_inside (h.walk hwalk) hat')] at hsource
  have hp {q : Path} (hq : q ∈ c.source.files) : q = p := by
    rw [← Except.ok.inj hsource] at hq
    exact files_document hq
  refine Corpus.ofPath_eq_ok.mpr ⟨(classifyPath_file hfind).trans hsource, (Corpus.ofSource_congr ?_).trans hread⟩
  intro q hq
  obtain ⟨bytes'', hq'⟩ := Corpus.exists_bytes hread q hq
  obtain rfl := hp hq
  rw [hq', h.readBytes_back hwalk (fun hmem => hfiles _ hq names hmem (h.walk hwalk)) hq']

/-- A directory whose feature files were not written had the same ones, with the bytes that they have. -/
theorem ofPath_dir {p : Path} {c : Corpus} {at_ : List String} {es : Entries}
    (hwalk : t.walk p p.names = .ok (.inside at_)) (hdir : t.below? at_ = some (.dir es))
    (hc : Corpus.ofPath t' p = .ok c)
    (hfiles : ∀ q ∈ c.source.files, ∀ names ∈ written, t'.walk q q.names ≠ .ok (.inside names)) :
    Corpus.ofPath t p = .ok c := by
  obtain ⟨hsource, hread⟩ := Corpus.ofPath_eq_ok.mp hc
  obtain ⟨es', hes', hcount⟩ := h.dir hdir
  have hfind : t.find p = .ok (.dir es) := find_inside hwalk hdir
  have hfind' : t'.find p = .ok (.dir es') := find_inside (h.walk hwalk) hes'
  rw [classifyPath_dir hfind', featureFiles_eq hfind'] at hsource
  obtain ⟨source, lines⟩ := c
  cases hsource
  have hchild {n : String} (hn : n ∈ featureNames es') :
      n ≠ ".." ∧ at_ ++ [n] ∉ written ∧ ∃ bytes, t'.readBytes (p.child n) = .ok bytes := by
    have hmem : p.child n ∈ (Source.directory p ((featureNames es').map p.child)).files := List.mem_map_of_mem hn
    have hup : n ≠ ".." := by
      rintro rfl
      exact absurd (mem_featureNames.mp hn).2 (by decide)
    obtain ⟨bytes, hbytes⟩ := Corpus.exists_bytes hread _ hmem
    obtain ⟨place, hwalk', -⟩ := find_eq_ok.mp (find_of_readBytes hbytes)
    obtain rfl := walk_child (h.walk hwalk) hup hwalk'
    exact ⟨hup, fun hwritten => hfiles _ hmem _ hwritten hwalk', bytes, hbytes⟩
  -- A name that no file has now was no file's before either, as files only come.
  have hnames : featureNames es = featureNames es' := by
    apply featureNames_congr
    intro n hn
    by_cases hmem : n ∈ Entries.fileNames es'
    · exact ((hcount n).2 (hchild (mem_featureNames.mpr ⟨hmem, hn⟩)).2.1).symm
    · have hzero := List.count_eq_zero.mpr hmem
      exact (Nat.le_zero.mp (hzero ▸ (hcount n).1)).trans hzero.symm
  refine Corpus.ofPath_eq_ok.mpr ⟨?_, (Corpus.ofSource_congr ?_).trans hread⟩
  · rw [classifyPath_dir hfind, featureFiles_eq hfind, hnames]
    rfl
  · intro q hq
    obtain ⟨n, hn, rfl⟩ := List.mem_map.mp hq
    obtain ⟨hup, hwritten, bytes, hbytes⟩ := hchild hn
    rw [hbytes, h.readBytes_back (h.walk_child_back hwalk hdir hup hwritten hbytes) hwritten hbytes]

/-- **A change that writes no file of a corpus leaves the corpus as it was,** if its path was there before. -/
theorem ofPath {p : Path} {c : Corpus} (hexists : t.pathExists p = .ok true) (hc : Corpus.ofPath t' p = .ok c)
    (hfiles : ∀ q ∈ c.source.files, ∀ names ∈ written, t'.walk q q.names ≠ .ok (.inside names)) :
    Corpus.ofPath t p = .ok c := by
  obtain ⟨u, hfind⟩ := exists_find hexists
  obtain ⟨place, hwalk, hat⟩ := find_eq_ok.mp hfind
  cases u with
  | file bytes => exact h.ofPath_file hfind hc hfiles
  | dir es =>
    rcases place with at_ | _
    · exact h.ofPath_dir hwalk hat hc hfiles
    · -- outside of the workspace there is an empty directory, before and after
      cases hat
      have hfind' : t'.find p = .ok (.dir []) := find_eq_ok.mpr ⟨_, h.walk hwalk, rfl⟩
      rw [← hc, Corpus.ofPath, Corpus.ofPath, classifyPath_dir hfind, classifyPath_dir hfind',
        featureFiles_eq hfind, featureFiles_eq hfind', featureNames_nil]
      rfl

end Within

end Tree

end ScenarioAudit
