import Mathlib.Data.List.TakeWhile
import ScenarioAudit.Proofs.Anchor.Note

/-! # Stray lines of a note

A note is read line by line, so lines that it was not made of count as well. Those without a colon, or with a key that
no field has, may stand anywhere and change nothing (`ofText_interlined`). But the path is written down as it is, and
the lines after its first one are read as lines of the note: the digest and the stamp stand in front of it and are
safe, while a line that names a kind comes before the one that the note ends with (`kind_kept_iff`).
-/

namespace ScenarioAudit

open ScenarioAudit.Text

namespace AnchorNote

/-! ## Fields line by line -/

theorem fields_break {c : Char} (hc : isLineBreak c = true) (s : List Char) : fields (c :: s) = fields s := by
  by_cases hs : c = '\r' → s.head? ≠ some '\n'
  · rw [fields, splitLines_break hc hs]
    rfl
  · obtain ⟨rfl, hfeed⟩ := Classical.not_imp.mp hs
    rw [fields, splitLines_return (Classical.not_not.mp hfeed)]
    rfl

theorem fields_clean {l : List Char} (hl : ∀ c ∈ l, isLineBreak c = false) : fields l = (splitField l).toList := by
  rcases eq_or_ne l [] with rfl | hne
  · rfl
  · have h := splitLines_append_clean hl hne []
    rw [List.append_nil] at h
    rw [fields, h, firstLine, List.takeWhile_nil, List.append_nil]
    show [l].filterMap splitField = _
    cases hfield : splitField l <;> simp [hfield]

theorem fields_append_break {l : List Char} (hl : ∀ c ∈ l, isLineBreak c = false) {c : Char}
    (hc : isLineBreak c = true) (s : List Char) : fields (l ++ c :: s) = (splitField l).toList ++ fields s := by
  rcases eq_or_ne l [] with rfl | hne
  · exact fields_break hc s
  · obtain ⟨ls, hls⟩ := splitLines_empty hc s
    have hbelow : fields (c :: s) = ls.filterMap splitField := by
      rw [fields, hls]
      rfl
    have hfirst : firstLine (c :: s) = [] := List.takeWhile_cons_of_neg (by simp [hc])
    rw [← fields_break hc s, hbelow, fields, splitLines_append_clean hl hne, hls, hfirst, List.append_nil,
      List.filterMap_cons]
    cases splitField l <;> rfl

/-- A text is read apart from what is below a line feed. -/
theorem fields_append_feed (s rest : List Char) : fields (s ++ '\n' :: rest) = fields s ++ fields rest := by
  induction s using lines_induction with
  | line l hl => rw [fields_append_break hl (by decide), fields_clean hl]
  | more l hl c hc s ih =>
    rw [List.append_assoc, List.cons_append, fields_append_break hl hc, fields_append_break hl hc, ih,
      List.append_assoc]

/-! ## Lines put in between -/

def keys : List String :=
  ["testify-hash", "generated-at", "test-specs-file", "source-kind"]

/-- A line that says nothing about a note: it has no colon, or what stands before its first colon is no key. -/
def IsIdle (line : List Char) : Prop :=
  ':' ∉ line ∨ ∃ key value, line = key ++ ':' :: value ∧ ':' ∉ key ∧ ∀ k ∈ keys, strip key ≠ k.toList

/-- A text, and the same text with idle lines put in between its lines, above them and below them. Each ends with any
break, the last one of the text perhaps without. -/
inductive Interlined : List Char → List Char → Prop where
  | same (s : List Char) : Interlined s s
  | keep {l : List Char} (hl : ∀ c ∈ l, isLineBreak c = false) {c : Char} (hc : isLineBreak c = true)
      {s t : List Char} (h : Interlined s t) : Interlined (l ++ c :: s) (l ++ c :: t)
  | insert {l : List Char} (hl : ∀ c ∈ l, isLineBreak c = false) (hidle : IsIdle l) {c : Char}
      (hc : isLineBreak c = true) {s t : List Char} (h : Interlined s t) : Interlined s (l ++ c :: t)
  | last {l : List Char} (hl : ∀ c ∈ l, isLineBreak c = false) (hidle : IsIdle l) : Interlined [] l

def value? (fs : List (List Char × List Char)) (key : String) : Option (List Char) :=
  (fs.find? (·.1 = key.toList)).map Prod.snd

theorem field_append (fs gs : List (List Char × List Char)) (key : String) :
    field (fs ++ gs) key = ((value? fs key).map String.ofList).getD (field gs key) := by
  unfold field value?
  induction fs with
  | nil => rfl
  | cons kv fs ih =>
    rw [List.cons_append]
    by_cases hkey : kv.1 = key.toList
    · rw [List.find?_cons_of_pos (by simpa using hkey), List.find?_cons_of_pos (by simpa using hkey)]
      rfl
    · rw [List.find?_cons_of_neg (by simpa using hkey), List.find?_cons_of_neg (by simpa using hkey), ih]

theorem splitField_of_not_mem {l : List Char} (h : ':' ∉ l) : splitField l = none := by
  have hdrop : l.dropWhile (· ≠ ':') = [] := by
    rw [List.dropWhile_eq_nil_iff]
    exact fun c hc => decide_eq_true fun heq => h (heq ▸ hc)
  rw [splitField, hdrop]

theorem IsIdle.field_append {l : List Char} (h : IsIdle l) {key : String} (hkey : key ∈ keys)
    (fs : List (List Char × List Char)) : field ((splitField l).toList ++ fs) key = field fs key := by
  rcases h with hcolon | ⟨k, v, rfl, hcolon, hunknown⟩
  · rw [splitField_of_not_mem hcolon]
    rfl
  · have hnone : value? [(strip k, strip v)] key = none := by
      rw [value?, List.find?_cons_of_neg (by simpa using hunknown key hkey)]
      rfl
    rw [splitField_colon hcolon, Option.toList_some, AnchorNote.field_append, hnone]
    rfl

theorem Interlined.field_eq {s t : List Char} (h : Interlined s t) {key : String} (hkey : key ∈ keys) :
    field (fields t) key = field (fields s) key := by
  induction h with
  | same s => rfl
  | keep hl hc _ ih => rw [fields_append_break hl hc, fields_append_break hl hc, field_append, field_append, ih]
  | insert hl hidle hc _ ih => rw [fields_append_break hl hc, hidle.field_append hkey, ih]
  | last hl hidle =>
    rw [fields_clean hl, ← List.append_nil (splitField _).toList, hidle.field_append hkey]
    rfl

theorem ofText?_congr {s t : String}
    (h : ∀ key ∈ keys, field (fields t.toList) key = field (fields s.toList) key) : ofText? t = ofText? s := by
  unfold ofText?
  simp only [h "testify-hash" (by decide), h "generated-at" (by decide), h "test-specs-file" (by decide),
    h "source-kind" (by decide)]

/-- **A note reads back as it was,** and does so with idle lines put in anywhere: its texts stand within one line and
have no blanks at their ends, and there is a digest. -/
theorem ofText_interlined {n : AnchorNote} (hplain : ∀ v ∈ n.texts, Plain v) (hdigest : n.digest ≠ "") :
    ofText? n.toText = some n ∧ ∀ text : String, Interlined n.toText.toList text.toList → ofText? text = some n := by
  obtain ⟨hd, hg, hp⟩ : Plain n.digest ∧ Plain n.generatedAt ∧ Plain n.originPath := by
    simpa [texts] using hplain
  have hread : ofText? n.toText = some n := by
    rw [ofText_toText (fun v hv => (hplain v hv).clean) (hd.stripped.symm ▸ hdigest), tidied, hd.stripped,
      hg.stripped, hp.stripped]
  exact ⟨hread, fun text h => (ofText?_congr fun key hkey => h.field_eq hkey).trans hread⟩

/-- A note with colons in its texts, without a stamp and a kind. -/
def sparse : AnchorNote :=
  ⟨"sha: 1", "", "a: b.feature", none⟩

/-- The same with a comment above, a line of another key and an empty line in the middle, and an open line below. -/
def sparseText : String :=
  "# signed\ntestify-hash: sha: 1\nkind: directory\r\ngenerated-at: \ntest-specs-file: a: b.feature\nend"

theorem interlined_sparse : Interlined sparse.toText.toList sparseText.toList := by
  have htext : sparse.toText.toList = "testify-hash: sha: 1".toList ++ '\n' :: ("generated-at: ".toList ++ '\n' ::
      ("test-specs-file: a: b.feature".toList ++ ['\n'])) := by decide +kernel
  have hstray : sparseText.toList = "# signed".toList ++ '\n' :: ("testify-hash: sha: 1".toList ++ '\n' ::
      ("kind: directory".toList ++ '\r' :: ([] ++ '\n' :: ("generated-at: ".toList ++ '\n' ::
        ("test-specs-file: a: b.feature".toList ++ '\n' :: "end".toList))))) := by decide +kernel
  have hfeed : isLineBreak '\n' = true := by decide
  have hkind : IsIdle "kind: directory".toList :=
    Or.inr ⟨"kind".toList, " directory".toList, by decide, by decide, by decide⟩
  rw [htext, hstray]
  refine .insert (by decide) (Or.inl (by decide)) hfeed (.keep (by decide) hfeed ?_)
  refine .insert (by decide) hkind (by decide) (.insert (by decide) (Or.inl (by decide)) hfeed ?_)
  exact .keep (by decide) hfeed (.keep (by decide) hfeed (.last (by decide) (Or.inl (by decide))))

theorem ofText_interlined_sparse :
    (∀ v ∈ sparse.texts, Plain v) ∧ sparse.digest ≠ "" ∧ Interlined sparse.toText.toList sparseText.toList ∧
      ofText? sparse.toText = some sparse ∧ ofText? sparseText = some sparse := by
  have hplain : ∀ v ∈ sparse.texts, Plain v := by
    intro v hv
    simp only [texts, sparse, List.mem_cons, List.not_mem_nil, or_false] at hv
    rcases hv with rfl | rfl | rfl
    all_goals decide
  have hdigest : sparse.digest ≠ "" := by decide
  obtain ⟨hread, hall⟩ := ofText_interlined hplain hdigest
  exact ⟨hplain, hdigest, interlined_sparse, hread, hall sparseText interlined_sparse⟩

/-! ## Lines of the path -/

/-- The fields that a path adds to a note: those of its lines after the first one. -/
def strayFields (path : String) : List (List Char × List Char) :=
  (splitLines path.toList).tail.filterMap splitField

/-- The kind that a path names: the value of the first of its later lines that has the key of a kind. -/
def strayKind (path : String) : Option (List Char) :=
  value? (strayFields path) "source-kind"

/-- What a path is read as: its first line, without the blanks around it. -/
def shownPath (path : String) : String :=
  String.ofList (strip (firstLine path.toList))

/-- A path in the line of its key: its first line belongs to the key, the others are lines of their own. -/
theorem fields_path (path : String) (rest : List Char) :
    fields ((fieldLine "test-specs-file" path).toList ++ rest) =
      ("test-specs-file".toList, strip (firstLine path.toList)) :: strayFields path ++ fields rest := by
  have htext : (fieldLine "test-specs-file" path).toList ++ rest =
      ("test-specs-file: ".toList ++ path.toList) ++ '\n' :: rest := by
    simp [fieldLine]
  have hfirst : splitField ("test-specs-file: ".toList ++ firstLine path.toList) =
      some ("test-specs-file".toList, strip (firstLine path.toList)) :=
    splitField_colon (k := "test-specs-file".toList) (by decide) (' ' :: firstLine path.toList)
  rw [htext, fields_append_feed, fields, splitLines_append_clean (by decide) (by decide), List.filterMap_cons, hfirst]
  rfl

theorem fields_of_path {n : AnchorNote} (hdigest : Plain n.digest) (hstamp : Plain n.generatedAt) :
    fields n.toText.toList =
      ("testify-hash".toList, n.digest.toList) :: ("generated-at".toList, n.generatedAt.toList) ::
        ("test-specs-file".toList, strip (firstLine n.originPath.toList)) ::
          (strayFields n.originPath ++ kindFields n.originKind) := by
  obtain ⟨digest, generatedAt, originPath, originKind⟩ := n
  have hlines (last : String) : fields (fieldLine "testify-hash" digest ++ fieldLine "generated-at" generatedAt ++
      fieldLine "test-specs-file" originPath ++ last).toList =
      ("testify-hash".toList, digest.toList) :: ("generated-at".toList, generatedAt.toList) ::
        ("test-specs-file".toList, strip (firstLine originPath.toList)) ::
          (strayFields originPath ++ fields last.toList) := by
    rw [String.toList_append, String.toList_append, String.toList_append, List.append_assoc, List.append_assoc,
      fields_line (by decide) hdigest.clean, fields_line (by decide) hstamp.clean, fields_path, hdigest.strip_eq,
      hstamp.strip_eq]
    rfl
  rcases originKind with _ | kind
  · exact hlines ""
  · exact (hlines _).trans (by rw [fields_kindLine])

theorem ofString?_eq_some_iff {s : String} {kind : SourceKind} :
    SourceKind.ofString? s = some kind ↔ s = kind.toString := by
  constructor
  · intro h
    have htext := List.find?_some h
    exact (of_decide_eq_true htext).symm
  · rintro rfl
    cases kind <;> rfl

/-- A kind that the path names comes before the one that the note ends with. -/
theorem field_kind (path : String) (kind : Option SourceKind) :
    SourceKind.ofString? (field (strayFields path ++ kindFields kind) "source-kind") =
      (strayKind path).elim kind fun v => SourceKind.ofString? (String.ofList v) := by
  have hlast : SourceKind.ofString? (field (kindFields kind) "source-kind") = kind := by
    rcases kind with _ | kind
    · rfl
    · cases kind <;> rfl
  rw [field_append, strayKind]
  rcases value? (strayFields path) "source-kind" with _ | v
  · exact hlast
  · rfl

/-- **What a note with any text as its path is read as.** The digest and the stamp are kept, the path is cut after its
first line, and the kind is the one that the other lines name, if they name any. -/
theorem ofText_of_path {n : AnchorNote} (hdigest : Plain n.digest) (hstamp : Plain n.generatedAt)
    (hne : n.digest ≠ "") :
    ofText? n.toText = some
      { digest := n.digest
        generatedAt := n.generatedAt
        originPath := shownPath n.originPath
        originKind := (strayKind n.originPath).elim n.originKind fun v => SourceKind.ofString? (String.ofList v) } := by
  have hempty : ¬ n.digest.isEmpty = true := fun h => hne (String.isEmpty_iff.mp h)
  unfold ofText?
  simp only [fields_of_path hdigest hstamp, field_self,
    field_other (show "testify-hash" ≠ "generated-at" by decide),
    field_other (show "testify-hash" ≠ "test-specs-file" by decide),
    field_other (show "testify-hash" ≠ "source-kind" by decide),
    field_other (show "generated-at" ≠ "test-specs-file" by decide),
    field_other (show "generated-at" ≠ "source-kind" by decide),
    field_other (show "test-specs-file" ≠ "source-kind" by decide), field_kind, String.ofList_toList, if_neg hempty]
  rfl

/-- **When a path leaves the other fields alone.** Whatever text the path is, the digest and the stamp of the note are
read back. The kind is too exactly if the first of the path's later lines that names a kind names this one. -/
theorem kind_kept_iff {n : AnchorNote} {kind : SourceKind} (hkind : n.originKind = some kind)
    (hdigest : Plain n.digest) (hstamp : Plain n.generatedAt) (hne : n.digest ≠ "") :
    ∃ m, ofText? n.toText = some m ∧ m.digest = n.digest ∧ m.generatedAt = n.generatedAt ∧
      (m.originKind = n.originKind ↔ ∀ v ∈ strayKind n.originPath, String.ofList v = kind.toString) := by
  refine ⟨_, ofText_of_path hdigest hstamp hne, rfl, rfl, ?_⟩
  rw [hkind]
  rcases strayKind n.originPath with _ | v
  · exact iff_of_true rfl (by simp)
  · show SourceKind.ofString? (String.ofList v) = some kind ↔ ∀ w ∈ some v, String.ofList w = kind.toString
    rw [ofString?_eq_some_iff]
    simp

/-- The note of a feature file in a directory whose name has three lines, the second of them a field. -/
def broken (field : String) : AnchorNote :=
  ⟨"d", "t", "a\n" ++ field ++ "\n/b.feature", some .scenarioFile⟩

theorem plain_broken (field : String) : Plain (broken field).digest ∧ Plain (broken field).generatedAt :=
  have hdigest : Plain "d" := by decide
  have hstamp : Plain "t" := by decide
  ⟨hdigest, hstamp⟩

theorem kind_kept_iff_digest :
    Plain (broken "testify-hash: e").digest ∧ Plain (broken "testify-hash: e").generatedAt ∧
      ∃ m, ofText? (broken "testify-hash: e").toText = some m ∧ m.digest = "d" ∧ m.generatedAt = "t" ∧
        m.originKind = some .scenarioFile := by
  obtain ⟨hdigest, hstamp⟩ := plain_broken "testify-hash: e"
  obtain ⟨m, hm, hd, ht, hkind⟩ := kind_kept_iff (n := broken "testify-hash: e") rfl hdigest hstamp (by decide)
  exact ⟨hdigest, hstamp, m, hm, hd, ht, hkind.mpr (by decide +kernel)⟩

/-- A kind in the path is read in place of the one that the note ends with: the note of a feature file turns into one
of a directory. -/
theorem path_names_kind :
    Plain (broken "source-kind: directory").digest ∧ Plain (broken "source-kind: directory").generatedAt ∧
      ofText? (broken "source-kind: directory").toText = some ⟨"d", "t", "a", some .directory⟩ :=
  ⟨(plain_broken _).1, (plain_broken _).2, by decide +kernel⟩

end AnchorNote

end ScenarioAudit
