import Mathlib.Data.Multiset.Basic
import Mathlib.Logic.Relation
import ScenarioAudit.Proofs.Corpus.Digest
import ScenarioAudit.Proofs.Corpus.Source
import ScenarioAudit.Proofs.Corpus.Step
import ScenarioAudit.Proofs.Text.Order
import ScenarioAudit.Proofs.Text.Utf8

/-! # The corpus of a document

The corpus of a document is its marked lines without trailing blanks, sorted by their bytes. The order of bytes is
total and tells different lines apart, so a sorted list is told by which lines it has and how often
(`markedSteps_eq_iff`). So neither the order of the lines of a document matters, nor its other lines, nor the blanks
at the end of a line; all else does (`document_corpora`).
-/

namespace ScenarioAudit

open ScenarioAudit.Text

/-! ## Marked lines -/

/-- A line that starts with a marked keyword. -/
def IsMarked (l : List Char) : Prop :=
  ∃ mark ∈ ["**Given**:", "**When**:", "**Then**:"], mark.toList <+: l

instance (l : List Char) : Decidable (IsMarked l) :=
  inferInstanceAs (Decidable (∃ mark ∈ ["**Given**:", "**When**:", "**Then**:"], mark.toList <+: l))

/-- The marked lines among some lines, each without its trailing blanks. -/
def markedLines (ls : List (List Char)) : List (List Char) :=
  (ls.filter fun l => decide (IsMarked l)).map stripRight

theorem isMarkedStep_eq (l : List Char) : isMarkedStep l = decide (IsMarked l) := by
  rw [Bool.eq_iff_iff, decide_eq_true_eq, isMarkedStep_iff]
  have hmarks : markedKeywords.map keywordMark = ["**Given**:".toList, "**When**:".toList, "**Then**:".toList] := by
    decide
  have hmem {mark : List Char} : mark ∈ markedKeywords.map keywordMark ↔
      ∃ s ∈ ["**Given**:", "**When**:", "**Then**:"], s.toList = mark := by
    rw [hmarks]
    simp [eq_comm]
  constructor
  · rintro ⟨keyword, hk, rest, rfl⟩
    obtain ⟨s, hs, hmark⟩ := hmem.mp (List.mem_map_of_mem hk)
    exact ⟨s, hs, hmark ▸ List.prefix_append _ _⟩
  · rintro ⟨s, hs, rest, rfl⟩
    obtain ⟨keyword, hk, hmark⟩ := List.mem_map.mp (hmem.mpr ⟨s, hs, rfl⟩)
    exact ⟨keyword, hk, rest, by rw [hmark]⟩

theorem isMarked_trail {l a : List Char} (ha : ∀ c ∈ a, isBlank c = true) : IsMarked (l ++ a) ↔ IsMarked l := by
  have hcolon : ∀ mark ∈ ["**Given**:", "**When**:", "**Then**:"], ∃ m, mark.toList = m ++ [':'] := by
    intro mark hmark
    have hlast : ∀ mark ∈ ["**Given**:", "**When**:", "**Then**:"], mark.toList.getLast? = some ':' := by decide
    obtain ⟨m, hm⟩ := List.getLast?_eq_some_iff.mp (hlast mark hmark)
    exact ⟨m, hm⟩
  constructor
  · rintro ⟨mark, hmark, hopen⟩
    refine ⟨mark, hmark, ?_⟩
    rcases List.prefix_or_prefix_of_prefix hopen (List.prefix_append l a) with h | ⟨t, ht⟩
    · exact h
    -- If the mark were longer than the line, its colon would be among the blanks.
    · rw [← ht, List.prefix_append_right_inj] at hopen
      obtain ⟨m, hm⟩ := hcolon mark hmark
      rcases List.eq_nil_or_concat t with rfl | ⟨t, c, rfl⟩
      · have heq : l = mark.toList := (List.append_nil l).symm.trans ht
        exact heq ▸ List.prefix_rfl
      · rw [List.concat_eq_append] at ht hopen
        rw [hm, ← List.append_assoc] at ht
        obtain ⟨-, hc⟩ := List.append_inj' ht rfl
        cases hc
        have hblank := ha ':' (hopen.subset (by simp))
        exact absurd hblank (by decide)
  · rintro ⟨mark, hmark, hopen⟩
    exact ⟨mark, hmark, hopen.trans (List.prefix_append l a)⟩

theorem stripRight_trail {a : List Char} (ha : ∀ c ∈ a, isBlank c = true) (l : List Char) :
    stripRight (l ++ a) = stripRight l := by
  induction l with
  | nil =>
    induction a with
    | nil => rfl
    | cons c a ih =>
      have hrest : stripRight a = [] := ih fun d hd => ha d (List.mem_cons_of_mem _ hd)
      have hc := ha c List.mem_cons_self
      simp [stripRight, hrest, hc]
  | cons c l ih => rw [List.cons_append, stripRight, stripRight, ih]

/-! ## Sorted lines -/

/-- **Sorted lines are told by which lines they are and how often.** -/
theorem mergeSort_textLE_eq_iff {ls ls' : List (List Char)} :
    ls.mergeSort textLE = ls'.mergeSort textLE ↔ ls.Perm ls' := by
  have hsorted (ls : List (List Char)) : (ls.mergeSort textLE).Pairwise fun s t => textLE s t = true := by
    apply List.pairwise_mergeSort
    · intro s t u hst htu
      rw [textLE_iff] at hst htu ⊢
      exact List.le_trans hst htu
    · intro s t
      rw [Bool.or_eq_true, textLE_iff, textLE_iff]
      exact List.le_total _ _
  constructor
  · intro h
    exact (List.mergeSort_perm ls textLE).symm.trans (h ▸ List.mergeSort_perm ls' textLE)
  · intro h
    have hperm : (ls.mergeSort textLE).Perm (ls'.mergeSort textLE) :=
      (List.mergeSort_perm ls textLE).trans (h.trans (List.mergeSort_perm ls' textLE).symm)
    refine hperm.eq_of_pairwise (fun s t _ _ hst hts => ?_) (hsorted ls) (hsorted ls')
    rw [textLE_iff] at hst hts
    exact encodeUtf8_injective (List.le_antisymm hst hts)

theorem markedSteps_eq (text : List Char) : markedSteps text = (markedLines (splitLines text)).mergeSort textLE := by
  rw [markedSteps, markedLines, funext isMarkedStep_eq]

/-- The corpora of two texts agree exactly if the same marked lines are there equally often. -/
theorem markedSteps_eq_iff {text text' : List Char} :
    markedSteps text = markedSteps text' ↔
      (markedLines (splitLines text) : Multiset (List Char)) = markedLines (splitLines text') := by
  rw [markedSteps_eq, markedSteps_eq, mergeSort_textLE_eq_iff, Multiset.coe_eq_coe]

/-! ## Lines rearranged -/

/-- A change of the lines of a document: another order, a line more that is no marked one, or other blanks at the end
of a marked line. -/
inductive Rearranged : List (List Char) → List (List Char) → Prop
  | order {ls ls' : List (List Char)} (h : ls.Perm ls') : Rearranged ls ls'
  | unmarked {l : List Char} (h : ¬ IsMarked l) (front back : List (List Char)) :
      Rearranged (front ++ back) (front ++ l :: back)
  | trail {l a b : List Char} (h : IsMarked (l ++ a)) (ha : ∀ c ∈ a, isBlank c = true)
      (hb : ∀ c ∈ b, isBlank c = true) (front back : List (List Char)) :
      Rearranged (front ++ (l ++ a) :: back) (front ++ (l ++ b) :: back)

theorem Rearranged.markedLines_perm {ls ls' : List (List Char)} (h : Rearranged ls ls') :
    (markedLines ls).Perm (markedLines ls') := by
  cases h with
  | order h => exact (h.filter _).map _
  | unmarked h front back =>
    rw [markedLines, markedLines, List.filter_append, List.filter_append, List.filter_cons_of_neg (by simpa using h)]
  | @trail l a b h ha hb front back =>
    have hl := (isMarked_trail ha).mp h
    have hb' := (isMarked_trail hb).mpr hl
    rw [markedLines, markedLines, List.filter_append, List.filter_append, List.filter_cons_of_pos (by simpa using h),
      List.filter_cons_of_pos (by simpa using hb'), List.map_append, List.map_append, List.map_cons, List.map_cons,
      stripRight_trail ha, stripRight_trail hb]

theorem markedLines_rearranged {ls ls' : List (List Char)} (h : Relation.EqvGen Rearranged ls ls') :
    (markedLines ls).Perm (markedLines ls') := by
  induction h with
  | rel _ _ h => exact h.markedLines_perm
  | refl _ => exact List.Perm.refl _
  | symm _ _ _ ih => exact ih.symm
  | trans _ _ _ _ _ ih ih' => exact ih.trans ih'

/-! ## Corpora of documents -/

theorem ofPath_document {t : Tree} {p : Path} {bytes : List UInt8} (hname : isFeatureName p.name = false)
    (hread : t.readBytes p = .ok bytes) :
    Corpus.ofPath t p = .ok ⟨.legacyDocument p, markedSteps (Tree.lossyText bytes)⟩ := by
  have hclass : classifyPath t p = .ok (.legacyDocument p) := by
    rw [classifyPath_file (Tree.find_of_readBytes hread), hname]
    rfl
  rw [Corpus.ofPath, hclass]
  change Corpus.ofSource t (.legacyDocument p) = _
  rw [Corpus.ofSource, Tree.readText, hread]
  rfl

/-- **The order of a document carries no meaning, and nothing else is lost.** Two documents have the same corpus if
their lines are rearranged, with other lines that are no marked ones and other blanks at the end of marked lines. They
have the same corpus exactly if the same marked lines without trailing blanks are there equally often. -/
theorem document_corpora {t t' : Tree} {p p' : Path} {bytes bytes' : List UInt8}
    (hname : isFeatureName p.name = false) (hname' : isFeatureName p'.name = false)
    (hread : t.readBytes p = .ok bytes) (hread' : t'.readBytes p' = .ok bytes') :
    ∃ c c', Corpus.ofPath t p = .ok c ∧ Corpus.ofPath t' p' = .ok c' ∧
      (Relation.EqvGen Rearranged (splitLines (Tree.lossyText bytes)) (splitLines (Tree.lossyText bytes')) →
        c.lines = c'.lines) ∧
      (c.lines = c'.lines ↔
        (markedLines (splitLines (Tree.lossyText bytes)) : Multiset (List Char)) =
          markedLines (splitLines (Tree.lossyText bytes'))) := by
  refine ⟨_, _, ofPath_document hname hread, ofPath_document hname' hread', fun h => ?_, markedSteps_eq_iff⟩
  exact markedSteps_eq_iff.mpr (Multiset.coe_eq_coe.mpr (markedLines_rearranged h))

def documentTree (text : String) : Tree :=
  .dir [("a.md", .file (encodeUtf8 text.toList))]

/-- Two steps in another order, with a heading before them and a blank after one of them, make the same corpus. With
one of them there twice the corpus is another one. -/
theorem document_corpora_swapped :
    (∃ c c', Corpus.ofPath (documentTree "**When**: b\n**Given**: a") (Path.here.child "a.md") = .ok c ∧
      Corpus.ofPath (documentTree "# Steps\n**Given**: a \n**When**: b\n") (Path.here.child "a.md") = .ok c' ∧
      c.lines = c'.lines) ∧
    ∃ c c', Corpus.ofPath (documentTree "**When**: b\n**Given**: a") (Path.here.child "a.md") = .ok c ∧
      Corpus.ofPath (documentTree "**When**: b\n**Given**: a\n**When**: b") (Path.here.child "a.md") = .ok c' ∧
      c.lines ≠ c'.lines := by
  have hread (text : String) :
      (documentTree text).readBytes (Path.here.child "a.md") = .ok (encodeUtf8 text.toList) := rfl
  have hname : isFeatureName (Path.here.child "a.md").name = false := by decide
  constructor
  · obtain ⟨c, c', hc, hc', hsame, -⟩ := document_corpora hname hname (hread "**When**: b\n**Given**: a")
      (hread "# Steps\n**Given**: a \n**When**: b\n")
    refine ⟨c, c', hc, hc', hsame ?_⟩
    have hlines : splitLines (Tree.lossyText (encodeUtf8 "**When**: b\n**Given**: a".toList)) =
        ["**When**: b".toList, "**Given**: a".toList] := by
      decide +kernel
    have hlines' : splitLines (Tree.lossyText (encodeUtf8 "# Steps\n**Given**: a \n**When**: b\n".toList)) =
        ["# Steps".toList, "**Given**: a ".toList, "**When**: b".toList] := by
      decide +kernel
    rw [hlines, hlines']
    have horder : Rearranged ["**When**: b".toList, "**Given**: a".toList]
        ["**Given**: a".toList, "**When**: b".toList] :=
      .order (List.Perm.swap _ _ _)
    have htrail : Rearranged ["**Given**: a".toList, "**When**: b".toList]
        ["**Given**: a ".toList, "**When**: b".toList] :=
      .trail (l := "**Given**: a".toList) (a := []) (b := [' ']) (by decide) (by decide) (by decide) [] _
    have hheading : Rearranged ["**Given**: a ".toList, "**When**: b".toList]
        ["# Steps".toList, "**Given**: a ".toList, "**When**: b".toList] :=
      .unmarked (by decide) [] _
    exact ((Relation.EqvGen.rel _ _ horder).trans _ _ _ (.rel _ _ htrail)).trans _ _ _ (.rel _ _ hheading)
  · obtain ⟨c, c', hc, hc', -, hiff⟩ := document_corpora hname hname (hread "**When**: b\n**Given**: a")
      (hread "**When**: b\n**Given**: a\n**When**: b")
    refine ⟨c, c', hc, hc', fun hsame => ?_⟩
    have hcard := congrArg Multiset.card (hiff.mp hsame)
    rw [Multiset.coe_card, Multiset.coe_card] at hcard
    exact absurd hcard (by decide +kernel)

end ScenarioAudit
