import ScenarioAudit.Proofs.Scan.Comments

/-! # Reading again without comments

In a text without its comments no new ones appear, so leaving them out again changes nothing, and the braces that were
code are code again, in the same order. A body is therefore judged in the same way with and without its comments
(`withoutComments_reread`), whatever is malformed in it.
-/

namespace ScenarioAudit.Scan

open ScenarioAudit.Text

variable {quotes : List Char}

/-! ## Braces of the code -/

def codePlaces (quotes text : List Char) : List Nat :=
  (mark quotes text).zipIdx.filterMap fun m => if m.1.part = .code then some m.2 else none

def bracesAt (text : List Char) (places : List Nat) : List Char :=
  places.filterMap fun i => text[i]?.filter fun c => c = '\x7b' || c = '\x7d'

def Marked.isBrace (m : Marked) : Bool :=
  m.isCode '\x7b' || m.isCode '\x7d'

theorem bracesAt_codePlaces (text : List Char) :
    bracesAt text (codePlaces quotes text) = ((mark quotes text).filter Marked.isBrace).map Marked.char := by
  have hbrace : ∀ m ∈ (mark quotes text).zipIdx,
      ((if m.1.part = .code then some m.2 else none).bind fun i => text[i]?.filter fun c => c = '\x7b' || c = '\x7d') =
        if m.1.isBrace then some m.1.char else none := by
    rintro ⟨m, i⟩ hm
    by_cases hcode : m.part = .code
    · rw [if_pos hcode, Option.bind_some, @getElem?_mark quotes, List.mem_zipIdx_iff_getElem?.mp hm, Option.map_some,
        Option.filter_some]
      simp [Marked.isBrace, Marked.isCode, hcode]
    · rw [if_neg hcode]
      simp [Marked.isBrace, Marked.isCode, hcode]
  have hfst : (mark quotes text).zipIdx.map Prod.fst = mark quotes text := List.zipIdx_map_fst 0 _
  rw [bracesAt, codePlaces, List.filterMap_filterMap, List.filterMap_congr hbrace, ← List.filterMap_eq_map,
    List.filterMap_filter]
  conv => rhs; rw [← hfst, List.filterMap_map]
  rfl

/-- **The braces of the code are the same without the comments.** -/
theorem filter_isBrace_bareMarks (ms : List Marked) :
    ((bareMarks ms).filter Marked.isBrace).map Marked.char = (ms.filter Marked.isBrace).map Marked.char := by
  induction ms with
  | nil => rfl
  | cons m ms ih =>
    rw [bareMarks_cons, List.filter_cons]
    by_cases hstays : m.stays = true
    · have hbrace : m.bare.isBrace = m.isBrace := by
        rw [Marked.isBrace, Marked.isBrace, isCode_bare m hstays (by decide), isCode_bare m hstays (by decide)]
      rw [if_pos hstays, List.filter_cons, hbrace]
      split
      · rw [List.map_cons, List.map_cons, char_bare, ih]
      · exact ih
    · have hbrace : ¬ m.isBrace = true := by
        simp [Marked.isBrace, isCode_of_not_stays hstays]
      rw [if_neg hstays, if_neg hbrace, ih]

theorem feed_not_mem_of_mem_rules : ∀ r ∈ general :: languages, '\n' ∉ r.quotes := by
  decide

/-- **Comments are left out in the way in which braces are counted.** By the rules of every language, a text without its
comments stays as it is when comments are left out again, has the same number of lines and the same braces of code in
the same order, and as a body it has the same facts. -/
theorem withoutComments_reread {r : ScanRules} (hr : r ∈ general :: languages) (text : List Char)
    (keywords : List String) :
    withoutComments r.quotes (withoutComments r.quotes text) = withoutComments r.quotes text ∧
      countNewlines (withoutComments r.quotes text) = countNewlines text ∧
      bracesAt (withoutComments r.quotes text) (codePlaces r.quotes (withoutComments r.quotes text)) =
        bracesAt text (codePlaces r.quotes text) ∧
      r.facts keywords (braceLines r.quotes (withoutComments r.quotes text)) =
        r.facts keywords (braceLines r.quotes text) := by
  have hquotes := feed_not_mem_of_mem_rules r hr
  have htwice := withoutComments_withoutComments hquotes text
  refine ⟨htwice, ?_, ?_, ?_⟩
  · rw [withoutComments_eq, countNewlines_bare, plain_mark]
  · rw [bracesAt_codePlaces, bracesAt_codePlaces, mark_withoutComments hquotes, filter_isBrace_bareMarks]
  · rw [braceLines, htwice]
    rfl

/-- Braces in strings, in comments and in code, with a quote and a comment that are not closed. -/
def tangledText : List Char :=
  "'\x7b//' \x7b // \x7d\n\"\\\"\n\x7d /* \x7b\n".toList

theorem withoutComments_reread_tangled :
    bracesAt (withoutComments javascript.quotes tangledText)
        (codePlaces javascript.quotes (withoutComments javascript.quotes tangledText)) = ['\x7b', '\x7d'] ∧
      countNewlines (withoutComments javascript.quotes tangledText) = 3 := by
  obtain ⟨-, hlines, hbraces, -⟩ := withoutComments_reread (r := javascript) (by simp [languages]) tangledText []
  rw [hlines, hbraces]
  decide +kernel

end ScenarioAudit.Scan
