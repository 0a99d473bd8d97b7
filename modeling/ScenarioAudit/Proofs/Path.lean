import Mathlib.Tactic.Common
import ScenarioAudit.Path

/-! # The text of a path

A path that was read from a text is read from its own text again (`ofString_toString`), and that text is
never empty.
-/

namespace ScenarioAudit.Path

/-- A name that a path keeps: not empty, not `.`, without slashes. -/
def Proper (n : String) : Prop :=
  n ≠ "" ∧ n ≠ "." ∧ '/' ∉ n.toList

theorem not_mem_of_mem_splitOn {s part : List Char} (h : part ∈ s.splitOn '/') : '/' ∉ part := by
  induction s generalizing part with
  | nil =>
    rw [List.splitOn_nil, List.mem_singleton] at h
    rw [h]
    exact List.not_mem_nil
  | cons c s ih =>
    rw [List.splitOn_cons_eq_if_modifyHead] at h
    by_cases hc : (c == '/') = true
    · rw [if_pos hc, List.mem_cons] at h
      rcases h with rfl | h
      · exact List.not_mem_nil
      · exact ih h
    · rw [if_neg hc] at h
      obtain ⟨first, others, hparts⟩ := List.exists_cons_of_ne_nil (List.splitOn_ne_nil '/' s)
      rw [hparts] at ih h
      rw [List.modifyHead_cons, List.mem_cons] at h
      rcases h with rfl | h
      · intro hmem
        rcases List.mem_cons.mp hmem with heq | hmem
        · exact hc (beq_iff_eq.mpr heq.symm)
        · exact ih List.mem_cons_self hmem
      · exact ih (List.mem_cons_of_mem _ h)

theorem proper_of_mem_segments {s n : String} (h : n ∈ segments s) : Proper n := by
  rw [segments, List.mem_filter, Bool.and_eq_true, decide_eq_true_iff, decide_eq_true_iff] at h
  obtain ⟨hmem, hne, hdot⟩ := h
  obtain ⟨part, hpart, rfl⟩ := List.mem_map.mp hmem
  refine ⟨hne, hdot, ?_⟩
  rw [String.toList_ofList]
  exact not_mem_of_mem_splitOn hpart

section Names

variable {names : List String} (h : ∀ n ∈ names, Proper n)

include h

theorem filter_proper : (names.filter fun n => n ≠ "" && n ≠ ".") = names := by
  apply List.filter_eq_self.mpr
  intro n hn
  obtain ⟨hne, hdot, -⟩ := h n hn
  rw [decide_eq_true hne, decide_eq_true hdot, Bool.and_self]

theorem segments_intercalate : segments ("/".intercalate names) = names := by
  by_cases hnil : names = []
  · subst hnil
    rfl
  · have hsplit : ("/".intercalate names).toList.splitOn '/' = names.map String.toList := by
      rw [String.toList_intercalate]
      apply List.splitOn_intercalate
      · intro part hpart
        obtain ⟨n, hn, rfl⟩ := List.mem_map.mp hpart
        exact (h n hn).2.2
      · simpa using hnil
    have hmap : (names.map String.toList).map String.ofList = names := by
      rw [List.map_map]
      exact List.map_id'' (fun _ => String.ofList_toList) names
    rw [segments, hsplit, hmap]
    exact filter_proper h

theorem head_intercalate : ∀ c ∈ ("/".intercalate names).toList.head?, c ≠ '/' := by
  rcases names with _ | ⟨n, names⟩
  · intro c hc
    cases hc
  · obtain ⟨hne, -, hslash⟩ := h n List.mem_cons_self
    rcases hn : n.toList with _ | ⟨d, ds⟩
    · exact absurd (String.toList_eq_nil_iff.mp hn) hne
    · have hhead : ("/".intercalate (n :: names)).toList.head? = some d := by
        rw [String.toList_intercalate, List.map_cons, hn]
        rcases names with _ | ⟨n', names⟩
        · rfl
        · rfl
      intro c hc
      rw [hhead] at hc
      cases hc
      rintro rfl
      exact hslash (hn ▸ List.mem_cons_self)

end Names

theorem segments_slash (s : String) : segments ("/" ++ s) = segments s := by
  have hslash : ("/" ++ s).toList = '/' :: s.toList := by simp
  rw [segments, hslash, List.splitOn_cons_eq_if_modifyHead, if_pos (by decide), List.map_cons,
    List.filter_cons_of_neg (by decide), ← segments]

/-! ## Where a text starts -/

section Start

variable {s : String} (h : ∀ c ∈ s.toList.head?, c ≠ '/')

include h

theorem ofString_relative : ofString s = ⟨.relative, segments s⟩ := by
  rw [ofString]
  rcases hs : s.toList with _ | ⟨c, cs⟩
  · rfl
  · have hc : c ≠ '/' := h c (by rw [hs]; rfl)
    congr 1
    split
    next heq => exact absurd (List.cons.inj heq).1 hc
    next heq => exact absurd (List.cons.inj heq).1 hc
    next heq => exact absurd (List.cons.inj heq).1 hc
    next => rfl

theorem ofString_top : ofString ("/" ++ s) = ⟨.top, segments s⟩ := by
  have hslash : ("/" ++ s).toList = '/' :: s.toList := by simp
  rw [ofString, segments_slash, hslash]
  rcases hs : s.toList with _ | ⟨c, cs⟩
  · rfl
  · have hc : c ≠ '/' := h c (by rw [hs]; rfl)
    congr 1
    split
    next heq => exact absurd (List.cons.inj (List.cons.inj heq).2).1 hc
    next heq => exact absurd (List.cons.inj (List.cons.inj heq).2).1 hc
    next => rfl
    next hne => exact absurd rfl (hne _)

theorem ofString_doubleTop : ofString ("//" ++ s) = ⟨.doubleTop, segments s⟩ := by
  have hslash : ("//" ++ s).toList = '/' :: '/' :: s.toList := by simp
  have hsegments : segments ("//" ++ s) = segments s := by
    have hsplit : "//" ++ s = "/" ++ ("/" ++ s) := by
      rw [← String.append_assoc]
      rfl
    rw [hsplit, segments_slash, segments_slash]
  rw [ofString, hsegments, hslash]
  rcases hs : s.toList with _ | ⟨c, cs⟩
  · rfl
  · have hc : c ≠ '/' := h c (by rw [hs]; rfl)
    congr 1
    split
    next heq => exact absurd (List.cons.inj (List.cons.inj (List.cons.inj heq).2).2).1 hc
    next => rfl
    next hne heq => exact (hne _ (List.cons.inj heq).2.symm).elim
    next hne => exact (hne _ rfl).elim

end Start

/-! ## Paths that were read -/

/-- A path as it is read from a text. -/
structure Parsed (p : Path) : Prop where
  anchor_ne : p.anchor ≠ .workspace
  proper : ∀ n ∈ p.names, Proper n

theorem parsed_ofString (s : String) : Parsed (ofString s) where
  anchor_ne := by
    rw [ofString]
    dsimp only
    split
    all_goals exact Anchor.noConfusion
  proper := fun _ hn => proper_of_mem_segments hn

/-- **Reading the text of a path that was read gives the path back.** -/
theorem Parsed.ofString_toString {p : Path} (h : Parsed p) : ofString p.toString = p := by
  obtain ⟨anchor, names⟩ := p
  have hhead := head_intercalate h.proper
  have hnames := segments_intercalate h.proper
  rcases anchor with _ | _ | _ | _
  · rcases names with _ | ⟨n, names⟩
    · rfl
    · exact (ofString_relative hhead).trans (by rw [hnames])
  · exact (ofString_top hhead).trans (by rw [hnames])
  · exact (ofString_doubleTop hhead).trans (by rw [hnames])
  · exact absurd rfl h.anchor_ne

theorem Parsed.toString_ne_empty {p : Path} (h : Parsed p) : p.toString ≠ "" := by
  obtain ⟨anchor, names⟩ := p
  rcases anchor with _ | _ | _ | _
  · rcases names with _ | ⟨n, names⟩
    · decide
    · obtain ⟨hne, -, -⟩ := h.proper n List.mem_cons_self
      rcases names with _ | ⟨n', names⟩
      · simpa [toString] using hne
      · simp [toString]
  · simp [toString]
  · simp [toString]
  · exact absurd rfl h.anchor_ne

/-! ## The last name -/

theorem intercalate_concat (names : List String) (n : String) :
    "/".intercalate (names ++ [n]) = n ∨ ∃ front, "/".intercalate (names ++ [n]) = front ++ "/" ++ n := by
  induction names with
  | nil => exact Or.inl String.intercalate_singleton
  | cons m names ih =>
    right
    rw [List.cons_append, String.intercalate_cons_of_ne_nil (List.concat_ne_nil n names)]
    rcases ih with h | ⟨front, h⟩
    · exact ⟨m, by rw [h]⟩
    · exact ⟨m ++ "/" ++ front, by rw [h]; simp only [String.append_assoc]⟩

/-- The text of a path with names ends in the last one, as it is or after a slash. -/
theorem toString_name {p : Path} (h : p.names ≠ []) :
    p.toString = p.name ∨ ∃ front, p.toString = front ++ "/" ++ p.name := by
  obtain ⟨anchor, names⟩ := p
  rcases List.eq_nil_or_concat names with rfl | ⟨front, n, rfl⟩
  · exact absurd rfl h
  rw [List.concat_eq_append] at h ⊢
  have hname : (⟨anchor, front ++ [n]⟩ : Path).name = n := by simp [name]
  have hslash (lead : String) : ∃ front', lead ++ "/" ++ "/".intercalate (front ++ [n]) = front' ++ "/" ++ n := by
    rcases intercalate_concat front n with h | ⟨front', h⟩
    · exact ⟨lead, by rw [h]⟩
    · exact ⟨lead ++ "/" ++ front', by rw [h]; simp only [String.append_assoc]⟩
  rw [hname]
  rcases anchor with _ | _ | _ | _
  · simpa [toString] using intercalate_concat front n
  · obtain ⟨front', h⟩ := hslash ""
    exact Or.inr ⟨front', by rw [← h]; simp [toString]⟩
  · obtain ⟨front', h⟩ := hslash "/"
    exact Or.inr ⟨front', by rw [← h]; rfl⟩
  · exact intercalate_concat ("$ROOT" :: front) n

end ScenarioAudit.Path
