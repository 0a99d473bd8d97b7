import ScenarioAudit.Corpus.Source
import ScenarioAudit.Proofs.Text.Lines
import ScenarioAudit.Proofs.Text.Utf8
import ScenarioAudit.Proofs.Tree

/-! # What a digest tells about lines

No line of a corpus holds a line feed (`Corpus.lines_clean`), so the joined text tells the lines
(`joinLines_injective`), and so do its bytes. Two corpora with one digest therefore have the same lines, or their
joined texts are an explicit collision (`digest_eq_iff`). The sentinel of an empty corpus is no digest, as it has
another length.
-/

namespace ScenarioAudit

open ScenarioAudit.Text

/-! ## Joining lines -/

namespace Text

theorem splitNewlines_clean {l : List Char} (h : '\n' ∉ l) : splitNewlines l = [l] := by
  induction l with
  | nil => rfl
  | cons c l ih =>
    have hc : c ≠ '\n' := fun heq => h (heq ▸ List.mem_cons_self)
    rw [splitNewlines, if_neg hc, ih fun hmem => h (List.mem_cons_of_mem _ hmem)]

theorem splitNewlines_append {l : List Char} (h : '\n' ∉ l) (s : List Char) :
    splitNewlines (l ++ '\n' :: s) = l :: splitNewlines s := by
  induction l with
  | nil => rfl
  | cons c l ih =>
    have hc : c ≠ '\n' := fun heq => h (heq ▸ List.mem_cons_self)
    rw [List.cons_append, splitNewlines, if_neg hc, ih fun hmem => h (List.mem_cons_of_mem _ hmem)]

theorem splitNewlines_joinLines {ls : List (List Char)} (hne : ls ≠ []) (h : ∀ l ∈ ls, '\n' ∉ l) :
    splitNewlines (joinLines ls) = ls := by
  induction ls with
  | nil => exact absurd rfl hne
  | cons l ls ih =>
    have hl : '\n' ∉ l := h l List.mem_cons_self
    cases ls with
    | nil => exact splitNewlines_clean hl
    | cons l' ls =>
      have hjoin : joinLines (l :: l' :: ls) = l ++ '\n' :: joinLines (l' :: ls) := by
        rw [joinLines, joinWith, List.append_assoc]
        · rfl
        · exact List.cons_ne_nil _ _
      rw [hjoin, splitNewlines_append hl,
        ih (List.cons_ne_nil _ _) fun k hk => h k (List.mem_cons_of_mem _ hk)]

/-- **The joined text tells the lines.** -/
theorem joinLines_injective {ls ls' : List (List Char)} (hne : ls ≠ []) (hne' : ls' ≠ [])
    (h : ∀ l ∈ ls, '\n' ∉ l) (h' : ∀ l ∈ ls', '\n' ∉ l) (heq : joinLines ls = joinLines ls') :
    ls = ls' := by
  rw [← splitNewlines_joinLines hne h, heq, splitNewlines_joinLines hne' h']

end Text

/-! ## Lines without line feeds -/

theorem normalizeStep_clean (line : List Char) : '\n' ∉ normalizeStep line := by
  intro hmem
  have hsqueeze : '\n' ∈ squeeze line := (List.dropWhile_sublist _).mem (mem_stripRight hmem)
  rcases mem_squeezeFrom hsqueeze with h | h
  · exact absurd h (by decide)
  · exact absurd h (by decide)

theorem gherkinSteps_clean (text : List Char) : ∀ l ∈ gherkinSteps text, '\n' ∉ l := by
  intro l hl
  obtain ⟨line, -, rfl⟩ := List.mem_map.mp hl
  exact normalizeStep_clean line

theorem markedSteps_clean (text : List Char) : ∀ l ∈ markedSteps text, '\n' ∉ l := by
  intro l hl
  obtain ⟨line, hline, rfl⟩ := List.mem_map.mp (List.mem_mergeSort.mp hl)
  intro hmem
  have hbreak := mem_splitLines (List.mem_filter.mp hline).1 _ (mem_stripRight hmem)
  exact absurd hbreak (by decide)

theorem Corpus.lines_clean {t : Tree} {source : Source} {c : Corpus}
    (h : Corpus.ofSource t source = .ok c) : ∀ l ∈ c.lines, '\n' ∉ l := by
  cases source with
  | directory p files =>
    obtain ⟨texts, -, h⟩ := bind_eq_ok h
    cases h
    intro l hl
    obtain ⟨text, -, hl⟩ := List.mem_flatMap.mp hl
    exact gherkinSteps_clean text l hl
  | scenarioFile p =>
    obtain ⟨text, -, h⟩ := bind_eq_ok h
    cases h
    exact gherkinSteps_clean text
  | legacyDocument p =>
    obtain ⟨text, -, h⟩ := bind_eq_ok h
    cases h
    exact markedSteps_clean text
  | missing p =>
    cases h
    exact fun l hl => nomatch hl

theorem Corpus.ofPath_clean {t : Tree} {p : Path} {c : Corpus} (h : Corpus.ofPath t p = .ok c) :
    ∀ l ∈ c.lines, '\n' ∉ l := by
  obtain ⟨source, -, h⟩ := bind_eq_ok h
  exact Corpus.lines_clean h

/-! ## Digests -/

/-- Two different sequences of bytes with one digest. -/
structure Collision (a b : List UInt8) : Prop where
  ne : a ≠ b
  same : Digest.sha256 a = Digest.sha256 b

theorem length_sha256 (bytes : List UInt8) : (Digest.sha256 bytes).length = 64 := by
  simp [Digest.sha256, ← String.length_toList, Digest.hexWord]

/-- Two corpora with lines have one digest exactly if they have the same lines or are a collision. -/
theorem digest_eq_iff_of_ne_nil {sentinel : String} {c d : Corpus} (hcnil : c.lines ≠ []) (hdnil : d.lines ≠ [])
    (hc : ∀ l ∈ c.lines, '\n' ∉ l) (hd : ∀ l ∈ d.lines, '\n' ∉ l) :
    c.digest sentinel = d.digest sentinel ↔
      c.lines = d.lines ∨ Collision (encodeUtf8 c.joined) (encodeUtf8 d.joined) := by
  rw [Corpus.digest, Corpus.digest, if_neg (mt List.isEmpty_iff.mp hcnil), if_neg (mt List.isEmpty_iff.mp hdnil)]
  constructor
  · intro hsame
    by_cases hbytes : encodeUtf8 c.joined = encodeUtf8 d.joined
    · exact Or.inl (joinLines_injective hcnil hdnil hc hd (encodeUtf8_injective hbytes))
    · exact Or.inr ⟨hbytes, hsame⟩
  · rintro (h | h)
    · rw [Corpus.joined, Corpus.joined, h]
    · exact h.same

/-- **One digest, the same lines or a collision.** The sentinel must not be as long as a digest. -/
theorem digest_eq_iff {sentinel : String} (hsentinel : sentinel.length ≠ 64) {c d : Corpus}
    (hc : ∀ l ∈ c.lines, '\n' ∉ l) (hd : ∀ l ∈ d.lines, '\n' ∉ l) :
    c.digest sentinel = d.digest sentinel ↔
      c.lines = d.lines ∨ c.lines ≠ [] ∧ d.lines ≠ [] ∧
        Collision (encodeUtf8 c.joined) (encodeUtf8 d.joined) := by
  have hlength (bytes : List UInt8) : sentinel ≠ Digest.sha256 bytes := by
    rintro rfl
    exact hsentinel (length_sha256 bytes)
  by_cases hcnil : c.lines = []
  · by_cases hdnil : d.lines = []
    · simp [Corpus.digest, hcnil, hdnil]
    · rw [Corpus.digest, Corpus.digest, hcnil, if_pos List.isEmpty_nil, if_neg (mt List.isEmpty_iff.mp hdnil)]
      constructor
      · exact fun h => absurd h (hlength _)
      · rintro (h | ⟨h, -⟩)
        · exact absurd h.symm hdnil
        · exact absurd rfl h
  · by_cases hdnil : d.lines = []
    · rw [Corpus.digest, Corpus.digest, hdnil, if_pos List.isEmpty_nil, if_neg (mt List.isEmpty_iff.mp hcnil)]
      constructor
      · exact fun h => absurd h.symm (hlength _)
      · rintro (h | ⟨-, h, -⟩)
        · exact absurd h hcnil
        · exact absurd rfl h
    · rw [digest_eq_iff_of_ne_nil hcnil hdnil hc hd]
      simp [hcnil, hdnil]

end ScenarioAudit
