import ScenarioAudit.Anchor.History
import ScenarioAudit.Proofs.Corpus.Digest
import ScenarioAudit.Proofs.Json.Scalar

/-! # A note reads back

A note whose texts have no line breaks is read back from its text, but for the blanks around each of them
(`ofText_toText`). A digest and a stamp are such texts, and a digest has no blanks at all.
-/

namespace ScenarioAudit

open ScenarioAudit.Text ScenarioAudit.Number

/-! ## One line -/

namespace AnchorNote

theorem splitLines_line {l : List Char} (hl : ∀ c ∈ l, isLineBreak c = false) (hne : l ≠ []) (rest : List Char) :
    splitLines (l ++ '\n' :: rest) = l :: splitLines rest := by
  have hfirst : firstLine ('\n' :: rest) = [] := by
    rw [firstLine, List.takeWhile_cons_of_neg (by decide)]
  rw [splitLines_append_clean hl hne, splitLines_feed, hfirst, List.append_nil, List.tail_cons]

theorem splitField_colon {k : List Char} (hk : ':' ∉ k) (v : List Char) :
    splitField (k ++ ':' :: v) = some (strip k, strip v) := by
  have hsplit : ∀ c ∈ k, decide (c ≠ ':') = true := by
    intro c hc
    exact decide_eq_true fun heq => hk (heq ▸ hc)
  have hdrop : (k ++ ':' :: v).dropWhile (· ≠ ':') = ':' :: v := by
    rw [List.dropWhile_append_of_pos hsplit, List.dropWhile_cons_of_neg (by decide)]
  have htake : (k ++ ':' :: v).takeWhile (· ≠ ':') = k := by
    rw [List.takeWhile_append_of_pos hsplit, List.takeWhile_cons_of_neg (by decide), List.append_nil]
  unfold splitField
  rw [hdrop, htake]
  rfl

/-- A key of a line: without colons and line breaks. -/
def IsKey (key : String) : Prop :=
  ∀ c ∈ key.toList, c ≠ ':' ∧ isLineBreak c = false

instance (key : String) : Decidable (IsKey key) :=
  List.decidableBAll (fun c => c ≠ ':' ∧ isLineBreak c = false) key.toList

theorem fields_line {key value : String} (hkey : IsKey key)
    (hvalue : ∀ c ∈ value.toList, isLineBreak c = false) (rest : List Char) :
    fields ((fieldLine key value).toList ++ rest) = (strip key.toList, strip value.toList) :: fields rest := by
  have htext : (fieldLine key value).toList ++ rest = (key.toList ++ ':' :: ' ' :: value.toList) ++ '\n' :: rest := by
    simp [fieldLine]
  have hclean : ∀ c ∈ key.toList ++ ':' :: ' ' :: value.toList, isLineBreak c = false := by
    intro c hc
    rcases List.mem_append.mp hc with hc | hc
    · exact (hkey c hc).2
    rcases List.mem_cons.mp hc with rfl | hc
    · decide
    rcases List.mem_cons.mp hc with rfl | hc
    · decide
    · exact hvalue c hc
  unfold fields
  rw [htext, splitLines_line hclean (by simp), List.filterMap_cons,
    splitField_colon fun hmem => (hkey _ hmem).1 rfl]
  rfl

/-! ## All lines -/

/-- A note without the blanks around its texts. -/
def tidied (n : AnchorNote) : AnchorNote :=
  { n with
    digest := History.stripped n.digest
    generatedAt := History.stripped n.generatedAt
    originPath := History.stripped n.originPath }

def texts (n : AnchorNote) : List String :=
  [n.digest, n.generatedAt, n.originPath]

/-- The line of a kind, which has no other blanks than the one after the colon. -/
def kindFields : Option SourceKind → List (List Char × List Char)
  | some kind => [("source-kind".toList, kind.toString.toList)]
  | none => []

theorem fields_kindLine (kind : SourceKind) :
    fields (fieldLine "source-kind" kind.toString).toList = kindFields (some kind) := by
  cases kind <;> decide

theorem fields_toText {n : AnchorNote} (hclean : ∀ v ∈ n.texts, ∀ c ∈ v.toList, isLineBreak c = false) :
    fields n.toText.toList =
      ("testify-hash".toList, strip n.digest.toList) :: ("generated-at".toList, strip n.generatedAt.toList) ::
        ("test-specs-file".toList, strip n.originPath.toList) :: kindFields n.originKind := by
  obtain ⟨digest, generatedAt, originPath, originKind⟩ := n
  have hlines (last : String) : fields (fieldLine "testify-hash" digest ++ fieldLine "generated-at" generatedAt ++
      fieldLine "test-specs-file" originPath ++ last).toList =
      ("testify-hash".toList, strip digest.toList) :: ("generated-at".toList, strip generatedAt.toList) ::
        ("test-specs-file".toList, strip originPath.toList) :: fields last.toList := by
    rw [String.toList_append, String.toList_append, String.toList_append, List.append_assoc, List.append_assoc,
      fields_line (by decide) (hclean _ (by simp [texts])), fields_line (by decide) (hclean _ (by simp [texts])),
      fields_line (by decide) (hclean _ (by simp [texts]))]
    rfl
  rcases originKind with _ | kind
  · exact hlines ""
  · exact (hlines _).trans (by rw [fields_kindLine])

theorem field_self (key : String) (v : List Char) (fs : List (List Char × List Char)) :
    field ((key.toList, v) :: fs) key = String.ofList v := by
  unfold field
  rw [List.find?_cons_of_pos (by simp)]

theorem field_other {key other : String} (h : other ≠ key) (v : List Char) (fs : List (List Char × List Char)) :
    field ((other.toList, v) :: fs) key = field fs key := by
  unfold field
  rw [List.find?_cons_of_neg (by simpa [String.toList_inj] using h)]

/-- **A note reads back,** without the blanks around its texts. -/
theorem ofText_toText {n : AnchorNote} (hclean : ∀ v ∈ n.texts, ∀ c ∈ v.toList, isLineBreak c = false)
    (hdigest : History.stripped n.digest ≠ "") : ofText? n.toText = some n.tidied := by
  have hkind : SourceKind.ofString? (field (kindFields n.originKind) "source-kind") = n.originKind := by
    rcases n.originKind with _ | kind
    · rfl
    · cases kind <;> rfl
  have hempty : ¬ (String.ofList (strip n.digest.toList)).isEmpty = true :=
    fun h => hdigest (String.isEmpty_iff.mp h)
  unfold ofText?
  simp only [fields_toText hclean, field_self, field_other (show "testify-hash" ≠ "generated-at" by decide),
    field_other (show "testify-hash" ≠ "test-specs-file" by decide),
    field_other (show "testify-hash" ≠ "source-kind" by decide),
    field_other (show "generated-at" ≠ "test-specs-file" by decide),
    field_other (show "generated-at" ≠ "source-kind" by decide),
    field_other (show "test-specs-file" ≠ "source-kind" by decide), hkind, if_neg hempty]
  rfl

end AnchorNote

/-! ## Texts that are kept -/

/-- A text within one line, without blanks at its ends. -/
structure Plain (s : String) : Prop where
  clean : ∀ c ∈ s.toList, isLineBreak c = false
  front : ∀ c ∈ s.toList.head?, isBlank c = false
  back : ∀ c ∈ s.toList.getLast?, isBlank c = false

-- Deciding it looks at the characters of the text only.
instance (s : String) : Decidable (Plain s) :=
  decidable_of_iff (s.toList.all (fun c => !isLineBreak c) ∧ s.toList.head?.all (fun c => !isBlank c) ∧
      s.toList.getLast?.all fun c => !isBlank c) <| by
    simp only [List.all_eq_true, Option.all_eq_true, Bool.not_eq_true']
    exact ⟨fun h => ⟨h.1, h.2.1, h.2.2⟩, fun h => ⟨h.clean, h.front, h.back⟩⟩

theorem Plain.strip_eq {s : String} (h : Plain s) : strip s.toList = s.toList := by
  have hleft : stripLeft s.toList = s.toList := by
    rcases hs : s.toList with _ | ⟨c, cs⟩
    · rfl
    · exact stripLeft_cons (h.front c (by rw [hs]; rfl)) cs
  rw [strip, hleft]
  rcases List.eq_nil_or_concat s.toList with hs | ⟨front, c, hs⟩
  · rw [hs]
    rfl
  · rw [List.concat_eq_append] at hs
    have hc : isBlank c = false := h.back c (by rw [hs, List.getLast?_concat]; rfl)
    rw [hs]
    exact stripRight_append hc front []

theorem Plain.stripped {s : String} (h : Plain s) : History.stripped s = s := by
  rw [History.stripped, h.strip_eq, String.ofList_toList]

/-! ## Digests and stamps -/

/-- A text without blanks. -/
def Solid (s : String) : Prop :=
  ∀ c ∈ s.toList, isBlank c = false

-- Deciding it goes through the text, not through all characters.
instance (s : String) : Decidable (Solid s) :=
  List.decidableBAll (fun c => isBlank c = false) s.toList

theorem Solid.append {s t : String} (hs : Solid s) (ht : Solid t) : Solid (s ++ t) := by
  intro c hc
  rw [String.toList_append] at hc
  rcases List.mem_append.mp hc with hc | hc
  · exact hs c hc
  · exact ht c hc

theorem Solid.clean {s : String} (h : Solid s) : ∀ c ∈ s.toList, isLineBreak c = false :=
  fun c hc => isLineBreak_of_not_isBlank (h c hc)

theorem Solid.plain {s : String} (h : Solid s) : Plain s where
  clean := h.clean
  front c hc := h c (List.mem_of_head? hc)
  back c hc := h c (List.mem_of_getLast? hc)

theorem Solid.stripped {s : String} (h : Solid s) : History.stripped s = s :=
  h.plain.stripped

theorem solid_sha256 (bytes : List UInt8) : Solid (Digest.sha256 bytes) := by
  have hdigit : ∀ n < 16, isBlank (Nat.digitChar n) = false := by decide
  intro c hc
  simp only [Digest.sha256, String.toList_ofList, List.mem_flatMap, Digest.hexWord, List.mem_map] at hc
  obtain ⟨w, -, i, -, rfl⟩ := hc
  exact hdigit _ (Nat.mod_lt _ (by decide))

theorem solid_digits {ds : List Char} (h : AllDigits ds) : Solid (String.ofList ds) := by
  have hdigit : ∀ n < 58, 48 ≤ n → blankSet.containsCode n = false := by decide
  intro c hc
  rw [String.toList_ofList] at hc
  have hrange := h c hc
  simp only [Char.isDigit, Bool.and_eq_true, decide_eq_true_eq, ge_iff_le, UInt32.le_iff_toNat_le] at hrange
  exact hdigit c.toNat (Nat.lt_succ_of_le hrange.2) hrange.1

theorem solid_toString (n : ℕ) : Solid (toString n) := by
  have hdigits : toString n = String.ofList (Nat.toDigits 10 n) := rfl
  rw [hdigits]
  exact solid_digits (allDigits_toDigits n)

theorem Moment.solid_stamp (m : Moment) : Solid m.stamp := by
  have hyear : Solid (toString m.year) := by
    intro c hc
    rw [Json.toString_int] at hc
    rcases List.mem_append.mp hc with hc | hc
    · split at hc
      · rw [List.mem_singleton.mp hc]
        decide
      · cases hc
    · exact solid_digits (allDigits_toDigits m.year.natAbs) c (by rwa [String.toList_ofList])
  have htwo (n : ℕ) : Solid (two n) :=
    (solid_digits (allDigits_zeros _)).append (solid_toString n)
  unfold stamp
  repeat' with_reducible first
    | exact hyear
    | exact htwo _
    | apply Solid.append
  all_goals decide

end ScenarioAudit
