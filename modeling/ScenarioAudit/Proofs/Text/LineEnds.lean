import ScenarioAudit.Proofs.Text.Lines
import ScenarioAudit.Proofs.Text.Locality
import ScenarioAudit.Tree

/-! # Line ends

A line may end in a line feed, a carriage return, or both. An ASCII byte is a character of its own wherever it stands
(`decodeUtf8Lossy_ascii`), so replacing the line feeds among some bytes replaces those of their text
(`decodeUtf8Lossy_relined`), and a file reads the same with any line ends (`lossyText_relined`).
-/

namespace ScenarioAudit.Text

/-! ## Bytes that are characters -/

theorem decodeUtf8Lossy_nil : decodeUtf8Lossy [] = [] := by
  simp [decodeUtf8Lossy, decodePieces]

/-- An ASCII byte stands for itself, and cuts off a character that is unfinished before it. -/
theorem decodeUtf8Lossy_ascii {a : UInt8} (ha : a < 0x80) (x y : List UInt8) :
    decodeUtf8Lossy (x ++ a :: y) = decodeUtf8Lossy x ++ Char.ofNat a.toNat :: decodeUtf8Lossy y := by
  have hself : decodeUtf8Lossy (a :: y) = Char.ofNat a.toNat :: decodeUtf8Lossy y := by
    have hshape : leadShape a = some (0, 0, 0) := if_pos ha
    rw [decodeUtf8Lossy_cons, readScalar_of_shape hshape, readFollowing]
    rfl
  obtain ⟨u, r, hr, hread⟩ := exists_pending x
  have hx := (hread []).1
  rw [List.append_nil, List.append_nil] at hx
  rw [(hread (a :: y)).1, hx, List.append_assoc, List.append_right_inj]
  cases hr with
  | ground => rw [decodeUtf8Lossy_nil, List.nil_append, List.nil_append, hself]
  | @begun b w k lo hi bits hlo hhi hscalar =>
    have hstop : ¬ (lo ≤ a ∧ a ≤ hi) := fun h => UInt8.not_lt.mpr (UInt8.le_trans hlo h.1) ha
    have hcut : readScalar b (w ++ a :: y) = (none, a :: y) := by
      rw [hscalar, readFollowing, if_neg hstop]
      rfl
    have hend : readScalar b w = (none, []) := by
      have h := hscalar []
      rwa [List.append_nil] at h
    rw [List.cons_append, decodeUtf8Lossy_cons, decodeUtf8Lossy_cons, hcut, hend, hself, decodeUtf8Lossy_nil]
    rfl

/-- A line feed or a carriage return comes from its byte only. -/
theorem mem_of_mem_decode {a : UInt8} (ha : a = 10 ∨ a = 13) {x : List UInt8}
    (h : Char.ofNat a.toNat ∈ decodeUtf8Lossy x) : a ∈ x := by
  induction hn : x.length using Nat.strongRecOn generalizing x with
  | ind n ih =>
    subst hn
    cases x with
    | nil =>
      rw [decodeUtf8Lossy_nil] at h
      cases h
    | cons b x =>
      rw [decodeUtf8Lossy_cons] at h
      obtain ⟨used, hused, -⟩ := readScalar_used b x
      rcases hread : readScalar b x with ⟨c, rest⟩
      rw [hread] at h hused
      dsimp only at h hused
      rcases List.mem_cons.mp h with hc | hrest
      · cases c with
        | none =>
          have hmark : Char.ofNat a.toNat ≠ replacementMark := by
            rcases ha with rfl | rfl
            · decide
            · decide
          exact absurd hc hmark
        | some c =>
          have hencode := encodeChar_readScalar hread
          rw [show c = Char.ofNat a.toNat from hc.symm] at hencode
          have hbyte : String.utf8EncodeChar (Char.ofNat a.toNat) = [a] := by
            rcases ha with rfl | rfl
            · decide
            · decide
          rw [hbyte] at hencode
          cases hencode
          exact List.mem_cons_self
      · have hlength : rest.length < (b :: x).length := by
          rw [hused, List.length_cons, List.length_append]
          omega
        have hmem := ih rest.length hlength hrest rfl
        rw [hused]
        exact List.mem_cons_of_mem _ (List.mem_append_right _ hmem)

/-! ## Other line ends -/

inductive LineEnd where
  | feed
  | returnFeed
  | carriageReturn
  deriving DecidableEq, Repr

def LineEnd.bytes : LineEnd → List UInt8
  | feed => [10]
  | returnFeed => [13, 10]
  | carriageReturn => [13]

def LineEnd.chars : LineEnd → List Char
  | feed => ['\n']
  | returnFeed => ['\r', '\n']
  | carriageReturn => ['\r']

/-- The bytes with another line end in the place of each line feed. -/
def relined (e : LineEnd) (bytes : List UInt8) : List UInt8 :=
  bytes.flatMap fun b => if b = 10 then e.bytes else [b]

/-- The text with another line end in the place of each line feed. -/
def relinedText (e : LineEnd) (s : List Char) : List Char :=
  s.flatMap fun c => if c = '\n' then e.chars else [c]

theorem decodeUtf8Lossy_lineEnd (e : LineEnd) (x y : List UInt8) :
    decodeUtf8Lossy (x ++ (e.bytes ++ y)) = decodeUtf8Lossy x ++ (e.chars ++ decodeUtf8Lossy y) := by
  cases e with
  | feed => exact decodeUtf8Lossy_ascii (by decide) x y
  | returnFeed =>
    have hfeed := decodeUtf8Lossy_ascii (a := 10) (by decide) [] y
    rw [decodeUtf8Lossy_nil, List.nil_append, List.nil_append] at hfeed
    have h := decodeUtf8Lossy_ascii (a := 13) (by decide) x (10 :: y)
    rwa [hfeed] at h
  | carriageReturn => exact decodeUtf8Lossy_ascii (by decide) x y

theorem relined_append (e : LineEnd) {x : List UInt8} (hx : 10 ∉ x) (y : List UInt8) :
    relined e (x ++ y) = x ++ relined e y := by
  induction x with
  | nil => rfl
  | cons b x ih =>
    have hb : b ≠ 10 := fun h => hx (h ▸ List.mem_cons_self)
    have hrest := ih fun h => hx (List.mem_cons_of_mem _ h)
    rw [relined] at hrest ⊢
    rw [List.cons_append, List.flatMap_cons, if_neg hb, hrest]
    rfl

theorem relinedText_append (e : LineEnd) {u : List Char} (hu : '\n' ∉ u) (v : List Char) :
    relinedText e (u ++ v) = u ++ relinedText e v := by
  induction u with
  | nil => rfl
  | cons c u ih =>
    have hc : c ≠ '\n' := fun h => hu (h ▸ List.mem_cons_self)
    have hrest := ih fun h => hu (List.mem_cons_of_mem _ h)
    rw [relinedText] at hrest ⊢
    rw [List.cons_append, List.flatMap_cons, if_neg hc, hrest]
    rfl

/-- Replacing the line feeds among bytes replaces those of their text. -/
theorem decodeUtf8Lossy_relined (e : LineEnd) (bytes : List UInt8) :
    decodeUtf8Lossy (relined e bytes) = relinedText e (decodeUtf8Lossy bytes) := by
  induction hn : bytes.length using Nat.strongRecOn generalizing bytes with
  | ind n ih =>
    subst hn
    have hclean {x : List UInt8} (hx : 10 ∉ x) : '\n' ∉ decodeUtf8Lossy x :=
      fun h => hx (mem_of_mem_decode (Or.inl rfl) h)
    by_cases hfeed : 10 ∈ bytes
    · -- Up to the first line feed nothing is replaced.
      obtain ⟨x, y, rfl, hx⟩ := List.eq_append_cons_of_mem hfeed
      have hrest := ih y.length (by rw [List.length_append, List.length_cons]; omega) y rfl
      have hline : relined e (x ++ 10 :: y) = x ++ (e.bytes ++ relined e y) := relined_append e hx (10 :: y)
      rw [hline, decodeUtf8Lossy_lineEnd, hrest, decodeUtf8Lossy_ascii (by decide), relinedText_append e (hclean hx)]
      rfl
    · have hbytes := relined_append e hfeed []
      have htext := relinedText_append e (hclean hfeed) []
      rw [List.append_nil] at hbytes htext
      rw [hbytes, htext, relined, relinedText, List.flatMap_nil, List.flatMap_nil, List.append_nil, List.append_nil]

theorem universalNewlines_relinedText (e : LineEnd) {s : List Char} (h : '\r' ∉ s) :
    universalNewlines (relinedText e s) = s := by
  induction s with
  | nil => rfl
  | cons c s ih =>
    have hrest := ih fun hmem => h (List.mem_cons_of_mem _ hmem)
    have hreturn : c ≠ '\r' := fun heq => h (heq ▸ List.mem_cons_self)
    have hchar (t : List Char) : universalNewlines (c :: t) = c :: universalNewlines t := by
      rw [universalNewlines]
      · rintro s rfl
        exact absurd rfl hreturn
      · exact hreturn
    by_cases hc : c = '\n'
    · subst hc
      cases e with
      | feed =>
        have hcons : relinedText .feed ('\n' :: s) = '\n' :: relinedText .feed s := rfl
        rw [hcons, hchar, hrest]
      | returnFeed =>
        have hcons : relinedText .returnFeed ('\n' :: s) = '\r' :: '\n' :: relinedText .returnFeed s := rfl
        rw [hcons, universalNewlines, hrest]
      | carriageReturn =>
        have hcons : relinedText .carriageReturn ('\n' :: s) = '\r' :: relinedText .carriageReturn s := rfl
        have hfeed : ∀ t, relinedText .carriageReturn s ≠ '\n' :: t := by
          intro t ht
          have hmem : '\n' ∈ relinedText .carriageReturn s := ht ▸ List.mem_cons_self
          obtain ⟨d, -, hd⟩ := List.mem_flatMap.mp hmem
          by_cases hbreak : d = '\n'
          · rw [if_pos hbreak, LineEnd.chars, List.mem_singleton] at hd
            exact absurd hd (by decide)
          · rw [if_neg hbreak, List.mem_singleton] at hd
            exact hbreak hd.symm
        rw [hcons, universalNewlines, hrest]
        exact hfeed
    · have hcons : relinedText e (c :: s) = c :: relinedText e s := by
        rw [relinedText, List.flatMap_cons, if_neg hc]
        rfl
      rw [hcons, hchar, hrest]

theorem relined_feed (bytes : List UInt8) : relined .feed bytes = bytes := by
  induction bytes with
  | nil => rfl
  | cons b bytes ih =>
    rw [relined] at ih ⊢
    rw [List.flatMap_cons, ih]
    by_cases hb : b = 10
    · rw [if_pos hb, hb]
      rfl
    · rw [if_neg hb]
      rfl

/-- **A file reads the same with any line ends.** -/
theorem lossyText_relined (e : LineEnd) {bytes : List UInt8} (h : 13 ∉ bytes) :
    Tree.lossyText (relined e bytes) = Tree.lossyText bytes := by
  have hreturn : '\r' ∉ decodeUtf8Lossy bytes := fun hmem => h (mem_of_mem_decode (Or.inr rfl) hmem)
  have htext (e : LineEnd) : Tree.lossyText (relined e bytes) = decodeUtf8Lossy bytes := by
    rw [Tree.lossyText, decodeUtf8Lossy_relined, universalNewlines_relinedText e hreturn]
  have hfeed := htext .feed
  rw [relined_feed] at hfeed
  rw [htext e, hfeed]

theorem decodeUtf8Lossy_encodeUtf8 (s : List Char) : decodeUtf8Lossy (encodeUtf8 s) = s := by
  rw [decodeUtf8Lossy, decodePieces_encoded, List.map_map]
  exact List.map_id s

theorem lossyText_encodeUtf8 (s : List Char) : Tree.lossyText (encodeUtf8 s) = universalNewlines s := by
  rw [Tree.lossyText, decodeUtf8Lossy_encodeUtf8]

theorem strictText_encodeUtf8 (s : List Char) : Tree.strictText (encodeUtf8 s) = .ok (universalNewlines s) := by
  have hwell : faultFrom 0 (encodeUtf8 s) = none := (faultFrom_eq_none_iff 0 _).mpr (by simp [decodePieces_encoded])
  rw [Tree.strictText, decodeUtf8, hwell, decodeUtf8Lossy_encodeUtf8]

/-- Line ends are read piece by piece, if no piece ends within one. -/
theorem universalNewlines_append {s t : List Char} (h : ∀ u, s = u ++ ['\r'] → t.head? ≠ some '\n') :
    universalNewlines (s ++ t) = universalNewlines s ++ universalNewlines t := by
  induction s using universalNewlines.induct with
  | case1 => rfl
  | case2 s ih =>
    have hrest := ih fun u hu => h ('\r' :: '\n' :: u) (by rw [hu]; rfl)
    simp [universalNewlines, hrest]
  | case3 s hs ih =>
    have hrest := ih fun u hu => h ('\r' :: u) (by rw [hu]; rfl)
    have hfeed : ∀ s', s ++ t ≠ '\n' :: s' := by
      intro s' heq
      cases s with
      | nil => exact h [] rfl (by rw [show t = '\n' :: s' from heq]; rfl)
      | cons c s => exact hs s (by rw [(List.cons.inj heq).1])
    rw [List.cons_append, universalNewlines, universalNewlines, hrest, List.cons_append]
    · exact hs
    · exact hfeed
  | case4 c s hreturn hc ih =>
    have hrest := ih fun u hu => h (c :: u) (by rw [hu]; rfl)
    rw [List.cons_append, universalNewlines, universalNewlines, hrest, List.cons_append]
    · exact hreturn
    · exact hc
    · rintro s' rfl
      exact absurd rfl hc
    · exact hc

end ScenarioAudit.Text
