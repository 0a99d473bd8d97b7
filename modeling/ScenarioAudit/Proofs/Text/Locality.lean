import ScenarioAudit.Proofs.Text.Utf8

/-! # A changed byte changes the text around it only

Reading bytes goes on from byte to byte with little memory: what was read before a byte is settled, but for one
unfinished character (`exists_pending`). The byte either goes on with that character or cuts it off, and after the
character that holds it at most some stray continuation bytes read differently (`stray_append`). So two contents
that differ in one byte have the same text before it and after it (`charAround_set`), and they have different
texts unless every mark of the one is a mark of the other (`decode_set_ne`).
-/

namespace ScenarioAudit.Text

/-! ## The character at a byte -/

/-- How many bytes the first character or malformed piece has. -/
def pieceSize (b : UInt8) (bytes : List UInt8) : Nat :=
  bytes.length + 1 - (readScalar b bytes).2.length

theorem pieceSize_eq {b : UInt8} {bytes rest : List UInt8} {c : Option Char} (h : readScalar b bytes = (c, rest)) :
    pieceSize b bytes = bytes.length + 1 - rest.length := by
  rw [pieceSize, h]

/-- The text before the character that the byte at a position belongs to, that character, and the text after it. -/
def charAround : List UInt8 → Nat → Option (List Char × Char × List Char)
  | [], _ => none
  | b :: bytes, i =>
    if i < pieceSize b bytes then
      some ([], (readScalar b bytes).1.getD replacementMark, decodeUtf8Lossy (readScalar b bytes).2)
    else
      (charAround (readScalar b bytes).2 (i - pieceSize b bytes)).map fun (before, d, after) =>
        ((readScalar b bytes).1.getD replacementMark :: before, d, after)
termination_by bytes => bytes.length
decreasing_by
  have := readScalar_length b bytes
  simp
  omega

theorem decodeUtf8Lossy_cons (b : UInt8) (bytes : List UInt8) :
    decodeUtf8Lossy (b :: bytes) =
      (readScalar b bytes).1.getD replacementMark :: decodeUtf8Lossy (readScalar b bytes).2 := by
  rw [decodeUtf8Lossy, decodePieces]
  rfl

theorem decode_charAround {bytes : List UInt8} {i : Nat} {before after : List Char} {d : Char}
    (h : charAround bytes i = some (before, d, after)) :
    decodeUtf8Lossy bytes = before ++ d :: after := by
  fun_induction charAround bytes i generalizing before with
  | case1 => cases h
  | case2 b bytes i hin =>
    cases h
    exact decodeUtf8Lossy_cons b bytes
  | case3 b bytes i hout ih =>
    obtain ⟨⟨before', d', after'⟩, hrest, heq⟩ := Option.map_eq_some_iff.mp h
    cases heq
    rw [decodeUtf8Lossy_cons, ih hrest]
    rfl

/-! ## Continuation bytes -/

/-- A byte that only goes on with a character. -/
def IsContinuation (a : UInt8) : Prop :=
  0x80 ≤ a ∧ a ≤ 0xBF

instance (a : UInt8) : Decidable (IsContinuation a) :=
  inferInstanceAs (Decidable (_ ∧ _))

theorem leadShape_continuation {a : UInt8} (h : IsContinuation a) : leadShape a = none := by
  rw [leadShape, if_neg (UInt8.not_lt.mpr h.1), if_pos (UInt8.lt_of_le_of_lt h.2 (by decide))]

/-- Where no character is begun, every continuation byte is a malformed piece of its own. -/
theorem stray_append {w : List UInt8} (hw : ∀ a ∈ w, IsContinuation a) (z : List UInt8) :
    decodeUtf8Lossy (w ++ z) = List.replicate w.length replacementMark ++ decodeUtf8Lossy z := by
  induction w with
  | nil => rfl
  | cons a w ih =>
    have ha : readScalar a (w ++ z) = (none, w ++ z) := by
      rw [readScalar, leadShape_continuation (hw a List.mem_cons_self)]
    rw [List.cons_append, decodeUtf8Lossy_cons, ha, ih fun d hd => hw d (List.mem_cons_of_mem _ hd)]
    rfl

theorem readFollowing_used {k : Nat} {lo hi : UInt8} (hlo : 0x80 ≤ lo) (hhi : hi ≤ 0xBF) (bits : Nat)
    (y : List UInt8) :
    ∃ w, y = w ++ (readFollowing k lo hi bits y).2 ∧ ∀ a ∈ w, IsContinuation a := by
  induction y generalizing k lo hi bits with
  | nil => cases k <;> exact ⟨[], rfl, fun _ ha => nomatch ha⟩
  | cons b y ih =>
    cases k with
    | zero => exact ⟨[], rfl, fun _ ha => nomatch ha⟩
    | succ k =>
      rw [readFollowing]
      split
      next hb =>
        obtain ⟨w, hy, hw⟩ := ih (k := k) (UInt8.le_refl 0x80) (UInt8.le_refl 0xBF) (bits * 64 + b.toNat % 64)
        refine ⟨b :: w, by rw [List.cons_append, ← hy], ?_⟩
        intro a ha
        rcases List.mem_cons.mp ha with rfl | ha
        · exact ⟨UInt8.le_trans hlo hb.1, UInt8.le_trans hb.2 hhi⟩
        · exact hw a ha
      next => exact ⟨[], rfl, fun _ ha => nomatch ha⟩

/-- What a lead byte asks of the byte after it is a range of continuation bytes. -/
theorem leadShape_range {b : UInt8} {k : Nat} {lo hi : UInt8} (h : leadShape b = some (k + 1, lo, hi)) :
    0x80 ≤ lo ∧ hi ≤ 0xBF := by
  rw [← UInt8.ofNat_toNat (x := b)] at h
  rw [UInt8.le_iff_toNat_le, UInt8.le_iff_toNat_le]
  rcases leadShape_eq_some b.toNat_lt h with ⟨hk, -⟩ | ⟨-, -, -, hlo, hhi⟩ | ⟨-, -, -, hlo, hhi, -⟩ |
    ⟨-, -, -, hlo, hhi, -⟩
  · cases hk
  · exact ⟨hlo, hhi⟩
  · exact ⟨hlo, hhi⟩
  · exact ⟨hlo, hhi⟩

theorem readScalar_used (b : UInt8) (y : List UInt8) :
    ∃ w, y = w ++ (readScalar b y).2 ∧ ∀ a ∈ w, IsContinuation a := by
  cases hs : leadShape b with
  | none => exact ⟨[], by rw [readScalar, hs]; rfl, fun _ ha => nomatch ha⟩
  | some shape =>
    obtain ⟨k, lo, hi⟩ := shape
    rw [readScalar_of_shape hs]
    cases k with
    | zero => exact ⟨[], by rw [readFollowing]; rfl, fun _ ha => nomatch ha⟩
    | succ k =>
      obtain ⟨hlo, hhi⟩ := leadShape_range hs
      exact readFollowing_used hlo hhi _ y

/-! ## Bytes that are read one after the other -/

/-- Nothing, or the start of a character whose next byte is still to come. -/
inductive Pending : List UInt8 → Prop
  | ground : Pending []
  | begun {a : UInt8} {x : List UInt8} {k : Nat} {lo hi : UInt8} {bits : Nat} (hlo : 0x80 ≤ lo) (hhi : hi ≤ 0xBF)
      (hread : ∀ z, readScalar a (x ++ z) =
        ((readFollowing (k + 1) lo hi bits z).1.map Char.ofNat, (readFollowing (k + 1) lo hi bits z).2)) :
      Pending (a :: x)

/-- Bytes after a lead byte settle what is read, or all of them are used and more are asked for. -/
theorem readFollowing_append (k : Nat) {lo hi : UInt8} (hlo : 0x80 ≤ lo) (hhi : hi ≤ 0xBF) (bits : Nat)
    (x : List UInt8) :
    (∃ code rest, rest.length ≤ x.length ∧ ∀ z, readFollowing k lo hi bits (x ++ z) = (code, rest ++ z)) ∨
    ∃ k' lo' hi' bits', 0x80 ≤ lo' ∧ hi' ≤ 0xBF ∧
      ∀ z, readFollowing k lo hi bits (x ++ z) = readFollowing (k' + 1) lo' hi' bits' z := by
  induction x generalizing k lo hi bits with
  | nil =>
    cases k with
    | zero => exact Or.inl ⟨some bits, [], Nat.le_refl _, fun z => by rw [readFollowing]⟩
    | succ k => exact Or.inr ⟨k, lo, hi, bits, hlo, hhi, fun z => rfl⟩
  | cons b x ih =>
    cases k with
    | zero => exact Or.inl ⟨some bits, b :: x, Nat.le_refl _, fun z => by rw [readFollowing]⟩
    | succ k =>
      by_cases hb : lo ≤ b ∧ b ≤ hi
      · have hstep (z : List UInt8) : readFollowing (k + 1) lo hi bits (b :: x ++ z) =
            readFollowing k 0x80 0xBF (bits * 64 + b.toNat % 64) (x ++ z) := by
          rw [List.cons_append, readFollowing, if_pos hb]
        rcases ih k (UInt8.le_refl 0x80) (UInt8.le_refl 0xBF) (bits * 64 + b.toNat % 64) with
          ⟨code, rest, hlength, hread⟩ | ⟨k', lo', hi', bits', hlo', hhi', hread⟩
        · exact Or.inl ⟨code, rest, Nat.le_succ_of_le hlength, fun z => (hstep z).trans (hread z)⟩
        · exact Or.inr ⟨k', lo', hi', bits', hlo', hhi', fun z => (hstep z).trans (hread z)⟩
      · refine Or.inl ⟨none, b :: x, Nat.le_refl _, fun z => ?_⟩
        rw [List.cons_append, readFollowing, if_neg hb]

theorem readScalar_append (a : UInt8) (x : List UInt8) :
    (∃ c rest, rest.length ≤ x.length ∧ ∀ z, readScalar a (x ++ z) = (c, rest ++ z)) ∨ Pending (a :: x) := by
  cases hs : leadShape a with
  | none => exact Or.inl ⟨none, x, Nat.le_refl _, fun z => by rw [readScalar, hs]⟩
  | some shape =>
    obtain ⟨k, lo, hi⟩ := shape
    cases k with
    | zero =>
      refine Or.inl ⟨some (Char.ofNat (leadBits a 0)), x, Nat.le_refl _, fun z => ?_⟩
      rw [readScalar_of_shape hs, readFollowing]
      rfl
    | succ k =>
      obtain ⟨hlo, hhi⟩ := leadShape_range hs
      rcases readFollowing_append (k + 1) hlo hhi (leadBits a (k + 1)) x with
        ⟨code, rest, hlength, hread⟩ | ⟨k', lo', hi', bits', hlo', hhi', hread⟩
      · refine Or.inl ⟨code.map Char.ofNat, rest, hlength, fun z => ?_⟩
        rw [readScalar_of_shape hs, hread]
      · have hbegun (z : List UInt8) : readScalar a (x ++ z) =
            ((readFollowing (k' + 1) lo' hi' bits' z).1.map Char.ofNat, (readFollowing (k' + 1) lo' hi' bits' z).2) := by
          rw [readScalar_of_shape hs, hread]
        exact Or.inr (.begun hlo' hhi' hbegun)

/-- Whatever comes after some bytes, they read as a fixed text, but for a character that may be begun. -/
theorem exists_pending (x : List UInt8) :
    ∃ u r, Pending r ∧ ∀ z, decodeUtf8Lossy (x ++ z) = u ++ decodeUtf8Lossy (r ++ z) ∧
      charAround (x ++ z) x.length =
        (charAround (r ++ z) r.length).map fun (before, d, after) => (u ++ before, d, after) := by
  induction hn : x.length using Nat.strongRecOn generalizing x with
  | ind n ih =>
    subst hn
    cases x with
    | nil => exact ⟨[], [], .ground, fun z => ⟨rfl, by simp⟩⟩
    | cons a x =>
      rcases readScalar_append a x with ⟨c, rest, hlength, hread⟩ | hpending
      · obtain ⟨u, r, hr, hrest⟩ := ih rest.length (Nat.lt_succ_of_le hlength) rest rfl
        refine ⟨c.getD replacementMark :: u, r, hr, fun z => ?_⟩
        obtain ⟨hdecode, haround⟩ := hrest z
        have hsize : pieceSize a (x ++ z) = x.length + 1 - rest.length := by
          rw [pieceSize_eq (hread z), List.length_append, List.length_append]
          omega
        rw [List.cons_append, decodeUtf8Lossy_cons, charAround, hread]
        refine ⟨congrArg (_ :: ·) hdecode, ?_⟩
        have hout : ¬ (a :: x).length < pieceSize a (x ++ z) := by
          rw [hsize, List.length_cons]
          omega
        have hindex : (a :: x).length - pieceSize a (x ++ z) = rest.length := by
          rw [hsize, List.length_cons]
          omega
        rw [if_neg hout, hindex, haround, Option.map_map]
        rfl
      · exact ⟨[], a :: x, hpending, fun z => ⟨rfl, by simp⟩⟩

/-- On the ground a byte starts a piece of its own, and what is left after it comes after continuation bytes. -/
theorem charAround_zero (b : UInt8) (y : List UInt8) :
    ∃ c w rest, y = w ++ rest ∧ (∀ a ∈ w, IsContinuation a) ∧
      charAround (b :: y) 0 = some ([], Option.getD c replacementMark, decodeUtf8Lossy rest) ∧
      ∀ d, c = some d → String.utf8EncodeChar d = b :: w := by
  obtain ⟨w, hy, hw⟩ := readScalar_used b y
  rcases hscalar : readScalar b y with ⟨c, rest⟩
  have hlength : rest.length ≤ y.length := by
    have h := readScalar_length b y
    rwa [hscalar] at h
  rw [hscalar] at hy
  refine ⟨c, w, rest, hy, hw, ?_, ?_⟩
  · have hin : 0 < pieceSize b y := by
      rw [pieceSize_eq hscalar]
      omega
    rw [charAround, if_pos hin, hscalar]
  · rintro d rfl
    have hencode := encodeChar_readScalar hscalar
    rw [hy, ← List.cons_append] at hencode
    exact (List.append_cancel_right hencode).symm

/-- A byte after a pending character belongs to a character that starts with the pending one or with the byte, and
what is left after it comes after continuation bytes. -/
theorem Pending.charAround {r : List UInt8} (hr : Pending r) (b : UInt8) (y : List UInt8) :
    ∃ lead c w rest, (lead = [] ∨ lead = [replacementMark]) ∧ y = w ++ rest ∧ (∀ a ∈ w, IsContinuation a) ∧
      charAround (r ++ b :: y) r.length = some (lead, Option.getD c replacementMark, decodeUtf8Lossy rest) ∧
      ∀ d, c = some d → String.utf8EncodeChar d = (if lead = [] then r else []) ++ b :: w := by
  cases hr with
  | ground =>
    obtain ⟨c, w, rest, hy, hw, haround, hencode⟩ := charAround_zero b y
    exact ⟨[], c, w, rest, Or.inl rfl, hy, hw, haround, hencode⟩
  | @begun a x k lo hi bits hlo hhi hread =>
    by_cases hb : lo ≤ b ∧ b ≤ hi
    · -- the byte goes on with the pending character
      obtain ⟨w, hy, hw⟩ := readFollowing_used (k := k) (UInt8.le_refl 0x80) (UInt8.le_refl 0xBF)
        (bits * 64 + b.toNat % 64) y
      rcases hfollow : readFollowing k 0x80 0xBF (bits * 64 + b.toNat % 64) y with ⟨code, rest⟩
      rw [hfollow] at hy
      have hscalar : readScalar a (x ++ b :: y) = (code.map Char.ofNat, rest) := by
        rw [hread, readFollowing, if_pos hb, hfollow]
      refine ⟨[], code.map Char.ofNat, w, rest, Or.inl rfl, hy, hw, ?_, ?_⟩
      · have hin : (a :: x).length < pieceSize a (x ++ b :: y) := by
          have hlength : y.length = w.length + rest.length := by rw [hy, List.length_append]
          rw [pieceSize_eq hscalar, List.length_append, List.length_cons, List.length_cons]
          omega
        rw [List.cons_append, Text.charAround, if_pos hin, hscalar]
      · intro d hd
        rw [hd] at hscalar
        have hencode := encodeChar_readScalar hscalar
        rw [hy, ← List.cons_append, ← List.cons_append, ← List.append_assoc] at hencode
        exact (List.append_cancel_right hencode).symm
    · -- the byte cuts the pending character off, which leaves a mark
      have hscalar : readScalar a (x ++ b :: y) = (none, b :: y) := by
        rw [hread, readFollowing, if_neg hb]
        rfl
      obtain ⟨c, w, rest, hy, hw, haround, hencode⟩ := charAround_zero b y
      refine ⟨[replacementMark], c, w, rest, Or.inr rfl, hy, hw, ?_, hencode⟩
      have hsize : pieceSize a (x ++ b :: y) = (a :: x).length := by
        rw [pieceSize_eq hscalar, List.length_append, List.length_cons, List.length_cons]
        omega
      rw [List.cons_append, Text.charAround, if_neg (by rw [hsize]; exact Nat.lt_irrefl _), hsize, Nat.sub_self,
        hscalar, haround]
      rfl

/-! ## One byte changed -/

theorem lt_length_of_charAround {bytes : List UInt8} {i : Nat} {before after : List Char} {d : Char}
    (h : charAround bytes i = some (before, d, after)) : i < bytes.length := by
  fun_induction charAround bytes i generalizing before with
  | case1 => cases h
  | case2 b bytes i hin =>
    rw [pieceSize] at hin
    rw [List.length_cons]
    omega
  | case3 b bytes i hout ih =>
    obtain ⟨⟨before', d', after'⟩, hrest, heq⟩ := Option.map_eq_some_iff.mp h
    cases heq
    have hlt := ih hrest
    have hlength := readScalar_length b bytes
    rw [pieceSize] at hlt hout
    rw [List.length_cons]
    omega

/-- The texts before and after a character are two given texts, but for a mark before it and marks after it. -/
structure Beside (u v lead strays before after : List Char) : Prop where
  before : before = u ++ lead
  after : after = strays ++ v
  lead : lead = [] ∨ lead = [replacementMark]
  strays : ∀ c ∈ strays, c = replacementMark

section Beside

variable {u v lead lead' strays strays' before before' after after' : List Char}

theorem Beside.text (h : Beside u v lead strays before after) (d : Char) :
    before ++ d :: after = u ++ (lead ++ d :: strays) ++ v := by
  rw [h.before, h.after]
  simp

theorem Beside.marks (h : Beside u v lead strays before after) (d : Char) :
    ∀ c ∈ lead ++ d :: strays, c = d ∨ c = replacementMark := by
  intro c hc
  rcases List.mem_append.mp hc with hc | hc
  · rcases h.lead with rfl | rfl
    · cases hc
    · exact Or.inr (List.mem_singleton.mp hc)
  · rcases List.mem_cons.mp hc with rfl | hc
    · exact Or.inl rfl
    · exact Or.inr (h.strays c hc)

/-- Around one character and another the marks are the same, or the characters are marks, too. -/
theorem Beside.middle (h : Beside u v lead strays before after) (h' : Beside u v lead' strays' before' after')
    {d d' : Char} (heq : lead ++ d :: strays = lead' ++ d' :: strays') :
    lead = lead' ∧ d = d' ∨ d = replacementMark ∧ d' = replacementMark := by
  rcases h.lead with rfl | rfl
  · rcases h'.lead with rfl | rfl
    · exact Or.inl ⟨rfl, (List.cons.inj heq).1⟩
    · obtain ⟨hd, hstrays⟩ := List.cons.inj heq
      exact Or.inr ⟨hd, h.strays d' (hstrays ▸ List.mem_cons_self)⟩
  · rcases h'.lead with rfl | rfl
    · obtain ⟨hd', hstrays⟩ := List.cons.inj heq
      exact Or.inr ⟨h'.strays d (hstrays ▸ List.mem_cons_self), hd'.symm⟩
    · exact Or.inl ⟨rfl, (List.cons.inj (List.cons.inj heq).2).1⟩

end Beside

/-- After continuation bytes, all that is left before the next other byte are stray ones. -/
theorem exists_strays {y w rest : List UInt8} (hy : y = w ++ rest) (hw : ∀ a ∈ w, IsContinuation a) :
    ∃ strays, decodeUtf8Lossy rest =
        strays ++ decodeUtf8Lossy (y.dropWhile fun a => decide (IsContinuation a)) ∧
      ∀ c ∈ strays, c = replacementMark := by
  have hdrop : y.dropWhile (fun a => decide (IsContinuation a)) =
      rest.dropWhile fun a => decide (IsContinuation a) := by
    rw [hy, List.dropWhile_append_of_pos fun a ha => decide_eq_true (hw a ha)]
  have htake : ∀ a ∈ rest.takeWhile fun a => decide (IsContinuation a), IsContinuation a :=
    fun a ha => of_decide_eq_true (List.all_eq_true.mp List.all_takeWhile a ha)
  refine ⟨List.replicate (rest.takeWhile fun a => decide (IsContinuation a)).length replacementMark, ?_, ?_⟩
  · rw [hdrop, ← stray_append htake, List.takeWhile_append_dropWhile]
  · exact fun c hc => List.eq_of_mem_replicate hc

/-- **A changed byte changes the text around it only.** And if the character there stays the same, being no mark,
then so does the byte. -/
theorem charAround_set {bytes : List UInt8} {i : Nat} {b : UInt8} {before before' after after' : List Char}
    {d d' : Char} (h : charAround bytes i = some (before, d, after))
    (h' : charAround (bytes.set i b) i = some (before', d', after')) :
    ∃ u v lead strays lead' strays',
      Beside u v lead strays before after ∧ Beside u v lead' strays' before' after' ∧
        (lead = lead' → d = d' → d ≠ replacementMark → bytes[i]? = some b) := by
  have hi := lt_length_of_charAround h
  obtain ⟨x, b₀, y, hx, rfl⟩ : ∃ x b₀ y, x.length = i ∧ bytes = x ++ b₀ :: y := by
    refine ⟨bytes.take i, bytes[i], bytes.drop (i + 1), List.length_take_of_le (Nat.le_of_lt hi), ?_⟩
    rw [← List.drop_eq_getElem_cons hi, List.take_append_drop]
  subst hx
  rw [List.set_append_right _ _ (Nat.le_refl _), Nat.sub_self, List.set_cons_zero] at h'
  obtain ⟨u, r, hr, hpending⟩ := exists_pending x
  obtain ⟨lead, c, w, rest, hlead, hy, hw, haround, hencode⟩ := hr.charAround b₀ y
  obtain ⟨lead', c', w', rest', hlead', hy', hw', haround', hencode'⟩ := hr.charAround b y
  rw [(hpending _).2, haround] at h
  rw [(hpending _).2, haround'] at h'
  cases h
  cases h'
  -- Both contents read alike from the first byte on that is no continuation byte.
  obtain ⟨strays, hstrays, hmarks⟩ := exists_strays hy hw
  obtain ⟨strays', hstrays', hmarks'⟩ := exists_strays hy' hw'
  refine ⟨u, _, lead, strays, lead', strays', ⟨rfl, hstrays, hlead, hmarks⟩,
    ⟨rfl, hstrays', hlead', hmarks'⟩, ?_⟩
  rintro rfl hd hne
  have hc : c = some (c.getD replacementMark) := by
    cases c with
    | none => exact absurd rfl hne
    | some d => rfl
  have hc' : c' = some (c.getD replacementMark) := by
    rw [hd] at hne ⊢
    cases c' with
    | none => exact absurd rfl hne
    | some d => rfl
  have heq := List.append_cancel_left ((hencode _ hc).symm.trans (hencode' _ hc'))
  rw [List.getElem?_append_right (Nat.le_refl _), Nat.sub_self, (List.cons.inj heq).1]
  rfl

/-- Two contents that differ in one byte have different texts, unless a mark stands for it in both. -/
theorem decode_set_ne {bytes : List UInt8} {i : Nat} {b : UInt8} {before before' after after' : List Char}
    {d d' : Char} (h : charAround bytes i = some (before, d, after))
    (h' : charAround (bytes.set i b) i = some (before', d', after')) (hb : bytes[i]? ≠ some b)
    (hmark : d ≠ replacementMark ∨ d' ≠ replacementMark) :
    decodeUtf8Lossy bytes ≠ decodeUtf8Lossy (bytes.set i b) := by
  obtain ⟨u, v, lead, strays, lead', strays', hbeside, hbeside', hsame⟩ := charAround_set h h'
  intro heq
  rw [decode_charAround h, decode_charAround h', hbeside.text, hbeside'.text] at heq
  have hmiddle := List.append_cancel_left (List.append_cancel_right heq)
  rcases hbeside.middle hbeside' hmiddle with ⟨hlead, hd⟩ | ⟨hd, hd'⟩
  · refine hb (hsame hlead hd ?_)
    rcases hmark with hne | hne
    · exact hne
    · exact hd ▸ hne
  · rcases hmark with hne | hne
    · exact hne hd
    · exact hne hd'

end ScenarioAudit.Text
