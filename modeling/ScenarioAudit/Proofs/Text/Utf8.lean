import ScenarioAudit.Text.Utf8

/-! # UTF-8 there and back

Encoding and decoding are inverse to one another wherever both make sense:

- the bytes of a text decode to that text (`decodeUtf8?_encodeUtf8`), so that different texts have
  different bytes (`encodeUtf8_injective`);
- whatever the decoder takes for a character are exactly the bytes of that character
  (`encodeChar_readScalar`): there is no second spelling.
-/

namespace ScenarioAudit.Text

/-! ## Single bytes -/

theorem toNat_byte {n : Nat} (h : n < 256) : (UInt8.ofNat n).toNat = n := by
  rw [UInt8.toNat_ofNat']
  exact Nat.mod_eq_of_lt h

theorem leadShape_ofNat {n : Nat} (h : n < 256) :
    leadShape (UInt8.ofNat n) =
      if n < 0x80 then some (0, 0, 0)
      else if n < 0xC2 then none
      else if n < 0xE0 then some (1, 0x80, 0xBF)
      else if n = 0xE0 then some (2, 0xA0, 0xBF)
      else if n = 0xED then some (2, 0x80, 0x9F)
      else if n < 0xF0 then some (2, 0x80, 0xBF)
      else if n = 0xF0 then some (3, 0x90, 0xBF)
      else if n < 0xF4 then some (3, 0x80, 0xBF)
      else if n = 0xF4 then some (3, 0x80, 0x8F)
      else none := by
  simp only [leadShape, UInt8.lt_iff_toNat_lt, beq_iff_eq, ← UInt8.toNat_inj, toNat_byte h]
  rfl

theorem readFollowing_ofNat {k n : Nat} {lo hi : UInt8} {bits : Nat} {bytes : List UInt8}
    (h : n < 256) (hlo : lo.toNat ≤ n) (hhi : n ≤ hi.toNat) :
    readFollowing (k + 1) lo hi bits (UInt8.ofNat n :: bytes) =
      readFollowing k 0x80 0xBF (bits * 64 + n % 64) bytes := by
  rw [readFollowing, if_pos (by simpa only [UInt8.le_iff_toNat_le, toNat_byte h] using ⟨hlo, hhi⟩),
    toNat_byte h]

theorem readFollowing_tail {k n : Nat} {bits : Nat} {bytes : List UInt8} :
    readFollowing (k + 1) 0x80 0xBF bits (UInt8.ofNat (n % 64 + 128) :: bytes) =
      readFollowing k 0x80 0xBF (bits * 64 + n % 64) bytes := by
  rw [readFollowing_ofNat (by omega) (by simp) (by simp; omega)]
  congr 2
  omega

theorem readScalar_of_shape {b : UInt8} {k : Nat} {lo hi : UInt8} {bytes : List UInt8}
    (hs : leadShape b = some (k, lo, hi)) :
    readScalar b bytes = ((readFollowing k lo hi (leadBits b k) bytes).1.map Char.ofNat,
      (readFollowing k lo hi (leadBits b k) bytes).2) := by
  simp only [readScalar, hs]

/-! ## Encoding, then decoding -/

/-- The bytes of a character are read back as that character, whatever follows. -/
theorem decodePieces_encodeChar (c : Char) (rest : List UInt8) :
    decodePieces (String.utf8EncodeChar c ++ rest) = some c :: decodePieces rest := by
  have hv : c.toNat < 0xD800 ∨ 0xDFFF < c.toNat ∧ c.toNat < 0x110000 := c.valid
  have hc : c.val.toNat = c.toNat := rfl
  have hofNat : Char.ofNat c.toNat = c := Char.ofNat_toNat c
  generalize hn : c.toNat = n at hv hc hofNat
  unfold String.utf8EncodeChar
  simp only [hc]
  -- One case for each number of bytes: the shape of the lead byte follows, and from it what is read.
  by_cases h1 : n ≤ 0x7F
  · have hs : leadShape (UInt8.ofNat n) = some (0, 0, 0) := by
      rw [leadShape_ofNat (by omega), if_pos (by omega)]
    rw [if_pos h1, List.singleton_append, decodePieces, readScalar_of_shape hs]
    simp only [readFollowing, leadBits, Option.map_some, toNat_byte (show n < 256 by omega), hofNat]
  by_cases h2 : n ≤ 0x7FF
  · have hs : leadShape (UInt8.ofNat (n / 64 % 32 + 192)) = some (1, 0x80, 0xBF) := by
      rw [leadShape_ofNat (by omega), if_neg (by omega), if_neg (by omega), if_pos (by omega)]
    have hcode : (n / 64 % 32 + 192) % 32 * 64 + n % 64 = n := by omega
    rw [if_neg h1, if_pos h2, List.cons_append, decodePieces, readScalar_of_shape hs,
      List.cons_append, readFollowing_tail]
    simp only [readFollowing, leadBits, Option.map_some, List.nil_append,
      toNat_byte (show n / 64 % 32 + 192 < 256 by omega), hcode, hofNat]
  by_cases h3 : n ≤ 0xFFFF
  · obtain ⟨lo, hi, hs, hlo, hhi⟩ : ∃ lo hi : UInt8,
        leadShape (UInt8.ofNat (n / 4096 % 16 + 224)) = some (2, lo, hi) ∧
          lo.toNat ≤ n / 64 % 64 + 128 ∧ n / 64 % 64 + 128 ≤ hi.toNat := by
      rw [leadShape_ofNat (by omega), if_neg (by omega), if_neg (by omega), if_neg (by omega)]
      by_cases hE0 : n / 4096 % 16 + 224 = 0xE0
      · exact ⟨0xA0, 0xBF, if_pos hE0, by simp; omega, by simp; omega⟩
      by_cases hED : n / 4096 % 16 + 224 = 0xED
      · exact ⟨0x80, 0x9F, by rw [if_neg hE0, if_pos hED], by simp, by simp; omega⟩
      · exact ⟨0x80, 0xBF, by rw [if_neg hE0, if_neg hED, if_pos (by omega)], by simp, by simp; omega⟩
    have hcode : ((n / 4096 % 16 + 224) % 16 * 64 + (n / 64 % 64 + 128) % 64) * 64 + n % 64 = n := by
      omega
    rw [if_neg h1, if_neg h2, if_pos h3, List.cons_append, decodePieces, readScalar_of_shape hs,
      List.cons_append, readFollowing_ofNat (by omega) hlo hhi, List.cons_append, readFollowing_tail]
    simp only [readFollowing, leadBits, Option.map_some, List.nil_append,
      toNat_byte (show n / 4096 % 16 + 224 < 256 by omega), hcode, hofNat]
  · obtain ⟨lo, hi, hs, hlo, hhi⟩ : ∃ lo hi : UInt8,
        leadShape (UInt8.ofNat (n / 262144 % 8 + 240)) = some (3, lo, hi) ∧
          lo.toNat ≤ n / 4096 % 64 + 128 ∧ n / 4096 % 64 + 128 ≤ hi.toNat := by
      rw [leadShape_ofNat (by omega), if_neg (by omega), if_neg (by omega), if_neg (by omega),
        if_neg (by omega), if_neg (by omega), if_neg (by omega)]
      by_cases hF0 : n / 262144 % 8 + 240 = 0xF0
      · exact ⟨0x90, 0xBF, if_pos hF0, by simp; omega, by simp; omega⟩
      by_cases hF4 : n / 262144 % 8 + 240 < 0xF4
      · exact ⟨0x80, 0xBF, by rw [if_neg hF0, if_pos hF4], by simp, by simp; omega⟩
      · exact ⟨0x80, 0x8F, by rw [if_neg hF0, if_neg hF4, if_pos (by omega)], by simp,
          by simp; omega⟩
    have hcode : (((n / 262144 % 8 + 240) % 8 * 64 + (n / 4096 % 64 + 128) % 64) * 64 + n / 64 % 64) * 64
        + n % 64 = n := by
      omega
    rw [if_neg h1, if_neg h2, if_neg h3, List.cons_append, decodePieces, readScalar_of_shape hs,
      List.cons_append, readFollowing_ofNat (by omega) hlo hhi, List.cons_append, readFollowing_tail,
      List.cons_append, readFollowing_tail]
    simp only [readFollowing, leadBits, Option.map_some, List.nil_append,
      toNat_byte (show n / 262144 % 8 + 240 < 256 by omega), hcode, hofNat]

/-- The bytes of a text decode to that text, whatever follows. -/
theorem decodePieces_encodeUtf8 (s : List Char) (rest : List UInt8) :
    decodePieces (encodeUtf8 s ++ rest) = s.map some ++ decodePieces rest := by
  induction s with
  | nil => rfl
  | cons c s ih =>
    rw [encodeUtf8, List.flatMap_cons, List.append_assoc, decodePieces_encodeChar]
    exact congrArg (some c :: ·) ih

theorem decodePieces_encoded (s : List Char) : decodePieces (encodeUtf8 s) = s.map some := by
  have h := decodePieces_encodeUtf8 s []
  rwa [List.append_nil, decodePieces, List.append_nil] at h

theorem decodeUtf8?_encodeUtf8 (s : List Char) : decodeUtf8? (encodeUtf8 s) = some s := by
  rw [decodeUtf8?, decodePieces_encoded, mapM_id_pieces, if_neg (by simp), List.map_map]
  exact congrArg some (List.map_id s)

theorem encodeUtf8_injective {s t : List Char} (h : encodeUtf8 s = encodeUtf8 t) : s = t := by
  have hs := decodeUtf8?_encodeUtf8 s
  rw [h, decodeUtf8?_encodeUtf8] at hs
  exact (Option.some.inj hs).symm

/-! ## Decoding, then encoding -/

/-- The lead bytes of each length, with what they ask of the byte after them. -/
theorem leadShape_eq_some {n k : Nat} {lo hi : UInt8} (h : n < 256)
    (hs : leadShape (UInt8.ofNat n) = some (k, lo, hi)) :
    (k = 0 ∧ n < 0x80) ∨
    (k = 1 ∧ 0xC2 ≤ n ∧ n < 0xE0 ∧ 0x80 ≤ lo.toNat ∧ hi.toNat ≤ 0xBF) ∨
    (k = 2 ∧ 0xE0 ≤ n ∧ n < 0xF0 ∧ 0x80 ≤ lo.toNat ∧ hi.toNat ≤ 0xBF ∧
      (n = 0xE0 → 0xA0 ≤ lo.toNat) ∧ (n = 0xED → hi.toNat ≤ 0x9F)) ∨
    (k = 3 ∧ 0xF0 ≤ n ∧ n ≤ 0xF4 ∧ 0x80 ≤ lo.toNat ∧ hi.toNat ≤ 0xBF ∧
      (n = 0xF0 → 0x90 ≤ lo.toNat) ∧ (n = 0xF4 → hi.toNat ≤ 0x8F)) := by
  rw [leadShape_ofNat h] at hs
  repeat' split at hs
  all_goals
    cases hs
    try simp
    try omega

theorem readFollowing_eq_some {k : Nat} {lo hi : UInt8} {bits code : Nat} {bytes rest : List UInt8}
    (h : readFollowing (k + 1) lo hi bits bytes = (some code, rest)) :
    ∃ m tail, m < 256 ∧ bytes = UInt8.ofNat m :: tail ∧ lo.toNat ≤ m ∧ m ≤ hi.toNat ∧
      readFollowing k 0x80 0xBF (bits * 64 + m % 64) tail = (some code, rest) := by
  cases bytes with
  | nil => simp [readFollowing] at h
  | cons b tail =>
    rw [readFollowing] at h
    by_cases hb : lo ≤ b ∧ b ≤ hi
    · rw [if_pos hb] at h
      exact ⟨b.toNat, tail, b.toNat_lt, by rw [UInt8.ofNat_toNat], hb.1, hb.2, h⟩
    · simp [if_neg hb] at h

theorem readFollowing_tail_eq_some {k : Nat} {bits code : Nat} {bytes rest : List UInt8}
    (h : readFollowing (k + 1) 0x80 0xBF bits bytes = (some code, rest)) :
    ∃ m tail, m < 64 ∧ bytes = UInt8.ofNat (m + 128) :: tail ∧
      readFollowing k 0x80 0xBF (bits * 64 + m) tail = (some code, rest) := by
  obtain ⟨m, tail, -, rfl, hlo, hhi, h⟩ := readFollowing_eq_some h
  have hlo : 128 ≤ m := hlo
  have hhi : m ≤ 191 := hhi
  have hm : m % 64 = m - 128 := by omega
  exact ⟨m - 128, tail, by omega, by rw [Nat.sub_add_cancel hlo], hm ▸ h⟩

theorem toNat_charOfNat {n : Nat} (h : n.isValidChar) : (Char.ofNat n).val.toNat = n := by
  rw [Char.ofNat, dif_pos h]
  rfl

theorem encodeChar_readScalar {b : UInt8} {bytes rest : List UInt8} {c : Char}
    (h : readScalar b bytes = (some c, rest)) : b :: bytes = String.utf8EncodeChar c ++ rest := by
  obtain ⟨n, hn, rfl⟩ : ∃ n < 256, b = UInt8.ofNat n :=
    ⟨b.toNat, b.toNat_lt, by rw [UInt8.ofNat_toNat]⟩
  obtain ⟨k, lo, hi, code, hs, rfl, hread⟩ : ∃ k lo hi code, leadShape (UInt8.ofNat n) = some (k, lo, hi) ∧
      Char.ofNat code = c ∧
        readFollowing k lo hi (leadBits (UInt8.ofNat n) k) bytes = (some code, rest) := by
    cases hs : leadShape (UInt8.ofNat n) with
    | none => simp [readScalar, hs] at h
    | some shape =>
      obtain ⟨k, lo, hi⟩ := shape
      rw [readScalar_of_shape hs] at h
      obtain ⟨hc, hr⟩ := Prod.mk.inj h
      obtain ⟨code, hcode, hchar⟩ := Option.map_eq_some_iff.mp hc
      exact ⟨k, lo, hi, code, rfl, hchar, Prod.ext hcode hr⟩
  -- The lead byte tells the number of bytes; its ranges leave out surrogates and longer spellings.
  rcases leadShape_eq_some hn hs with ⟨rfl, hn1⟩ | ⟨rfl, hn1, hn2, hlo, hhi⟩ |
    ⟨rfl, hn1, hn2, hlo, hhi, hE0, hED⟩ | ⟨rfl, hn1, hn2, hlo, hhi, hF0, hF4⟩
  · obtain ⟨hcode, rfl⟩ : n = code ∧ bytes = rest := by
      simpa [readFollowing, leadBits, toNat_byte hn] using hread
    subst hcode
    rw [String.utf8EncodeChar, toNat_charOfNat (Or.inl (by omega)), if_pos (by omega)]
    rfl
  · obtain ⟨m, tail, hm, rfl, hm1, hm2, hread₁⟩ := readFollowing_eq_some hread
    obtain ⟨hcode, rfl⟩ : n % 32 * 64 + m % 64 = code ∧ tail = rest := by
      simpa [readFollowing, leadBits, toNat_byte hn] using hread₁
    rw [String.utf8EncodeChar, toNat_charOfNat (Or.inl (by omega)), if_neg (by omega),
      if_pos (by omega), show code / 64 % 0x20 + 0xC0 = n by omega, show code % 0x40 + 0x80 = m by omega]
    rfl
  · obtain ⟨m, _, hm, rfl, hm1, hm2, hread₁⟩ := readFollowing_eq_some hread
    obtain ⟨m', tail, hm', rfl, hread₂⟩ := readFollowing_tail_eq_some hread₁
    obtain ⟨hcode, rfl⟩ : (n % 16 * 64 + m % 64) * 64 + m' = code ∧ tail = rest := by
      simpa [readFollowing, leadBits, toNat_byte hn] using hread₂
    have hvalid : code.isValidChar := by
      by_cases hlow : code < 0xD800
      · exact Or.inl hlow
      · exact Or.inr ⟨by omega, by omega⟩
    rw [String.utf8EncodeChar, toNat_charOfNat hvalid, if_neg (by omega), if_neg (by omega),
      if_pos (by omega), show code / 4096 % 0x10 + 0xE0 = n by omega,
      show code / 64 % 0x40 + 0x80 = m by omega, show code % 0x40 + 0x80 = m' + 128 by omega]
    rfl
  · obtain ⟨m, _, hm, rfl, hm1, hm2, hread₁⟩ := readFollowing_eq_some hread
    obtain ⟨m', _, hm', rfl, hread₂⟩ := readFollowing_tail_eq_some hread₁
    obtain ⟨m'', tail, hm'', rfl, hread₃⟩ := readFollowing_tail_eq_some hread₂
    obtain ⟨hcode, rfl⟩ :
        ((n % 8 * 64 + m % 64) * 64 + m') * 64 + m'' = code ∧ tail = rest := by
      simpa [readFollowing, leadBits, toNat_byte hn] using hread₃
    have hvalid : code.isValidChar := Or.inr ⟨by omega, by omega⟩
    rw [String.utf8EncodeChar, toNat_charOfNat hvalid, if_neg (by omega), if_neg (by omega),
      if_neg (by omega), show code / 262144 % 0x08 + 0xF0 = n by omega,
      show code / 4096 % 0x40 + 0x80 = m by omega, show code / 64 % 0x40 + 0x80 = m' + 128 by omega,
      show code % 0x40 + 0x80 = m'' + 128 by omega]
    rfl

end ScenarioAudit.Text
