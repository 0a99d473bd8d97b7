import ScenarioAudit.Json.Reader
import ScenarioAudit.Json.Writer
import ScenarioAudit.Proofs.Number.Layout
import ScenarioAudit.Proofs.Number.Shortest

/-! # Numbers and strings of a record file read back

What is written for a number (`readNumber_int`, `readNumber_float`) or a string (`readString_render`)
reads back as that number or string, whatever follows it.
-/

namespace ScenarioAudit.Json

open ScenarioAudit.Text ScenarioAudit.Number ScenarioAudit.Number.Binary64

/-! ## Numbers -/

def EndsNumber (s : List Char) : Prop :=
  ∀ c ∈ s.head?, c.isDigit = false ∧ c ≠ '.' ∧ c ≠ 'e' ∧ c ≠ 'E'

/-- A text that does not carry a run of digits on. -/
def EndsDigits (s : List Char) : Prop :=
  ∀ c ∈ s.head?, c.isDigit = false

theorem EndsNumber.endsDigits {s : List Char} (h : EndsNumber s) : EndsDigits s :=
  fun c hc => (h c hc).1

theorem endsDigits_cons {c : Char} (hc : c.isDigit = false) (s : List Char) : EndsDigits (c :: s) := by
  intro d hd
  cases hd
  exact hc

theorem takeWhile_digits {ds rest : List Char} (hds : AllDigits ds) (hrest : EndsDigits rest) :
    (ds ++ rest).takeWhile Char.isDigit = ds := by
  rw [List.takeWhile_append_of_pos hds]
  cases rest with
  | nil => exact List.append_nil ds
  | cons c rest => rw [List.takeWhile_cons_of_neg (by rw [hrest c rfl]; decide), List.append_nil]

theorem dropWhile_digits {ds rest : List Char} (hds : AllDigits ds) (hrest : EndsDigits rest) :
    (ds ++ rest).dropWhile Char.isDigit = rest := by
  rw [List.dropWhile_append_of_pos hds]
  cases rest with
  | nil => rfl
  | cons c rest => rw [List.dropWhile_cons_of_neg (by rw [hrest c rfl]; decide)]

theorem readFraction_text {fraction rest : List Char} (hdigits : AllDigits fraction)
    (hrest : EndsDigits rest) (hpoint : ∀ c ∈ rest.head?, c ≠ '.') :
    readFraction (Spelling.fractionText fraction ++ rest) = some (fraction, rest) := by
  cases fraction with
  | nil =>
    cases rest with
    | nil => rfl
    | cons c rest =>
      have hc := hpoint c rfl
      simp only [Spelling.fractionText, List.nil_append, readFraction]
      split
      next r heq => exact absurd (List.cons.inj heq).1 hc
      next => rfl
  | cons d ds =>
    have htake := takeWhile_digits hdigits hrest
    have hdrop := dropWhile_digits hdigits hrest
    rw [Spelling.fractionText, List.cons_append, readFraction, htake, hdrop]
    rfl

theorem readScale_text (scale : Option (Bool × List Char)) {rest : List Char}
    (hdigits : ∀ neg ds, scale = some (neg, ds) → ds ≠ [] ∧ AllDigits ds) (hrest : EndsNumber rest) :
    readScale (Spelling.scaleText scale ++ rest) =
      some (scale.map fun s => Spelling.scaleValue (some s), rest) := by
  rcases scale with _ | ⟨neg, ds⟩
  · cases rest with
    | nil => rfl
    | cons c rest =>
      have hc := hrest c rfl
      simp only [Spelling.scaleText, List.nil_append, readScale]
      split
      next r heq => exact absurd (List.cons.inj heq).1 hc.2.2.1
      next r heq => exact absurd (List.cons.inj heq).1 hc.2.2.2
      next => rfl
  · obtain ⟨hne, hall⟩ := hdigits neg ds rfl
    have htake := takeWhile_digits hall hrest.endsDigits
    have hdrop := dropWhile_digits hall hrest.endsDigits
    have hempty : ¬ ds.isEmpty = true := fun h => hne (List.isEmpty_iff.mp h)
    cases neg with
    | true => simp [Spelling.scaleText, readScale, readExponent, takeSign, htake, hdrop, hempty,
        Spelling.scaleValue]
    | false => simp [Spelling.scaleText, readScale, readExponent, takeSign, htake, hdrop, hempty,
        Spelling.scaleValue]

theorem scale_head (scale : Option (Bool × List Char)) {rest : List Char} (hrest : EndsNumber rest) :
    EndsDigits (Spelling.scaleText scale ++ rest) ∧
      ∀ c ∈ (Spelling.scaleText scale ++ rest).head?, c ≠ '.' := by
  rcases scale with _ | ⟨neg, ds⟩
  · exact ⟨hrest.endsDigits, fun c hc => (hrest c hc).2.1⟩
  · refine ⟨endsDigits_cons (by decide) _, ?_⟩
    intro c hc
    cases hc
    decide

theorem whole_refused {whole : List Char} (hne : whole ≠ [])
    (hhead : whole.length ≤ 1 ∨ whole.head? ≠ some '0') :
    (whole.isEmpty || (decide (whole.length > 1) && whole.head? == some '0')) = false := by
  have hempty : whole.isEmpty = false := List.isEmpty_eq_false_iff.mpr hne
  rw [hempty, Bool.false_or]
  rcases hhead with hlen | hhead
  · have : decide (whole.length > 1) = false := decide_eq_false (by omega)
    rw [this, Bool.false_and]
  · rw [beq_eq_false_iff_ne.mpr hhead, Bool.and_false]

theorem readUnsigned_spelling (rule : Rule) (neg : Bool) (n : Spelling) {rest : List Char}
    (hrest : EndsNumber rest) :
    readUnsigned rule neg (n.text ++ rest) =
      (fractionWithin rule (ofDecimal neg n.digits n.exponent)).map (·, rest) := by
  obtain ⟨hscale, hpoint⟩ := scale_head n.scale hrest
  have hends : EndsDigits (Spelling.fractionText n.fraction ++ (Spelling.scaleText n.scale ++ rest)) := by
    rcases hf : n.fraction with _ | ⟨c, cs⟩
    · exact hscale
    · exact endsDigits_cons (by decide) _
  have hparts : n.text ++ rest =
      n.whole ++ (Spelling.fractionText n.fraction ++ (Spelling.scaleText n.scale ++ rest)) := by
    rw [Spelling.text, List.append_assoc, List.append_assoc]
  have hwhole : (n.fraction.isEmpty && (n.scale.map fun s => Spelling.scaleValue (some s)).isNone) =
      false := by
    rcases n.not_whole with h | h
    · rw [List.isEmpty_eq_false_iff.mpr h, Bool.false_and]
    · rcases hs : n.scale with _ | s
      · exact absurd hs h
      · exact Bool.and_false _
  have hexponent : (n.scale.map fun s => Spelling.scaleValue (some s)).getD 0 =
      Spelling.scaleValue n.scale := by
    rcases n.scale with _ | s
    · rfl
    · rfl
  simp only [readUnsigned, hparts, takeWhile_digits n.whole_digits hends,
    dropWhile_digits n.whole_digits hends, whole_refused n.whole_ne_nil n.whole_head,
    readFraction_text n.fraction_digits hscale hpoint, readScale_text n.scale n.scale_digits hrest, hwhole,
    hexponent, Spelling.digits, Spelling.exponent, Option.bind_eq_bind, Option.bind_some,
    Bool.false_eq_true, if_false]
  rcases fractionWithin rule _ with _ | v
  · rfl
  · rfl

theorem readNumber_negative (rule : Rule) (s : List Char) :
    readNumber rule ('-' :: s) = readUnsigned rule true s :=
  rfl

theorem readNumber_digits (rule : Rule) {ds : List Char} (hne : ds ≠ []) (hds : AllDigits ds)
    (rest : List Char) : readNumber rule (ds ++ rest) = readUnsigned rule false (ds ++ rest) := by
  rcases ds with _ | ⟨d, ds⟩
  · exact absurd rfl hne
  · have hd : d.isDigit = true := hds d List.mem_cons_self
    rw [List.cons_append, readNumber]
    rintro r ⟨⟩
    exact absurd hd (by decide)

/-- **A finite number reads back.** -/
theorem readNumber_float {neg : Bool} {m : ℕ} {e : ℤ} (h : Canonical m e) {rest : List Char}
    (hrest : EndsNumber rest) :
    readNumber recordRule (((Binary64.finite neg m e).render documentLayout).toList ++ rest) =
      some (.float (.finite neg m e), rest) := by
  obtain ⟨n, htext, hvalue⟩ := render_spelling (shortestDecimal m e)
  have hread : fractionWithin recordRule (ofDecimal neg n.digits n.exponent) =
      some (.float (.finite neg m e)) := by
    rw [ofDecimal_congr neg hvalue]
    by_cases hm : m = 0
    · subst hm
      have he : e = leastExponent := by
        rcases h.normal with hnormal | he
        · exact absurd hnormal (by decide)
        · exact he
      subst he
      rfl
    · rw [ofDecimal_shortestDecimal neg h hm]
      rfl
  have hsplit : n.text = n.whole ++ (Spelling.fractionText n.fraction ++ Spelling.scaleText n.scale) := by
    rw [Spelling.text, List.append_assoc]
  cases neg with
  | true =>
    have hrender : ((Binary64.finite true m e).render documentLayout).toList = '-' :: n.text := by
      simp [Binary64.render, htext]
    rw [hrender, List.cons_append, readNumber_negative, readUnsigned_spelling _ _ n hrest, hread]
    rfl
  | false =>
    have hrender : ((Binary64.finite false m e).render documentLayout).toList = n.text := by
      simp [Binary64.render, htext]
    rw [hrender, hsplit, List.append_assoc, readNumber_digits _ n.whole_ne_nil n.whole_digits,
      ← List.append_assoc, ← hsplit, readUnsigned_spelling _ _ n hrest, hread]
    rfl

theorem readFraction_ends {s : List Char} (h : EndsNumber s) : readFraction s = some ([], s) :=
  readFraction_text (fun _ hc => nomatch hc : AllDigits []) h.endsDigits fun c hc => (h c hc).2.1

theorem readScale_ends {s : List Char} (h : EndsNumber s) : readScale s = some (none, s) :=
  readScale_text none (by rintro _ _ ⟨⟩) h

theorem whole_head_toDigits (n : ℕ) :
    (Nat.toDigits 10 n).length ≤ 1 ∨ (Nat.toDigits 10 n).head? ≠ some '0' := by
  by_cases hn : n = 0
  · subst hn
    exact Or.inl (by decide)
  · exact Or.inr (head_toDigits hn)

theorem readUnsigned_whole (neg : Bool) (n : ℕ) {rest : List Char} (hrest : EndsNumber rest) :
    readUnsigned recordRule neg (Nat.toDigits 10 n ++ rest) =
      (wholeNumber recordRule neg n).map (·, rest) := by
  simp only [readUnsigned, takeWhile_digits (allDigits_toDigits n) hrest.endsDigits,
    dropWhile_digits (allDigits_toDigits n) hrest.endsDigits,
    whole_refused Nat.toDigits_ne_nil (whole_head_toDigits n), readFraction_ends hrest,
    readScale_ends hrest, Option.bind_eq_bind, Option.bind_some, digitsValue_toDigits,
    Bool.false_eq_true, if_false]
  have hwide : recordRule.keepsWide = false := rfl
  rw [hwide, Bool.false_and, if_neg Bool.false_ne_true]
  rcases wholeNumber recordRule neg n with _ | v
  · rfl
  · rfl

theorem wholeNumber_word {neg : Bool} {n : ℕ} (h : isWord (if neg then -(n : ℤ) else n) = true) :
    wholeNumber recordRule neg n = some (.int (if neg then -(n : ℤ) else n)) := by
  simp only [wholeNumber, h, Bool.or_true, if_true]

theorem toString_int (i : ℤ) :
    (toString i).toList = (if i < 0 then ['-'] else []) ++ Nat.toDigits 10 i.natAbs := by
  cases i with
  | ofNat n => simp [toString, Int.repr]
  | negSucc n => simp [toString, Int.repr]

/-- **A whole number of 64 bits reads back.** -/
theorem readNumber_int {i : ℤ} (hi : isWord i = true) {rest : List Char} (hrest : EndsNumber rest) :
    readNumber recordRule ((toString i).toList ++ rest) = some (.int i, rest) := by
  rw [toString_int]
  by_cases hneg : i < 0
  · have hvalue : (if true = true then -((i.natAbs : ℕ) : ℤ) else (i.natAbs : ℕ)) = i := by
      rw [if_pos rfl]
      omega
    rw [if_pos hneg, List.append_assoc, List.singleton_append, readNumber_negative,
      readUnsigned_whole true _ hrest, wholeNumber_word (hvalue.symm ▸ hi), hvalue]
    rfl
  · have hvalue : (if false = true then -((i.natAbs : ℕ) : ℤ) else (i.natAbs : ℕ)) = i := by
      rw [if_neg Bool.false_ne_true]
      omega
    rw [if_neg hneg, List.nil_append, readNumber_digits _ Nat.toDigits_ne_nil (allDigits_toDigits _),
      readUnsigned_whole false _ hrest, wholeNumber_word (hvalue.symm ▸ hi), hvalue]
    rfl

/-! ## Strings -/

theorem hexPadded_control : ∀ n < 32,
    hexPadded 4 n = ['0', '0', Nat.digitChar (n / 16), Nat.digitChar (n % 16)] ∧
      hexValue? (Nat.digitChar (n / 16)) = some (n / 16) ∧
      hexValue? (Nat.digitChar (n % 16)) = some (n % 16) := by
  decide

theorem unicodeEscape_control (rule : Rule) {n : ℕ} (hn : n < 32) (s : List Char) :
    unicodeEscape? rule (hexPadded 4 n ++ s) = some (Char.ofNat n, s) := by
  obtain ⟨htext, hhigh, hlow⟩ := hexPadded_control n hn
  have hzero : hexValue? '0' = some 0 := rfl
  have hhex : hex4? (hexPadded 4 n ++ s) = some (n, s) := by
    rw [htext]
    simp only [List.cons_append, List.nil_append, hex4?, hzero, hhigh, hlow, Option.bind_eq_bind,
      Option.bind_some]
    congr 2
    omega
  have hsurrogate : ¬ (0xD800 ≤ n ∧ n < 0xDC00) := by omega
  have hsurrogate' : ¬ (0xDC00 ≤ n ∧ n < 0xE000) := by omega
  simp only [unicodeEscape?, hhex, Option.bind_eq_bind, Option.bind_some, if_neg hsurrogate,
    if_neg hsurrogate']

/-- A character puts itself in front of the string that follows. -/
theorem readString_escapeChar (rule : Rule) (fuel : ℕ) (c : Char) (s : List Char) :
    readString rule (fuel + 1) (escapeChar c ++ s) =
      (readString rule fuel s).map fun r => (c :: r.1, r.2) := by
  have hmap (e : Char) : ((readString rule fuel s).bind fun r => some (e :: r.1, r.2)) =
      (readString rule fuel s).map fun r => (e :: r.1, r.2) := by
    rcases readString rule fuel s with _ | r
    · rfl
    · rfl
  rw [escapeChar]
  split
  next hc =>
    rw [hc]
    exact hmap '"'
  split
  next hc =>
    rw [hc]
    exact hmap '\\'
  split
  next hc =>
    rw [hc]
    exact hmap '\n'
  split
  next hc =>
    rw [hc]
    exact hmap '\r'
  split
  next hc =>
    rw [hc]
    exact hmap '\t'
  split
  next hc =>
    rw [← Char.ofNat_toNat c, hc]
    exact hmap (Char.ofNat 8)
  split
  next hc =>
    rw [← Char.ofNat_toNat c, hc]
    exact hmap (Char.ofNat 12)
  split
  next hc =>
    simp only [List.cons_append, readString, unicodeEscape_control rule hc, Option.bind_eq_bind,
      Option.bind_some, Char.ofNat_toNat]
    exact hmap c
  next hquote hback _ _ _ _ _ hc =>
    rw [List.singleton_append, readString]
    · rw [if_neg hc]
      exact hmap c
    · exact hquote
    · exact fun _ heq _ => hback heq
    · exact fun _ _ heq _ => hback heq

/-- **A string reads back.** -/
theorem readString_render (rule : Rule) (s rest : List Char) {fuel : ℕ} (hfuel : s.length < fuel) :
    readString rule fuel (s.flatMap escapeChar ++ '"' :: rest) = some (s, rest) := by
  induction s generalizing fuel with
  | nil =>
    obtain ⟨fuel, rfl⟩ := Nat.exists_eq_succ_of_ne_zero (Nat.ne_zero_of_lt hfuel)
    rfl
  | cons c s ih =>
    obtain ⟨fuel, rfl⟩ := Nat.exists_eq_succ_of_ne_zero (Nat.ne_zero_of_lt hfuel)
    rw [List.flatMap_cons, List.append_assoc, Nat.succ_eq_add_one, readString_escapeChar,
      ih (Nat.lt_of_succ_lt_succ hfuel)]
    rfl

end ScenarioAudit.Json
