import ScenarioAudit.Proofs.Quality.Unreachable
import ScenarioAudit.Proofs.Scan.Comments

/-! # Searches that comments do not touch

A search in a text finds things in comments, and things that only come together where a comment is left out. If it does
neither, it finds the same in both texts (`findAfter_untouched`).
-/

namespace ScenarioAudit.Scan

open ScenarioAudit.Text Pattern

variable {ms : List Marked} {p : Pattern}

/-- No character of a piece is one of a comment, nor is the one in front of it. -/
def Untouched (ms : List Marked) (i n : Nat) : Prop :=
  (∀ m ∈ (ms.drop i).take n, m.part ≠ .comment) ∧ ∀ m ∈ (ms.take i).getLast?, m.part ≠ .comment

/-- A match in a text that no comment touches. -/
def Clear (ms : List Marked) (m : Match) : Prop :=
  Untouched ms m.start.position (m.stop.position - m.start.position)

/-- A match in the text without comments that was there in one piece before. -/
def Seamless (ms : List Marked) (m : Match) : Prop :=
  ∃ i < ms.length, shift ms i = m.start.position ∧ Untouched ms i (m.stop.position - m.start.position)

instance (ms : List Marked) (i n : Nat) : Decidable (Untouched ms i n) :=
  inferInstanceAs (Decidable ((∀ m ∈ (ms.drop i).take n, m.part ≠ .comment) ∧ ∀ m ∈ (ms.take i).getLast?, m.part ≠ .comment))

instance (ms : List Marked) (m : Match) : Decidable (Clear ms m) :=
  inferInstanceAs (Decidable (Untouched ms m.start.position (m.stop.position - m.start.position)))

instance (ms : List Marked) (m : Match) : Decidable (Seamless ms m) :=
  inferInstanceAs (Decidable (∃ i < ms.length, shift ms i = m.start.position ∧
    Untouched ms i (m.stop.position - m.start.position)))

/-- What a search finds first is touched by no comment, with or without comments in the text. -/
structure Apart (p : Pattern) (ms : List Marked) : Prop where
  clear : ∀ m ∈ p.find (plain ms), Clear ms m
  seamless : ∀ m ∈ p.find (bare ms), Seamless ms m

instance (p : Pattern) (ms : List Marked) : Decidable (Apart p ms) :=
  decidable_of_iff ((∀ m ∈ p.find (plain ms), Clear ms m) ∧ ∀ m ∈ p.find (bare ms), Seamless ms m)
    ⟨fun h => ⟨h.1, h.2⟩, fun h => ⟨h.clear, h.seamless⟩⟩

/-- A match in a text and the same match in the text without comments. -/
structure Corresponds (ms : List Marked) (m m' : Match) : Prop where
  start : m'.start.position = shift ms m.start.position
  stop : m'.stop.position = shift ms m.stop.position
  captured : ∀ n, m.captured n = m'.captured n

/-! ## One place -/

theorem bare_eq_plain {ms : List Marked} (h : ∀ m ∈ ms, m.part ≠ .comment) : bare ms = plain ms := by
  have hfilter : ms.filter Marked.stays = ms := by
    refine List.filter_eq_self.mpr fun m hm => ?_
    simp [Marked.stays, h m hm]
  rw [bare, hfilter]
  rfl

theorem getLast?_bare {ms : List Marked} (h : ∀ m ∈ ms.getLast?, m.part ≠ .comment) :
    (bare ms).getLast? = (plain ms).getLast? := by
  rcases List.eq_nil_or_concat ms with rfl | ⟨ms, m, rfl⟩
  · rfl
  · rw [List.concat_eq_append] at h ⊢
    have hm : ∀ x ∈ [m], x.part ≠ .comment := List.forall_mem_singleton.mpr (h m List.getLast?_concat)
    have hplain : plain (ms ++ [m]) = plain ms ++ [m.char] := List.map_append
    rw [bare_append, bare_eq_plain hm, hplain]
    exact List.getLast?_concat.trans List.getLast?_concat.symm

/-- **Up to the end of an untouched piece both texts are the same.** -/
theorem Untouched.cuts {i n : Nat} (h : Untouched ms i n) :
    (spotAt (plain ms) i).forget.Cut (plain ((ms.drop i).drop n))
        (Spot.between (plain (ms.take i)) (plain ((ms.drop i).take n))).forget ∧
      (spotAt (bare ms) (shift ms i)).forget.Cut (bare ((ms.drop i).drop n))
        (Spot.between (plain (ms.take i)) (plain ((ms.drop i).take n))).forget := by
  obtain ⟨hpiece, hfront⟩ := h
  constructor
  · refine ⟨?_, ?_, fun _ => rfl⟩
    · show (plain ms).drop i = _
      rw [plain_drop]
      show _ = plain _ ++ plain _
      rw [← plain_append, List.take_append_drop]
    · show ((plain ms).take i).reverse.head? = (plain (ms.take i)).reverse.head?
      rw [plain_take]
  · refine ⟨?_, ?_, fun _ => rfl⟩
    · show (bare ms).drop (shift ms i) = plain ((ms.drop i).take n) ++ bare ((ms.drop i).drop n)
      rw [bare_drop, ← bare_eq_plain hpiece, ← bare_append, List.take_append_drop]
    · show ((bare ms).take (shift ms i)).reverse.head? = (plain (ms.take i)).reverse.head?
      rw [bare_take, List.head?_reverse, List.head?_reverse, getLast?_bare hfront]

theorem shift_piece {i n : Nat} (h : ∀ m ∈ (ms.drop i).take n, m.part ≠ .comment) (hn : i + n ≤ ms.length) :
    shift ms (i + n) = shift ms i + n := by
  rw [shift_add, shift, shift, bare_eq_plain h, plain, List.length_map, List.length_take, List.length_drop]
  omega

/-- How long both texts are, by an untouched piece that is as long as it says unless it comes to the end. -/
theorem Untouched.exists_lengths {i n : Nat} (h : Untouched ms i n) (hi : i ≤ ms.length) : ∃ k ≤ n,
    (plain ms).length = i + k + (plain ((ms.drop i).drop n)).length ∧
      (bare ms).length = shift ms i + k + (bare ((ms.drop i).drop n)).length ∧
      (k = n ∨ (plain ((ms.drop i).drop n)).length = 0 ∧ (bare ((ms.drop i).drop n)).length = 0) := by
  have hpiece : (bare ((ms.drop i).take n)).length = ((ms.drop i).take n).length := by
    rw [bare_eq_plain h.1, plain, List.length_map]
  have hsplit : bare ms = bare (ms.take i) ++ (bare ((ms.drop i).take n) ++ bare ((ms.drop i).drop n)) := by
    rw [← bare_append, ← bare_append, List.take_append_drop, List.take_append_drop]
  refine ⟨((ms.drop i).take n).length, List.length_take_le n _, ?_, ?_, ?_⟩
  · simp only [plain, List.length_map, List.length_take, List.length_drop]
    omega
  · rw [hsplit, List.length_append, List.length_append, hpiece, shift, Nat.add_assoc]
  · rcases Nat.le_total n (ms.drop i).length with hle | hle
    · exact Or.inl (List.length_take_of_le hle)
    · rw [List.drop_of_length_le hle]
      exact Or.inr ⟨rfl, rfl⟩

section Search

section Piece

variable (hlocal : p.Local false) {i n : Nat} (h : Untouched ms i n) (hi : i ≤ ms.length)

include hlocal h hi

theorem Untouched.matchAt_bare {m : Match} (hm : p.matchAt (spotAt (plain ms) i) = some m)
    (hn : m.stop.position ≤ i + n) : (p.matchAt (spotAt (bare ms) (shift ms i))).isSome := by
  obtain ⟨hcut, hcut'⟩ := h.cuts
  obtain ⟨k, -, hlength, -, hk⟩ := h.exists_lengths hi
  obtain ⟨-, -, hafter⟩ := length_after (by omega) hm
  exact matchAt_isSome_of_cuts hlocal hcut hcut' hm (by omega)

/-- A seamless match in the text without comments is one in the text. -/
theorem Untouched.matchAt_plain {m : Match} (hm : p.matchAt (spotAt (bare ms) (shift ms i)) = some m)
    (hn : m.stop.position ≤ shift ms i + n) : (p.matchAt (spotAt (plain ms) i)).isSome := by
  obtain ⟨hcut, hcut'⟩ := h.cuts
  obtain ⟨k, -, -, hlength, hk⟩ := h.exists_lengths hi
  obtain ⟨-, -, hafter⟩ := length_after (by omega) hm
  exact matchAt_isSome_of_cuts hlocal hcut' hcut hm (by omega)

/-- **Matches at an untouched piece are the same in both texts.** -/
theorem Untouched.corresponds {m m' : Match} (hm : p.matchAt (spotAt (plain ms) i) = some m)
    (hm' : p.matchAt (spotAt (bare ms) (shift ms i)) = some m') (hn : m.stop.position ≤ i + n)
    (hn' : m'.stop.position ≤ shift ms i + n) : Corresponds ms m m' := by
  obtain ⟨hcut, hcut'⟩ := h.cuts
  obtain ⟨k, hkn, hlength, hlength', hk⟩ := h.exists_lengths hi
  obtain ⟨hstart, hle, hafter⟩ := length_after (by omega) hm
  obtain ⟨hstart', hle', hafter'⟩ := length_after (by omega) hm'
  obtain ⟨⟨x, hx, hx'⟩, hcaptured⟩ := matches_of_cuts hlocal hcut hcut' hm hm' (by omega) (by omega)
  have hsize := congrArg List.length hx
  have hsize' := congrArg List.length hx'
  rw [List.length_append] at hsize hsize'
  refine ⟨by rw [hstart', hstart], ?_, hcaptured⟩
  have hstop : m.stop.position = i + (m.stop.position - i) := by omega
  have hpiece : ∀ x ∈ (ms.drop i).take (m.stop.position - i), x.part ≠ .comment := by
    intro x hx
    exact h.1 x ((List.take_prefix_take_left (by omega)).subset hx)
  have hend : i + (m.stop.position - i) ≤ ms.length := by
    rw [plain, List.length_map] at hafter
    omega
  rw [hstop, shift_piece hpiece hend]
  omega

end Piece

theorem Untouched.max {i n k : Nat} (h : Untouched ms i n) (h' : Untouched ms i k) : Untouched ms i (max n k) := by
  rcases Nat.le_total n k with hle | hle
  · rwa [Nat.max_eq_right hle]
  · rwa [Nat.max_eq_left hle]

/-- A piece that no comment touches starts with a character that stays. -/
theorem Untouched.exists_stays {i n : Nat} (h : Untouched ms i n) (hn : 0 < n) (hi : i < ms.length) :
    ∃ m, ms[i]? = some m ∧ m.stays = true := by
  obtain ⟨n, rfl⟩ := Nat.exists_eq_succ_of_ne_zero (Nat.ne_of_gt hn)
  refine ⟨ms[i], List.getElem?_eq_getElem hi, ?_⟩
  have hpart := h.1 ms[i] (by rw [List.drop_eq_getElem_cons hi]; exact List.mem_cons_self)
  simp [Marked.stays, hpart]

variable (hlocal : p.Local false) (hgrows : p.grows = true)

include hlocal hgrows

section Place

variable {s s' : Spot} (hs' : PlaceOf (bare ms) s') (hposition : s'.position = shift ms s.position)

include hs' hposition

/-- What is found without comments in one piece is a match of the text, after the place that belongs to it. -/
theorem exists_seamless {m' : Match} (hm' : p.findAfter s' = some m') (hseamless : Seamless ms m') :
    ∃ j, s.position ≤ j ∧ j < ms.length ∧ Untouched ms j (m'.stop.position - m'.start.position) ∧
      p.matchAt (spotAt (bare ms) (shift ms j)) = some m' ∧ (p.matchAt (spotAt (plain ms) j)).isSome := by
  obtain ⟨k, hk, hklength, hmatch⟩ := hs'.exists_spotAt hm'
  obtain ⟨hstart, -, hlength⟩ := length_after hklength hmatch
  obtain ⟨j, hjlength, hj, hpiece⟩ := hseamless
  have hlt := lt_of_grows hgrows hm'
  obtain rfl : shift ms j = k := hj.trans hstart
  refine ⟨j, ?_, hjlength, hpiece, hmatch, ?_⟩
  · by_contra hbefore
    rw [Nat.not_le] at hbefore
    obtain ⟨x, hx, hstays⟩ := hpiece.exists_stays (by omega) hjlength
    have hshift := shift_lt hx hstays hbefore
    omega
  · exact hpiece.matchAt_plain hlocal (Nat.le_of_lt hjlength) hmatch (by omega)

/-- **A search that comments do not touch finds the same in both texts.** -/
theorem findAfter_untouched (hs : PlaceOf (plain ms) s) (hclear : ∀ m, p.findAfter s = some m → Clear ms m)
    (hseamless : ∀ m, p.findAfter s' = some m → Seamless ms m) :
    (p.findAfter s = none ∧ p.findAfter s' = none) ∨
      ∃ m m', p.findAfter s = some m ∧ p.findAfter s' = some m' ∧ Corresponds ms m m' := by
  have hplain : (plain ms).length = ms.length := List.length_map _
  -- A match without comments gives one in the text, at the same place or in front of it.
  have hback {m' : Match} (hm' : p.findAfter s' = some m') :
      ∃ j m, j < ms.length ∧ Untouched ms j (m'.stop.position - m'.start.position) ∧
        p.matchAt (spotAt (bare ms) (shift ms j)) = some m' ∧ p.findAfter s = some m ∧ m.start.position ≤ j := by
    obtain ⟨j, hle, hj, hpiece, hmatch, hsome⟩ :=
      exists_seamless hlocal hgrows hs' hposition hm' (hseamless m' hm')
    obtain ⟨m, hm, hstart⟩ := hs.findAfter_le hle (by omega) hsome
    exact ⟨j, m, hj, hpiece, hmatch, hm, hstart⟩
  cases hm : p.findAfter s with
  | none =>
    refine Or.inl ⟨rfl, ?_⟩
    rw [← Option.not_isSome_iff_eq_none, Option.isSome_iff_exists]
    rintro ⟨m', hm'⟩
    obtain ⟨j, m, -, -, -, hsome, -⟩ := hback hm'
    rw [hm] at hsome
    cases hsome
  | some m =>
    obtain ⟨i, hle, hi, hmatch⟩ := hs.exists_spotAt hm
    obtain ⟨hstart, -, hafter⟩ := length_after hi hmatch
    have hlt := lt_of_grows hgrows hm
    have hclear := hclear m hm
    rw [Clear, hstart] at hclear
    have hsome := hclear.matchAt_bare hlocal (by omega) hmatch (by omega)
    have hplace : shift ms i ≤ (bare ms).length := by
      rw [← shift_of_length_le (Nat.le_refl ms.length)]
      exact shift_mono ms (by omega)
    obtain ⟨m', hm', hstart'⟩ := hs'.findAfter_le (by rw [hposition]; exact shift_mono ms hle) hplace hsome
    obtain ⟨j, m₁, hj, hpiece, hmatch', hm₁, hle'⟩ := hback hm'
    obtain rfl : m = m₁ := Option.some.inj (hm.symm.trans hm₁)
    obtain ⟨hposition', -, -⟩ := length_after (by
      rw [← shift_of_length_le (Nat.le_refl ms.length)]
      exact shift_mono ms (Nat.le_of_lt hj)) hmatch'
    -- Both matches are at the same place.
    obtain rfl : i = j := by
      by_contra hne
      obtain ⟨x, hx, hstays⟩ := hclear.exists_stays (by omega) (by omega)
      have hshift := shift_lt hx hstays (show i < j by omega)
      omega
    refine Or.inr ⟨m, m', rfl, hm', ?_⟩
    exact (hclear.max hpiece).corresponds hlocal (by omega) hmatch hmatch' (by omega) (by omega)

end Place

/-- What a search finds first in a text, and in the text without comments. -/
theorem Apart.find (h : Apart p ms) : (p.find (plain ms) = none ∧ p.find (bare ms) = none) ∨
      ∃ m m', p.find (plain ms) = some m ∧ p.find (bare ms) = some m' ∧ Corresponds ms m m' :=
  findAfter_untouched hlocal hgrows (placeOf_start _) rfl (placeOf_start _) h.clear h.seamless

/-- **All that a search finds in a text is found in the text without comments.** -/
theorem findAll_untouched (hclear : ∀ m ∈ p.findAll (plain ms), Clear ms m)
    (hseamless : ∀ m ∈ p.findAll (bare ms), Seamless ms m) :
    List.Forall₂ (fun m m' => Corresponds ms m m') (p.findAll (plain ms)) (p.findAll (bare ms)) := by
  rw [findAll_eq, findAll_eq] at *
  refine forall₂_allAfter hgrows (R := fun s s' => PlaceOf (plain ms) s ∧ PlaceOf (bare ms) s' ∧
    s'.position = shift ms s.position ∧ (∀ m ∈ p.allAfter s, Clear ms m) ∧ ∀ m ∈ p.allAfter s', Seamless ms m) ?_
    ⟨placeOf_start _, placeOf_start _, rfl, hclear, hseamless⟩
  rintro s s' ⟨hs, hs', hposition, hclear, hseamless⟩
  -- The first match is one of those that follow, and the others follow it.
  have hfirst {s : Spot} {m : Match} (hm : p.findAfter s = some m) : p.allAfter s = m :: p.allAfter m.stop :=
    allAfter_cons hm (lt_of_grows hgrows hm)
  have hclear' : ∀ m, p.findAfter s = some m → Clear ms m := by
    intro m hm
    rw [hfirst hm] at hclear
    exact hclear m List.mem_cons_self
  have hseamless' : ∀ m, p.findAfter s' = some m → Seamless ms m := by
    intro m hm
    rw [hfirst hm] at hseamless
    exact hseamless m List.mem_cons_self
  rcases findAfter_untouched hlocal hgrows hs' hposition hs hclear' hseamless' with hnone | ⟨m, m', hm, hm', hmatch⟩
  · exact Or.inl hnone
  · rw [hfirst hm] at hclear
    rw [hfirst hm'] at hseamless
    exact Or.inr ⟨m, m', hm, hm', hmatch, hs.stop hm, hs'.stop hm', hmatch.stop,
      fun x hx => hclear x (List.mem_cons_of_mem m hx), fun x hx => hseamless x (List.mem_cons_of_mem m' hx)⟩

end Search

end ScenarioAudit.Scan
