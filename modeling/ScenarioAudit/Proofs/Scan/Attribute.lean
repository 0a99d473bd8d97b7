import ScenarioAudit.Proofs.Scan.Bindings
import ScenarioAudit.Proofs.Scan.Facts
import ScenarioAudit.Proofs.Scan.Marks
import ScenarioAudit.Scan.Languages

/-! # Where the method of an attribute starts

In Java, Rust and C# a registration is an attribute in front of a method. Its body is the first block after the line of
the attribute, so a method on the line below it and a method beside it are found in different ways. The attributes
themselves are the same whatever blanks stand between them and the rest of the text (`forall₂_registrations`), but a
block that opens on the first line of the method is passed over if that is the line of the attribute as well. Below its
first line the same block is found, and with it the same facts (`attribute_placement`).
-/

namespace ScenarioAudit

open ScenarioAudit.Text Pattern

namespace Scan

/-! ## Attributes -/

/-- The text of an attribute up to its parenthesis: a mark, the kind of the step and any blanks. -/
def IsAttribute (mark : List Char) (kinds : List String) (a : List Char) : Prop :=
  ∃ w ∈ kinds, ∃ b, (∀ c ∈ b, isBlank c = true) ∧ a = mark ++ w.toList ++ b ++ ['(']

structure TakesAttributes (p : Pattern) (mark : List Char) (kinds : List String) : Prop where
  marked : mark.head?.any (fun c => !isBlank c) = true
  solid : ∀ w ∈ kinds, ∀ c ∈ mark ++ w.toList, isBlank c = false
  open_notMem : ∀ w ∈ kinds, '(' ∉ w.toList
  takes : ∀ s t, p.Reaches s t → ∃ a, IsAttribute mark kinds a ∧ Skipped a s t
  taken : ∀ s a rest, IsAttribute mark kinds a → s.after = a ++ rest → ∃ t, p.Reaches s t
  grows : p.grows = true

theorem reaches_kindOf {kinds : List String} {s t : Spot} (h : (kindOf kinds).Reaches s t) :
    ∃ w ∈ kinds, Skipped w.toList s t := by
  obtain ⟨m, hm, rfl⟩ := h
  obtain ⟨w, hw, rest, hs, rfl⟩ := reaches_oneOf.mp hm
  exact ⟨w, hw, hs, rfl, rfl⟩

theorem takesAttributes {opening : Pattern} {mark : List Char} {kinds : List String}
    (hopening : ∀ s t, opening.Reaches s t ↔ ∃ rest, s.after = mark ++ rest ∧ t = s.skip mark rest)
    (hmarked : mark.head?.any (fun c => !isBlank c) = true)
    (hsolid : ∀ w ∈ kinds, ∀ c ∈ mark ++ w.toList, isBlank c = false) (hnot : ∀ w ∈ kinds, '(' ∉ w.toList) :
    TakesAttributes (opening ++ kindOf kinds ++ blanks ++ char '(') mark kinds where
  marked := hmarked
  solid := hsolid
  open_notMem := hnot
  takes := by
    rintro s t ⟨m₃, ⟨m₂, ⟨m₁, hmark, hkind⟩, hblanks⟩, hopen⟩
    obtain ⟨rest, hs, rfl⟩ := (hopening s m₁).mp hmark
    obtain ⟨w, hw, hword⟩ := reaches_kindOf hkind
    obtain ⟨b, rest', hafter, hb, rfl⟩ := reaches_blanks.mp hblanks
    obtain ⟨rest'', hafter', rfl⟩ := reaches_char.mp hopen
    refine ⟨_, ⟨w, hw, b, hb, rfl⟩, ?_⟩
    exact (((skipped_skip hs).trans hword).trans (skipped_skip hafter)).trans (skipped_next hafter')
  taken := by
    rintro s a rest ⟨w, hw, b, hb, rfl⟩ hs
    have hs : s.after = mark ++ (w.toList ++ (b ++ '(' :: rest)) := by simpa using hs
    let marked := s.skip mark (w.toList ++ (b ++ '(' :: rest))
    let named := marked.skip w.toList (b ++ '(' :: rest)
    let caught := { named with captures := (1, ⟨marked.after, named.position - marked.position⟩) :: named.captures }
    have hkind : (kindOf kinds).Reaches marked caught := ⟨named, reaches_oneOf.mpr ⟨w, hw, _, rfl, rfl⟩, rfl⟩
    have hblanks : blanks.Reaches caught (caught.skip b ('(' :: rest)) := reaches_blanks.mpr ⟨b, _, rfl, hb, rfl⟩
    have hopen : (char '(').Reaches (caught.skip b ('(' :: rest)) _ := reaches_char.mpr ⟨rest, rfl, rfl⟩
    exact ⟨_, _, ⟨_, ⟨_, (hopening s marked).mpr ⟨_, hs, rfl⟩, hkind⟩, hblanks⟩, hopen⟩
  grows := by
    show ((_ || _) || true) = true
    rw [Bool.or_true]

/-- The languages in which steps are registered by attributes. -/
def attributeLanguages : List ScanRules :=
  [java, rust, csharp]

theorem takesAttributes_of_mem {r : ScanRules} (hr : r ∈ attributeLanguages) :
    ∃ mark kinds, TakesAttributes r.registration mark kinds := by
  have hchar (c : Char) (s t : Spot) : (char c).Reaches s t ↔ ∃ rest, s.after = [c] ++ rest ∧ t = s.skip [c] rest :=
    reaches_char
  simp only [attributeLanguages, List.mem_cons, List.not_mem_nil, or_false] at hr
  rcases hr with rfl | rfl | rfl
  · exact ⟨['@'], _, takesAttributes (hchar '@') (by decide) (by decide +kernel) (by decide)⟩
  · exact ⟨"#[".toList, _, takesAttributes (fun _ _ => reaches_word) (by decide) (by decide +kernel) (by decide)⟩
  · exact ⟨['['], _, takesAttributes (hchar '[') (by decide) (by decide +kernel) (by decide)⟩

section Attribute

variable {p : Pattern} {mark : List Char} {kinds : List String} (hp : TakesAttributes p mark kinds)

include hp

theorem TakesAttributes.exists_first {a : List Char} (ha : IsAttribute mark kinds a) :
    ∃ c x, a = c :: x ∧ isBlank c = false := by
  obtain ⟨w, -, b, -, rfl⟩ := ha
  have hmarked := hp.marked
  cases mark with
  | nil => cases hmarked
  | cons c mark => exact ⟨c, mark ++ w.toList ++ b ++ ['('], rfl, by simpa using hmarked⟩

theorem TakesAttributes.unique {a a' z z' : List Char} (ha : IsAttribute mark kinds a) (ha' : IsAttribute mark kinds a')
    (h : a ++ z = a' ++ z') : a = a' ∧ z = z' := by
  obtain ⟨w, hw, b, hb, rfl⟩ := ha
  obtain ⟨w', hw', b', hb', rfl⟩ := ha'
  have hsplit : w.toList ++ (b ++ '(' :: z) = w'.toList ++ (b' ++ '(' :: z') := by simpa using h
  -- The kind ends where blanks or the parenthesis start.
  have hletters {w : String} (hw : w ∈ kinds) : ∀ c ∈ w.toList, (!isBlank c && c != '(') = true := by
    intro c hc
    have hblank := hp.solid w hw c (List.mem_append_right mark hc)
    rw [hblank, Bool.not_false, Bool.true_and, bne_iff_ne]
    rintro rfl
    exact hp.open_notMem w hw hc
  have hstop {b z : List Char} (hb : ∀ c ∈ b, isBlank c = true) :
      (b ++ '(' :: z).head?.any (fun c => !isBlank c && c != '(') = false := by
    cases b with
    | nil => rfl
    | cons c b => simp [hb c List.mem_cons_self]
  have hkind : w.toList = w'.toList := by
    rw [← takeWhile_until (hletters hw) (hstop (z := z) hb), hsplit, takeWhile_until (hletters hw') (hstop hb')]
  rw [hkind, List.append_cancel_left_eq] at hsplit
  obtain ⟨rfl, -, rfl⟩ := until_cons_inj hb hb' (by decide) (by decide) hsplit
  exact ⟨by rw [hkind], rfl⟩

theorem TakesAttributes.matchAt {s : Spot} {a z : List Char} (ha : IsAttribute mark kinds a) (hs : s.after = a ++ z) :
    ∃ m, p.matchAt s = some m ∧ m.start.after = s.after ∧ m.stop.after = z := by
  obtain ⟨t, ht⟩ := hp.taken s.forget a z ha hs
  obtain ⟨m, hm⟩ := Option.isSome_iff_exists.mp (matchAt_isSome.mpr ⟨t, ht⟩)
  obtain ⟨hstart, hreaches⟩ := reaches_of_matchAt hm
  obtain ⟨a', ha', hskipped⟩ := hp.takes _ _ hreaches
  refine ⟨m, hm, by rw [hstart]; rfl, ?_⟩
  exact (hp.unique ha' ha (hskipped.1.symm.trans hs)).2

theorem TakesAttributes.matchAt_eq_none {s : Spot} (h : ∀ a z, IsAttribute mark kinds a → s.after ≠ a ++ z) :
    p.matchAt s = none := by
  rw [← Option.isNone_iff_eq_none, ← Option.isSome_eq_false_iff, Bool.eq_false_iff]
  intro hsome
  obtain ⟨t, ht⟩ := matchAt_isSome.mp hsome
  obtain ⟨a, ha, hskipped⟩ := hp.takes _ _ ht
  exact h a t.after ha hskipped.1

theorem TakesAttributes.avoids {x rest : List Char} (hx : ∀ c ∈ x, isBlank c = true) : p.Avoids x rest := by
  apply avoids_of_head (q := fun c => !isBlank c)
  · intro s t ht
    obtain ⟨a, ha, hskipped⟩ := hp.takes s t ht
    obtain ⟨c, x, rfl, hc⟩ := hp.exists_first ha
    rw [hskipped.1, List.cons_append, List.head?_cons, Option.any_some, hc]
    rfl
  · intro c hc
    rw [hx c hc]
    rfl

end Attribute

/-! ## Another gap -/

/-- What is left of two texts that differ in one gap, before or behind it. -/
inductive Regap (gap gap' rest : List Char) : List Char → List Char → Prop
  | before (x : List Char) : Regap gap gap' rest (x ++ (gap ++ rest)) (x ++ (gap' ++ rest))
  | behind (y z : List Char) (h : rest = y ++ z) : Regap gap gap' rest z z

/-- Of two searches in such texts, both find nothing or both find a match in the same place. -/
inductive RegapMatches (gap gap' rest : List Char) : Option Match → Option Match → Prop
  | absent : RegapMatches gap gap' rest none none
  | found {m m' : Match} (hstart : Regap gap gap' rest m.start.after m'.start.after)
      (hstop : Regap gap gap' rest m.stop.after m'.stop.after) : RegapMatches gap gap' rest (some m) (some m')

def IsGap (gap : List Char) : Prop :=
  gap ≠ [] ∧ ∀ c ∈ gap, isBlank c = true

section Regap

variable {gap gap' rest x y : List Char}

theorem Regap.symm (h : Regap gap gap' rest x y) : Regap gap' gap rest y x := by
  cases h with
  | before x => exact .before x
  | behind u _ h => exact .behind u _ h

theorem Regap.eq_of_before (hgap : gap ≠ []) (h : Regap gap gap' rest (x ++ (gap ++ rest)) y) :
    y = x ++ (gap' ++ rest) := by
  generalize hw : x ++ (gap ++ rest) = w at h
  cases h with
  | before x' =>
    obtain rfl := List.append_cancel_right hw
    rfl
  | behind y z h =>
    have hlength := congrArg List.length hw
    have hrest := congrArg List.length h
    have hpositive := List.length_pos_iff.mpr hgap
    simp only [List.length_append] at hlength hrest
    omega

theorem Regap.eq_of_behind (hgap : gap ≠ []) (h : Regap gap gap' rest x y) (hx : x.length ≤ rest.length) : y = x := by
  cases h with
  | before x =>
    have hpositive := List.length_pos_iff.mpr hgap
    simp only [List.length_append] at hx
    omega
  | behind y z h => rfl

variable {p : Pattern} {mark : List Char} {kinds : List String} (hp : TakesAttributes p mark kinds)
  (hgap : IsGap gap) (hgap' : IsGap gap')

include hp hgap hgap'

/-- **An attribute is one with another gap as well**, even if the gap is within it. -/
theorem Regap.attribute {a z : List Char} (ha : IsAttribute mark kinds a) (h : Regap gap gap' rest (a ++ z) y) :
    ∃ a' z', IsAttribute mark kinds a' ∧ y = a' ++ z' ∧ Regap gap gap' rest z z' := by
  generalize hx : a ++ z = x at h
  cases h with
  | behind u w hrest =>
    refine ⟨a, z, ha, hx.symm, .behind (u ++ a) z ?_⟩
    rw [hrest, ← hx, List.append_assoc]
  | before x =>
    rcases List.append_eq_append_iff.mp hx with ⟨x₁, rfl, hz⟩ | ⟨a₁, rfl, hz⟩
    · exact ⟨a, x₁ ++ (gap' ++ rest), ha, List.append_assoc _ _ _, hz ▸ .before x₁⟩
    · cases a₁ with
      | nil =>
        refine ⟨x, gap' ++ rest, by simpa using ha, rfl, ?_⟩
        rw [show z = [] ++ (gap ++ rest) from hz.symm]
        exact .before []
      | cons c a₁ =>
        -- The gap is among the blanks in front of the parenthesis.
        obtain ⟨d, gap₁, rfl⟩ := List.exists_cons_of_ne_nil hgap.1
        obtain rfl : d = c := (List.cons.inj hz).1
        have hd : isBlank d = true := hgap.2 d List.mem_cons_self
        obtain ⟨w, hw, b, hb, ha⟩ := ha
        have hfront : d ∉ mark ++ w.toList := by
          intro hmem
          rw [hp.solid w hw d hmem] at hd
          cases hd
        rw [List.append_assoc] at ha
        obtain ⟨x₁, rfl, hx₁⟩ := exists_append_of_not_mem ha.symm hfront
        obtain ⟨b₂, rfl, hb₂⟩ : ∃ b₂, b = x₁ ++ b₂ ∧ d :: a₁ = b₂ ++ ['('] := by
          rcases List.append_eq_append_iff.mp hx₁ with ⟨e, he, he'⟩ | ⟨b₂, hb₂, he⟩
          · cases e with
            | nil => exact ⟨[], by rw [he]; simp, by simpa using he'.symm⟩
            | cons e es =>
              rw [List.cons_append, List.cons.injEq] at he'
              obtain ⟨-, hnil⟩ := he'
              cases es <;> cases hnil
          · exact ⟨b₂, hb₂, he⟩
        rw [hb₂, List.append_assoc, List.singleton_append] at hz
        have hopen : '(' ∉ d :: gap₁ := fun hmem => absurd (hgap.2 _ hmem) (by decide)
        obtain ⟨b₃, rfl, hrest⟩ := exists_append_of_not_mem hz hopen
        refine ⟨mark ++ w.toList ++ (x₁ ++ gap' ++ b₃) ++ ['('], z, ⟨w, hw, x₁ ++ gap' ++ b₃, ?_, rfl⟩, ?_, ?_⟩
        · intro e he
          simp only [List.mem_append] at he
          rcases he with (he | he) | he
          · exact hb e (List.mem_append_left _ he)
          · exact hgap'.2 e he
          · exact hb e (List.mem_append_right _ (List.mem_append_right _ he))
        · simp [hrest]
        · refine .behind (b₃ ++ ['(']) z ?_
          simp [hrest]

/-- An attribute right at a place is found there with either gap. -/
theorem matched_of_attribute {s s' : Spot} (h : Regap gap gap' rest s.after s'.after)
    (hfront : ∃ a z, IsAttribute mark kinds a ∧ s.after = a ++ z) :
    RegapMatches gap gap' rest (p.findAfter s) (p.findAfter s') := by
  obtain ⟨a, z, ha, hs⟩ := hfront
  have hregap := h
  rw [hs] at hregap
  obtain ⟨a', z', ha', hs', hz⟩ := hregap.attribute hp hgap hgap' ha
  obtain ⟨m, hm, hstart, hstop⟩ := hp.matchAt ha hs
  obtain ⟨m', hm', hstart', hstop'⟩ := hp.matchAt ha' hs'
  rw [findAfter_of_matchAt hm, findAfter_of_matchAt hm']
  refine .found ?_ ?_
  · rwa [hstart, hstart']
  · rwa [hstop, hstop']

/-- Where there is no attribute, the search goes on with either gap. -/
theorem findAfter_next_of_regap {s s' : Spot} (h : Regap gap gap' rest s.after s'.after)
    (hfront : ¬ ∃ a z, IsAttribute mark kinds a ∧ s.after = a ++ z) {c : Char} {l l' : List Char}
    (hs : s.after = c :: l) (hs' : s'.after = c :: l') :
    p.findAfter s = p.findAfter (s.next c l) ∧ p.findAfter s' = p.findAfter (s'.next c l') := by
  have hnone : p.matchAt s = none := hp.matchAt_eq_none fun a z ha heq => hfront ⟨a, z, ha, heq⟩
  have hnone' : p.matchAt s' = none := by
    apply hp.matchAt_eq_none
    intro a z ha heq
    have hregap := h.symm
    rw [heq] at hregap
    obtain ⟨a', z', ha', hs, -⟩ := hregap.attribute hp hgap' hgap ha
    exact hfront ⟨a', z', ha', hs⟩
  constructor
  · rw [findAfter, hs, findFrom, hnone]
    rfl
  · rw [findAfter, hs', findFrom, hnone']
    rfl

theorem findAfter_behind (z : List Char) : ∀ (y : List Char) (s s' : Spot), rest = y ++ z → s.after = z →
    s'.after = z → RegapMatches gap gap' rest (p.findAfter s) (p.findAfter s') := by
  induction z with
  | nil =>
    intro y s s' _ hs hs'
    have hnone {s : Spot} (hs : s.after = []) : p.findAfter s = none := by
      rw [findAfter, hs, findFrom]
      apply hp.matchAt_eq_none
      intro a z ha heq
      obtain ⟨c, x, rfl, -⟩ := hp.exists_first ha
      rw [hs] at heq
      cases heq
    rw [hnone hs, hnone hs']
    exact .absent
  | cons c z ih =>
    intro y s s' hrest hs hs'
    have hregap : Regap gap gap' rest s.after s'.after := by
      rw [hs, hs']
      exact .behind y (c :: z) hrest
    by_cases hfront : ∃ a z, IsAttribute mark kinds a ∧ s.after = a ++ z
    · exact matched_of_attribute hp hgap hgap' hregap hfront
    · obtain ⟨heq, heq'⟩ := findAfter_next_of_regap hp hgap hgap' hregap hfront hs hs'
      rw [heq, heq']
      exact ih (y ++ [c]) _ _ (by rw [hrest, List.append_assoc, List.singleton_append]) rfl rfl

/-- **With another gap the same attribute is found.** -/
theorem findAfter_regap {s s' : Spot} (h : Regap gap gap' rest s.after s'.after) :
    RegapMatches gap gap' rest (p.findAfter s) (p.findAfter s') := by
  generalize hs : s.after = w at h
  generalize hs' : s'.after = w' at h
  cases h with
  | behind y _ hrest => exact findAfter_behind hp hgap hgap' _ y s s' hrest hs hs'
  | before x =>
    induction x generalizing s s' with
    | nil =>
      rw [findAfter_skip (hp.avoids hgap.2) hs, findAfter_skip (hp.avoids hgap'.2) hs']
      exact findAfter_behind hp hgap hgap' rest [] _ _ rfl rfl rfl
    | cons c x ih =>
      have hregap : Regap gap gap' rest s.after s'.after := by
        rw [hs, hs']
        exact .before (c :: x)
      by_cases hfront : ∃ a z, IsAttribute mark kinds a ∧ s.after = a ++ z
      · exact matched_of_attribute hp hgap hgap' hregap hfront
      · obtain ⟨heq, heq'⟩ := findAfter_next_of_regap hp hgap hgap' hregap hfront hs hs'
        rw [heq, heq']
        exact ih rfl rfl

/-- **With another gap in a text its attributes are the same, one by one.** -/
theorem forall₂_registrations (pre : List Char) :
    List.Forall₂ (fun m m' => Regap gap gap' rest m.start.after m'.start.after ∧
        Regap gap gap' rest m.stop.after m'.stop.after)
      (p.findAll (pre ++ (gap ++ rest))) (p.findAll (pre ++ (gap' ++ rest))) := by
  rw [findAll_eq, findAll_eq]
  refine forall₂_allAfter hp.grows (R := fun s s' => Regap gap gap' rest s.after s'.after) ?_ (.before pre)
  intro s s' h
  generalize ho : p.findAfter s = o
  generalize ho' : p.findAfter s' = o'
  cases ho ▸ ho' ▸ findAfter_regap hp hgap hgap' h with
  | absent => exact Or.inl ⟨rfl, rfl⟩
  | found hstart hstop => exact Or.inr ⟨_, _, rfl, rfl, ⟨hstart, hstop⟩, hstop⟩

end Regap

/-! ## Blocks -/

/-- Where the block of a registration opens: at the first brace of the code below the line of the registration. -/
def blockOpening? (r : ScanRules) (lookahead : Int) (text : List Char) (i : Nat) : Option Nat :=
  (r.registration.findAll text)[i]?.bind fun m =>
    openBraceIn? r text (endOfLine text m.stop.position)
      (min (afterLines text m.stop.position lookahead.toNat) (limitAt r text i))

/-- The text of a block from its brace on, which ends after a number of characters if it is not closed. -/
def blockText (quotes block : List Char) (length : Nat) : List Char :=
  (block.drop 1).take ((matchingBrace? quotes block).getD length - 1)

/-- **The facts of a registration are those of its block.** -/
theorem body_of_blockOpening {r : ScanRules} (hr : r.style = .nextBlock) (keywords : List String) (lookahead : Int)
    (file : String) {text : List Char} {i o : Nat} (h : blockOpening? r lookahead text i = some o) :
    ((scan r keywords lookahead file text)[i]?.map fun b => b.body) =
      some (r.facts keywords (braceLines r.quotes (blockText r.quotes (text.drop o) (limitAt r text i - o)))) := by
  obtain ⟨m, hm, hopen⟩ := Option.bind_eq_some_iff.mp h
  have hslice : slice text (o + 1) (((matchingBrace? r.quotes (text.drop o)).map (o + ·)).getD (limitAt r text i)) =
      blockText r.quotes (text.drop o) (limitAt r text i - o) := by
    rw [slice, blockText, List.drop_drop]
    cases matchingBrace? r.quotes (text.drop o) with
    | none => rw [Option.map_none, Option.getD_none, Option.getD_none, Nat.sub_sub]
    | some c => rw [Option.map_some, Option.getD_some, Option.getD_some, Nat.add_sub_add_left]
  have hstyle : ¬ r.style = .indented := by
    rw [hr]
    nofun
  rw [getElem?_scan, hm, Option.map_some, Option.map_some, body_bindingOf, if_neg hstyle, braceBody, hr]
  dsimp only
  rw [hopen]
  dsimp only
  rw [hslice]

/-! ## Braces below the first line -/

/-- A text whose first line does not end within a string or a comment. -/
def FirstLineEnds (quotes text : List Char) : Prop :=
  ∀ m, (mark quotes text)[(beforeFeed text).length]? = some m → m.part = .code

section Brace

variable {quotes : List Char}

theorem openBrace?_append {x : List Char} (hx : ∀ c ∈ x, c ∉ quotes ∧ c ≠ '/' ∧ c ≠ '\x7b') (s : List Char) :
    openBrace? quotes (x ++ s) = (openBrace? quotes s).map (x.length + ·) := by
  induction x with
  | nil => simp
  | cons c x ih =>
    rw [List.forall_mem_cons] at hx
    obtain ⟨⟨hquote, hslash, hbrace⟩, hx⟩ := hx
    have hcode : (Marked.mk c .code).isCode '\x7b' = false := by simp [Marked.isCode, hbrace]
    have hrest := ih hx
    rw [openBrace?, mark] at hrest
    rw [List.cons_append, openBrace?, mark, markFrom_code hquote fun h => absurd h hslash, List.findIdx?_cons, hcode,
      hrest, openBrace?]
    cases (mark quotes s).findIdx? fun m => m.isCode '\x7b' with
    | none => rfl
    | some k => simp; omega

theorem openBrace?_below (hquotes : '\n' ∉ quotes) {s below : List Char} (hs : s = beforeFeed s ++ below)
    (hbelow : ∀ c ∈ below.head?, c = '\n') (hfirst : FirstLineEnds quotes s) {k : Nat} (hk : openBrace? quotes s = some k)
    (hle : (beforeFeed s).length ≤ k) : openBrace? quotes below = some (k - (beforeFeed s).length) := by
  have hlength : (mark quotes s).length = (beforeFeed s).length + below.length := by
    rw [length_mark, ← List.length_append, ← hs]
  obtain ⟨hlt, -⟩ := List.findIdx?_eq_some_iff_getElem.mp hk
  obtain ⟨c, t, rfl⟩ : ∃ c t, below = c :: t := by
    refine List.exists_cons_of_ne_nil ?_
    rintro rfl
    rw [hlength, List.length_nil] at hlt
    omega
  obtain rfl : c = '\n' := hbelow c rfl
  rw [List.length_cons] at hlength
  -- The marks are those of the first line, its line feed and those of the lines below.
  obtain ⟨a, m, b, hmarks, ha⟩ : ∃ a m b, mark quotes s = a ++ m :: b ∧ a.length = (beforeFeed s).length := by
    have hin : (beforeFeed s).length < (mark quotes s).length := by omega
    refine ⟨(mark quotes s).take (beforeFeed s).length, (mark quotes s)[(beforeFeed s).length],
      (mark quotes s).drop ((beforeFeed s).length + 1), ?_, ?_⟩
    · rw [List.getElem_cons_drop, List.take_append_drop]
    · rw [List.length_take]
      omega
  have hchars : s = a.map Marked.char ++ m.char :: b.map Marked.char := by
    rw [← @map_char_mark quotes s, hmarks, List.map_append, List.map_cons]
  have hsplit : a.map Marked.char = beforeFeed s ∧ m.char :: b.map Marked.char = '\n' :: t :=
    List.append_inj (hchars.symm.trans hs) (by rw [List.length_map, ha])
  obtain ⟨hfeed, ht⟩ := List.cons.inj hsplit.2
  have hcode : m.part = .code := by
    apply hfirst
    rw [hmarks, ← ha, List.getElem?_append_right (Nat.le_refl _), Nat.sub_self, List.getElem?_cons_zero]
  obtain rfl : m = ⟨'\n', .code⟩ := by
    cases m
    cases hfeed
    cases hcode
    rfl
  have hrest : mark quotes ('\n' :: t) = ⟨'\n', .code⟩ :: b := by
    rw [mark, markFrom_code hquotes fun h => absurd h (by decide), ← ht]
    exact congrArg _ (mark_after_code hmarks).symm
  rw [openBrace?, hmarks, ← hrest, List.findIdx?_append, ha] at hk
  rw [openBrace?]
  cases hfront : a.findIdx? fun m => m.isCode '\x7b' with
  | some j =>
    obtain ⟨hj, -⟩ := List.findIdx?_eq_some_iff_getElem.mp hfront
    rw [hfront, Option.some_or, Option.some.injEq] at hk
    omega
  | none =>
    rw [hfront, Option.none_or] at hk
    obtain ⟨n, hn, rfl⟩ := Option.map_eq_some_iff.mp hk
    rw [hn, Nat.add_sub_cancel]

end Brace

/-! ## Beside or below -/

/-- A text with a method on the line below its attribute. -/
def methodBelow (pre indent method : List Char) : List Char :=
  pre ++ ('\n' :: indent ++ method)

/-- The same text with the method beside its attribute. -/
def methodBeside (pre method : List Char) : List Char :=
  pre ++ ([' '] ++ method)

theorem drop_methodBelow (pre indent method : List Char) (n : Nat) :
    (methodBelow pre indent method).drop (pre.length + 1 + indent.length + n) = method.drop n := by
  have hfront : (pre ++ '\n' :: indent).length = pre.length + 1 + indent.length := by simp; omega
  rw [methodBelow, ← List.append_assoc, ← hfront, List.drop_append]
  simp

theorem drop_methodBeside (pre method : List Char) (n : Nat) :
    (methodBeside pre method).drop (pre.length + 1 + n) = method.drop n := by
  have hfront : (pre ++ [' ']).length = pre.length + 1 := by simp
  rw [methodBeside, ← List.append_assoc, ← hfront, List.drop_append]
  simp

theorem endOfLine_methodBelow (pre indent method : List Char) :
    endOfLine (methodBelow pre indent method) (pre.length + 1 + indent.length) =
      pre.length + 1 + indent.length + (beforeFeed method).length := by
  have hdrop : (methodBelow pre indent method).drop (pre.length + 1 + indent.length) = [] ++ method :=
    drop_methodBelow pre indent method 0
  rw [endOfLine_eq hdrop nofun]
  rfl

/-- A registration whose attribute is on the last line in front of an indented method. -/
structure AttributeAbove (r : ScanRules) (pre indent method : List Char) (i : Nat) (m : Match) : Prop where
  registered : (r.registration.findAll (methodBelow pre indent method))[i]? = some m
  above : m.stop.position ≤ pre.length
  sameLine : '\n' ∉ pre.drop m.stop.position
  indented : ∀ c ∈ indent, c = ' ' ∨ c = '\t'

section Placement

variable {r : ScanRules} (hr : r ∈ attributeLanguages) {pre indent method : List Char}
  (hindent : ∀ c ∈ indent, c = ' ' ∨ c = '\t')

include hr

theorem attributeLanguages_style : r.style = .nextBlock ∧ ∀ c ∈ ['\n', ' ', '\t'], c ∉ r.quotes := by
  simp only [attributeLanguages, List.mem_cons, List.not_mem_nil, or_false] at hr
  rcases hr with rfl | rfl | rfl
  · exact ⟨rfl, by decide⟩
  · exact ⟨rfl, by decide⟩
  · exact ⟨rfl, by decide⟩

include hindent

theorem forall₂_placed : List.Forall₂ (fun m m' =>
      Regap ('\n' :: indent) [' '] method m.start.after m'.start.after ∧
        Regap ('\n' :: indent) [' '] method m.stop.after m'.stop.after)
    (r.registration.findAll (methodBelow pre indent method)) (r.registration.findAll (methodBeside pre method)) := by
  obtain ⟨mark, kinds, hp⟩ := takesAttributes_of_mem hr
  have hbelow : IsGap ('\n' :: indent) := by
    refine ⟨List.cons_ne_nil _ _, List.forall_mem_cons.mpr ⟨by decide, ?_⟩⟩
    intro c hc
    rcases hindent c hc with rfl | rfl
    · decide
    · decide
  have hbeside : IsGap [' '] := ⟨List.cons_ne_nil _ _, by decide⟩
  exact forall₂_registrations hp hbelow hbeside pre

/-- What is left behind the limit of a registration is the same in both texts, but for the gap. -/
theorem regap_limitAt (i : Nat) :
    Regap ('\n' :: indent) [' '] method
        ((methodBelow pre indent method).drop (limitAt r (methodBelow pre indent method) i))
        ((methodBeside pre method).drop (limitAt r (methodBeside pre method) i)) ∧
      limitAt r (methodBelow pre indent method) i ≤ (methodBelow pre indent method).length ∧
      limitAt r (methodBeside pre method) i ≤ (methodBeside pre method).length := by
  have hplaced : List.Forall₂ _ (r.registration.findAll (methodBelow pre indent method))
      (r.registration.findAll (methodBeside pre method)) := forall₂_placed hr hindent
  rcases forall₂_getElem? hplaced (i + 1) with
    ⟨hnone, hnone'⟩ | ⟨n, n', hn, hn', hstart, -⟩
  · rw [limitAt, limitAt, hnone, hnone', Option.map_none, Option.getD_none, Option.getD_none,
      List.drop_length, List.drop_length]
    exact ⟨.behind method [] (List.append_nil _).symm, Nat.le_refl _, Nat.le_refl _⟩
  · obtain ⟨⟨hafter, hle⟩, -⟩ := after_of_mem (List.mem_of_getElem? hn)
    obtain ⟨⟨hafter', hle'⟩, -⟩ := after_of_mem (List.mem_of_getElem? hn')
    rw [limitAt, limitAt, hn, hn', Option.map_some, Option.map_some, Option.getD_some, Option.getD_some, ← hafter,
      ← hafter']
    exact ⟨hstart, hle, hle'⟩

/-- A registration behind the start of the method ends the body in front of the same text. -/
theorem limitAt_beside {i : Nat} (h : pre.length + 1 + indent.length ≤ limitAt r (methodBelow pre indent method) i) :
    limitAt r (methodBeside pre method) i + indent.length = limitAt r (methodBelow pre indent method) i := by
  obtain ⟨hregap, hle, hle'⟩ := @regap_limitAt r hr pre indent method hindent i
  have hsize : ((methodBelow pre indent method).drop (limitAt r (methodBelow pre indent method) i)).length ≤
      method.length := by
    simp only [methodBelow, List.length_drop, List.length_append, List.length_cons] at h ⊢
    omega
  have hsame := congrArg List.length (hregap.eq_of_behind (List.cons_ne_nil _ _) hsize)
  simp only [methodBelow, methodBeside, List.length_drop, List.length_append, List.length_cons, List.length_nil]
    at hsame h hle hle'
  simp only [methodBelow, methodBeside]
  omega

end Placement

section Opening

variable {r : ScanRules} {lookahead : Int} {pre indent method : List Char} {i o : Nat} {m : Match}

/-- The block of a method below its attribute opens at the first brace of the method, which is in the window and in
front of the next registration. -/
theorem AttributeAbove.exists_brace (hr : r ∈ attributeLanguages) (h : AttributeAbove r pre indent method i m)
    (ho : blockOpening? r lookahead (methodBelow pre indent method) i = some o) :
    ∃ k n, openBrace? r.quotes method = some k ∧ o = pre.length + 1 + indent.length + k ∧ lookahead.toNat = n + 1 ∧
      k < linesLength n method ∧ o < limitAt r (methodBelow pre indent method) i := by
  obtain ⟨-, hquotes⟩ := attributeLanguages_style hr
  rw [blockOpening?, h.registered, Option.bind_some, openBraceIn?] at ho
  have hdrop : (methodBelow pre indent method).drop m.stop.position =
      pre.drop m.stop.position ++ ('\n' :: (indent ++ method)) :=
    List.drop_append_of_le_length h.above
  have hend : endOfLine (methodBelow pre indent method) m.stop.position = pre.length := by
    have hfeed : beforeFeed ('\n' :: (indent ++ method)) = [] := rfl
    rw [endOfLine_eq hdrop h.sameLine, hfeed, List.length_drop, List.length_nil]
    have habove := h.above
    omega
  have hblank : ∀ c ∈ '\n' :: indent, c ∈ ['\n', ' ', '\t'] := by
    refine List.forall_mem_cons.mpr ⟨by decide, fun c hc => ?_⟩
    rcases h.indented c hc with rfl | rfl
    · decide
    · decide
  have hgap : openBrace? r.quotes ('\n' :: indent ++ method) =
      (openBrace? r.quotes method).map (('\n' :: indent).length + ·) := by
    apply openBrace?_append
    intro c hc
    refine ⟨hquotes c (hblank c hc), ?_⟩
    have hmarks : ∀ c ∈ ['\n', ' ', '\t'], c ≠ '/' ∧ c ≠ '\x7b' := by decide
    exact hmarks c (hblank c hc)
  rw [hend, slice, methodBelow, List.drop_left, Option.map_eq_some_iff] at ho
  obtain ⟨j, hj, rfl⟩ := ho
  obtain ⟨hj, hwindow⟩ := openBrace?_take.mp hj
  rw [hgap, Option.map_eq_some_iff] at hj
  obtain ⟨k, hk, rfl⟩ := hj
  rw [List.length_cons] at hwindow ⊢
  have hfront : (pre.drop m.stop.position).length = pre.length - m.stop.position := List.length_drop
  have habove := h.above
  obtain ⟨hwindow, hlimit⟩ := Nat.lt_min.mp (Nat.add_lt_of_lt_sub hwindow)
  rw [← methodBelow, afterLines, hdrop] at hwindow
  -- The window holds the line of the attribute and at least one line below it.
  cases hn : lookahead.toNat with
  | zero =>
    rw [hn, linesLength] at hwindow
    omega
  | succ n =>
    rw [hn, linesLength_append h.sameLine, linesLength_feed] at hwindow
    cases n with
    | zero =>
      rw [linesLength] at hwindow
      omega
    | succ n =>
      have hnot : '\n' ∉ indent := by
        intro hmem
        rcases h.indented '\n' hmem with hfeed | hfeed
        · exact absurd hfeed (by decide)
        · exact absurd hfeed (by decide)
      rw [linesLength_append hnot] at hwindow
      refine ⟨k, n + 1, hk, by omega, rfl, by omega, ?_⟩
      rw [methodBelow]
      omega

theorem AttributeAbove.exists_beside (hr : r ∈ attributeLanguages) (h : AttributeAbove r pre indent method i m) :
    ∃ m', (r.registration.findAll (methodBeside pre method))[i]? = some m' ∧ m'.stop.position = m.stop.position := by
  have hplaced : List.Forall₂ _ (r.registration.findAll (methodBelow pre indent method))
      (r.registration.findAll (methodBeside pre method)) := forall₂_placed hr h.indented
  rcases forall₂_getElem? hplaced i with
    ⟨hnone, -⟩ | ⟨n, m', hn, hm', -, hstop⟩
  · rw [h.registered] at hnone
    cases hnone
  · obtain rfl : m = n := Option.some.inj (h.registered.symm.trans hn)
    refine ⟨m', hm', ?_⟩
    obtain ⟨-, hafter, -⟩ := after_of_mem (List.mem_of_getElem? hn)
    obtain ⟨-, hafter', hle⟩ := after_of_mem (List.mem_of_getElem? hm')
    have hdrop : (methodBelow pre indent method).drop m.stop.position =
        pre.drop m.stop.position ++ ('\n' :: indent ++ method) :=
      List.drop_append_of_le_length h.above
    rw [hafter, hdrop] at hstop
    have hlength := congrArg List.length (hafter'.symm.trans (hstop.eq_of_before (List.cons_ne_nil _ _)))
    have habove := h.above
    simp only [methodBeside, List.length_drop, List.length_append] at hlength hle
    omega

theorem AttributeAbove.blockOpening?_beside (hr : r ∈ attributeLanguages) (h : AttributeAbove r pre indent method i m)
    {below : List Char} (hbelow : method = beforeFeed method ++ below) {n : Nat} (hn : lookahead.toNat = n + 1) (j : Nat) :
    blockOpening? r lookahead (methodBeside pre method) i = some j ↔
      ∃ k, openBrace? r.quotes below = some k ∧ j = pre.length + 1 + (beforeFeed method).length + k ∧
        (beforeFeed method).length + k < linesLength (n + 1) method ∧
        j < limitAt r (methodBeside pre method) i := by
  obtain ⟨m', hm', hstop⟩ := h.exists_beside hr
  have hdrop : (methodBeside pre method).drop m.stop.position = pre.drop m.stop.position ++ ([' '] ++ method) :=
    List.drop_append_of_le_length h.above
  have hclean : '\n' ∉ pre.drop m.stop.position ++ [' '] := by
    intro hmem
    rcases List.mem_append.mp hmem with hmem | hmem
    · exact h.sameLine hmem
    · exact absurd hmem (by decide)
  have hfront : (pre.drop m.stop.position ++ [' ']).length = pre.length - m.stop.position + 1 := by
    rw [List.length_append, List.length_drop, List.length_singleton]
  rw [← List.append_assoc] at hdrop
  have hend : endOfLine (methodBeside pre method) m.stop.position = pre.length + 1 + (beforeFeed method).length := by
    have habove := h.above
    rw [endOfLine_eq hdrop hclean, hfront]
    omega
  have hwindow : afterLines (methodBeside pre method) m.stop.position (n + 1) =
      pre.length + 1 + linesLength (n + 1) method := by
    have habove := h.above
    rw [afterLines, hdrop, linesLength_append hclean, hfront]
    omega
  have htext : (methodBeside pre method).drop (pre.length + 1 + (beforeFeed method).length) = below := by
    have hsplit : methodBeside pre method = pre ++ [' '] ++ beforeFeed method ++ below := by
      rw [methodBeside, ← List.append_assoc, List.append_assoc _ (beforeFeed method), ← hbelow]
    have hlength : (pre ++ [' '] ++ beforeFeed method).length = pre.length + 1 + (beforeFeed method).length := by
      rw [List.length_append, List.length_append, List.length_singleton]
    rw [hsplit, ← hlength, List.drop_left]
  rw [blockOpening?, hm', Option.bind_some, hstop, hend, hn, hwindow, openBraceIn?, slice, htext, Option.map_eq_some_iff]
  constructor
  · rintro ⟨k, hk, rfl⟩
    obtain ⟨hk, hlt⟩ := openBrace?_take.mp hk
    obtain ⟨hwindow, hlimit⟩ := Nat.lt_min.mp (Nat.add_lt_of_lt_sub hlt)
    exact ⟨k, hk, rfl, by omega, by omega⟩
  · rintro ⟨k, hk, rfl, hlines, hlimit⟩
    refine ⟨k, openBrace?_take.mpr ⟨hk, ?_⟩, rfl⟩
    omega

theorem AttributeAbove.blockOpening?_below (hr : r ∈ attributeLanguages) (h : AttributeAbove r pre indent method i m)
    {k n : Nat} (hk : openBrace? r.quotes method = some k) (hn : lookahead.toNat = n + 1) (hlines : k < linesLength n method)
    (hlimit : pre.length + 1 + indent.length + k < limitAt r (methodBelow pre indent method) i)
    (hfirst : FirstLineEnds r.quotes method) (hline : (beforeFeed method).length ≤ k) :
    blockOpening? r lookahead (methodBeside pre method) i = some (pre.length + 1 + k) := by
  obtain ⟨-, hquotes⟩ := attributeLanguages_style hr
  obtain ⟨below, hbelow, -, hfeed⟩ := exists_below method
  have hlimits := limitAt_beside hr h.indented (show _ ≤ limitAt r (methodBelow pre indent method) i by omega)
  have hmono := linesLength_le_succ n method
  refine (h.blockOpening?_beside hr hbelow hn _).mpr ⟨k - (beforeFeed method).length, ?_, by omega, by omega, by omega⟩
  exact openBrace?_below (hquotes '\n' (by decide)) hbelow hfeed hfirst hk hline

/-- **The block that a method has below its attribute is found beside it as well exactly if it does not open on the first
line of the method.** If it does, the search goes past it. If it does not, the facts of the registration stay the
same. -/
theorem attribute_placement (hr : r ∈ attributeLanguages) (keywords : List String) (lookahead : Int) (file : String)
    (h : AttributeAbove r pre indent method i m)
    (ho : blockOpening? r lookahead (methodBelow pre indent method) i = some o)
    (hfirst : FirstLineEnds r.quotes method) :
    ((blockOpening? r lookahead (methodBeside pre method) i).map (methodBeside pre method).drop =
        some ((methodBelow pre indent method).drop o) ↔
      endOfLine (methodBelow pre indent method) (pre.length + 1 + indent.length) ≤ o) ∧
    (endOfLine (methodBelow pre indent method) (pre.length + 1 + indent.length) ≤ o →
      ((scan r keywords lookahead file (methodBeside pre method))[i]?.map fun b => b.body) =
        ((scan r keywords lookahead file (methodBelow pre indent method))[i]?.map fun b => b.body)) := by
  obtain ⟨hstyle, -⟩ := attributeLanguages_style hr
  obtain ⟨k, n, hk, rfl, hn, hlines, hlimit⟩ := h.exists_brace hr ho
  have hlt := lt_length_of_openBrace? hk
  have hlimits := limitAt_beside hr h.indented (show _ ≤ limitAt r (methodBelow pre indent method) i by omega)
  rw [endOfLine_methodBelow, drop_methodBelow]
  refine ⟨⟨?_, ?_⟩, ?_⟩
  · intro hsame
    obtain ⟨below, hbelow, -, -⟩ := exists_below method
    obtain ⟨j, hj, hdrop⟩ := Option.map_eq_some_iff.mp hsame
    obtain ⟨k', -, rfl, -⟩ := (h.blockOpening?_beside hr hbelow hn j).mp hj
    rw [Nat.add_assoc, drop_methodBeside] at hdrop
    have hsizes := congrArg List.length hdrop
    rw [List.length_drop, List.length_drop] at hsizes
    omega
  · intro hline
    rw [h.blockOpening?_below hr hk hn hlines hlimit hfirst (by omega), Option.map_some, drop_methodBeside]
  · intro hline
    have hopening := h.blockOpening?_below hr hk hn hlines hlimit hfirst (by omega)
    rw [body_of_blockOpening hstyle keywords lookahead file hopening,
      body_of_blockOpening hstyle keywords lookahead file ho, drop_methodBelow, drop_methodBeside]
    have hrest : limitAt r (methodBeside pre method) i - (pre.length + 1 + k) =
        limitAt r (methodBelow pre indent method) i - (pre.length + 1 + indent.length + k) := by omega
    rw [hrest]

/-- An attribute on the first line of a class of its own. -/
def thenAttribute : List Char :=
  "class S \x7b\n  @Then(\"x\")".toList

/-- A method with its brace on a line of its own. -/
def bracedBelow : List Char :=
  "public void f()\n  \x7b\n    assertEquals(a, b);\n  \x7d\n\x7d\n".toList

/-- A method with its brace on the first line. -/
def bracedBeside : List Char :=
  "public void f() \x7b\n  \x7d\n\x7d\n".toList

theorem attributeAbove_then {method : List Char}
    (h : ((java.registration.findAll (methodBelow thenAttribute "  ".toList method))[0]?.map
      fun m => m.stop.position) = some 18) :
    ∃ m, AttributeAbove java thenAttribute "  ".toList method 0 m := by
  obtain ⟨m, hm, hstop⟩ := Option.map_eq_some_iff.mp h
  refine ⟨m, hm, ?_, ?_, by decide⟩
  all_goals rw [hstop]
  all_goals decide +kernel

theorem attribute_placement_braced : ∃ m o, AttributeAbove java thenAttribute "  ".toList bracedBelow 0 m ∧
    blockOpening? java 30 (methodBelow thenAttribute "  ".toList bracedBelow) 0 = some o ∧
    FirstLineEnds java.quotes bracedBelow ∧
    ((scan java ["assert"] 30 "S.java" (methodBeside thenAttribute bracedBelow))[0]?.map fun b => b.body) =
      ((scan java ["assert"] 30 "S.java" (methodBelow thenAttribute "  ".toList bracedBelow))[0]?.map
        fun b => b.body) := by
  obtain ⟨m, hm⟩ := @attributeAbove_then bracedBelow (by decide +kernel)
  have hopening : blockOpening? java 30 (methodBelow thenAttribute "  ".toList bracedBelow) 0 = some 43 := by
    decide +kernel
  have hfirst : FirstLineEnds java.quotes bracedBelow := by
    have hcode : (mark java.quotes bracedBelow)[(beforeFeed bracedBelow).length]? = some ⟨'\n', .code⟩ := by
      decide +kernel
    intro m hmark
    rw [hcode] at hmark
    cases hmark
    rfl
  have hplacement := attribute_placement List.mem_cons_self ["assert"] 30 "S.java" hm hopening hfirst
  exact ⟨m, 43, hm, hopening, hfirst, hplacement.2 (by decide +kernel)⟩

/-- **A method with its brace on the first line loses its block beside the attribute:** below it the body is empty, beside
it the head of the method counts for a statement. -/
theorem braced_first_line_lost :
    ((scan java [] 30 "S.java" (methodBelow thenAttribute "  ".toList bracedBeside)).map fun b => b.body) = [{}] ∧
      ((scan java [] 30 "S.java" (methodBeside thenAttribute bracedBeside)).map fun b => b.body) =
        [{ statements := 1 }] := by
  decide +kernel

end Opening

end Scan

end ScenarioAudit
