import ScenarioAudit.Proofs.Text.Lines

/-! # Words

A text is its indentation, its first word, and a rest that is empty or starts with a blank (`words_eq`), so a blank
cuts the words of a text in two (`words_append`). Squeezing and stripping a text leaves its words with single spaces
between them (`strip_squeeze`), and such a row of words holds no blank but those spaces (`joinWords_blank`).
-/

namespace ScenarioAudit.Text

/-! ## The words of a text -/

theorem words_blank {c : Char} (hc : isBlank c = true) (s : List Char) : words (c :: s) = words s := by
  rw [words.eq_def]
  exact if_pos hc

theorem words_word {w s : List Char} (hne : w ≠ []) (hw : ∀ c ∈ w, isBlank c = false)
    (hs : s.head?.all isBlank = true) : words (w ++ s) = w :: words s := by
  cases w with
  | nil => exact absurd rfl hne
  | cons c w =>
    induction w generalizing c with
    | nil =>
      have hc : ¬ isBlank c = true := Bool.eq_false_iff.mp (hw c List.mem_cons_self)
      cases s with
      | nil => exact if_neg hc
      | cons d s =>
        have hd : isBlank d = true := by simpa using hs
        rw [List.cons_append, List.nil_append, words, if_neg hc, if_pos hd]
    | cons d w ih =>
      have hc : ¬ isBlank c = true := Bool.eq_false_iff.mp (hw c List.mem_cons_self)
      have hd : ¬ isBlank d = true := Bool.eq_false_iff.mp (hw d (List.mem_cons_of_mem _ List.mem_cons_self))
      have hrest := ih d (List.cons_ne_nil _ _) fun e he => hw e (List.mem_cons_of_mem _ he)
      rw [List.cons_append] at hrest
      rw [List.cons_append, List.cons_append, words, if_neg hc, if_neg hd, hrest]

theorem words_append_left {indent : List Char} (h : ∀ c ∈ indent, isBlank c = true) (s : List Char) :
    words (indent ++ s) = words s := by
  induction indent with
  | nil => rfl
  | cons c indent ih =>
    rw [List.cons_append, words_blank (h c List.mem_cons_self)]
    exact ih fun d hd => h d (List.mem_cons_of_mem _ hd)

theorem words_eq_nil {s : List Char} (h : ∀ c ∈ s, isBlank c = true) : words s = [] := by
  rw [← List.append_nil s, words_append_left h, words]

theorem words_stripLeft (s : List Char) : words (stripLeft s) = words s := by
  obtain ⟨indent, hs, hindent⟩ := exists_indent s
  have h := words_append_left hindent (stripLeft s)
  rwa [← hs, eq_comm] at h

/-- The first word of a text, empty if there is none. -/
def firstWord (s : List Char) : List Char :=
  (stripLeft s).takeWhile (!isBlank ·)

def afterFirstWord (s : List Char) : List Char :=
  (stripLeft s).dropWhile (!isBlank ·)

theorem firstWord_append (s : List Char) : firstWord s ++ afterFirstWord s = stripLeft s :=
  List.takeWhile_append_dropWhile

theorem firstWord_solid (s : List Char) : ∀ c ∈ firstWord s, isBlank c = false := by
  intro c hc
  simpa using List.all_eq_true.mp List.all_takeWhile c hc

theorem afterFirstWord_head (s : List Char) : (afterFirstWord s).head?.all isBlank = true := by
  have h := List.head?_dropWhile_not (!isBlank ·) (stripLeft s)
  rw [afterFirstWord]
  cases hdrop : (stripLeft s).dropWhile (!isBlank ·) with
  | nil => rfl
  | cons c rest => simpa [hdrop] using h

theorem head_stripLeft {s rest : List Char} {c : Char} (h : stripLeft s = c :: rest) : isBlank c = false := by
  have hc := List.head?_dropWhile_not isBlank s
  rw [← stripLeft, h] at hc
  simpa using hc

theorem firstWord_ne_nil {s : List Char} (h : stripLeft s ≠ []) : firstWord s ≠ [] := by
  obtain ⟨c, rest, hs⟩ := List.exists_cons_of_ne_nil h
  rw [firstWord, hs, List.takeWhile_cons_of_pos (by simp [head_stripLeft hs])]
  exact List.cons_ne_nil _ _

/-- **The first word of a text and the others.** -/
theorem words_eq {s : List Char} (h : stripLeft s ≠ []) : words s = firstWord s :: words (afterFirstWord s) := by
  rw [← words_stripLeft, ← firstWord_append s]
  exact words_word (firstWord_ne_nil h) (firstWord_solid s) (afterFirstWord_head s)

theorem stripLeft_eq_nil {s : List Char} : stripLeft s = [] ↔ ∀ c ∈ s, isBlank c = true := by
  induction s with
  | nil => simp [stripLeft]
  | cons c s ih =>
    by_cases hc : isBlank c = true
    · rw [List.forall_mem_cons, and_iff_right hc, ← ih, stripLeft, List.dropWhile_cons_of_pos hc, stripLeft]
    · rw [stripLeft_cons (Bool.not_eq_true _ ▸ hc)]
      exact iff_of_false (List.cons_ne_nil _ _) fun h => hc (h c List.mem_cons_self)

theorem length_afterFirstWord {s : List Char} (h : stripLeft s ≠ []) : (afterFirstWord s).length < s.length := by
  have hsplit := congrArg List.length (firstWord_append s)
  have hword := List.length_pos_iff.mpr (firstWord_ne_nil h)
  have hstrip : (stripLeft s).length ≤ s.length := (List.dropWhile_sublist _).length_le
  rw [List.length_append] at hsplit
  omega

/-- **A blank cuts the words of a text in two.** -/
theorem words_append (u : List Char) {v : List Char} (hv : v.head?.all isBlank = true) :
    words (u ++ v) = words u ++ words v := by
  induction hn : u.length using Nat.strongRecOn generalizing u with
  | ind n ih =>
    subst hn
    by_cases hu : stripLeft u = []
    · rw [stripLeft_eq_nil] at hu
      rw [words_append_left hu, words_eq_nil hu, List.nil_append]
    · have hsolid : ∃ c ∈ u, isBlank c = false := by
        simpa [stripLeft_eq_nil] using hu
      -- What follows the first word is empty or starts with a blank, and so it is with the second text after it.
      have hhead : (afterFirstWord u ++ v).head?.all isBlank = true := by
        have h := afterFirstWord_head u
        cases hrest : afterFirstWord u with
        | nil => exact hv
        | cons c rest => rwa [hrest] at h
      rw [← words_stripLeft, stripLeft_append_right hsolid, ← firstWord_append u, List.append_assoc,
        words_word (firstWord_ne_nil hu) (firstWord_solid u) hhead, ih _ (length_afterFirstWord hu) _ rfl, words_eq hu,
        List.cons_append]

theorem mem_words {s w : List Char} (h : w ∈ words s) : w ≠ [] ∧ ∀ c ∈ w, isBlank c = false := by
  induction hn : s.length using Nat.strongRecOn generalizing s with
  | ind n ih =>
    subst hn
    by_cases hs : stripLeft s = []
    · rw [words_eq_nil (stripLeft_eq_nil.mp hs)] at h
      cases h
    · rw [words_eq hs] at h
      rcases List.mem_cons.mp h with rfl | h
      · exact ⟨firstWord_ne_nil hs, firstWord_solid s⟩
      · exact ih _ (length_afterFirstWord hs) h rfl

/-! ## Words in a row -/

/-- Words with single spaces between them. -/
def joinWords (ws : List (List Char)) : List Char :=
  joinWith [' '] ws

theorem joinWords_cons {ws : List (List Char)} (h : ws ≠ []) (w : List Char) :
    joinWords (w :: ws) = w ++ ' ' :: joinWords ws := by
  rw [joinWords, joinWith, List.append_assoc]
  · rfl
  · exact h

theorem joinWords_append (u w : List Char) (ws : List (List Char)) :
    joinWords ((u ++ w) :: ws) = u ++ joinWords (w :: ws) := by
  cases ws with
  | nil => rfl
  | cons w' ws =>
    rw [joinWords_cons (List.cons_ne_nil _ _), joinWords_cons (List.cons_ne_nil _ _), List.append_assoc]

theorem joinWords_eq_nil {ws : List (List Char)} (h : ∀ w ∈ ws, w ≠ []) : joinWords ws = [] ↔ ws = [] := by
  cases ws with
  | nil => exact iff_of_true rfl rfl
  | cons w ws =>
    have hw : w ≠ [] := h w List.mem_cons_self
    have happend := joinWords_append w [] ws
    rw [List.append_nil] at happend
    rw [happend]
    simp [hw]

/-! ## Squeezing -/

theorem squeezeFrom_blanks {indent : List Char} (h : ∀ c ∈ indent, isBlank c = true) (s : List Char) :
    squeezeFrom true (indent ++ s) = squeezeFrom true s := by
  induction indent with
  | nil => rfl
  | cons c indent ih =>
    rw [List.cons_append, squeezeFrom, if_pos (h c List.mem_cons_self), if_pos rfl]
    exact ih fun d hd => h d (List.mem_cons_of_mem _ hd)

theorem squeezeFrom_word {w : List Char} (hne : w ≠ []) (hw : ∀ c ∈ w, isBlank c = false) (inBlank : Bool)
    (s : List Char) : squeezeFrom inBlank (w ++ s) = w ++ squeezeFrom false s := by
  cases w with
  | nil => exact absurd rfl hne
  | cons c w =>
    induction w generalizing c inBlank with
    | nil => rw [List.cons_append, squeezeFrom, if_neg (Bool.eq_false_iff.mp (hw c List.mem_cons_self))]; rfl
    | cons d w ih =>
      rw [List.cons_append, squeezeFrom, if_neg (Bool.eq_false_iff.mp (hw c List.mem_cons_self)),
        ih false d (List.cons_ne_nil _ _) (fun e he => hw e (List.mem_cons_of_mem _ he))]
      rfl

theorem stripRight_space (s : List Char) :
    stripRight (' ' :: s) = if stripRight s = [] then [] else ' ' :: stripRight s := by
  cases h : stripRight s with
  | nil => simp [stripRight, h, isBlank_space]
  | cons c t => simp [stripRight, h]

/-- Before its first word nothing is left of a text, whether a blank comes before or not. -/
theorem stripLeft_squeezeFrom (inBlank : Bool) (s : List Char) :
    stripLeft (squeezeFrom inBlank s) = squeezeFrom true (stripLeft s) := by
  induction s generalizing inBlank with
  | nil => rfl
  | cons c s ih =>
    by_cases hc : isBlank c = true
    · have hs : stripLeft (c :: s) = stripLeft s := List.dropWhile_cons_of_pos hc
      rw [squeezeFrom, if_pos hc, hs, ← ih true]
      cases inBlank with
      | true => rfl
      | false => exact List.dropWhile_cons_of_pos isBlank_space
    · have hs : stripLeft (c :: s) = c :: s := List.dropWhile_cons_of_neg hc
      rw [hs, squeezeFrom, squeezeFrom, if_neg hc, if_neg hc]
      exact List.dropWhile_cons_of_neg hc

theorem stripRight_squeezeFrom (s : List Char) : stripRight (squeezeFrom true s) = joinWords (words s) := by
  induction hn : s.length using Nat.strongRecOn generalizing s with
  | ind n ih =>
    subst hn
    obtain ⟨indent, hindent, hblank⟩ := exists_indent s
    by_cases hs : stripLeft s = []
    · rw [hs, List.append_nil] at hindent
      rw [← hindent] at hblank
      have h := squeezeFrom_blanks hblank []
      rw [List.append_nil] at h
      rw [h, words_eq_nil hblank]
      rfl
    have hsqueeze : squeezeFrom true s = firstWord s ++ squeezeFrom false (afterFirstWord s) := by
      have h := squeezeFrom_blanks hblank (stripLeft s)
      rw [← hindent] at h
      rw [h, ← firstWord_append s, squeezeFrom_word (firstWord_ne_nil hs) (firstWord_solid s)]
    have hstrip := stripRight_middle (firstWord_ne_nil hs) (firstWord_solid s) []
      (squeezeFrom false (afterFirstWord s))
    rw [hsqueeze, words_eq hs]
    rw [List.nil_append] at hstrip
    rw [hstrip]
    have hhead := afterFirstWord_head s
    have hlength := length_afterFirstWord hs
    cases hrest : afterFirstWord s with
    | nil => exact List.append_nil _
    | cons c rest =>
      rw [hrest] at hhead hlength
      have hc : isBlank c = true := by simpa using hhead
      have hih := ih rest.length (by rw [List.length_cons] at hlength; omega) rest rfl
      have hjoin : joinWords (words rest) = [] ↔ words rest = [] :=
        joinWords_eq_nil fun w hw => (mem_words hw).1
      have hspace : squeezeFrom false (c :: rest) = ' ' :: squeezeFrom true rest := if_pos hc
      rw [hspace, words_blank hc, stripRight_space, hih]
      by_cases hws : words rest = []
      · rw [if_pos (hjoin.mpr hws), hws]
        exact List.append_nil _
      · rw [if_neg (mt hjoin.mp hws), joinWords_cons hws]

/-- **Squeezing and stripping leave the words of a text with single spaces between them.** -/
theorem strip_squeeze (s : List Char) : strip (squeeze s) = joinWords (words s) := by
  rw [strip, squeeze, stripLeft_squeezeFrom, stripRight_squeezeFrom, words_stripLeft]

/-! ## The blanks of a row -/

/-- A blank that stands alone between two characters that are none. -/
structure SingleSpace (u : List Char) (c : Char) (v : List Char) : Prop where
  space : c = ' '
  before : ∃ a ∈ u.getLast?, isBlank a = false
  after : ∃ b ∈ v.head?, isBlank b = false

theorem SingleSpace.append {u v : List Char} {c : Char} (h : SingleSpace u c v) (w : List Char) :
    SingleSpace (w ++ u) c v where
  space := h.space
  before := by
    obtain ⟨a, ha, hblank⟩ := h.before
    exact ⟨a, by rw [List.getLast?_append, Option.mem_def.mp ha]; rfl, hblank⟩
  after := h.after

theorem head_joinWords {ws : List (List Char)} (hws : ∀ w ∈ ws, w ≠ [] ∧ ∀ c ∈ w, isBlank c = false) (hne : ws ≠ []) :
    ∃ b ∈ (joinWords ws).head?, isBlank b = false := by
  obtain ⟨w, ws, rfl⟩ := List.exists_cons_of_ne_nil hne
  obtain ⟨hw, hsolid⟩ := hws w List.mem_cons_self
  obtain ⟨c, w, rfl⟩ := List.exists_cons_of_ne_nil hw
  refine ⟨c, ?_, hsolid c List.mem_cons_self⟩
  have h := joinWords_append [c] w ws
  rw [List.singleton_append] at h
  rw [h]
  rfl

/-- What stands before a character starts with every piece that does not hold it. -/
theorem exists_append_of_not_mem {w x u v : List Char} {c : Char} (hc : c ∉ w) (h : w ++ x = u ++ c :: v) :
    ∃ t, u = w ++ t ∧ x = t ++ c :: v := by
  rcases List.append_eq_append_iff.mp h with ht | ⟨t, hw, ht⟩
  · exact ht
  · cases t with
    | nil => exact ⟨[], by rw [hw, List.append_nil, List.append_nil], ht.symm⟩
    | cons d t =>
      cases ht
      exact absurd (hw ▸ by simp) hc

/-- **A row of words holds no blank but single spaces inside of it.** -/
theorem joinWords_blank {ws : List (List Char)} (hws : ∀ w ∈ ws, w ≠ [] ∧ ∀ c ∈ w, isBlank c = false)
    {u v : List Char} {c : Char} (h : joinWords ws = u ++ c :: v) (hc : isBlank c = true) : SingleSpace u c v := by
  induction ws generalizing u with
  | nil =>
    have hnil : ([] : List Char) = u ++ c :: v := h
    simp at hnil
  | cons w ws ih =>
    obtain ⟨hne, hsolid⟩ := hws w List.mem_cons_self
    have hrest := fun w' hw' => hws w' (List.mem_cons_of_mem _ hw')
    have hnot : c ∉ w := fun hmem => by rw [hsolid c hmem] at hc; cases hc
    by_cases hnil : ws = []
    · have hword : w = u ++ c :: v := by rw [← h, hnil]; rfl
      exact absurd (hword ▸ by simp) hnot
    rw [joinWords_cons hnil] at h
    -- The blank is none of the first word: it is the space after it, or it comes after that one.
    obtain ⟨t, rfl, ht⟩ := exists_append_of_not_mem hnot h
    cases t with
    | nil =>
      cases ht
      refine ⟨rfl, ?_, head_joinWords hrest hnil⟩
      rw [List.append_nil]
      exact ⟨w.getLast hne, List.getLast_mem_getLast? hne, hsolid _ (List.getLast_mem hne)⟩
    | cons d t =>
      rw [List.cons_append, List.cons.injEq] at ht
      obtain ⟨rfl, ht⟩ := ht
      have happend := (ih hrest ht).append (w ++ [' '])
      rwa [List.append_assoc, List.singleton_append] at happend

end ScenarioAudit.Text
