import ScenarioAudit.Proofs.Json.Regular
import ScenarioAudit.Proofs.Json.Scalar
import ScenarioAudit.Proofs.Text.Utf8

/-! # A record file reads back

The text written for a regular value reads back as that value (`read_render`), and so do its bytes in
a file (`ofBytes_render`). The lemmas before say what the reader does once the first character of a value is
known.
-/

namespace ScenarioAudit.Json

open ScenarioAudit.Text ScenarioAudit.Number ScenarioAudit.Number.Binary64

/-! ## White space -/

def AllSpace (s : List Char) : Prop :=
  ∀ c ∈ s, isSpace c = true

theorem allSpace_newline (level : ℕ) : AllSpace (newline level) := by
  intro c hc
  rcases List.mem_cons.mp hc with rfl | hc
  · decide
  · rw [List.eq_of_mem_replicate hc]
    decide

theorem allSpace_nil : AllSpace [] :=
  fun _ hc => nomatch hc

theorem allSpace_blank : AllSpace [' '] := by
  intro c hc
  rw [List.mem_singleton.mp hc]
  decide

theorem skipSpace_append {space : List Char} (h : AllSpace space) (s : List Char) :
    skipSpace (space ++ s) = skipSpace s :=
  List.dropWhile_append_of_pos h

theorem skipSpace_cons {c : Char} (hc : isSpace c = false) (s : List Char) :
    skipSpace (c :: s) = c :: s :=
  List.dropWhile_cons_of_neg (by rw [hc]; decide)

theorem skipSpace_space_cons {space : List Char} (h : AllSpace space) {c : Char}
    (hc : isSpace c = false) (s : List Char) : skipSpace (space ++ c :: s) = c :: s := by
  rw [skipSpace_append h, skipSpace_cons hc]

/-! ## The first character of a value -/

/-- A text that begins as a value does. -/
def Opens (s : List Char) : Prop :=
  ∃ c t, s = c :: t ∧ isSpace c = false ∧ c ≠ ']' ∧ c ≠ '}'

theorem opens_digits {ds : List Char} (hne : ds ≠ []) (hds : AllDigits ds) (rest : List Char) :
    Opens (ds ++ rest) := by
  rcases ds with _ | ⟨d, ds⟩
  · exact absurd rfl hne
  · have hd : d.isDigit = true := hds d List.mem_cons_self
    refine ⟨d, ds ++ rest, rfl, ?_, ?_, ?_⟩
    · rw [isSpace]
      rcases hs : (d == ' ' || d == '\n' || d == '\r' || d == '\t') with _ | _
      · rfl
      · simp only [Bool.or_eq_true, beq_iff_eq] at hs
        rcases hs with ((rfl | rfl) | rfl) | rfl
        all_goals exact absurd hd (by decide)
    · rintro rfl
      exact absurd hd (by decide)
    · rintro rfl
      exact absurd hd (by decide)

def OpensNumber (s : List Char) : Prop :=
  ∃ ds rest, ds ≠ [] ∧ AllDigits ds ∧ (s = ds ++ rest ∨ s = '-' :: (ds ++ rest))

theorem OpensNumber.opens {s : List Char} (h : OpensNumber s) : Opens s := by
  obtain ⟨ds, rest, hne, hds, rfl | rfl⟩ := h
  · exact opens_digits hne hds rest
  · exact ⟨'-', _, rfl, by decide, by decide, by decide⟩

theorem OpensNumber.append {s : List Char} (h : OpensNumber s) (t : List Char) : OpensNumber (s ++ t) := by
  obtain ⟨ds, rest, hne, hds, rfl | rfl⟩ := h
  · exact ⟨ds, rest ++ t, hne, hds, Or.inl (List.append_assoc ds rest t)⟩
  · exact ⟨ds, rest ++ t, hne, hds, Or.inr (by rw [List.cons_append, List.append_assoc])⟩

theorem opensNumber_int (i : ℤ) : OpensNumber (toString i).toList := by
  rw [toString_int]
  refine ⟨Nat.toDigits 10 i.natAbs, [], Nat.toDigits_ne_nil, allDigits_toDigits _, ?_⟩
  by_cases hi : i < 0
  · right
    rw [if_pos hi, List.append_nil]
    rfl
  · left
    rw [if_neg hi, List.append_nil]
    rfl

theorem opensNumber_float (neg : Bool) (m : ℕ) (e : ℤ) :
    OpensNumber ((Binary64.finite neg m e).render documentLayout).toList := by
  obtain ⟨n, htext, -⟩ := render_spelling (shortestDecimal m e)
  refine ⟨n.whole, Spelling.fractionText n.fraction ++ Spelling.scaleText n.scale, n.whole_ne_nil,
    n.whole_digits, ?_⟩
  rw [← List.append_assoc, ← Spelling.text, ← htext]
  cases neg with
  | true =>
    right
    simp [Binary64.render]
  | false =>
    left
    simp [Binary64.render]

theorem opens_render (level : ℕ) (v : Json) : Opens (renderAt level v) := by
  rcases v with _ | b | i | x | s | items | members
  · exact ⟨'n', _, rfl, by decide, by decide, by decide⟩
  · cases b with
    | true => exact ⟨'t', _, rfl, by decide, by decide, by decide⟩
    | false => exact ⟨'f', _, rfl, by decide, by decide, by decide⟩
  · rw [renderAt]
    exact (opensNumber_int i).opens
  · rcases x with _ | neg | ⟨neg, m, e⟩
    · exact ⟨'n', _, rfl, by decide, by decide, by decide⟩
    · exact ⟨'n', _, rfl, by decide, by decide, by decide⟩
    · have h := (opensNumber_float neg m e).opens
      rw [renderAt]
      · exact h
      · exact fun heq => nomatch heq
      · exact fun _ heq => nomatch heq
  · exact ⟨'"', _, rfl, by decide, by decide, by decide⟩
  · rcases items with _ | ⟨v, vs⟩
    · exact ⟨'[', _, rfl, by decide, by decide, by decide⟩
    · exact ⟨'[', _, rfl, by decide, by decide, by decide⟩
  · rcases members with _ | ⟨⟨k, v⟩, ms⟩
    · exact ⟨'{', _, rfl, by decide, by decide, by decide⟩
    · exact ⟨'{', _, rfl, by decide, by decide, by decide⟩

theorem skipSpace_opens {space s : List Char} (hspace : AllSpace space) (hs : Opens s)
    (rest : List Char) : skipSpace (space ++ (s ++ rest)) = s ++ rest := by
  obtain ⟨c, t, rfl, hc, -, -⟩ := hs
  exact skipSpace_space_cons hspace hc _

/-! ## What follows a value -/

theorem endsNumber_cons {c : Char} (hc : c.isDigit = false ∧ c ≠ '.' ∧ c ≠ 'e' ∧ c ≠ 'E')
    (s : List Char) : EndsNumber (c :: s) := by
  intro d hd
  cases hd
  exact hc

theorem endsNumber_items (level : ℕ) (vs : List Json) {s : List Char} (h : EndsNumber s) :
    EndsNumber (renderItems level vs ++ s) := by
  cases vs with
  | nil => exact h
  | cons => exact endsNumber_cons (by decide) _

theorem endsNumber_members (level : ℕ) (ms : List (String × Json)) {s : List Char} (h : EndsNumber s) :
    EndsNumber (renderMembers level ms ++ s) := by
  cases ms with
  | nil => exact h
  | cons => exact endsNumber_cons (by decide) _

/-! ## Reading by the first character -/

variable {rule : Rule} {fuel : ℕ} {s rest : List Char}

theorem readValue_number (h : skipSpace s = rest) (hrest : OpensNumber rest) :
    readValue rule (fuel + 1) s = readNumber rule rest := by
  obtain ⟨ds, t, hne, hds, ht⟩ := hrest
  rcases ds with _ | ⟨d, ds⟩
  · exact absurd rfl hne
  have hd : d.isDigit = true := hds d List.mem_cons_self
  have hother (c : Char) (hc : c.isDigit = false) : d ≠ c := by
    rintro rfl
    rw [hc] at hd
    cases hd
  rw [readValue, h]
  rcases ht with rfl | rfl
  · split
    all_goals first
      | rfl
      | next heq => exact absurd (List.cons.inj heq).1 (hother _ (by decide))
  · split
    all_goals first
      | rfl
      | next heq => exact absurd (List.cons.inj heq).1 (by decide)
      | next heq => exact absurd (List.cons.inj (List.cons.inj heq).2).1 (hother _ (by decide))

theorem readValue_array (h : skipSpace s = '[' :: rest) (hne : ∀ t, skipSpace rest ≠ ']' :: t) :
    readValue rule (fuel + 1) s =
      (readItems rule fuel (skipSpace rest)).map fun r => (.arr r.1, r.2) := by
  simp only [readValue, h]
  rcases readItems rule fuel (skipSpace rest) with _ | ⟨vs, t⟩
  · rfl
  · rfl

theorem readValue_object (h : skipSpace s = '{' :: rest) (hne : ∀ t, skipSpace rest ≠ '}' :: t) :
    readValue rule (fuel + 1) s =
      (readMembers rule fuel [] (skipSpace rest)).map fun r => (.obj r.1, r.2) := by
  simp only [readValue, h]
  rcases readMembers rule fuel [] (skipSpace rest) with _ | ⟨ms, t⟩
  · rfl
  · rfl

theorem readItems_last {v : Json} (hv : readValue rule fuel s = some (v, rest)) {t : List Char}
    (h : skipSpace rest = ']' :: t) : readItems rule (fuel + 1) s = some ([v], t) := by
  rw [readItems, hv]
  simp only [Option.bind_eq_bind, Option.bind_some, h]

theorem readItems_more {v : Json} (hv : readValue rule fuel s = some (v, rest)) {t : List Char}
    (h : skipSpace rest = ',' :: t) :
    readItems rule (fuel + 1) s = (readItems rule fuel t).map fun r => (v :: r.1, r.2) := by
  rw [readItems, hv]
  simp only [Option.bind_eq_bind, Option.bind_some, h]
  rcases readItems rule fuel t with _ | ⟨vs, u⟩
  · rfl
  · rfl

/-- A member up to what follows its value. -/
structure ReadsMember (rule : Rule) (fuel : ℕ) (s : List Char) (key : String) (v : Json)
    (rest : List Char) : Prop where
  reads : ∃ k t u w, skipSpace s = '"' :: t ∧ readString rule (fuel + 1) t = some (k, u) ∧
    skipSpace u = ':' :: w ∧ readValue rule fuel w = some (v, rest) ∧ String.ofList k = key

theorem readMembers_last {key : String} {v : Json} (hm : ReadsMember rule fuel s key v rest)
    {t : List Char} (h : skipSpace rest = '}' :: t) (ms : Members) :
    readMembers rule (fuel + 1) ms s = some (ms.set key v, t) := by
  obtain ⟨k, u, u', w, hquote, hkey, hcolon, hv, rfl⟩ := hm.reads
  rw [readMembers, hquote]
  simp only [hkey, hcolon, hv, h, Option.bind_eq_bind, Option.bind_some]

theorem readMembers_more {key : String} {v : Json} (hm : ReadsMember rule fuel s key v rest)
    {t : List Char} (h : skipSpace rest = ',' :: t) (ms : Members) :
    readMembers rule (fuel + 1) ms s = readMembers rule fuel (ms.set key v) t := by
  obtain ⟨k, u, u', w, hquote, hkey, hcolon, hv, rfl⟩ := hm.reads
  rw [readMembers, hquote]
  simp only [hkey, hcolon, hv, h, Option.bind_eq_bind, Option.bind_some]

theorem readString_quoted (k : String) (rest : List Char) (hfuel : (renderString k).length ≤ fuel) :
    readString rule fuel (k.toList.flatMap escapeChar ++ '"' :: rest) = some (k.toList, rest) := by
  apply readString_render
  have hlen : k.toList.length ≤ (k.toList.flatMap escapeChar).length := by
    generalize k.toList = cs
    induction cs with
    | nil => exact le_refl 0
    | cons c cs ih =>
      have hc : 1 ≤ (escapeChar c).length := by
        rw [escapeChar]
        repeat' split
        all_goals exact Nat.succ_le_succ (Nat.zero_le _)
      rw [List.flatMap_cons, List.length_append, List.length_cons]
      omega
  have htext : (renderString k).length = (k.toList.flatMap escapeChar).length + 2 := by
    simp [renderString]
  omega

theorem renderString_append (k : String) (s : List Char) :
    renderString k ++ s = '"' :: (k.toList.flatMap escapeChar ++ '"' :: s) := by
  simp [renderString]

theorem set_of_not_mem {ms : Members} {key : String} (h : key ∉ ms.map Prod.fst) (v : Json) :
    ms.set key v = ms ++ [(key, v)] := by
  induction ms with
  | nil => rfl
  | cons m ms ih =>
    obtain ⟨k, w⟩ := m
    rw [List.map_cons, List.mem_cons, not_or] at h
    rw [Members.set, if_neg (Ne.symm h.1), ih h.2]
    rfl

/-! ## Reading what was written -/

theorem endsNumber_close {close : List Char} (hclose : AllSpace close) {c : Char}
    (hc : c.isDigit = false ∧ c ≠ '.' ∧ c ≠ 'e' ∧ c ≠ 'E') (s : List Char) :
    EndsNumber (close ++ c :: s) := by
  rcases close with _ | ⟨d, close⟩
  · exact endsNumber_cons hc s
  · have hd := hclose d List.mem_cons_self
    simp only [isSpace, Bool.or_eq_true, beq_iff_eq] at hd
    apply endsNumber_cons
    rcases hd with ((rfl | rfl) | rfl) | rfl
    all_goals decide

theorem renderAt_array (level : ℕ) (v : Json) (vs : List Json) (s : List Char) :
    renderAt level (.arr (v :: vs)) ++ s =
      '[' :: (newline (level + 1) ++ (renderAt (level + 1) v ++ (renderItems (level + 1) vs ++
        (newline level ++ ']' :: s)))) := by
  simp only [renderAt, List.cons_append, List.append_assoc, List.nil_append]

theorem renderAt_object (level : ℕ) (k : String) (v : Json) (ms : List (String × Json))
    (s : List Char) :
    renderAt level (.obj ((k, v) :: ms)) ++ s =
      '{' :: (newline (level + 1) ++ (renderString k ++ (':' :: ' ' :: (renderAt (level + 1) v ++
        (renderMembers (level + 1) ms ++ (newline level ++ '}' :: s)))))) := by
  simp only [renderAt, List.cons_append, List.append_assoc, List.nil_append]

/-- With this fuel, every regular value whose text is at most half as long is read back. -/
def ReadsValue (fuel : ℕ) : Prop :=
  ∀ v level space rest, Regular v → AllSpace space → EndsNumber rest →
    2 * (renderAt level v).length ≤ fuel →
    readValue recordRule fuel (space ++ (renderAt level v ++ rest)) = some (v, rest)

/-- The items of a list are read back, up to the bracket that closes it. -/
def ReadsItems (fuel : ℕ) : Prop :=
  ∀ v vs level space close rest, RegularItems (v :: vs) → AllSpace space → AllSpace close →
    2 * ((renderAt level v).length + (renderItems level vs).length) + 1 ≤ fuel →
    readItems recordRule fuel
      (space ++ (renderAt level v ++ (renderItems level vs ++ (close ++ ']' :: rest)))) =
        some (v :: vs, rest)

/-- The members of an object are read back after others, up to the brace that closes it. -/
def ReadsMembers (fuel : ℕ) : Prop :=
  ∀ ms k v vs level space close rest, RegularMembers ((k, v) :: vs) →
    ((ms ++ (k, v) :: vs).map Prod.fst).Nodup → AllSpace space → AllSpace close →
    2 * ((renderString k).length + (renderAt level v).length + (renderMembers level vs).length) + 1 ≤ fuel →
    readMembers recordRule fuel ms
      (space ++ (renderString k ++ (':' :: ' ' :: (renderAt level v ++ (renderMembers level vs ++
        (close ++ '}' :: rest)))))) = some (ms ++ (k, v) :: vs, rest)

theorem readValue_array_render (hitems : ReadsItems fuel) {v : Json} {vs : List Json} {level : ℕ}
    {space : List Char} (hvs : RegularItems (v :: vs)) (hspace : AllSpace space)
    (hfuel : 2 * (renderAt level (.arr (v :: vs))).length ≤ fuel + 1) :
    readValue recordRule (fuel + 1) (space ++ (renderAt level (.arr (v :: vs)) ++ rest)) =
      some (.arr (v :: vs), rest) := by
  have hskip := skipSpace_opens hspace (opens_render level (.arr (v :: vs))) rest
  have hlen : (renderAt level (.arr (v :: vs))).length =
      (newline (level + 1)).length + (renderAt (level + 1) v).length +
        (renderItems (level + 1) vs).length + (newline level).length + 2 := by
    have := congrArg List.length (renderAt_array level v vs [])
    simp only [List.append_nil, List.length_cons, List.length_append, List.length_nil] at this
    omega
  have hopen := skipSpace_opens (allSpace_newline (level + 1)) (opens_render (level + 1) v)
    (renderItems (level + 1) vs ++ (newline level ++ ']' :: rest))
  have hread := hitems v vs (level + 1) [] (newline level) rest hvs allSpace_nil
    (allSpace_newline level) (by omega)
  rw [renderAt_array] at hskip
  rw [renderAt_array, readValue_array hskip, hopen]
  · rw [List.nil_append] at hread
    rw [hread]
    rfl
  · intro t heq
    obtain ⟨c, u, htext, -, hne, -⟩ := opens_render (level + 1) v
    rw [hopen, htext] at heq
    exact hne (List.cons.inj heq).1

theorem readValue_object_render (hmembers : ReadsMembers fuel) {k : String} {v : Json}
    {ms : List (String × Json)} {level : ℕ} {space : List Char} (hms : RegularMembers ((k, v) :: ms))
    (hnodup : (((k, v) :: ms).map Prod.fst).Nodup) (hspace : AllSpace space)
    (hfuel : 2 * (renderAt level (.obj ((k, v) :: ms))).length ≤ fuel + 1) :
    readValue recordRule (fuel + 1) (space ++ (renderAt level (.obj ((k, v) :: ms)) ++ rest)) =
      some (.obj ((k, v) :: ms), rest) := by
  have hskip := skipSpace_opens hspace (opens_render level (.obj ((k, v) :: ms))) rest
  have hlen : (renderAt level (.obj ((k, v) :: ms))).length =
      (newline (level + 1)).length + (renderString k).length + (renderAt (level + 1) v).length +
        (renderMembers (level + 1) ms).length + (newline level).length + 4 := by
    have := congrArg List.length (renderAt_object level k v ms [])
    simp only [List.append_nil, List.length_cons, List.length_append, List.length_nil] at this
    omega
  have hopen (s : List Char) : skipSpace (newline (level + 1) ++ (renderString k ++ s)) =
      renderString k ++ s := by
    rw [renderString_append, skipSpace_space_cons (allSpace_newline _) (by decide)]
  have hread := hmembers [] k v ms (level + 1) [] (newline level) rest hms hnodup allSpace_nil
    (allSpace_newline level) (by omega)
  rw [renderAt_object] at hskip
  rw [renderAt_object, readValue_object hskip, hopen]
  · rw [List.nil_append] at hread
    rw [hread]
    rfl
  · intro t heq
    rw [hopen, renderString_append] at heq
    exact absurd (List.cons.inj heq).1 (by decide)

theorem readsValue_succ (hitems : ReadsItems fuel) (hmembers : ReadsMembers fuel) : ReadsValue (fuel + 1) := by
  intro v level space rest hv hspace hrest hfuel
  have hskip := skipSpace_opens hspace (opens_render level v) rest
  rcases v with _ | b | i | x | s | items | members
  · rw [readValue, hskip]
    rfl
  · cases b with
    | true =>
      rw [readValue, hskip]
      rfl
    | false =>
      rw [readValue, hskip]
      rfl
  · rw [renderAt] at hskip ⊢
    rw [readValue_number hskip ((opensNumber_int i).append rest)]
    exact readNumber_int hv hrest
  · obtain ⟨neg, m, e, rfl, hcanonical⟩ := hv
    have htext : renderAt level (.float (.finite neg m e)) =
        ((Binary64.finite neg m e).render documentLayout).toList := by
      rw [renderAt]
      · rintro ⟨⟩
      · rintro _ ⟨⟩
    rw [htext] at hskip ⊢
    rw [readValue_number hskip ((opensNumber_float neg m e).append rest)]
    exact readNumber_float hcanonical hrest
  · rw [renderAt] at hskip hfuel ⊢
    rw [renderString_append] at hskip
    rw [readValue, renderString_append, hskip]
    simp only [readString_quoted s rest (show (renderString s).length ≤ fuel + 1 by omega),
      Option.bind_eq_bind, Option.bind_some, String.ofList_toList]
  · rcases items with _ | ⟨v, vs⟩
    · rw [readValue, hskip]
      rfl
    · exact readValue_array_render hitems hv hspace hfuel
  · rcases members with _ | ⟨⟨k, v⟩, ms⟩
    · rw [readValue, hskip]
      rfl
    · exact readValue_object_render hmembers hv.2 hv.1 hspace hfuel

theorem readsItems_succ (hvalue : ReadsValue fuel) (hitems : ReadsItems fuel) : ReadsItems (fuel + 1) := by
  intro v vs level space close rest hvs hspace hclose hfuel
  -- What follows a number must not carry it on: a comma, blanks or the bracket.
  have hends := endsNumber_items level vs (endsNumber_close hclose (c := ']') (by decide) rest)
  have hfirst := hvalue v level space _ hvs.1 hspace hends (by omega)
  rcases vs with _ | ⟨w, ws⟩
  · exact readItems_last hfirst (skipSpace_space_cons hclose (by decide) rest)
  · have hlen : (renderItems level (w :: ws)).length =
        (newline level).length + (renderAt level w).length + (renderItems level ws).length + 1 := by
      simp only [renderItems, List.length_cons, List.length_append]
    have hmore := hitems w ws level (newline level) close rest hvs.2 (allSpace_newline level)
      hclose (by omega)
    have hcomma : renderItems level (w :: ws) ++ (close ++ ']' :: rest) =
        ',' :: (newline level ++ (renderAt level w ++ (renderItems level ws ++
          (close ++ ']' :: rest)))) := by
      simp only [renderItems, List.cons_append, List.append_assoc]
    rw [hcomma] at hfirst ⊢
    rw [readItems_more hfirst (skipSpace_cons (by decide) _), hmore]
    rfl

theorem readsMembers_succ (hvalue : ReadsValue fuel) (hmembers : ReadsMembers fuel) : ReadsMembers (fuel + 1) := by
  intro ms k v vs level space close rest hvs hnodup hspace hclose hfuel
  have hends := endsNumber_members level vs (endsNumber_close hclose (c := '}') (by decide) rest)
  have hfirst := hvalue v level [' '] _ hvs.1 allSpace_blank hends (by omega)
  have hmember : ReadsMember recordRule fuel
      (space ++ (renderString k ++ (':' :: ' ' :: (renderAt level v ++ (renderMembers level vs ++
        (close ++ '}' :: rest)))))) k v (renderMembers level vs ++ (close ++ '}' :: rest)) := by
    rw [renderString_append]
    exact ⟨k.toList, _, _, _, skipSpace_space_cons hspace (by decide) _,
      readString_quoted k _ (by omega), skipSpace_cons (by decide) _, hfirst, String.ofList_toList⟩
  -- A key that is there already would replace its member; none of these is.
  have hkey : k ∉ ms.map Prod.fst := by
    rw [List.map_append, List.map_cons, List.nodup_append] at hnodup
    exact fun hmem => hnodup.2.2 k hmem k List.mem_cons_self rfl
  rcases vs with _ | ⟨⟨k', w⟩, ws⟩
  · rw [readMembers_last hmember (skipSpace_space_cons hclose (by decide) rest),
      set_of_not_mem hkey]
  · have hlen : (renderMembers level ((k', w) :: ws)).length =
        (newline level).length + (renderString k').length + (renderAt level w).length +
          (renderMembers level ws).length + 3 := by
      simp only [renderMembers, List.length_cons, List.length_append, List.length_nil]
      omega
    have hnodup' : ((Members.set ms k v ++ (k', w) :: ws).map Prod.fst).Nodup := by
      rw [set_of_not_mem hkey, List.append_assoc]
      exact hnodup
    have hmore := hmembers (Members.set ms k v) k' w ws level (newline level) close rest hvs.2 hnodup'
      (allSpace_newline level) hclose (by omega)
    have hcomma : renderMembers level ((k', w) :: ws) ++ (close ++ '}' :: rest) =
        ',' :: (newline level ++ (renderString k' ++ (':' :: ' ' :: (renderAt level w ++
          (renderMembers level ws ++ (close ++ '}' :: rest)))))) := by
      simp only [renderMembers, List.cons_append, List.append_assoc, List.nil_append]
    rw [hcomma] at hmember ⊢
    rw [readMembers_more hmember (skipSpace_cons (by decide) _), hmore, set_of_not_mem hkey,
      List.append_assoc]
    rfl

/-- What is written for regular values reads back, by induction on the fuel; every character written gives
two units of it. -/
theorem read_render (fuel : ℕ) : ReadsValue fuel ∧ ReadsItems fuel ∧ ReadsMembers fuel := by
  induction fuel with
  | zero =>
    refine ⟨?_, ?_, ?_⟩
    · intro v level space rest _ _ _ hfuel
      obtain ⟨c, t, htext, -⟩ := opens_render level v
      rw [htext, List.length_cons] at hfuel
      omega
    · intro v vs level space close rest _ _ _ hfuel
      omega
    · intro ms k v vs level space close rest _ _ _ _ hfuel
      omega
  | succ fuel ih =>
    obtain ⟨hvalue, hitems, hmembers⟩ := ih
    exact ⟨readsValue_succ hitems hmembers, readsItems_succ hvalue hitems, readsMembers_succ hvalue hmembers⟩

/-- **A written document reads back.** What may be written is nested less deeply than what may be read. -/
theorem ofText_render {v : Json} {text : List Char} (hv : Regular v) (h : render? v = some text) :
    ofText? recordRule (text ++ ['\n']) = some v := by
  rw [render?] at h
  split at h
  next hlimits =>
    obtain rfl := Option.some.inj h
    obtain ⟨hdepth, -⟩ := Bool.and_eq_true_iff.mp hlimits
    have hdeep : v.depth ≤ readDepthLimit := (of_decide_eq_true hdepth).trans (by decide)
    have hread := (read_render (2 * (renderAt 0 v ++ ['\n']).length + 2)).1 v 0 [] ['\n'] hv allSpace_nil
      (endsNumber_cons (by decide) []) (by rw [List.length_append]; omega)
    have hend : (skipSpace ['\n']).isEmpty = true := rfl
    rw [List.nil_append] at hread
    rw [ofText?, hread]
    simp only [Option.bind_eq_bind, Option.bind_some, hend, decide_eq_true hdeep, Bool.and_self, if_true]
  next => cases h

theorem ofBytes_render {v : Json} {text : List Char} (hv : Regular v) (h : render? v = some text) :
    ofBytes? (encodeUtf8 (text ++ ['\n'])) = some v := by
  rw [ofBytes?, decodeUtf8?_encodeUtf8, Option.bind_some, ofText_render hv h]

end ScenarioAudit.Json
