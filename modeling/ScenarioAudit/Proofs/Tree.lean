import ScenarioAudit.Proofs.Result
import ScenarioAudit.Tree

/-! # Where a path leads

A path is followed name by name (`Leads`), so following two lists of names one after the other is following their
join (`follow_append`). What is found, and the place that something new is put at, are told by the place that the
path leads to. A file is found at its absolute path as well (`find_resolve`).
-/

namespace ScenarioAudit

theorem pairwise_mergeSort_by {α β : Type} [LE β] [DecidableLE β] [Std.IsLinearPreorder β] (key : α → β)
    (xs : List α) : (xs.mergeSort fun a b => decide (key a ≤ key b)).Pairwise fun a b => key a ≤ key b := by
  have h := @List.pairwise_mergeSort α (fun a b => decide (key a ≤ key b))
    (fun a b c hab hbc => decide_eq_true (Std.le_trans (of_decide_eq_true hab) (of_decide_eq_true hbc)))
    (fun a b => by simpa using Std.le_total (a := key a) (b := key b)) xs
  simpa only [decide_eq_true_eq] using h

namespace Tree

/-! ## Following names -/

/-- One name leads from a place to another one. -/
inductive Leads (t : Tree) : Place → String → Place → Prop
  | outside : Leads t .outside ".." .outside
  | up {at_ : List String} {es : Entries} (hdir : t.below? at_ = some (.dir es)) :
      Leads t (.inside at_) ".." (if at_.isEmpty then .outside else .inside at_.dropLast)
  | entry {at_ : List String} {es : Entries} {n : String} {u : Tree} (hdir : t.below? at_ = some (.dir es))
      (hn : n ≠ "..") (hget : Entries.get? es n = some u) : Leads t (.inside at_) n (.inside (at_ ++ [n]))

theorem follow_cons {t : Tree} {place next : Place} {n : String} (h : Leads t place n next) (ns : List String) :
    follow t place (n :: ns) = follow t next ns := by
  cases h with
  | outside => rw [follow, if_pos rfl]
  | up hdir =>
    rw [follow, hdir]
    exact if_pos rfl
  | entry hdir hn hget =>
    rw [follow, hdir]
    simp only [if_neg hn, hget]

theorem exists_leads {t : Tree} {place place' : Place} {n : String} {ns : List String}
    (h : follow t place (n :: ns) = .ok place') :
    ∃ next, Leads t place n next ∧ follow t next ns = .ok place' := by
  cases place with
  | outside =>
    rw [follow] at h
    by_cases hn : n = ".."
    · rw [if_pos hn] at h
      exact ⟨.outside, hn ▸ .outside, h⟩
    · rw [if_neg hn] at h
      cases h
  | inside at_ =>
    rw [follow] at h
    rcases hbelow : t.below? at_ with _ | ⟨bytes | es⟩
    · rw [hbelow] at h
      cases h
    · rw [hbelow] at h
      cases h
    · rw [hbelow] at h
      by_cases hn : n = ".."
      · simp only [if_pos hn] at h
        exact ⟨_, hn ▸ .up hbelow, h⟩
      · simp only [if_neg hn] at h
        rcases hget : Entries.get? es n with _ | u
        · rw [hget] at h
          cases h
        · rw [hget] at h
          exact ⟨_, .entry hbelow hn hget, h⟩

theorem follow_append {t : Tree} {place place' : Place} {xs : List String}
    (h : follow t place xs = .ok place') (ys : List String) :
    follow t place (xs ++ ys) = follow t place' ys := by
  induction xs generalizing place with
  | nil =>
    cases h
    rfl
  | cons n xs ih =>
    obtain ⟨next, hleads, hrest⟩ := exists_leads h
    rw [List.cons_append, follow_cons hleads, ih hrest]

theorem exists_leads_last {t : Tree} {place place' : Place} {xs : List String} {n : String}
    (h : follow t place (xs ++ [n]) = .ok place') : ∃ mid, follow t place xs = .ok mid ∧ Leads t mid n place' := by
  induction xs generalizing place with
  | nil =>
    obtain ⟨next, hleads, hrest⟩ := exists_leads h
    cases hrest
    exact ⟨place, rfl, hleads⟩
  | cons m xs ih =>
    obtain ⟨next, hleads, hrest⟩ := exists_leads h
    obtain ⟨mid, hmid, hlast⟩ := ih hrest
    exact ⟨mid, (follow_cons hleads xs).trans hmid, hlast⟩

theorem below_append (t : Tree) (xs ys : List String) :
    t.below? (xs ++ ys) = (t.below? xs).bind (below? · ys) := by
  induction xs generalizing t with
  | nil => rfl
  | cons n xs ih =>
    cases t with
    | file bytes => rfl
    | dir es =>
      rw [List.cons_append, below?, below?]
      rcases Entries.get? es n with _ | u
      · rfl
      · exact ih u

theorem get?_eq_some {es : Entries} (hnames : (es.map Prod.fst).Nodup) {n : String} {u : Tree} :
    es.get? n = some u ↔ (n, u) ∈ es := by
  induction es with
  | nil => simp [Entries.get?]
  | cons e es ih =>
    obtain ⟨m, v⟩ := e
    rw [List.map_cons, List.nodup_cons] at hnames
    rw [Entries.get?, List.mem_cons, Prod.mk.injEq]
    by_cases hm : m = n
    · subst hm
      have hnot : (m, u) ∉ es := fun h => hnames.1 (List.mem_map.mpr ⟨_, h, rfl⟩)
      rw [if_pos rfl, Option.some.injEq]
      exact ⟨fun h => Or.inl ⟨rfl, h.symm⟩, fun h => (h.resolve_right hnot).2.symm⟩
    · rw [if_neg hm, ih hnames.2]
      exact ⟨Or.inr, fun h => h.resolve_left fun heq => hm heq.1.symm⟩

/-! ## What is found -/

theorem find_of_readBytes {t : Tree} {p : Path} {bytes : List UInt8} (h : t.readBytes p = .ok bytes) :
    t.find p = .ok (.file bytes) := by
  rw [readBytes] at h
  rcases hfind : t.find p with e | ⟨found | es⟩
  · rw [hfind] at h
    cases h
  · rw [hfind] at h
    cases h
    rfl
  · rw [hfind] at h
    cases h

theorem walk_eq_ok {t : Tree} {p : Path} {names : List String} {place : Place} :
    t.walk p names = .ok place ↔
      p.names.any hasNul = false ∧ ¬ pathLimit < p.toString.utf8ByteSize ∧
        follow t (start p) names = .ok place := by
  rw [walk]
  by_cases hnul : p.names.any hasNul = true
  · simp [hnul]
  · rw [if_neg hnul]
    by_cases hlong : pathLimit < p.toString.utf8ByteSize
    · simp [hlong]
    · rw [if_neg hlong]
      rcases follow t (start p) names with fault | place'
      · simp
      · simp [Bool.eq_false_iff.mpr hnul, hlong]

/-- Two paths lead to one place inside of the workspace. -/
def SamePlace (t : Tree) (p q : Path) : Prop :=
  ∃ names, t.walk p p.names = .ok (.inside names) ∧ t.walk q q.names = .ok (.inside names)

/-- What an entry leads to is in the directory that its own name is added to. -/
theorem exists_walk_child {t : Tree} {p : Path} {n : String} {place : Place} (hn : n ≠ "..")
    (h : t.walk (p.child n) (p.child n).names = .ok place) :
    ∃ at_, follow t (start p) p.names = .ok (.inside at_) ∧ place = .inside (at_ ++ [n]) := by
  have hfollow : follow t (start p) (p.names ++ [n]) = .ok place := (walk_eq_ok.mp h).2.2
  obtain ⟨mid, hmid, hleads⟩ := exists_leads_last hfollow
  cases hleads with
  | outside => exact absurd rfl hn
  | up => exact absurd rfl hn
  | entry hdir _ hget => exact ⟨_, hmid, rfl⟩

/-- What is at a place. Outside the workspace is an empty directory. -/
def at? (t : Tree) : Place → Option Tree
  | .outside => some (.dir [])
  | .inside names => t.below? names

theorem find_eq_ok {t : Tree} {p : Path} {u : Tree} :
    t.find p = .ok u ↔ ∃ place, t.walk p p.names = .ok place ∧ t.at? place = some u := by
  rw [find]
  rcases t.walk p p.names with e | place
  · simp [bind, Except.bind]
  · rcases place with names | _
    · simp only [bind, Except.bind, Except.ok.injEq, exists_eq_left', at?]
      rcases t.below? names with _ | v
      · simp
      · simp [pure, Except.pure]
    · simp [bind, Except.bind, at?, pure, Except.pure]

theorem find_inside {t : Tree} {p : Path} {names : List String} {u : Tree}
    (h : t.walk p p.names = .ok (.inside names)) (hu : t.below? names = some u) : t.find p = .ok u :=
  find_eq_ok.mpr ⟨_, h, hu⟩

theorem look_of_find {t : Tree} {p : Path} {u : Tree} (h : t.find p = .ok u) : t.look p = .ok (some u) := by
  rw [look, h]

theorem find_of_look {t : Tree} {p : Path} {u : Tree} (h : t.look p = .ok (some u)) : t.find p = .ok u := by
  rw [look] at h
  split at h
  next hfind =>
    cases h
    exact hfind
  next =>
    split at h
    · cases h
    · cases h

theorem exists_find {t : Tree} {p : Path} (h : t.pathExists p = .ok true) : ∃ u, t.find p = .ok u := by
  obtain ⟨found, hlook, hsome⟩ := map_eq_ok h
  obtain ⟨u, rfl⟩ := Option.isSome_iff_exists.mp hsome
  exact ⟨u, find_of_look hlook⟩

theorem exists_parent {t u : Tree} {at_ : List String} {n : String} (h : t.below? (at_ ++ [n]) = some u) :
    ∃ es, t.below? at_ = some (.dir es) ∧ Entries.get? es n = some u := by
  rw [below_append] at h
  obtain ⟨v, hv, h⟩ := Option.bind_eq_some_iff.mp h
  cases v with
  | file bytes => cases h
  | dir es =>
    obtain ⟨w, hw, hwu⟩ := Option.bind_eq_some_iff.mp h
    cases hwu
    exact ⟨es, hv, hw⟩

theorem below_concat {t : Tree} {at_ : List String} {es : Entries} (h : t.below? at_ = some (.dir es))
    (n : String) : t.below? (at_ ++ [n]) = Entries.get? es n := by
  rw [below_append, h, Option.bind_some, below?]
  rcases Entries.get? es n with _ | u
  · rfl
  · rfl

/-! ## Where something new is put -/

/-- The place of a new entry: all names but the last lead to a directory inside the workspace, and the last one is a
name that an entry can have. -/
structure Spot (t : Tree) (p : Path) (at_ : List String) (es : Entries) : Prop where
  walk : t.walk p p.names.dropLast = .ok (.inside at_)
  dir : t.below? at_ = some (.dir es)
  names : p.names = p.names.dropLast ++ [p.name]
  ne_up : p.name ≠ ".."
  fits : ¬ nameLimit < p.name.utf8ByteSize

namespace Spot

variable {t : Tree} {p : Path} {at_ : List String} {es : Entries} (h : Spot t p at_ es)

include h

theorem slot : t.slot p = .ok (at_ ++ [p.name]) := by
  simp only [Tree.slot, h.walk, bind, Except.bind, h.dir, if_neg h.fits]
  rfl

/-- The path leads to its place once something is there. -/
theorem walk_self {u : Tree} (hu : Entries.get? es p.name = some u) :
    t.walk p p.names = .ok (.inside (at_ ++ [p.name])) := by
  obtain ⟨hnul, hlong, hfollow⟩ := walk_eq_ok.mp h.walk
  refine walk_eq_ok.mpr ⟨hnul, hlong, ?_⟩
  rw [h.names, follow_append hfollow, follow_cons (.entry h.dir h.ne_up hu), follow]

theorem find {u : Tree} (hu : Entries.get? es p.name = some u) : t.find p = .ok u :=
  find_inside (h.walk_self hu) ((below_concat h.dir _).trans hu)

end Spot

theorem exists_up {t : Tree} {at_ : List String} {es : Entries} (h : t.below? at_ = some (.dir es)) :
    ∃ es', t.at? (if at_.isEmpty then .outside else .inside at_.dropLast) = some (.dir es') := by
  rcases List.eq_nil_or_concat at_ with rfl | ⟨front, n, rfl⟩
  · exact ⟨[], rfl⟩
  · rw [List.concat_eq_append] at h
    obtain ⟨es', hes', -⟩ := exists_parent h
    exact ⟨es', by simpa [at?] using hes'⟩

theorem exists_spot {t : Tree} {p : Path} {names : List String} (hslot : t.slot p = .ok names)
    (hdir : ∀ es, t.find p ≠ .ok (.dir es)) : ∃ at_ es, Spot t p at_ es ∧ names = at_ ++ [p.name] := by
  rw [Tree.slot] at hslot
  obtain ⟨place, hwalk, hslot⟩ := bind_eq_ok hslot
  rcases place with at_ | _
  swap
  · cases hslot
  rcases hbelow : t.below? at_ with _ | ⟨bytes | es⟩
  · simp only [hbelow] at hslot
    cases hslot
  · simp only [hbelow] at hslot
    cases hslot
  simp only [hbelow] at hslot
  split at hslot
  · cases hslot
  next hfits =>
    obtain ⟨hnul, hlong, hfollow⟩ := walk_eq_ok.mp hwalk
    rcases List.eq_nil_or_concat p.names with hnil | ⟨front, n, hnames⟩
    · -- without names the path leads to the directory itself
      rw [hnil] at hwalk
      exact absurd (find_inside (hnil ▸ hwalk) hbelow) (hdir es)
    · rw [List.concat_eq_append] at hnames
      have hname : p.name = n := by rw [Path.name, hnames, List.getLast?_concat, Option.getD_some]
      have hdrop : p.names.dropLast = front := by rw [hnames, List.dropLast_concat]
      refine ⟨at_, es, ⟨hwalk, hbelow, by rw [hdrop, hname, hnames], ?_, hfits⟩, (Except.ok.inj hslot).symm⟩
      rw [hname]
      rintro rfl
      -- two dots would lead to a directory
      obtain ⟨es', hes'⟩ := exists_up hbelow
      refine hdir es' (find_eq_ok.mpr ⟨_, walk_eq_ok.mpr ⟨hnul, hlong, ?_⟩, hes'⟩)
      rw [hdrop] at hfollow
      rw [hnames, follow_append hfollow, follow_cons (.up hbelow), follow]

/-! ## Absolute paths -/

theorem follow_outside {t : Tree} {ns : List String} {place : Place} (h : follow t .outside ns = .ok place) :
    place = .outside := by
  induction ns with
  | nil => exact (Except.ok.inj h).symm
  | cons n ns ih =>
    obtain ⟨next, hleads, h⟩ := exists_leads h
    cases hleads with
    | outside => exact ih h

theorem follow_below {t u : Tree} (pre : List String) {ns : List String} (hplain : ".." ∉ ns)
    (h : t.below? (pre ++ ns) = some u) : follow t (.inside pre) ns = .ok (.inside (pre ++ ns)) := by
  induction ns generalizing pre with
  | nil => rw [follow, List.append_nil]
  | cons n ns ih =>
    rw [List.mem_cons, not_or] at hplain
    rw [List.append_cons] at h
    obtain ⟨v, hv, -⟩ := Option.bind_eq_some_iff.mp ((below_append t (pre ++ [n]) ns).symm.trans h)
    obtain ⟨es, hdir, hget⟩ := exists_parent hv
    rw [follow_cons (.entry hdir (Ne.symm hplain.1) hget), ih _ hplain.2 h, ← List.append_cons]

/-- Taking names back one by one leads where following them leads, as long as that is inside. -/
theorem eq_of_follow {t : Tree} (back : List String) {names at_ : List String}
    (h : follow t (.inside back.reverse) names = .ok (.inside at_)) :
    at_ = (names.foldl (fun back n => if n = ".." then back.tail else n :: back) back).reverse := by
  induction names generalizing back with
  | nil =>
    cases h
    rfl
  | cons n names ih =>
    obtain ⟨next, hleads, h⟩ := exists_leads h
    rw [List.foldl_cons]
    cases hleads with
    | up hdir =>
      rw [if_pos rfl]
      cases back with
      | nil =>
        cases follow_outside h
      | cons m back =>
        apply ih
        simpa using h
    | entry hdir hn hget =>
      rw [if_neg hn]
      apply ih
      simpa using h

theorem not_mem_collapse (names : List String) : ".." ∉ Path.collapse names := by
  rw [Path.collapse, List.mem_reverse]
  suffices hfold : ∀ back : List String, ".." ∉ back →
      ".." ∉ names.foldl (fun back n => if n = ".." then back.tail else n :: back) back from hfold [] List.not_mem_nil
  intro back hback
  induction names generalizing back with
  | nil => exact hback
  | cons n names ih =>
    rw [List.foldl_cons]
    apply ih
    split
    · exact fun hmem => hback (List.mem_of_mem_tail hmem)
    next hn => simp [Ne.symm hn, hback]

theorem mem_of_mem_collapse {names : List String} {n : String} (h : n ∈ Path.collapse names) : n ∈ names := by
  rw [Path.collapse, List.mem_reverse] at h
  suffices hfold : ∀ back : List String,
      n ∈ names.foldl (fun back n => if n = ".." then back.tail else n :: back) back → n ∈ back ∨ n ∈ names from
    (hfold [] h).resolve_left List.not_mem_nil
  clear h
  intro back h
  induction names generalizing back with
  | nil => exact Or.inl h
  | cons m names ih =>
    rw [List.foldl_cons] at h
    rcases ih _ h with hmem | hmem
    · split at hmem
      · exact Or.inl (List.mem_of_mem_tail hmem)
      · rcases List.mem_cons.mp hmem with rfl | hmem
        · exact Or.inr List.mem_cons_self
        · exact Or.inl hmem
    · exact Or.inr (List.mem_cons_of_mem m hmem)

/-- **A file is found at its absolute path too,** if the system takes the text of that path. -/
theorem find_resolve {t : Tree} {p : Path} {bytes : List UInt8} (h : t.find p = .ok (.file bytes)) :
    t.find p.resolve = if pathLimit < p.resolve.toString.utf8ByteSize then .error (refuse p.resolve .tooLong)
      else .ok (.file bytes) := by
  obtain ⟨place, hwalk, hat⟩ := find_eq_ok.mp h
  obtain ⟨hnul, -, hfollow⟩ := walk_eq_ok.mp hwalk
  cases place with
  | outside => cases hat
  | inside at_ =>
    have hstart : start p = .inside [] ∧ start p.resolve = .inside [] := by
      cases hanchor : p.anchor with
      | relative => simp [start, Path.resolve, hanchor]
      | workspace => simp [start, Path.resolve, hanchor]
      | top =>
        rw [start, hanchor] at hfollow
        cases follow_outside hfollow
      | doubleTop =>
        rw [start, hanchor] at hfollow
        cases follow_outside hfollow
    have hnames : p.resolve.names = Path.collapse p.names := by
      unfold Path.resolve
      split
      · rfl
      · rfl
    rw [hstart.1] at hfollow
    obtain rfl : at_ = Path.collapse p.names := eq_of_follow [] hfollow
    have hnul' : p.resolve.names.any hasNul = false := by
      rw [List.any_eq_false] at hnul ⊢
      intro n hn
      rw [hnames] at hn
      exact hnul n (mem_of_mem_collapse hn)
    split
    next hlong => simp only [find, walk, hnul', hlong, if_true, Bool.false_eq_true, if_false, bind, Except.bind]
    next hshort =>
      refine find_eq_ok.mpr ⟨.inside (Path.collapse p.names), walk_eq_ok.mpr ⟨hnul', hshort, ?_⟩, hat⟩
      rw [hstart.2, hnames]
      exact follow_below [] (not_mem_collapse p.names) hat

theorem isFile_resolve {t : Tree} {p : Path} (h : t.isFile p = .ok true) :
    Tree.absolute p = .ok p.resolve ∧
      t.isFile p.resolve = if pathLimit < p.resolve.toString.utf8ByteSize then .error (refuse p.resolve .tooLong)
        else .ok true := by
  obtain ⟨found, hlook, hfile⟩ := map_eq_ok h
  obtain ⟨u, rfl, hu⟩ := (Option.any_eq_true _ _).mp hfile
  have hfind := find_of_look hlook
  cases u with
  | dir es => cases hu
  | file bytes =>
    constructor
    · obtain ⟨place, hwalk, -⟩ := find_eq_ok.mp hfind
      rw [absolute, (walk_eq_ok.mp hwalk).1]
      rfl
    · rw [isFile, look, find_resolve hfind]
      by_cases hlong : pathLimit < p.resolve.toString.utf8ByteSize
      · rw [if_pos hlong, if_pos hlong]
        rfl
      · rw [if_neg hlong, if_neg hlong]
        rfl

end Tree

end ScenarioAudit
