import Mathlib.Data.List.Nodup
import ScenarioAudit.Framework.Detection
import ScenarioAudit.Proofs.Corpus.Directory
import ScenarioAudit.Proofs.Quality.Walk

/-! # Files level by level

The search for files goes down one level at a time. At every level it holds the directories with so many names below
the root, each once (`IsLevel`), and their entries are the next level (`IsLevel.entries`), so what it finds in a number
of levels are the files with at most so many names (`mem_filesWithin`). Neither deeper files nor the order in which
entries are listed matter for the framework that suffixes point to (`fromSuffixes_levels`).
-/

namespace ScenarioAudit

open ScenarioAudit.Text

/-! ## Filtering with trouble -/

section Filter

variable {α β : Type} {p : α → Except Trouble Bool}

theorem filterAuxM_map_eq_ok {f : β → α} {q : β → Bool} {xs : List β} (h : ∀ x ∈ xs, p (f x) = .ok (q x))
    (acc : List α) : (xs.map f).filterAuxM p acc = .ok (((xs.filter q).map f).reverse ++ acc) := by
  induction xs generalizing acc with
  | nil => rfl
  | cons x xs ih =>
    rw [List.forall_mem_cons] at h
    rw [List.map_cons, List.filterAuxM, h.1]
    show List.filterAuxM p (xs.map f) (cond (q x) (f x :: acc) acc) = _
    rw [ih h.2, List.filter_cons]
    cases q x
    · rfl
    · simp

theorem filterM_map_eq_ok {f : β → α} {q : β → Bool} {xs : List β} (h : ∀ x ∈ xs, p (f x) = .ok (q x)) :
    (xs.map f).filterM p = .ok ((xs.filter q).map f) := by
  rw [List.filterM, filterAuxM_map_eq_ok h]
  show Except.ok _ = _
  rw [List.append_nil, List.reverse_reverse]

theorem exists_of_filterAuxM {xs acc ys : List α} (h : xs.filterAuxM p acc = .ok ys) : ∀ x ∈ xs, ∃ b, p x = .ok b := by
  induction xs generalizing acc with
  | nil => nofun
  | cons x xs ih =>
    rw [List.filterAuxM] at h
    obtain ⟨b, hb, h⟩ := bind_eq_ok h
    exact List.forall_mem_cons.mpr ⟨⟨b, hb⟩, ih h⟩

/-- What was filtered was asked item by item. -/
theorem exists_of_filterM {xs ys : List α} (h : xs.filterM p = .ok ys) : ∀ x ∈ xs, ∃ b, p x = .ok b := by
  rw [List.filterM] at h
  obtain ⟨zs, hzs, -⟩ := bind_eq_ok h
  exact exists_of_filterAuxM hzs

end Filter

@[simp] theorem Path.below_nil (p : Path) : p.below [] = p := by
  simp [below]

theorem Path.below_concat (p : Path) (ns : List String) (n : String) : p.below (ns ++ [n]) = (p.below ns).child n := by
  simp [below, child]

namespace Tree

variable {t u : Tree} {root : Path}

/-! ## Trees as a file system has them -/

/-- A tree as a file system has it: the entries of a directory have different names, and none of them is the way up or
holds a NUL. -/
structure WellNamed (u : Tree) : Prop where
  distinct : u.Distinct
  named : ∀ names v, u.below? names = some v → ∀ n ∈ names, n ≠ ".." ∧ hasNul n = false

/-- The system takes the paths of all places with more than `above` and at most `depth` names below a path. -/
def TakesWithin (u : Tree) (root : Path) (above depth : ℕ) : Prop :=
  ∀ names v, u.below? names = some v → above < names.length → names.length ≤ depth →
    (root.below names).toString.utf8ByteSize ≤ pathLimit

/-- Two trees are alike to a depth: at each place with so many names they both have a file, a directory or nothing. -/
def SameWithin (depth : ℕ) (u v : Tree) : Prop :=
  ∀ names, names.length ≤ depth → (u.below? names).map isDirNode = (v.below? names).map isDirNode

/-- The second tree is the first one with the entries of its directories in another order. -/
inductive Rearranged : Tree → Tree → Prop where
  | refl (u : Tree) : Rearranged u u
  | listed {es es' : Entries} (h : es.Perm es') : Rearranged (.dir es) (.dir es')
  | inside {v w : Tree} (before : Entries) (n : String) (after : Entries) (h : Rearranged v w) :
      Rearranged (.dir (before ++ (n, v) :: after)) (.dir (before ++ (n, w) :: after))
  | trans {u v w : Tree} (h : Rearranged u v) (h' : Rearranged v w) : Rearranged u w

theorem Distinct.below {names : List String} {v : Tree} (h : u.Distinct) (hv : u.below? names = some v) :
    v.Distinct := by
  induction names generalizing u with
  | nil =>
    cases hv
    exact h
  | cons n names ih =>
    cases u with
    | file bytes => cases hv
    | dir es =>
      obtain ⟨w, hget, hbelow⟩ := Option.bind_eq_some_iff.mp hv
      obtain ⟨hnames, hentries⟩ := distinct_dir.mp h
      exact ih (hentries _ ((get?_eq_some hnames).mp hget)) hbelow

/-- What holds at the root and at all places below its entries holds at all places. -/
theorem forall_below_dir {es : Entries} (hnames : (es.map Prod.fst).Nodup) {P : List String → Tree → Prop} :
    (∀ names v, (Tree.dir es).below? names = some v → P names v) ↔
      P [] (.dir es) ∧ ∀ e ∈ es, ∀ names v, e.2.below? names = some v → P (e.1 :: names) v := by
  constructor
  · refine fun h => ⟨h [] _ rfl, fun e he names v hv => h _ v ?_⟩
    rw [below?, (get?_eq_some hnames).mpr he]
    exact hv
  · rintro ⟨hroot, hentries⟩ names v hv
    cases names with
    | nil =>
      cases hv
      exact hroot
    | cons n names =>
      obtain ⟨w, hget, hbelow⟩ := Option.bind_eq_some_iff.mp hv
      exact hentries (n, w) ((get?_eq_some hnames).mp hget) names v hbelow

theorem forall_below_file {bytes : List UInt8} {P : List String → Tree → Prop} :
    (∀ names v, (Tree.file bytes).below? names = some v → P names v) ↔ P [] (.file bytes) := by
  refine ⟨fun h => h [] _ rfl, fun h names v hv => ?_⟩
  cases names with
  | nil =>
    cases hv
    exact h
  | cons n names => cases hv

theorem get?_middle (before : Entries) (n : String) (v : Tree) (after : Entries) (m : String) :
    Entries.get? (before ++ (n, v) :: after) m =
      (Entries.get? before m).or (if n = m then some v else Entries.get? after m) := by
  induction before with
  | nil => rfl
  | cons e before ih =>
    rw [List.cons_append, Entries.get?, Entries.get?, ih]
    split
    · rfl
    · rfl

/-- **The order of entries does not matter for what is at a place.** -/
theorem Rearranged.same {v : Tree} (h : Rearranged u v) (hu : u.Distinct) :
    v.Distinct ∧ ∀ names, (u.below? names).map isDirNode = (v.below? names).map isDirNode := by
  induction h with
  | refl u => exact ⟨hu, fun _ => rfl⟩
  | listed h =>
    obtain ⟨hnames, hentries⟩ := distinct_dir.mp hu
    have hnames' := (h.map Prod.fst).nodup_iff.mp hnames
    refine ⟨distinct_dir.mpr ⟨hnames', fun e he => hentries e (h.mem_iff.mpr he)⟩, fun names => ?_⟩
    cases names with
    | nil => rfl
    | cons n names =>
      have hget (w : Tree) : Entries.get? _ n = some w ↔ Entries.get? _ n = some w :=
        (get?_eq_some hnames).trans (h.mem_iff.trans (get?_eq_some hnames').symm)
      rw [below?, below?, Option.ext hget]
  | inside before n after h ih =>
    obtain ⟨hnames, hentries⟩ := distinct_dir.mp hu
    obtain ⟨hdistinct, hsame⟩ := ih (hentries (n, _) (by simp))
    constructor
    · refine distinct_dir.mpr ⟨by simpa using hnames, fun e he => ?_⟩
      rcases List.mem_append.mp he with he | he
      · exact hentries e (List.mem_append_left _ he)
      · rcases List.mem_cons.mp he with rfl | he
        · exact hdistinct
        · exact hentries e (List.mem_append_right _ (List.mem_cons_of_mem _ he))
    · intro names
      cases names with
      | nil => rfl
      | cons m names =>
        rw [below?, below?, get?_middle, get?_middle]
        cases Entries.get? before m with
        | some w => rfl
        | none =>
          rw [Option.none_or, Option.none_or]
          split
          · exact hsame names
          · rfl
  | trans _ _ ih ih' =>
    obtain ⟨hv, hsame⟩ := ih hu
    obtain ⟨hw, hsame'⟩ := ih' hv
    exact ⟨hw, fun names => (hsame names).trans (hsame' names)⟩

/-! ## Levels -/

/-- These places, each of them once, are those with so many names at which there is something of a kind. -/
structure IsLevel (u : Tree) (count : ℕ) (kind : Tree → Bool) (places : List (List String)) : Prop where
  nodup : places.Nodup
  mem_iff : ∀ names, names ∈ places ↔ names.length = count ∧ (u.below? names).any kind = true

/-- The entries of the directory at a place, in the order of names. -/
def entriesAt (u : Tree) (place : List String) : Entries :=
  ((u.below? place).elim [] entries).mergeSort fun a b => decide (a.1 ≤ b.1)

def childPlaces (u : Tree) (place : List String) : List (List String) :=
  (u.entriesAt place).map fun e => place ++ [e.1]

theorem mem_childPlaces {u : Tree} (h : u.Distinct) {place names : List String} :
    names ∈ u.childPlaces place ↔ ∃ n, names = place ++ [n] ∧ (u.below? names).isSome = true := by
  simp only [childPlaces, entriesAt, List.mem_map, List.mem_mergeSort]
  cases hplace : u.below? place with
  | none =>
    have hnone (n : String) : u.below? (place ++ [n]) = none := by rw [below_append, hplace]; rfl
    simp only [Option.elim_none, List.not_mem_nil, false_and, exists_false, false_iff, not_exists]
    rintro n ⟨rfl, hsome⟩
    rw [hnone] at hsome
    cases hsome
  | some v =>
    cases v with
    | file bytes =>
      have hnone (n : String) : u.below? (place ++ [n]) = none := by rw [below_append, hplace]; rfl
      simp only [Option.elim_some, entries, List.not_mem_nil, false_and, exists_false, false_iff, not_exists]
      rintro n ⟨rfl, hsome⟩
      rw [hnone] at hsome
      cases hsome
    | dir es =>
      have hnames := (distinct_dir.mp (h.below hplace)).1
      constructor
      · rintro ⟨e, he, rfl⟩
        refine ⟨e.1, rfl, ?_⟩
        rw [below_concat hplace, (get?_eq_some hnames).mpr he]
        rfl
      · rintro ⟨n, rfl, hsome⟩
        obtain ⟨v, hv⟩ := Option.isSome_iff_exists.mp hsome
        rw [below_concat hplace] at hv
        exact ⟨(n, v), (get?_eq_some hnames).mp hv, rfl⟩

theorem nodup_childPlaces {u : Tree} (h : u.Distinct) (place : List String) : (u.childPlaces place).Nodup := by
  have hnames : (((u.below? place).elim [] entries).map Prod.fst).Nodup := by
    cases hplace : u.below? place with
    | none => exact List.nodup_nil
    | some v =>
      cases v with
      | file bytes => exact List.nodup_nil
      | dir es => exact (distinct_dir.mp (h.below hplace)).1
  have hsorted : ((u.entriesAt place).map Prod.fst).Nodup :=
    ((List.mergeSort_perm _ _).map Prod.fst).nodup_iff.mpr hnames
  have hmap : u.childPlaces place = ((u.entriesAt place).map Prod.fst).map (place ++ [·]) := by
    rw [List.map_map]
    rfl
  rw [hmap]
  exact hsorted.map fun n m heq => by simpa using heq

namespace IsLevel

variable {count : ℕ} {places : List (List String)}

theorem zero {es : Entries} : (Tree.dir es).IsLevel 0 isDirNode [[]] where
  nodup := List.nodup_singleton _
  mem_iff := by
    intro names
    rw [List.mem_singleton, List.length_eq_zero_iff]
    exact ⟨fun h => ⟨h, by rw [h]; rfl⟩, And.left⟩

/-- **The entries of the directories of a level are everything one level further down.** -/
theorem entries (h : u.IsLevel count isDirNode places) (hu : u.Distinct) :
    u.IsLevel (count + 1) (fun _ => true) (places.flatMap u.childPlaces) where
  nodup := by
    refine List.nodup_flatMap.mpr ⟨fun place _ => nodup_childPlaces hu place, h.nodup.imp ?_⟩
    intro d d' hne names hd hd'
    obtain ⟨n, rfl, -⟩ := (mem_childPlaces hu).mp hd
    obtain ⟨n', heq, -⟩ := (mem_childPlaces hu).mp hd'
    exact hne (List.append_inj_left' heq rfl)
  mem_iff := by
    intro names
    rw [List.mem_flatMap]
    constructor
    · rintro ⟨place, hplace, hnames⟩
      obtain ⟨n, rfl, hsome⟩ := (mem_childPlaces hu).mp hnames
      exact ⟨by simp [((h.mem_iff place).mp hplace).1], by simpa using hsome⟩
    · rintro ⟨hlength, hsome⟩
      obtain ⟨place, n, rfl⟩ : ∃ place n, names = place ++ [n] := by
        rcases List.eq_nil_or_concat names with rfl | ⟨place, n, rfl⟩
        · cases hlength
        · exact ⟨place, n, List.concat_eq_append⟩
      obtain ⟨v, hv, -⟩ := (Option.any_eq_true _ _).mp hsome
      obtain ⟨es, hes, -⟩ := exists_parent hv
      refine ⟨place, (h.mem_iff place).mpr ⟨by simpa using hlength, ?_⟩, (mem_childPlaces hu).mpr ⟨n, rfl, ?_⟩⟩
      · rw [hes]
        rfl
      · rw [hv]
        rfl

theorem filter (h : u.IsLevel count (fun _ => true) places) (kind : Tree → Bool) :
    u.IsLevel count kind (places.filter fun names => (u.below? names).any kind) where
  nodup := h.nodup.filter _
  mem_iff := by
    intro names
    rw [List.mem_filter, h.mem_iff, and_assoc]
    refine and_congr_right fun _ => ⟨And.right, fun hkind => ⟨?_, hkind⟩⟩
    obtain ⟨v, hv, -⟩ := (Option.any_eq_true _ _).mp hkind
    rw [hv]
    rfl

theorem mem_files (h : u.IsLevel count (!isDirNode ·) places) (names : List String) :
    names ∈ places ↔ names.length = count ∧ ∃ bytes, u.below? names = some (.file bytes) := by
  rw [h.mem_iff]
  refine and_congr_right fun _ => ⟨fun hany => ?_, fun ⟨bytes, hbytes⟩ => by rw [hbytes]; rfl⟩
  obtain ⟨v, hv, hkind⟩ := (Option.any_eq_true _ _).mp hany
  cases v with
  | file bytes => exact ⟨bytes, hv⟩
  | dir es => cases hkind

end IsLevel

/-! ## Going down -/

/-- What is one name below a directory that is found is found too, unless its path is too long. -/
theorem look_below (hu : u.WellNamed) {place : List String} {n : String} {v : Tree}
    (hfound : ∀ w, u.below? place = some w → t.find (root.below place) = .ok w)
    (hv : u.below? (place ++ [n]) = some v) :
    t.look (root.below (place ++ [n])) =
      if pathLimit < (root.below (place ++ [n])).toString.utf8ByteSize then
        .error (refuse (root.below (place ++ [n])) .tooLong)
      else .ok (some v) := by
  obtain ⟨es, hes, hget⟩ := exists_parent hv
  obtain ⟨hup, hnul⟩ := hu.named _ _ hv n (by simp)
  rw [Path.below_concat, look, find_child (hfound _ hes) hget hup hnul]
  by_cases hlong : pathLimit < ((root.below place).child n).toString.utf8ByteSize
  · rw [if_pos hlong, if_pos hlong]
    rfl
  · rw [if_neg hlong, if_neg hlong]

/-- The directories that are gone through, each found at its path. -/
def FindsAll (t u : Tree) (root : Path) (places : List (List String)) : Prop :=
  ∀ place ∈ places, ∀ v, u.below? place = some v → t.find (root.below place) = .ok v

theorem entriesOf_below {places : List (List String)} {count : ℕ} (hplaces : u.IsLevel count isDirNode places)
    (hfinds : FindsAll t u root places) :
    entriesOf t (places.map root.below) = (places.flatMap u.childPlaces).map root.below := by
  rw [entriesOf, List.flatMap_map, List.map_flatMap]
  refine List.flatMap_congr fun place hplace => ?_
  obtain ⟨v, hv, hdir⟩ := (Option.any_eq_true _ _).mp ((hplaces.mem_iff place).mp hplace).2
  cases v with
  | file bytes => cases hdir
  | dir es =>
    rw [list, hfinds place hplace _ hv, childPlaces, entriesAt, hv, List.map_map]
    refine List.map_congr_left fun e _ => ?_
    exact (root.below_concat place e.1).symm

theorem look_entry (hu : u.WellNamed) {places : List (List String)} (hfinds : FindsAll t u root places)
    {names : List String} (hnames : names ∈ places.flatMap u.childPlaces) :
    t.look (root.below names) =
      if pathLimit < (root.below names).toString.utf8ByteSize then .error (refuse (root.below names) .tooLong)
      else .ok (u.below? names) := by
  obtain ⟨place, hplace, hchild⟩ := List.mem_flatMap.mp hnames
  obtain ⟨n, rfl, hsome⟩ := (mem_childPlaces hu.distinct).mp hchild
  obtain ⟨v, hv⟩ := Option.isSome_iff_exists.mp hsome
  rw [look_below hu (hfinds place hplace) hv, hv]

/-- The paths of the entries of a level are such that the system takes them. -/
def TakesChildren (u : Tree) (root : Path) (places : List (List String)) : Prop :=
  ∀ names ∈ places.flatMap u.childPlaces, (root.below names).toString.utf8ByteSize ≤ pathLimit

section Level

variable {places : List (List String)} {count : ℕ}

/-- To take what is more names down is to take the entries of the level and what is below these. -/
theorem takesWithin_succ (hplaces : u.IsLevel count isDirNode places) (hu : u.Distinct) (depth : ℕ) :
    u.TakesWithin root count (count + (depth + 1)) ↔
      u.TakesChildren root places ∧ u.TakesWithin root (count + 1) (count + 1 + depth) := by
  have hentries := hplaces.entries hu
  constructor
  · intro h
    refine ⟨fun names hnames => ?_, fun names v hv hlt hle => h names v hv (by omega) (by omega)⟩
    obtain ⟨hlength, hsome⟩ := (hentries.mem_iff names).mp hnames
    obtain ⟨v, hv, -⟩ := (Option.any_eq_true _ _).mp hsome
    exact h names v hv (by omega) (by omega)
  · rintro ⟨hchildren, hbelow⟩ names v hv hlt hle
    by_cases hlength : names.length = count + 1
    · exact hchildren names ((hentries.mem_iff names).mpr ⟨hlength, by rw [hv]; rfl⟩)
    · exact hbelow names v hv (by omega) (by omega)

/-- The directories and the files among the entries of a level. -/
def childrenOf (u : Tree) (kind : Tree → Bool) (places : List (List String)) : List (List String) :=
  (places.flatMap u.childPlaces).filter fun names => (u.below? names).any kind

theorem IsLevel.childrenOf (h : u.IsLevel count isDirNode places) (hu : u.Distinct) (kind : Tree → Bool) :
    u.IsLevel (count + 1) kind (u.childrenOf kind places) :=
  (h.entries hu).filter kind

/-- The directories of the next level are found if the system takes the entries. -/
theorem FindsAll.next (hu : u.WellNamed)
    (hfinds : FindsAll t u root places) (htakes : u.TakesChildren root places) :
    FindsAll t u root (u.childrenOf isDirNode places) := by
  intro names hnames v hv
  have hchild := (List.mem_filter.mp hnames).1
  have hlook := look_entry hu hfinds hchild
  rw [if_neg (Nat.not_lt.mpr (htakes names hchild)), hv, look] at hlook
  split at hlook
  next w hw =>
    cases hlook
    exact hw
  next =>
    split at hlook
    · cases hlook
    · cases hlook

/-- **One level down.** If the system takes the entries, those that are files are found and those that are directories
are the next level. -/
theorem filesWithin_step (hu : u.WellNamed) (hplaces : u.IsLevel count isDirNode places)
    (hfinds : FindsAll t u root places) (htakes : u.TakesChildren root places) (depth : ℕ) :
    filesWithin t (depth + 1) (places.map root.below) =
      (filesWithin t depth ((u.childrenOf isDirNode places).map root.below)).map
        ((u.childrenOf (!isDirNode ·) places).map root.below ++ ·) := by
  have hlook : ∀ names ∈ places.flatMap u.childPlaces, t.look (root.below names) = .ok (u.below? names) := by
    intro names hnames
    rw [look_entry hu hfinds hnames, if_neg (Nat.not_lt.mpr (htakes names hnames))]
  have hdirectories : ((places.flatMap u.childPlaces).map root.below).filterM t.isDir =
      .ok ((u.childrenOf isDirNode places).map root.below) :=
    filterM_map_eq_ok fun names hnames => by rw [isDir, hlook names hnames]; rfl
  have hfiles : ((places.flatMap u.childPlaces).map root.below).filterM t.isFile =
      .ok ((u.childrenOf (!isDirNode ·) places).map root.below) :=
    filterM_map_eq_ok fun names hnames => by rw [isFile, hlook names hnames]; rfl
  rw [filesWithin, entriesOf_below hplaces hfinds, hdirectories, hfiles]
  show (filesWithin t depth ((u.childrenOf isDirNode places).map root.below)).bind _ = _
  cases filesWithin t depth ((u.childrenOf isDirNode places).map root.below) with
  | error e => rfl
  | ok files => rfl

/-- What is found below a level is found through its entries, so the system takes these. -/
theorem takesChildren_of_filesWithin (hu : u.WellNamed) (hplaces : u.IsLevel count isDirNode places)
    (hfinds : FindsAll t u root places) {depth : ℕ} {files : List Path}
    (h : filesWithin t (depth + 1) (places.map root.below) = .ok files) : u.TakesChildren root places := by
  intro names hnames
  rw [filesWithin, entriesOf_below hplaces hfinds] at h
  obtain ⟨directories, hdirectories, -⟩ := bind_eq_ok h
  obtain ⟨b, hb⟩ := exists_of_filterM hdirectories _ (List.mem_map_of_mem hnames)
  by_contra hlong
  rw [isDir, look_entry hu hfinds hnames, if_pos (Nat.not_le.mp hlong)] at hb
  cases hb

/-- **The search goes through exactly if the system takes all paths on the way.** -/
theorem exists_filesWithin_iff (hu : u.WellNamed) (hplaces : u.IsLevel count isDirNode places)
    (hfinds : FindsAll t u root places) (depth : ℕ) :
    (∃ files, filesWithin t depth (places.map root.below) = .ok files) ↔
      u.TakesWithin root count (count + depth) := by
  induction depth generalizing places count with
  | zero =>
    refine iff_of_true ⟨[], rfl⟩ fun names v _ hlt hle => ?_
    omega
  | succ depth ih =>
    rw [takesWithin_succ hplaces hu.distinct]
    constructor
    · rintro ⟨files, h⟩
      have htakes := takesChildren_of_filesWithin hu hplaces hfinds h
      refine ⟨htakes, (ih (hplaces.childrenOf hu.distinct _) (hfinds.next hu htakes)).mp ?_⟩
      rw [filesWithin_step hu hplaces hfinds htakes] at h
      obtain ⟨rest, hrest, -⟩ := map_eq_ok h
      exact ⟨rest, hrest⟩
    · rintro ⟨htakes, hbelow⟩
      obtain ⟨rest, hrest⟩ := (ih (hplaces.childrenOf hu.distinct _) (hfinds.next hu htakes)).mpr hbelow
      exact ⟨_, by rw [filesWithin_step hu hplaces hfinds htakes, hrest]; rfl⟩

/-- **In a number of levels the files are found that have more names than the level they start from, and at most so many
more,** each of them once. -/
theorem mem_filesWithin (hu : u.WellNamed) (hplaces : u.IsLevel count isDirNode places)
    (hfinds : FindsAll t u root places) {depth : ℕ} {files : List Path}
    (h : filesWithin t depth (places.map root.below) = .ok files) :
    ∃ found : List (List String), files = found.map root.below ∧ found.Nodup ∧
      ∀ names, names ∈ found ↔
        count < names.length ∧ names.length ≤ count + depth ∧ ∃ bytes, u.below? names = some (.file bytes) := by
  induction depth generalizing places count files with
  | zero =>
    cases h
    refine ⟨[], rfl, List.nodup_nil, fun names => ?_⟩
    simp only [List.not_mem_nil, false_iff]
    omega
  | succ depth ih =>
    have htakes := takesChildren_of_filesWithin hu hplaces hfinds h
    have hfiles := hplaces.childrenOf hu.distinct (!isDirNode ·)
    rw [filesWithin_step hu hplaces hfinds htakes] at h
    obtain ⟨rest, hrest, rfl⟩ := map_eq_ok h
    obtain ⟨found, rfl, hnodup, hmem⟩ := ih (hplaces.childrenOf hu.distinct _) (hfinds.next hu htakes) hrest
    refine ⟨u.childrenOf (!isDirNode ·) places ++ found, (List.map_append ..).symm, ?_, fun names => ?_⟩
    · refine List.nodup_append.mpr ⟨hfiles.nodup, hnodup, fun names hnames names' hnames' heq => ?_⟩
      have hlength := ((hfiles.mem_files names).mp hnames).1
      have hlength' := ((hmem names').mp hnames').1
      rw [heq] at hlength
      omega
    · rw [List.mem_append, hfiles.mem_files, hmem]
      constructor
      · rintro (⟨hlength, hfile⟩ | ⟨hlt, hle, hfile⟩)
        · exact ⟨by omega, by omega, hfile⟩
        · exact ⟨by omega, by omega, hfile⟩
      · rintro ⟨hlt, hle, hfile⟩
        by_cases hlength : names.length = count + 1
        · exact .inl ⟨hlength, hfile⟩
        · exact .inr ⟨by omega, by omega, hfile⟩

end Level

/-- A search that starts from a directory starts from the only place without a name. -/
theorem findsAll_zero {es : Entries} (hroot : t.find root = .ok (.dir es)) : FindsAll t (.dir es) root [[]] := by
  intro place hplace v hv
  rw [List.mem_singleton.mp hplace] at hv ⊢
  cases hv
  rw [Path.below_nil, hroot]

end Tree

/-! ## Suffixes -/

/-- Some file at most so many names below a path has one of the suffixes. -/
def HoldsSuffix (u : Tree) (root : Path) (depth : ℕ) (suffixes : List String) : Prop :=
  ∃ names bytes, names.length ≤ depth ∧ u.below? names = some (.file bytes) ∧ (root.below names).suffix ∈ suffixes

/-- The first rule, in their order, that has the suffix of some file at most so many names below a path. -/
def IsFirstRule (u : Tree) (root : Path) (depth : ℕ) (rule : List String × String) : Prop :=
  ∃ before after, suffixRules = before ++ rule :: after ∧ HoldsSuffix u root depth rule.1 ∧
    ∀ earlier ∈ before, ¬ HoldsSuffix u root depth earlier.1

theorem isFirstRule_iff {u : Tree} {root : Path} {depth : ℕ} {holds : List String → Bool}
    (h : ∀ suffixes, holds suffixes = true ↔ HoldsSuffix u root depth suffixes) (rule : List String × String) :
    suffixRules.find? (holds ·.1) = some rule ↔ IsFirstRule u root depth rule := by
  rw [List.find?_eq_some_iff_append, IsFirstRule, h]
  constructor
  · rintro ⟨hholds, before, after, heq, hnot⟩
    exact ⟨before, after, heq, hholds, fun earlier hmem hheld => by simpa [(h _).mpr hheld] using hnot earlier hmem⟩
  · rintro ⟨before, after, heq, hholds, hnot⟩
    refine ⟨hholds, before, after, heq, fun earlier hmem => ?_⟩
    rw [Bool.not_eq_true', Bool.eq_false_iff, Ne, h]
    exact hnot earlier hmem

theorem HoldsSuffix.alike {u v : Tree} {root : Path} {depth : ℕ} {suffixes : List String}
    (h : HoldsSuffix u root depth suffixes) (hsame : u.SameWithin depth v) : HoldsSuffix v root depth suffixes := by
  obtain ⟨names, bytes, hle, hfile, hsuffix⟩ := h
  have hkind := hsame names hle
  rw [hfile] at hkind
  obtain ⟨w, hw, hnot⟩ := Option.map_eq_some_iff.mp hkind.symm
  cases w with
  | file bytes' => exact ⟨names, bytes', hle, hw, hsuffix⟩
  | dir es => cases hnot

namespace Tree

variable {u v w : Tree} {root : Path} {depth : ℕ}

theorem SameWithin.refl : u.SameWithin depth u :=
  fun _ _ => rfl

theorem SameWithin.symm (h : u.SameWithin depth v) : v.SameWithin depth u :=
  fun names hle => (h names hle).symm

theorem SameWithin.trans (h : u.SameWithin depth v) (h' : v.SameWithin depth w) : u.SameWithin depth w :=
  fun names hle => (h names hle).trans (h' names hle)

theorem SameWithin.zero {es es' : Entries} : (Tree.dir es).SameWithin 0 (.dir es') := by
  intro names hle
  rw [List.length_eq_zero_iff.mp (Nat.le_zero.mp hle)]
  rfl

/-- Directories are alike to a depth whose entries have the same names and are alike to one level less. -/
theorem SameWithin.dir {es es' : Entries} (h : es.Forall₂ (fun e e' => e.1 = e'.1 ∧ e.2.SameWithin depth e'.2) es') :
    (Tree.dir es).SameWithin (depth + 1) (.dir es') := by
  intro names hle
  cases names with
  | nil => rfl
  | cons n names =>
    rw [below?, below?]
    induction h with
    | nil => rfl
    | @cons e e' rest rest' he _ ih =>
      obtain ⟨m, v⟩ := e
      obtain ⟨m', v'⟩ := e'
      obtain ⟨rfl, hv⟩ := he
      by_cases hm : m = n
      · rw [Entries.get?, Entries.get?, if_pos hm, if_pos hm]
        exact hv names (Nat.le_of_succ_le_succ hle)
      · rw [Entries.get?, Entries.get?, if_neg hm, if_neg hm]
        exact ih

theorem Rearranged.sameWithin (h : Rearranged u v) (hu : u.Distinct) (depth : ℕ) : u.SameWithin depth v :=
  fun names _ => (h.same hu).2 names

theorem TakesWithin.alike (h : u.TakesWithin root 0 depth) (hsame : u.SameWithin depth v) :
    v.TakesWithin root 0 depth := by
  intro names w hw hlt hle
  have hkind := hsame names hle
  rw [hw] at hkind
  obtain ⟨w', hw', -⟩ := Option.map_eq_some_iff.mp hkind
  exact h names w' hw' hlt hle

end Tree

namespace Registry

/-- The profile of the first rule that has the suffix of some file among three levels. -/
theorem fromSuffixes_eq {t : Tree} {root : Path} {es : Tree.Entries} (hroot : t.find root = .ok (.dir es))
    (hnamed : (Tree.dir es).WellNamed) (htakes : (Tree.dir es).TakesWithin root 0 3) (r : Registry) :
    ∃ holds : List String → Bool, (∀ suffixes, holds suffixes = true ↔ HoldsSuffix (.dir es) root 3 suffixes) ∧
      r.fromSuffixes t root = .ok ((suffixRules.find? (holds ·.1)).bind fun rule => r.get? rule.2) := by
  have hfinds := Tree.findsAll_zero hroot
  obtain ⟨files, hfiles⟩ := (Tree.exists_filesWithin_iff hnamed .zero hfinds 3).mpr (by rwa [Nat.zero_add])
  obtain ⟨found, rfl, -, hmem⟩ := Tree.mem_filesWithin hnamed .zero hfinds hfiles
  refine ⟨fun suffixes => suffixes.any ((found.map root.below).map Path.suffix).contains, fun suffixes => ?_, ?_⟩
  · rw [List.any_eq_true]
    constructor
    · rintro ⟨suffix, hsuffix, hcontains⟩
      obtain ⟨p, hp, rfl⟩ := List.mem_map.mp (List.contains_iff_mem.mp hcontains)
      obtain ⟨names, hnames, rfl⟩ := List.mem_map.mp hp
      obtain ⟨-, hle, bytes, hbytes⟩ := (hmem names).mp hnames
      exact ⟨names, bytes, by omega, hbytes, hsuffix⟩
    · rintro ⟨names, bytes, hle, hbytes, hsuffix⟩
      have hne : 0 < names.length := by
        cases names with
        | nil => cases hbytes
        | cons n names => exact Nat.succ_pos _
      have hnames := (hmem names).mpr ⟨hne, by omega, bytes, hbytes⟩
      exact ⟨_, hsuffix, List.contains_iff_mem.mpr (List.mem_map_of_mem (List.mem_map_of_mem hnames))⟩
  · rw [List.map_singleton, Path.below_nil] at hfiles
    have hdir : t.isDir root = .ok true := by rw [Tree.isDir, Tree.look, hroot]; rfl
    rw [fromSuffixes, hdir, sniffDepth]
    show Except.bind (filesWithin t 3 [root]) _ = _
    rw [hfiles]
    dsimp only [Except.bind]
    cases suffixRules.find? fun rule => rule.1.any ((found.map root.below).map Path.suffix).contains with
    | none => rfl
    | some rule => rfl

theorem isSome_get?_rule : ∀ rule ∈ suffixRules, (standard.get? rule.2).isSome = true := by
  decide +kernel

theorem profile_eq_none_iff (first : Option (List String × String))
    (h : ∀ rule, first = some rule → rule ∈ suffixRules) :
    (first.bind fun rule => standard.get? rule.2) = none ↔ first = none := by
  cases first with
  | none => exact iff_of_true rfl rfl
  | some rule =>
    have hprofile := isSome_get?_rule rule (h rule rfl)
    refine iff_of_false (fun hnone => ?_) (Option.some_ne_none rule)
    rw [Option.bind_some] at hnone
    rw [hnone] at hprofile
    cases hprofile

end Registry

/-- **Files of exactly three levels tell the framework.** From a directory, the search goes so many levels down if the
system takes the paths on the way, and finds each file with at most so many names below it once and nothing else. The
profile is that of the first rule that has the suffix of a file among three levels, and none without such a file. Deeper
files and the order in which directories are listed make no difference. -/
theorem fromSuffixes_levels {t : Tree} {root : Path} {es : Tree.Entries} (hroot : t.find root = .ok (.dir es))
    (hnamed : (Tree.dir es).WellNamed) :
    (∀ depth, (∃ files, filesWithin t depth [root] = .ok files) ↔ (Tree.dir es).TakesWithin root 0 depth) ∧
      (∀ depth files, filesWithin t depth [root] = .ok files → files.Nodup ∧
        ∀ p, p ∈ files ↔ ∃ names bytes, 1 ≤ names.length ∧ names.length ≤ depth ∧
          (Tree.dir es).below? names = some (.file bytes) ∧ p = root.below names) ∧
      ((Tree.dir es).TakesWithin root 0 3 → ∃ found, Registry.standard.fromSuffixes t root = .ok found ∧
        (∀ p, found = some p ↔
          ∃ rule, IsFirstRule (.dir es) root 3 rule ∧ Registry.standard.get? rule.2 = some p) ∧
        (found = none ↔ ∀ rule ∈ suffixRules, ¬ HoldsSuffix (.dir es) root 3 rule.1) ∧
        ∀ u t' es', Tree.Rearranged (.dir es) u → u.SameWithin 3 (.dir es') → (Tree.dir es').WellNamed →
          t'.find root = .ok (.dir es') → Registry.standard.fromSuffixes t' root = .ok found) := by
  have hfinds := Tree.findsAll_zero hroot
  refine ⟨fun depth => ?_, fun depth files hfiles => ?_, fun htakes => ?_⟩
  · have hiff := Tree.exists_filesWithin_iff hnamed .zero hfinds depth
    rwa [List.map_singleton, Path.below_nil, Nat.zero_add] at hiff
  · rw [← Path.below_nil root, ← List.map_singleton] at hfiles
    obtain ⟨found, rfl, hnodup, hmem⟩ := Tree.mem_filesWithin hnamed .zero hfinds hfiles
    refine ⟨hnodup.map fun _ _ => root.below_injective, fun p => ?_⟩
    rw [List.mem_map]
    constructor
    · rintro ⟨names, hnames, rfl⟩
      obtain ⟨hlt, hle, bytes, hbytes⟩ := (hmem names).mp hnames
      exact ⟨names, bytes, hlt, by omega, hbytes, rfl⟩
    · rintro ⟨names, bytes, hlt, hle, hbytes, rfl⟩
      exact ⟨names, (hmem names).mpr ⟨hlt, by omega, bytes, hbytes⟩, rfl⟩
  · obtain ⟨holds, hholds, hfound⟩ := Registry.standard.fromSuffixes_eq hroot hnamed htakes
    refine ⟨_, hfound, fun p => ?_, ?_, ?_⟩
    · rw [Option.bind_eq_some_iff]
      exact exists_congr fun rule => and_congr_left fun _ => isFirstRule_iff hholds rule
    · have hnone := Registry.profile_eq_none_iff (suffixRules.find? (holds ·.1)) fun _ => List.mem_of_find?_eq_some
      rw [hnone, List.find?_eq_none]
      exact forall₂_congr fun rule _ => not_congr (hholds rule.1)
    · intro u t' es' hrearranged hsame hnamed' hroot'
      have halike := (hrearranged.sameWithin hnamed.distinct 3).trans hsame
      obtain ⟨holds', hholds', hfound'⟩ := Registry.standard.fromSuffixes_eq hroot' hnamed' (htakes.alike halike)
      have heq : holds' = holds := by
        funext suffixes
        rw [Bool.eq_iff_iff, hholds, hholds']
        exact ⟨fun h => h.alike halike.symm, fun h => h.alike halike⟩
      rw [hfound', heq]

/-- A source of one language at the top, one of another two levels below it, and some entries one level further down. -/
def mixedSources (deep : Tree.Entries) : Tree.Entries :=
  [("main.rs", .file []), ("pkg", .dir [("a", .dir [("b", .dir deep), ("x.go", .file [])])])]

/-- The framework is that of the language that comes first within three levels; without the deep file and with the
directory listed the other way round it is the same. -/
theorem fromSuffixes_levels_mixed :
    (∃ files, filesWithin (.dir (mixedSources [("deep.py", .file [])])) 3 [Path.here] = .ok files ∧
      Path.here.below ["pkg", "a", "x.go"] ∈ files ∧ Path.here.below ["pkg", "a", "b", "deep.py"] ∉ files) ∧
    Registry.standard.fromSuffixes (.dir (mixedSources []).reverse) Path.here =
      .ok (Registry.standard.get? "godog") := by
  have hmixed : (Tree.dir (mixedSources [("deep.py", .file [])])).WellNamed := by
    constructor
    · simp [mixedSources, Tree.Distinct, Tree.AllDistinct]
    · simp [mixedSources, Tree.forall_below_dir, Tree.forall_below_file]
      decide
  have hpruned : (Tree.dir (mixedSources []).reverse).WellNamed := by
    constructor
    · simp [mixedSources, Tree.Distinct, Tree.AllDistinct]
    · simp [mixedSources, Tree.forall_below_dir, Tree.forall_below_file]
      decide
  have htakes : (Tree.dir (mixedSources [("deep.py", .file [])])).TakesWithin Path.here 0 3 := by
    simp only [Tree.TakesWithin, mixedSources]
    simp [Tree.forall_below_dir, Tree.forall_below_file]
    decide
  have hsuffix : ∀ names v, (Tree.dir (mixedSources [("deep.py", .file [])])).below? names = some v →
      names.length ≤ 3 → v.isDirNode = false → (Path.here.below names).suffix ∈ [".rs", ".go"] := by
    simp [mixedSources, Tree.forall_below_dir, Tree.forall_below_file, Tree.isDirNode]
    decide
  have hfirst : IsFirstRule (.dir (mixedSources [("deep.py", .file [])])) Path.here 3 ([".go"], "godog") := by
    refine ⟨[([".py"], "pytest-bdd"), ([".ts", ".js"], "@cucumber/cucumber")], _, rfl, ?_, ?_⟩
    · exact ⟨["pkg", "a", "x.go"], [], le_rfl, rfl, by decide⟩
    · rintro earlier hmem ⟨names, bytes, hle, hfile, hin⟩
      have hnot : ∀ e ∈ [([".py"], "pytest-bdd"), ([".ts", ".js"], "@cucumber/cucumber")],
          ∀ s ∈ e.1, s ∉ [".rs", ".go"] := by
        decide
      exact hnot earlier hmem _ hin (hsuffix names _ hfile hle rfl)
  obtain ⟨hwithin, hmem, hfound⟩ := @fromSuffixes_levels _ Path.here _ rfl hmixed
  obtain ⟨files, hfiles⟩ := (hwithin 3).mpr htakes
  obtain ⟨found, -, hprofile, -, halike⟩ := hfound htakes
  have hgodog : found = Registry.standard.get? "godog" := by
    obtain ⟨p, hp⟩ := Option.isSome_iff_exists.mp (Registry.isSome_get?_rule ([".go"], "godog") (by simp [suffixRules]))
    rw [(hprofile p).mpr ⟨_, hfirst, hp⟩, hp]
  refine ⟨⟨files, hfiles, ((hmem 3 files hfiles).2 _).mpr ⟨_, [], by decide, le_rfl, rfl, rfl⟩, fun hdeep => ?_⟩, ?_⟩
  · obtain ⟨names, bytes, -, hle, -, heq⟩ := ((hmem 3 files hfiles).2 _).mp hdeep
    rw [← Path.here.below_injective heq] at hle
    exact absurd hle (by decide)
  · have hdeeper (deep deep' : Tree.Entries) :
        (Tree.dir (mixedSources deep).reverse).SameWithin 3 (.dir (mixedSources deep').reverse) :=
      .dir (.cons ⟨rfl, .dir (.cons ⟨rfl, .dir (.cons ⟨rfl, .zero⟩ (.cons ⟨rfl, .refl⟩ .nil))⟩ .nil)⟩
        (.cons ⟨rfl, .refl⟩ .nil))
    rw [← hgodog]
    exact halike _ _ _ (.listed (List.reverse_perm _).symm) (hdeeper _ _) hpruned rfl

end ScenarioAudit
