import ScenarioAudit.Proofs.Corpus.Source
import ScenarioAudit.Proofs.Tree.Writing
import ScenarioAudit.Quality.Analysis

/-! # The files of a tree

The files that are looked at are those below no skipped directory, each of them once, and in an order that is told by
their places (`isWalk_filesBelow`): in a directory its files come before those of its directories, and both in the
order of names. Nothing else decides what is looked at, so the walk of a tree is the only list of files that is one
(`IsWalk.unique`), and a file that is taken away is the only one that is missing (`exists_walk_remove`).
-/

namespace ScenarioAudit

def Path.below (p : Path) (names : List String) : Path :=
  { p with names := p.names ++ names }

theorem Path.below_child (p : Path) (n : String) (names : List String) :
    (p.child n).below names = p.below (n :: names) := by
  simp [child, below]

theorem Path.below_injective (p : Path) {ns ms : List String} (h : p.below ns = p.below ms) : ns = ms := by
  simpa [below] using h

namespace Tree

/-! ## Trees without names that occur twice -/

mutual
/-- No directory of the tree has two entries of one name. -/
def Distinct : Tree → Prop
  | .file _ => True
  | .dir es => (es.map Prod.fst).Nodup ∧ AllDistinct es
def AllDistinct : List (String × Tree) → Prop
  | [] => True
  | (_, t) :: es => t.Distinct ∧ AllDistinct es
end

theorem allDistinct_iff {es : Entries} : AllDistinct es ↔ ∀ e ∈ es, e.2.Distinct := by
  induction es with
  | nil => simp [AllDistinct]
  | cons e es ih => rw [AllDistinct, ih, List.forall_mem_cons]

theorem distinct_dir {es : Entries} :
    (Tree.dir es).Distinct ↔ (es.map Prod.fst).Nodup ∧ ∀ e ∈ es, e.2.Distinct := by
  rw [Distinct, allDistinct_iff]

theorem entries_induction {P : Tree → Prop} (file : ∀ bytes, P (.file bytes))
    (dir : ∀ es : Entries, (∀ e ∈ es, P e.2) → P (.dir es)) : ∀ t, P t
  | .file bytes => file bytes
  | .dir es => dir es fun e _ => entries_induction file dir e.2
termination_by t => sizeOf t
decreasing_by
  have hlt := List.sizeOf_lt_of_mem ‹_›
  obtain ⟨n, u⟩ := e
  simp only [Prod.mk.sizeOf_spec] at hlt
  simp only [Tree.dir.sizeOf_spec]
  omega

/-! ## Trees without one file -/

theorem get?_erase (es : Entries) (n m : String) : (es.erase n).get? m = if m = n then none else es.get? m := by
  induction es with
  | nil => simp [Entries.erase, Entries.get?]
  | cons e es ih =>
    obtain ⟨k, u⟩ := e
    simp only [Entries.erase, ne_eq, decide_not] at ih ⊢
    by_cases hk : k = n
    · subst hk
      rw [List.filter_cons_of_neg (by simp), ih, Entries.get?]
      by_cases hm : m = k
      · rw [if_pos hm, if_pos hm]
      · rw [if_neg hm, if_neg hm, if_neg (Ne.symm hm)]
    · rw [List.filter_cons_of_pos (by simpa using hk), Entries.get?, Entries.get?, ih]
      by_cases hm : k = m
      · rw [if_pos hm, if_pos hm, if_neg (hm ▸ hk)]
      · rw [if_neg hm, if_neg hm]

theorem map_fst_set {es : Entries} {n : String} {v : Tree} (h : es.get? n = some v) (u : Tree) :
    (es.set n u).map Prod.fst = es.map Prod.fst := by
  induction es with
  | nil => cases h
  | cons e es ih =>
    obtain ⟨k, w⟩ := e
    rw [Entries.get?] at h
    rw [Entries.set]
    by_cases hk : k = n
    · rw [if_pos hk]
      rfl
    · rw [if_neg hk] at h ⊢
      rw [List.map_cons, List.map_cons, ih h]

theorem mem_set {es : Entries} {n : String} {u : Tree} {e : String × Tree} (h : e ∈ es.set n u) :
    e ∈ es ∨ e.2 = u := by
  induction es with
  | nil => exact Or.inr (by rw [List.mem_singleton.mp h])
  | cons e' es ih =>
    obtain ⟨k, w⟩ := e'
    rw [Entries.set] at h
    by_cases hk : k = n
    · rw [if_pos hk] at h
      rcases List.mem_cons.mp h with rfl | h
      · exact Or.inr rfl
      · exact Or.inl (List.mem_cons_of_mem _ h)
    · rw [if_neg hk] at h
      rcases List.mem_cons.mp h with rfl | h
      · exact Or.inl List.mem_cons_self
      · exact (ih h).imp_left (List.mem_cons_of_mem _)

theorem exists_entry_of_below {t : Tree} {n : String} {ns : List String} {bytes : List UInt8}
    (h : t.below? (n :: ns) = some (.file bytes)) :
    ∃ es u, t = .dir es ∧ Entries.get? es n = some u ∧ u.below? ns = some (.file bytes) := by
  cases t with
  | file b => cases h
  | dir es =>
    obtain ⟨u, hget, hbelow⟩ := Option.bind_eq_some_iff.mp h
    exact ⟨es, u, rfl, hget, hbelow⟩

theorem below_eq_file {t : Tree} {bytes : List UInt8} {ns : List String} (h : t.below? ns = some (.file bytes)) :
    ns = [] ↔ t.isDirNode = false := by
  cases ns with
  | nil =>
    cases h
    exact iff_of_true rfl rfl
  | cons n ns =>
    obtain ⟨es, u, rfl, -, -⟩ := exists_entry_of_below h
    exact iff_of_false (List.cons_ne_nil n ns) (by simp [isDirNode])

/-- What is taken away below a directory leaves a directory. -/
theorem exists_dir_remove (es : Entries) {names : List String} (hne : names ≠ []) :
    ∃ es', (Tree.dir es).remove names = .dir es' := by
  obtain ⟨n, ns, rfl⟩ := List.exists_cons_of_ne_nil hne
  rcases eq_or_ne ns [] with rfl | hns
  · exact ⟨_, rfl⟩
  · rw [remove_cons hns]
    rcases Entries.get? (Tree.dir es).entries n with _ | u
    · exact ⟨_, rfl⟩
    · exact ⟨_, rfl⟩

/-- Taking a file away makes no names that occur twice. -/
theorem Distinct.remove {t : Tree} {names : List String} {bytes : List UInt8} (h : t.Distinct)
    (hbelow : t.below? names = some (.file bytes)) : (t.remove names).Distinct := by
  induction names generalizing t with
  | nil => exact h
  | cons n ns ih =>
    obtain ⟨es, u, rfl, hget, hrest⟩ := exists_entry_of_below hbelow
    obtain ⟨hnames, hentries⟩ := distinct_dir.mp h
    rcases eq_or_ne ns [] with rfl | hns
    · have hsub : (Entries.erase es n).Sublist es := List.filter_sublist
      exact distinct_dir.mpr ⟨(hsub.map Prod.fst).nodup hnames, fun e he => hentries e (hsub.subset he)⟩
    · rw [remove_cons hns, entries, hget]
      refine distinct_dir.mpr ⟨(map_fst_set hget _).symm ▸ hnames, fun e he => ?_⟩
      rcases mem_set he with he | he
      · exact hentries e he
      · rw [he]
        exact ih (hentries (n, u) ((get?_eq_some hnames).mp hget)) hrest

/-- **A file that is taken away is the only one that is missing.** -/
theorem below_remove {t : Tree} {names : List String} {bytes : List UInt8}
    (h : t.below? names = some (.file bytes)) (hne : names ≠ []) (ms : List String) (b : List UInt8) :
    (t.remove names).below? ms = some (.file b) ↔ t.below? ms = some (.file b) ∧ ms ≠ names := by
  induction names generalizing t ms with
  | nil => exact absurd rfl hne
  | cons n ns ih =>
    obtain ⟨es, u, rfl, hget, hrest⟩ := exists_entry_of_below h
    cases ms with
    | nil =>
      obtain ⟨es', hes'⟩ := exists_dir_remove es (List.cons_ne_nil n ns)
      rw [hes']
      exact iff_of_false (by simp [below?]) (by simp [below?])
    | cons m ms =>
      rw [ne_eq, List.cons.injEq]
      rcases eq_or_ne ns [] with rfl | hns
      · show (Entries.get? (Entries.erase es n) m).bind (below? · ms) = _ ↔ (Entries.get? es m).bind (below? · ms) = _ ∧ _
        rw [get?_erase]
        by_cases hm : m = n
        · subst hm
          cases hrest
          rw [if_pos rfl, hget]
          cases ms with
          | nil => simp
          | cons k ms => simp [below?]
        · rw [if_neg hm]
          exact ⟨fun hms => ⟨hms, fun heq => hm heq.1⟩, And.left⟩
      · rw [remove_cons hns, entries, hget]
        show (Entries.get? (Entries.set es n (u.remove ns)) m).bind (below? · ms) = _ ↔
          (Entries.get? es m).bind (below? · ms) = _ ∧ _
        by_cases hm : m = n
        · subst hm
          rw [Entries.get?_set_self, hget, Option.bind_some, Option.bind_some, ih hrest hns]
          simp
        · rw [Entries.get?_set_ne es _ (Ne.symm hm)]
          exact ⟨fun hms => ⟨hms, fun heq => hm heq.1⟩, And.left⟩

/-- A directory that is there without a file is there with it. -/
theorem exists_dir_of_remove {t : Tree} {names : List String} {bytes : List UInt8}
    (h : t.below? names = some (.file bytes)) (hne : names ≠ []) {ms : List String} {es : Entries}
    (hms : (t.remove names).below? ms = some (.dir es)) : ∃ es', t.below? ms = some (.dir es') := by
  induction names generalizing t ms with
  | nil => exact absurd rfl hne
  | cons n ns ih =>
    obtain ⟨es₀, u, rfl, hget, hrest⟩ := exists_entry_of_below h
    cases ms with
    | nil => exact ⟨es₀, rfl⟩
    | cons m ms =>
      rcases eq_or_ne ns [] with rfl | hns
      · obtain ⟨v, hv, hbelow⟩ := Option.bind_eq_some_iff.mp hms
        rw [get?_erase] at hv
        split at hv
        · cases hv
        · exact ⟨es, Option.bind_eq_some_iff.mpr ⟨v, hv, hbelow⟩⟩
      · rw [remove_cons hns, entries, hget] at hms
        obtain ⟨v, hv, hbelow⟩ := Option.bind_eq_some_iff.mp hms
        by_cases hm : m = n
        · subst hm
          rw [Entries.get?_set_self] at hv
          obtain rfl := Option.some.inj hv
          obtain ⟨es', hes'⟩ := ih hrest hns hbelow
          exact ⟨es', Option.bind_eq_some_iff.mpr ⟨u, hget, hes'⟩⟩
        · rw [Entries.get?_set_ne es₀ _ (Ne.symm hm)] at hv
          exact ⟨es, Option.bind_eq_some_iff.mpr ⟨v, hv, hbelow⟩⟩

end Tree

/-! ## The order of a walk -/

/-- A place below no skipped directory. -/
def IsOpen (names : List String) : Prop :=
  ∀ n ∈ names.dropLast, n ∉ skippedDirectories

instance (names : List String) : Decidable (IsOpen names) :=
  List.decidableBAll _ _

/-- A place to which a walk gets from a directory with some text: it lists every directory on the way. -/
def Listed (text : String) : List String → Prop
  | [] => True
  | n :: ns => text.utf8ByteSize ≤ Tree.pathLimit ∧ Listed (entryText text n) ns

/-- Of two places, the first one comes first in a walk: where they part, a file comes before a directory, and two
files or two directories come in the order of names. -/
inductive WalkBefore : List String → List String → Prop where
  | file {n m : String} (h : n < m) : WalkBefore [n] [m]
  | fileFirst (n d : String) {ns : List String} (hns : ns ≠ []) : WalkBefore [n] (d :: ns)
  | directory {d e : String} {ns ms : List String} (h : d < e) (hns : ns ≠ []) (hms : ms ≠ []) :
      WalkBefore (d :: ns) (e :: ms)
  | inside (d : String) {ns ms : List String} (h : WalkBefore ns ms) : WalkBefore (d :: ns) (d :: ms)

theorem WalkBefore.ne_nil {ns ms : List String} (h : WalkBefore ns ms) : ns ≠ [] ∧ ms ≠ [] := by
  cases h
  all_goals exact ⟨List.cons_ne_nil _ _, List.cons_ne_nil _ _⟩

theorem WalkBefore.asymm {ns ms : List String} (h : WalkBefore ns ms) : ¬ WalkBefore ms ns := by
  induction h with
  | file h =>
    intro h'
    cases h' with
    | file h' => exact String.lt_asymm h h'
    | fileFirst _ _ hns => exact hns rfl
    | directory _ hns => exact hns rfl
    | inside _ h' => exact h'.ne_nil.1 rfl
  | fileFirst n d hns =>
    intro h'
    cases h' with
    | file _ => exact hns rfl
    | fileFirst _ _ hnil => exact hnil rfl
    | directory _ _ hnil => exact hnil rfl
    | inside _ h' => exact h'.ne_nil.2 rfl
  | directory h hns hms =>
    intro h'
    cases h' with
    | file _ => exact hns rfl
    | fileFirst _ _ _ => exact hms rfl
    | directory h' _ _ => exact String.lt_asymm h h'
    | inside _ _ => exact String.lt_irrefl _ h
  | inside d h ih =>
    intro h'
    cases h' with
    | file h' => exact String.lt_irrefl _ h'
    | fileFirst _ _ _ => exact h.ne_nil.2 rfl
    | directory h' _ _ => exact String.lt_irrefl _ h'
    | inside _ h' => exact ih h'

/-- Of two files below a path, the first one comes first in a walk. -/
def Precedes (here : Path) (f g : SourceFile) : Prop :=
  ∃ ns ms, f.path = here.below ns ∧ g.path = here.below ms ∧ WalkBefore ns ms

theorem Precedes.of_child {here : Path} {n : String} {f g : SourceFile} (h : Precedes (here.child n) f g) :
    Precedes here f g := by
  obtain ⟨ns, ms, hf, hg, h⟩ := h
  exact ⟨n :: ns, n :: ms, hf.trans (Path.below_child here n ns), hg.trans (Path.below_child here n ms), .inside n h⟩

theorem Precedes.asymm {here : Path} {f g : SourceFile} (h : Precedes here f g) : ¬ Precedes here g f := by
  obtain ⟨ns, ms, hf, hg, h⟩ := h
  rintro ⟨ms', ns', hg', hf', h'⟩
  rw [here.below_injective (hf.symm.trans hf'), here.below_injective (hg.symm.trans hg')] at h
  exact h.asymm h'

/-- The files of a tree that are below no skipped directory and below none that is not listed, in the order of a
walk. -/
structure IsWalk (t : Tree) (here : Path) (text : String) (files : List SourceFile) : Prop where
  mem_iff : ∀ f, f ∈ files ↔ ∃ names, t.below? names = some (.file f.bytes) ∧ IsOpen names ∧ Listed text names ∧
    f.path = here.below names
  sorted : files.Pairwise (Precedes here)

theorem IsWalk.nodup {t : Tree} {here : Path} {text : String} {files : List SourceFile}
    (h : IsWalk t here text files) : files.Nodup :=
  h.sorted.imp (by
    rintro f g hfg rfl
    exact hfg.asymm hfg)

/-- **There is one walk only** of the files that a tree has. -/
theorem IsWalk.unique {t : Tree} {here : Path} {text : String} {files files' : List SourceFile}
    (h : IsWalk t here text files) (h' : IsWalk t here text files') : files = files' := by
  have hperm : files.Perm files' :=
    (List.perm_ext_iff_of_nodup h.nodup h'.nodup).mpr fun f => (h.mem_iff f).trans (h'.mem_iff f).symm
  exact List.Perm.eq_of_pairwise (fun _ _ _ _ hfg hgf => absurd hgf hfg.asymm) h.sorted h'.sorted hperm

/-! ## The walk of a directory -/

theorem walkEntries_eq (here : Path) (text : String) (es : Tree.Entries) :
    walkEntries here text es =
      es.map fun e => ⟨e.1, e.2.isDirNode, filesBelow (here.child e.1) (entryText text e.1) e.2⟩ := by
  induction es with
  | nil => rw [walkEntries, List.map_nil]
  | cons e es ih => rw [walkEntries, ih, List.map_cons]

theorem mem_inOrder {ws : List WalkEntry} {f : SourceFile} :
    f ∈ WalkEntry.inOrder ws ↔
      ∃ w ∈ ws, (w.isDirectory = true → w.name ∉ skippedDirectories) ∧ f ∈ w.files := by
  simp only [WalkEntry.inOrder, WalkEntry.sorted, List.mem_append, List.mem_flatMap, List.mem_mergeSort,
    List.mem_filter]
  constructor
  · rintro (⟨w, ⟨hw, hfile⟩, hf⟩ | ⟨w, ⟨hw, hdir⟩, hf⟩)
    · exact ⟨w, hw, by simp_all, hf⟩
    · exact ⟨w, hw, by simp_all, hf⟩
  · rintro ⟨w, hw, hopen, hf⟩
    cases hdir : w.isDirectory
    · exact Or.inl ⟨w, ⟨hw, by simp [hdir]⟩, hf⟩
    · exact Or.inr ⟨w, ⟨hw, by simp [hdir, hopen hdir]⟩, hf⟩

theorem isOpen_cons {n : String} {ns : List String} :
    IsOpen (n :: ns) ↔ (ns ≠ [] → n ∉ skippedDirectories) ∧ IsOpen ns := by
  cases ns with
  | nil => simp [IsOpen]
  | cons m ms => simp [IsOpen]

/-- An entry whose files are in the order of a walk, each at a place below the entry. -/
structure WalkEntry.Sorted (here : Path) (w : WalkEntry) : Prop where
  place : ∀ f ∈ w.files, ∃ ns, f.path = here.below (w.name :: ns) ∧ (ns = [] ↔ w.isDirectory = false)
  sorted : w.files.Pairwise (Precedes here)

/-- Entries of different names in the order of their names. -/
theorem pairwise_sorted {ws : List WalkEntry} (hnames : (ws.map WalkEntry.name).Nodup) :
    (WalkEntry.sorted ws).Pairwise fun v w => v.name < w.name := by
  have hne : (WalkEntry.sorted ws).Pairwise fun v w => v.name ≠ w.name := by
    have hperm : ((WalkEntry.sorted ws).map WalkEntry.name).Perm (ws.map WalkEntry.name) :=
      (List.mergeSort_perm ws _).map _
    exact List.pairwise_map.mp (hperm.nodup_iff.mpr hnames)
  refine (hne.and (pairwise_mergeSort_by WalkEntry.name ws)).imp ?_
  rintro v w ⟨hvw, hle⟩
  exact String.not_le.mp fun hge => hvw (String.le_antisymm hle hge)

/-- The files of a directory come first, and then those of its directories, each in the order of names. -/
theorem pairwise_inOrder {here : Path} {ws : List WalkEntry} (hnames : (ws.map WalkEntry.name).Nodup)
    (h : ∀ w ∈ ws, w.Sorted here) : (WalkEntry.inOrder ws).Pairwise (Precedes here) := by
  -- Entries of one sort that come in the order of names bring their files in the order of a walk.
  have hone (p : WalkEntry → Bool) (hp : ∀ v w, p v = true → p w = true → v.isDirectory = w.isDirectory) :
      ((WalkEntry.sorted (ws.filter p)).flatMap (·.files)).Pairwise (Precedes here) := by
    have hsub : (ws.filter p).Sublist ws := List.filter_sublist
    have hmem (w : WalkEntry) (hw : w ∈ WalkEntry.sorted (ws.filter p)) : w.Sorted here ∧ p w = true := by
      rw [WalkEntry.sorted, List.mem_mergeSort, List.mem_filter] at hw
      exact ⟨h w hw.1, hw.2⟩
    refine List.pairwise_flatMap.mpr ⟨fun w hw => (hmem w hw).1.sorted, ?_⟩
    have hlt := pairwise_sorted ((hsub.map WalkEntry.name).nodup hnames)
    refine hlt.imp_of_mem ?_
    intro v w hv hw hvw f hf g hg
    obtain ⟨ns, hfplace, hns⟩ := (hmem v hv).1.place f hf
    obtain ⟨ms, hgplace, hms⟩ := (hmem w hw).1.place g hg
    rw [hp v w (hmem v hv).2 (hmem w hw).2] at hns
    refine ⟨_, _, hfplace, hgplace, ?_⟩
    cases hdir : w.isDirectory
    · rw [hns.mpr hdir, hms.mpr hdir]
      exact .file hvw
    · rw [hdir] at hns hms
      exact .directory hvw (by simp [hns]) (by simp [hms])
  refine List.pairwise_append.mpr ⟨hone _ ?_, hone _ ?_, ?_⟩
  · simp_all
  · simp_all
  · intro f hf g hg
    simp only [WalkEntry.sorted, List.mem_flatMap, List.mem_mergeSort, List.mem_filter, Bool.not_eq_true',
      Bool.and_eq_true] at hf hg
    obtain ⟨v, ⟨hv, hfile⟩, hf⟩ := hf
    obtain ⟨w, ⟨hw, hdir, -⟩, hg⟩ := hg
    obtain ⟨ns, hfplace, hns⟩ := (h v hv).place f hf
    obtain ⟨ms, hgplace, hms⟩ := (h w hw).place g hg
    refine ⟨_, _, hfplace, hgplace, ?_⟩
    rw [hns.mpr hfile]
    exact .fileFirst _ _ (by simp [hms, hdir])

theorem mem_filesBelow_file {here : Path} {text : String} {bytes : List UInt8} {f : SourceFile} :
    f ∈ filesBelow here text (.file bytes) ↔ ∃ names, (Tree.file bytes).below? names = some (.file f.bytes) ∧
      IsOpen names ∧ Listed text names ∧ f.path = here.below names := by
  rw [filesBelow, List.mem_singleton]
  constructor
  · rintro rfl
    exact ⟨[], rfl, by simp [IsOpen], trivial, by simp [Path.below]⟩
  · rintro ⟨names, hbelow, -, -, hpath⟩
    obtain rfl := (Tree.below_eq_file hbelow).mpr rfl
    obtain ⟨path, bytes'⟩ := f
    cases hbelow
    simpa [Path.below] using hpath

/-- The files of a directory that is listed are those of its entries. -/
theorem mem_walkEntries {here : Path} {text : String} {es : Tree.Entries} (hnames : (es.map Prod.fst).Nodup)
    (hwalk : ∀ e ∈ es, IsWalk e.2 (here.child e.1) (entryText text e.1)
      (filesBelow (here.child e.1) (entryText text e.1) e.2))
    (hshort : text.utf8ByteSize ≤ Tree.pathLimit) {f : SourceFile} :
    f ∈ WalkEntry.inOrder (walkEntries here text es) ↔ ∃ names, (Tree.dir es).below? names = some (.file f.bytes) ∧
      IsOpen names ∧ Listed text names ∧ f.path = here.below names := by
  rw [mem_inOrder, walkEntries_eq]
  constructor
  · rintro ⟨w, hw, hopen, hf⟩
    obtain ⟨e, he, rfl⟩ := List.mem_map.mp hw
    obtain ⟨ns, hbelow, hns, hlisted, hpath⟩ := ((hwalk e he).mem_iff f).mp hf
    refine ⟨e.1 :: ns, ?_, isOpen_cons.mpr ⟨fun hne => hopen ?_, hns⟩, ⟨hshort, hlisted⟩,
      hpath.trans (here.below_child e.1 ns)⟩
    · rw [Tree.below?, (Tree.get?_eq_some hnames).mpr he]
      exact hbelow
    · rw [← Bool.not_eq_false]
      exact fun hfile => hne ((Tree.below_eq_file hbelow).mpr hfile)
  · rintro ⟨names, hbelow, hopen, hlisted, hpath⟩
    cases names with
    | nil => cases hbelow
    | cons n ns =>
      obtain ⟨es', u, heq, hget, hrest⟩ := Tree.exists_entry_of_below hbelow
      cases heq
      have he := (Tree.get?_eq_some hnames).mp hget
      obtain ⟨hskip, hns⟩ := isOpen_cons.mp hopen
      refine ⟨_, List.mem_map.mpr ⟨(n, u), he, rfl⟩, fun hdir => hskip fun hnil => ?_,
        ((hwalk (n, u) he).mem_iff f).mpr ⟨ns, hrest, hns, hlisted.2, hpath.trans (here.below_child n ns).symm⟩⟩
      rw [(Tree.below_eq_file hrest).mp hnil] at hdir
      cases hdir

/-- **What is looked at are the files below no skipped directory, each of them once, in the order of a walk.** -/
theorem isWalk_filesBelow {t : Tree} (h : t.Distinct) (here : Path) (text : String) :
    IsWalk t here text (filesBelow here text t) := by
  induction t using Tree.entries_induction generalizing here text with
  | file bytes =>
    refine ⟨fun f => mem_filesBelow_file, ?_⟩
    rw [filesBelow]
    exact List.pairwise_singleton _ _
  | dir es ih =>
    obtain ⟨hnames, hentries⟩ := Tree.distinct_dir.mp h
    have hwalk (e : String × Tree) (he : e ∈ es) := ih e he (hentries e he) (here.child e.1) (entryText text e.1)
    rw [filesBelow]
    split
    next hlong =>
      refine ⟨fun f => iff_of_false List.not_mem_nil ?_, .nil⟩
      rintro ⟨names, hbelow, -, hlisted, -⟩
      cases names with
      | nil => cases hbelow
      | cons n ns => exact Nat.not_le.mpr hlong hlisted.1
    next hshort =>
      refine ⟨fun f => mem_walkEntries hnames hwalk (Nat.not_lt.mp hshort), ?_⟩
      rw [walkEntries_eq]
      refine pairwise_inOrder ?_ fun w hw => ?_
      · rw [List.map_map]
        exact hnames
      · obtain ⟨e, he, rfl⟩ := List.mem_map.mp hw
        refine ⟨fun f hf => ?_, (hwalk e he).sorted.imp Precedes.of_child⟩
        obtain ⟨ns, hbelow, -, -, hpath⟩ := ((hwalk e he).mem_iff f).mp hf
        exact ⟨ns, hpath.trans (here.below_child e.1 ns), Tree.below_eq_file hbelow⟩

/-! ## How deep a walk gets -/

/-- The directories that a walk gets into, from one with some text, are in fewer directories than `room`. -/
def Shallow (t : Tree) (text : String) (room : ℕ) : Prop :=
  ∀ names es, t.below? names = some (.dir es) → (∀ n ∈ names, n ∉ skippedDirectories) → Listed text names →
    names.length < room

theorem deepestEntry_le_iff {text : String} {es : Tree.Entries} {room : ℕ} :
    deepestEntry text es ≤ room ↔
      ∀ e ∈ es, e.1 ∉ skippedDirectories → walkDepth (entryText text e.1) e.2 ≤ room := by
  induction es with
  | nil => simp [deepestEntry]
  | cons e es ih =>
    rw [deepestEntry, Nat.max_le, ih, List.forall_mem_cons]
    refine and_congr_left fun _ => ?_
    split
    · simp_all
    · simp_all

theorem walkDepth_le_iff {t : Tree} (h : t.Distinct) {text : String} {room : ℕ} :
    walkDepth text t ≤ room ↔ Shallow t text room := by
  induction t using Tree.entries_induction generalizing text room with
  | file bytes =>
    rw [walkDepth]
    refine iff_of_true (Nat.zero_le room) fun names es hbelow => ?_
    cases names
    all_goals cases hbelow
  | dir es ih =>
    obtain ⟨hnames, hentries⟩ := Tree.distinct_dir.mp h
    have hroot (hshallow : Shallow (.dir es) text room) : 0 < room :=
      hshallow [] es rfl (fun _ hn => absurd hn List.not_mem_nil) trivial
    rw [walkDepth]
    split
    next hlong =>
      refine ⟨fun hroom names es' _ _ hlisted => ?_, hroot⟩
      cases names with
      | nil => exact hroom
      | cons n ns => exact absurd hlisted.1 (Nat.not_le.mpr hlong)
    next hshort =>
      cases room with
      | zero => exact iff_of_false (Nat.not_succ_le_zero _) fun hshallow => Nat.lt_irrefl 0 (hroot hshallow)
      | succ room =>
        rw [Nat.add_le_add_iff_right, deepestEntry_le_iff]
        constructor
        · intro hall names es' hbelow hopen hlisted
          cases names with
          | nil => exact Nat.succ_pos room
          | cons n ns =>
            obtain ⟨u, hget, hrest⟩ := Option.bind_eq_some_iff.mp hbelow
            have he := (Tree.get?_eq_some hnames).mp hget
            obtain ⟨hn, hns⟩ := List.forall_mem_cons.mp hopen
            have hshallow := (ih (n, u) he (hentries (n, u) he)).mp (hall (n, u) he hn)
            exact Nat.succ_lt_succ (hshallow ns es' hrest hns hlisted.2)
        · intro hshallow e he hn
          refine (ih e he (hentries e he)).mpr fun ns es' hrest hns hlisted => ?_
          have hbelow : (Tree.dir es).below? (e.1 :: ns) = some (.dir es') := by
            rw [Tree.below?, (Tree.get?_eq_some hnames).mpr he]
            exact hrest
          exact Nat.lt_of_succ_lt_succ
            (hshallow (e.1 :: ns) es' hbelow (List.forall_mem_cons.mpr ⟨hn, hns⟩) ⟨Nat.not_lt.mp hshort, hlisted⟩)

theorem Shallow.remove {t : Tree} {text : String} {room : ℕ} (h : Shallow t text room) {names : List String}
    {bytes : List UInt8} (hbelow : t.below? names = some (.file bytes)) (hne : names ≠ []) :
    Shallow (t.remove names) text room := by
  intro ms es hms hopen hlisted
  obtain ⟨es', hes'⟩ := Tree.exists_dir_of_remove hbelow hne hms
  exact h ms es' hes' hopen hlisted

/-! ## A walk without one file -/

/-- **Without one of its files, the walk of a tree is the same but for that file.** -/
theorem exists_walk_remove {t : Tree} (h : t.Distinct) (here : Path) (text : String) {names : List String}
    {bytes : List UInt8} (hbelow : t.below? names = some (.file bytes)) (hne : names ≠ []) (hopen : IsOpen names)
    (hlisted : Listed text names) :
    ∃ before after, filesBelow here text t = before ++ ⟨here.below names, bytes⟩ :: after ∧
      filesBelow here text (t.remove names) = before ++ after := by
  have hwalk := isWalk_filesBelow h here text
  obtain ⟨before, after, hsplit⟩ :=
    List.append_of_mem ((hwalk.mem_iff ⟨here.below names, bytes⟩).mpr ⟨names, hbelow, hopen, hlisted, rfl⟩)
  refine ⟨before, after, hsplit, (isWalk_filesBelow (h.remove hbelow) here text).unique ⟨fun f => ?_, ?_⟩⟩
  · have hnodup := hwalk.nodup
    rw [hsplit, List.nodup_middle, List.nodup_cons] at hnodup
    have hmem := hwalk.mem_iff f
    rw [hsplit, List.perm_middle.mem_iff, List.mem_cons] at hmem
    constructor
    · intro hf
      obtain ⟨ns, hns, hns', hlisted', hpath⟩ := hmem.mp (Or.inr hf)
      refine ⟨ns, (Tree.below_remove hbelow hne ns f.bytes).mpr ⟨hns, ?_⟩, hns', hlisted', hpath⟩
      rintro rfl
      obtain ⟨path, bytes'⟩ := f
      cases hpath
      cases hns.symm.trans hbelow
      exact hnodup.1 hf
    · rintro ⟨ns, hns, hns', hlisted', hpath⟩
      obtain ⟨hns, hother⟩ := (Tree.below_remove hbelow hne ns f.bytes).mp hns
      refine (hmem.mpr ⟨ns, hns, hns', hlisted', hpath⟩).resolve_left ?_
      rintro rfl
      exact hother (here.below_injective hpath).symm
  · have hsorted := hwalk.sorted
    rw [hsplit] at hsorted
    exact hsorted.sublist ((List.sublist_cons_self _ _).append_left before)

end ScenarioAudit
