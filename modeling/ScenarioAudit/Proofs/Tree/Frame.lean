import Mathlib.Data.Set.Image
import ScenarioAudit.Proofs.Tree

/-! # What changes a tree leaves as it is

Between two trees files may be written at some places and directories made at some others; `Within` says that nothing
else has happened. Then every path leads where it led (`Within.follow`), and where no directory was made, a path that
leads to a directory led to it before (`Within.follow_back`). A change right inside of one directory is framed if that
directory is (`Within.put`).
-/

namespace ScenarioAudit.Tree

/-! ## Entries -/

namespace Entries

def fileNames (es : Entries) : List String :=
  (es.filter fun e => !e.2.isDirNode).map Prod.fst

theorem set_set (es : Entries) (n : String) (u v : Tree) : (es.set n u).set n v = es.set n v := by
  induction es with
  | nil => simp [set]
  | cons e es ih =>
    obtain ⟨m, w⟩ := e
    by_cases hm : m = n <;> simp [set, hm, ih]

theorem set_get {es : Entries} {n : String} {u : Tree} (h : es.get? n = some u) : es.set n u = es := by
  induction es with
  | nil => cases h
  | cons e es ih =>
    obtain ⟨m, w⟩ := e
    by_cases hm : m = n
    · simp only [get?, if_pos hm, Option.some.injEq] at h
      simp [set, hm, h]
    · simp only [get?, if_neg hm] at h
      simp [set, hm, ih h]

theorem erase_set {es : Entries} {n : String} (h : es.get? n = none) (u : Tree) : (es.set n u).erase n = es := by
  induction es with
  | nil => simp [set, erase]
  | cons e es ih =>
    obtain ⟨m, w⟩ := e
    by_cases hm : m = n
    · simp [get?, hm] at h
    · simp only [get?, if_neg hm] at h
      have hrest := ih h
      simp only [erase, ne_eq, decide_not] at hrest
      simp [set, erase, hm, hrest]

theorem fileNames_set_new {es : Entries} {n : String} (h : es.get? n = none) (u : Tree) :
    (es.set n u).fileNames = es.fileNames ++ if u.isDirNode then [] else [n] := by
  induction es with
  | nil => cases hu : u.isDirNode <;> simp [set, fileNames, hu]
  | cons e es ih =>
    obtain ⟨m, w⟩ := e
    by_cases hm : m = n
    · simp [get?, hm] at h
    · simp only [get?, if_neg hm] at h
      have hrest := ih h
      rw [fileNames, fileNames] at hrest
      cases hw : w.isDirNode <;> simp [set, fileNames, hm, hw, hrest]

/-- An entry that stays a file or stays a directory keeps its place. -/
theorem fileNames_set_old {es : Entries} {n : String} {u v : Tree} (h : es.get? n = some v)
    (huv : u.isDirNode = v.isDirNode) : (es.set n u).fileNames = es.fileNames := by
  induction es with
  | nil => cases h
  | cons e es ih =>
    obtain ⟨m, w⟩ := e
    by_cases hm : m = n
    · simp only [get?, if_pos hm, Option.some.injEq] at h
      subst h
      cases hw : w.isDirNode <;> simp [set, fileNames, hm, huv, hw]
    · simp only [get?, if_neg hm] at h
      have hrest := ih h
      rw [fileNames, fileNames] at hrest
      cases hw : w.isDirNode <;> simp [set, fileNames, hm, hw, hrest]

end Entries

/-! ## Frames -/

/-- From one view of a tree to another one, files were written at some places only and directories made at some places
only. All else is as it was: files, directories and the names of the files in them. -/
structure Framed (written made : Set (List String)) (view view' : List String → Option Tree) : Prop where
  /-- A directory stays, and its files keep their names; new ones come only from writing. -/
  dir {at_ : List String} {es : Entries} (h : view at_ = some (.dir es)) :
    ∃ es', view' at_ = some (.dir es') ∧
      ∀ n, (Entries.fileNames es).count n ≤ (Entries.fileNames es').count n ∧
        (at_ ++ [n] ∉ written → (Entries.fileNames es').count n = (Entries.fileNames es).count n)
  /-- A new directory is one that was made. -/
  made {at_ : List String} {es' : Entries} (h : view' at_ = some (.dir es')) :
    at_ ∈ made ∨ ∃ es, view at_ = some (.dir es)
  /-- What was not written has its old content, and there is no new file among it. -/
  file {at_ : List String} (h : at_ ∉ written) (bytes : List UInt8) :
    view' at_ = some (.file bytes) ↔ view at_ = some (.file bytes)
  /-- What was written stays a file. -/
  written {at_ : List String} {bytes : List UInt8} (h : view at_ = some (.file bytes)) :
    ∃ bytes', view' at_ = some (.file bytes')
  /-- Nothing gets a name that is too long. -/
  fits {at_ : List String} {n : String} (hn : nameLimit < n.utf8ByteSize) (h : view (at_ ++ [n]) = none) :
    view' (at_ ++ [n]) = none

/-- From one tree to the other, only some places were written and only some directories made. -/
abbrev Within (written made : Set (List String)) (t t' : Tree) : Prop :=
  Framed written made t.below? t'.below?

namespace Framed

variable {written made written' made' : Set (List String)} {view view' view'' : List String → Option Tree}

theorem refl (view : List String → Option Tree) : Framed ∅ ∅ view view where
  dir h := ⟨_, h, fun _ => ⟨le_rfl, fun _ => rfl⟩⟩
  made h := Or.inr ⟨_, h⟩
  file _ _ := Iff.rfl
  written h := ⟨_, h⟩
  fits _ h := h

theorem mono (h : Framed written made view view') (hwritten : written ⊆ written') (hmade : made ⊆ made') :
    Framed written' made' view view' where
  dir hat := by
    obtain ⟨es', hes', hcount⟩ := h.dir hat
    exact ⟨es', hes', fun n => ⟨(hcount n).1, fun hn => (hcount n).2 fun hmem => hn (hwritten hmem)⟩⟩
  made hat := (h.made hat).imp (fun hmem => hmade hmem) id
  file hat bytes := h.file (fun hmem => hat (hwritten hmem)) bytes
  written hat := h.written hat
  fits hn hat := h.fits hn hat

theorem trans (h : Framed written made view view') (h' : Framed written' made' view' view'') :
    Framed (written ∪ written') (made ∪ made') view view'' where
  dir hat := by
    obtain ⟨es', hes', hcount⟩ := h.dir hat
    obtain ⟨es'', hes'', hcount'⟩ := h'.dir hes'
    refine ⟨es'', hes'', fun n => ⟨(hcount n).1.trans (hcount' n).1, fun hn => ?_⟩⟩
    rw [Set.mem_union, not_or] at hn
    exact ((hcount' n).2 hn.2).trans ((hcount n).2 hn.1)
  made hat := by
    rcases h'.made hat with hmem | ⟨es', hes'⟩
    · exact Or.inl (Or.inr hmem)
    · exact (h.made hes').imp Or.inl id
  file hat bytes := by
    rw [Set.mem_union, not_or] at hat
    exact (h'.file hat.2 bytes).trans (h.file hat.1 bytes)
  written hat := by
    obtain ⟨bytes', hbytes'⟩ := h.written hat
    exact h'.written hbytes'
  fits hn hat := h'.fits hn (h.fits hn hat)

end Framed

namespace Within

variable {written made : Set (List String)} {t t' : Tree}

/-! ### Following names -/

theorem below (h : Within written made t t') {at_ : List String} {u : Tree} (hu : t.below? at_ = some u) :
    ∃ u', t'.below? at_ = some u' := by
  cases u with
  | file bytes =>
    obtain ⟨bytes', hbytes'⟩ := h.written hu
    exact ⟨_, hbytes'⟩
  | dir es =>
    obtain ⟨es', hes', -⟩ := h.dir hu
    exact ⟨_, hes'⟩

theorem leads (h : Within written made t t') {place next : Place} {n : String} (hn : Leads t place n next) :
    Leads t' place n next := by
  cases hn with
  | outside => exact .outside
  | up hdir =>
    obtain ⟨es', hes', -⟩ := h.dir hdir
    exact .up hes'
  | entry hdir hne hget =>
    obtain ⟨es', hes', -⟩ := h.dir hdir
    obtain ⟨u', hu'⟩ := h.below ((below_concat hdir _).trans hget)
    exact .entry hes' hne ((below_concat hes' _).symm.trans hu')

theorem follow (h : Within written made t t') {place place' : Place} {xs : List String}
    (hxs : Tree.follow t place xs = .ok place') : Tree.follow t' place xs = .ok place' := by
  induction xs generalizing place with
  | nil => exact hxs
  | cons n xs ih =>
    obtain ⟨next, hleads, hrest⟩ := exists_leads hxs
    rw [follow_cons (h.leads hleads), ih hrest]

theorem walk (h : Within written made t t') {p : Path} {names : List String} {place : Place}
    (hwalk : t.walk p names = .ok place) : t'.walk p names = .ok place := by
  obtain ⟨hnul, hlong, hfollow⟩ := walk_eq_ok.mp hwalk
  exact walk_eq_ok.mpr ⟨hnul, hlong, h.follow hfollow⟩

/-- Where no directory was made, a path that leads to a directory led to one. -/
theorem follow_back (h : Within written ∅ t t') {place place' : Place} {xs : List String} {es : Entries}
    (hxs : Tree.follow t' place xs = .ok place') (hdir : t'.at? place' = some (.dir es)) :
    Tree.follow t place xs = .ok place' := by
  have hback {at_ : List String} {es : Entries} (hat : t'.below? at_ = some (.dir es)) :
      ∃ es₀, t.below? at_ = some (.dir es₀) := (h.made hat).resolve_left (Set.notMem_empty _)
  induction xs generalizing place with
  | nil => exact hxs
  | cons n xs ih =>
    obtain ⟨next, hleads, hrest⟩ := exists_leads hxs
    have hfollow := ih hrest
    cases hleads with
    | outside => rw [follow_cons .outside, hfollow]
    | up hat =>
      obtain ⟨es₀, hes₀⟩ := hback hat
      rw [follow_cons (.up hes₀), hfollow]
    | @entry at_ es' n u hat hn hget =>
      obtain ⟨es₀, hes₀⟩ := hback hat
      -- The entry is a directory, as the rest of the path goes on from it or ends there.
      have hentry : ∃ es₁, t'.below? (at_ ++ [n]) = some (.dir es₁) := by
        cases xs with
        | nil =>
          cases hrest
          exact ⟨es, hdir⟩
        | cons m xs =>
          obtain ⟨next, hleads, -⟩ := exists_leads hrest
          cases hleads with
          | up hdir => exact ⟨_, hdir⟩
          | entry hdir _ _ => exact ⟨_, hdir⟩
      obtain ⟨es₁, hes₁⟩ := hentry
      obtain ⟨es₂, hes₂⟩ := hback hes₁
      rw [follow_cons (.entry hes₀ hn ((below_concat hes₀ n).symm.trans hes₂)), hfollow]

theorem follow_tooLong (h : Within written made t t') {place : Place} {xs : List String} {fault : PathFault}
    (hxs : Tree.follow t place xs = .error fault) (hnoEntry : fault ≠ .noEntry)
    (hnotDirectory : fault ≠ .notDirectory) : Tree.follow t' place xs = .error fault := by
  have habsence {n : String} (hn : absence n = fault) : nameLimit < n.utf8ByteSize := by
    rw [absence] at hn
    split at hn
    next hlong => exact hlong
    next => exact absurd hn.symm hnoEntry
  induction xs generalizing place with
  | nil => cases hxs
  | cons n xs ih =>
    rcases place with at_ | _
    swap
    · rw [Tree.follow] at hxs ⊢
      by_cases hn : n = ".."
      · rw [if_pos hn] at hxs ⊢
        exact ih hxs
      · rw [if_neg hn] at hxs ⊢
        exact hxs
    rw [Tree.follow] at hxs
    rcases hbelow : t.below? at_ with _ | ⟨bytes | es⟩
    · rw [hbelow] at hxs
      exact absurd (Except.error.inj hxs).symm hnoEntry
    · rw [hbelow] at hxs
      exact absurd (Except.error.inj hxs).symm hnotDirectory
    · rw [hbelow] at hxs
      obtain ⟨es', hes', -⟩ := h.dir hbelow
      by_cases hn : n = ".."
      · simp only [if_pos hn] at hxs
        rw [hn, follow_cons (.up hes'), ih hxs]
      · simp only [if_neg hn] at hxs
        rcases hget : Entries.get? es n with _ | u
        · rw [hget] at hxs
          have hlong := habsence (Except.error.inj hxs)
          have hnone := h.fits hlong ((below_concat hbelow n).trans hget)
          rw [below_concat hes'] at hnone
          rw [Tree.follow, hes']
          simp only [if_neg hn, hnone]
          exact hxs
        · rw [hget] at hxs
          rw [follow_cons (h.leads (.entry hbelow hn hget)), ih hxs]

/-! ### Finding -/

theorem find_dir (h : Within written made t t') {p : Path} {es : Entries} (hfind : t.find p = .ok (.dir es)) :
    ∃ es', t'.find p = .ok (.dir es') := by
  obtain ⟨place, hwalk, hat⟩ := find_eq_ok.mp hfind
  rcases place with names | _
  · obtain ⟨es', hes', -⟩ := h.dir hat
    exact ⟨es', find_eq_ok.mpr ⟨_, h.walk hwalk, hes'⟩⟩
  · exact ⟨[], find_eq_ok.mpr ⟨_, h.walk hwalk, rfl⟩⟩

theorem find_dir_back (h : Within written ∅ t t') {p : Path} {es' : Entries}
    (hfind : t'.find p = .ok (.dir es')) : ∃ es, t.find p = .ok (.dir es) := by
  obtain ⟨place, hwalk, hat⟩ := find_eq_ok.mp hfind
  obtain ⟨hnul, hlong, hfollow⟩ := walk_eq_ok.mp hwalk
  have hwalk := walk_eq_ok.mpr ⟨hnul, hlong, h.follow_back hfollow hat⟩
  rcases place with names | _
  · obtain ⟨es, hes⟩ := (h.made hat).resolve_left (Set.notMem_empty _)
    exact ⟨es, find_eq_ok.mpr ⟨_, hwalk, hes⟩⟩
  · exact ⟨[], find_eq_ok.mpr ⟨_, hwalk, rfl⟩⟩

/-- A path that cannot be looked up for another reason than that nothing is there stays so. -/
theorem look_error (h : Within written made t t') {p : Path} {e : Trouble} (hlook : t.look p = .error e) :
    t'.look p = .error e := by
  have hfind : t.find p = .error e ∧ saysAbsent e = false := by
    unfold look at hlook
    split at hlook
    · cases hlook
    next hfind =>
      split at hlook
      · cases hlook
      next habsent =>
        cases hlook
        exact ⟨hfind, Bool.eq_false_iff.mpr habsent⟩
  obtain ⟨hfind, habsent⟩ := hfind
  suffices hfind' : t'.find p = .error e by
    unfold look
    simp only [hfind', habsent]
    rfl
  unfold find Tree.walk at hfind ⊢
  split at hfind
  next hnul =>
    rw [if_pos hnul]
    exact hfind
  next hnul =>
    rw [if_neg hnul]
    split at hfind
    next hlong =>
      rw [if_pos hlong]
      exact hfind
    next hlong =>
      rw [if_neg hlong]
      rcases hfollow : Tree.follow t (start p) p.names with fault | place
      · rw [hfollow] at hfind
        obtain rfl := Except.error.inj hfind
        have hfault := h.follow_tooLong hfollow (by rintro rfl; cases habsent) (by rintro rfl; cases habsent)
        rw [hfault]
        rfl
      · rw [hfollow] at hfind
        -- Nothing at the end of the path is no such reason.
        rcases place with names | _
        · rcases hbelow : t.below? names with _ | u
          · simp only [bind, Except.bind, hbelow] at hfind
            obtain rfl := Except.error.inj hfind
            cases habsent
          · simp only [bind, Except.bind, hbelow] at hfind
            cases hfind
        · cases hfind

theorem pathExists (h : Within written made t t') {p : Path} (hexists : t.pathExists p = .ok true) :
    t'.pathExists p = .ok true := by
  obtain ⟨u, hfind⟩ := exists_find hexists
  obtain ⟨place, hwalk, hat⟩ := find_eq_ok.mp hfind
  have hat' : ∃ u', t'.at? place = some u' := by
    rcases place with names | _
    · exact h.below hat
    · exact ⟨_, rfl⟩
  obtain ⟨u', hu'⟩ := hat'
  rw [Tree.pathExists, look_of_find (find_eq_ok.mpr ⟨_, h.walk hwalk, hu'⟩)]
  rfl

theorem spot (h : Within written made t t') {p : Path} {at_ : List String} {es : Entries}
    (hspot : Spot t p at_ es) : ∃ es', Spot t' p at_ es' := by
  obtain ⟨es', hes', -⟩ := h.dir hspot.dir
  exact ⟨es', h.walk hspot.walk, hes', hspot.names, hspot.ne_up, hspot.fits⟩

theorem spot_back (h : Within written ∅ t t') {p : Path} {at_ : List String} {es' : Entries}
    (hspot : Spot t' p at_ es') : ∃ es, Spot t p at_ es := by
  obtain ⟨es, hes⟩ := (h.made hspot.dir).resolve_left (Set.notMem_empty _)
  obtain ⟨hnul, hlong, hfollow⟩ := walk_eq_ok.mp hspot.walk
  have hwalk := walk_eq_ok.mpr ⟨hnul, hlong, h.follow_back hfollow hspot.dir⟩
  exact ⟨es, hwalk, hes, hspot.names, hspot.ne_up, hspot.fits⟩

end Within

/-! ## Putting -/

section Put

variable {written made : Set (List String)}

theorem Framed.set {es : Entries} {n : String} {u : Tree}
    (h : Framed written made (fun ms => (Entries.get? es n).bind (below? · ms)) u.below?)
    (hcount : ∀ m, (Entries.fileNames es).count m ≤ (Entries.fileNames (es.set n u)).count m ∧
      (m ≠ n ∨ [] ∉ written → (Entries.fileNames (es.set n u)).count m = (Entries.fileNames es).count m))
    (hn : Entries.get? es n = none → ¬ nameLimit < n.utf8ByteSize) :
    Within (List.cons n '' written) (List.cons n '' made) (.dir es) (.dir (es.set n u)) := by
  have hcons {ms : List String} {s : Set (List String)} : n :: ms ∈ List.cons n '' s ↔ ms ∈ s := by
    simp [Set.mem_image]
  have hself (ms : List String) : below? (.dir (es.set n u)) (n :: ms) = u.below? ms := by
    rw [below?, Entries.get?_set_self, Option.bind_some]
  have hother {m : String} (hm : n ≠ m) (ms : List String) :
      below? (.dir (es.set n u)) (m :: ms) = below? (.dir es) (m :: ms) := by
    rw [below?, below?, Entries.get?_set_ne es u hm]
  constructor
  case dir =>
    intro at_ es₁ hat
    rcases at_ with _ | ⟨m, ms⟩
    · cases hat
      refine ⟨_, rfl, fun m => ⟨(hcount m).1, fun hm => (hcount m).2 ?_⟩⟩
      by_cases hmn : m = n
      · subst hmn
        exact Or.inr fun hmem => hm (hcons.mpr hmem)
      · exact Or.inl hmn
    · by_cases hm : n = m
      · subst hm
        obtain ⟨es', hes', hkeep⟩ := h.dir hat
        refine ⟨es', (hself ms).trans hes', fun k => ⟨(hkeep k).1, fun hk => (hkeep k).2 ?_⟩⟩
        exact fun hmem => hk (hcons.mpr hmem)
      · exact ⟨es₁, (hother hm ms).trans hat, fun k => ⟨le_rfl, fun _ => rfl⟩⟩
  case made =>
    intro at_ es₁ hat
    rcases at_ with _ | ⟨m, ms⟩
    · exact Or.inr ⟨es, rfl⟩
    · by_cases hm : n = m
      · subst hm
        rw [hself] at hat
        exact (h.made hat).imp hcons.mpr id
      · exact Or.inr ⟨es₁, (hother hm ms).symm.trans hat⟩
  case file =>
    intro at_ hat bytes
    rcases at_ with _ | ⟨m, ms⟩
    · simp [below?]
    · by_cases hm : n = m
      · subst hm
        rw [hself]
        exact h.file (fun hmem => hat (hcons.mpr hmem)) bytes
      · rw [hother hm]
  case written =>
    intro at_ bytes hat
    rcases at_ with _ | ⟨m, ms⟩
    · cases hat
    · by_cases hm : n = m
      · subst hm
        rw [hself]
        exact h.written hat
      · exact ⟨bytes, (hother hm ms).trans hat⟩
  case fits =>
    intro at_ m hlong hat
    rcases at_ with _ | ⟨k, ks⟩
    · by_cases hm : n = m
      · subst hm
        have hnone : Entries.get? es n = none := (below_concat (t := .dir es) rfl n).symm.trans hat
        exact absurd hlong (hn hnone)
      · exact (hother hm []).trans hat
    · by_cases hk : n = k
      · subst hk
        rw [List.cons_append, hself]
        exact h.fits hlong hat
      · exact (hother hk _).trans hat

theorem within_set_dir {es : Entries} {n : String} (hget : Entries.get? es n = none)
    (hn : ¬ nameLimit < n.utf8ByteSize) : Within ∅ {[n]} (.dir es) (.dir (es.set n (.dir []))) := by
  have hnew : Framed ∅ {[]} (fun ms => (Entries.get? es n).bind (below? · ms)) (below? (.dir [])) := by
    have hinside (ms : List String) (m : String) : below? (.dir []) (ms ++ [m]) = none := by
      cases ms <;> rfl
    rw [hget]
    constructor
    case dir => exact fun h => nomatch h
    case made =>
      intro at_ es' h
      rcases List.eq_nil_or_concat at_ with rfl | ⟨ms, m, rfl⟩
      · exact Or.inl rfl
      · rw [List.concat_eq_append, hinside] at h
        cases h
    case file =>
      intro at_ _ bytes
      refine ⟨fun h => ?_, fun h => nomatch h⟩
      rcases at_ with _ | ⟨m, ms⟩
      · cases h
      · cases h
    case written => exact fun h => nomatch h
    case fits => exact fun _ _ => hinside _ _
  have h := hnew.set (fun m => ?_) fun _ => hn
  · rwa [Set.image_empty, Set.image_singleton] at h
  · rw [Entries.fileNames_set_new hget, isDirNode, if_pos rfl, List.append_nil]
    exact ⟨le_rfl, fun _ => rfl⟩

theorem within_set_file {es : Entries} {n : String} (bytes : List UInt8)
    (hget : ∀ es', Entries.get? es n ≠ some (.dir es')) (hn : ¬ nameLimit < n.utf8ByteSize) :
    Within {[n]} ∅ (.dir es) (.dir (es.set n (.file bytes))) := by
  have hinside (b : List UInt8) (ms : List String) (m : String) : below? (.file b) (ms ++ [m]) = none := by
    cases ms <;> rfl
  -- What was there before is no directory, so there was nothing below it either.
  have hold (ms : List String) (m : String) : (Entries.get? es n).bind (below? · (ms ++ [m])) = none := by
    rcases hu : Entries.get? es n with _ | ⟨b | es'⟩
    · rfl
    · exact hinside b ms m
    · exact absurd hu (hget es')
  have hnew : Framed {[]} ∅ (fun ms => (Entries.get? es n).bind (below? · ms)) (below? (.file bytes)) := by
    constructor
    case dir =>
      intro at_ es' h
      rcases List.eq_nil_or_concat at_ with rfl | ⟨ms, m, rfl⟩
      · rcases hu : Entries.get? es n with _ | ⟨b | es''⟩
        · simp only [hu] at h
          cases h
        · simp only [hu] at h
          cases h
        · exact absurd hu (hget es'')
      · rw [List.concat_eq_append, hold] at h
        cases h
    case made =>
      intro at_ es' h
      rcases List.eq_nil_or_concat at_ with rfl | ⟨ms, m, rfl⟩
      · cases h
      · rw [List.concat_eq_append, hinside] at h
        cases h
    case file =>
      intro at_ hat b
      rcases List.eq_nil_or_concat at_ with rfl | ⟨ms, m, rfl⟩
      · exact absurd rfl hat
      · rw [List.concat_eq_append, hold, hinside]
    case written =>
      intro at_ b h
      rcases List.eq_nil_or_concat at_ with rfl | ⟨ms, m, rfl⟩
      · exact ⟨bytes, rfl⟩
      · rw [List.concat_eq_append, hold] at h
        cases h
    case fits => exact fun _ _ => hinside _ _ _
  have h := hnew.set (fun m => ?_) fun _ => hn
  · rwa [Set.image_empty, Set.image_singleton] at h
  · rcases hu : Entries.get? es n with _ | ⟨b | es'⟩
    · rw [Entries.fileNames_set_new hu, isDirNode, if_neg Bool.false_ne_true, List.count_append]
      refine ⟨Nat.le_add_right _ _, fun hm => ?_⟩
      have hmn : m ≠ n := hm.resolve_right fun hnil => hnil rfl
      rw [List.count_singleton, if_neg (by simpa using Ne.symm hmn), Nat.add_zero]
    · rw [Entries.fileNames_set_old (u := .file bytes) hu rfl]
      exact ⟨le_rfl, fun _ => rfl⟩
    · exact absurd hu (hget es')

/-- A change right inside of a directory frames the whole tree. -/
theorem Within.put {t new : Tree} {at_ : List String} {es : Entries} {n : String}
    (hat : t.below? at_ = some (.dir es)) (h : Within written made (.dir es) (.dir (es.set n new))) :
    Within ((at_ ++ ·) '' written) ((at_ ++ ·) '' made) t (t.put (at_ ++ [n]) new) := by
  induction at_ generalizing t with
  | nil =>
    cases hat
    simpa [Tree.put, entries] using h
  | cons m ms ih =>
    cases t with
    | file bytes => cases hat
    | dir es₀ =>
      obtain ⟨u, hu, hms⟩ := Option.bind_eq_some_iff.mp hat
      have hinner := ih hms
      -- The entry is a directory before and after.
      have hdir : u.isDirNode = true := by
        cases u with
        | file bytes =>
          cases ms with
          | nil => cases hms
          | cons k ks => cases hms
        | dir es₁ => rfl
      have hdir' : (u.put (ms ++ [n]) new).isDirNode = true := by
        cases ms <;> rfl
      have hview : Framed ((ms ++ ·) '' written) ((ms ++ ·) '' made)
          (fun ks => (Entries.get? es₀ m).bind (below? · ks)) (u.put (ms ++ [n]) new).below? := by
        rw [hu]
        exact hinner
      have hset := hview.set (fun k => ?_) fun hnone => absurd (hu.symm.trans hnone) (Option.some_ne_none u)
      · simpa [Tree.put, entries, hu, Set.image_image] using hset
      · rw [Entries.fileNames_set_old hu (hdir'.trans hdir.symm)]
        exact ⟨le_rfl, fun _ => rfl⟩

end Put

end ScenarioAudit.Tree
