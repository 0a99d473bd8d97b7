import ScenarioAudit.Proofs.Tree.Frame

/-! # What making and writing files does

A file that was written is read back (`readBytes_writeBytes`), and nothing else was written (`within_writeBytes`). A
file that was made and then moved is written at its new place and nowhere else (`moveFile_create`); one that was made
and then taken away leaves nothing behind (`removeFile_create`). Making a directory makes at most what its path leads
through (`within_ensureDir`).
-/

namespace ScenarioAudit.Tree

variable {t t' : Tree} {p : Path}

/-! ## Making and taking away -/

theorem remove_cons {n : String} {ns : List String} (hns : ns ≠ []) (t : Tree) :
    t.remove (n :: ns) = match Entries.get? t.entries n with
      | none => t
      | some u => .dir (Entries.set t.entries n (u.remove ns)) := by
  cases ns with
  | nil => exact absurd rfl hns
  | cons m ms => rfl

/-- A new entry that is taken away leaves the tree that was. -/
theorem remove_put {at_ : List String} {es : Entries} {n : String} (hat : t.below? at_ = some (.dir es))
    (hget : Entries.get? es n = none) (new : Tree) : (t.put (at_ ++ [n]) new).remove (at_ ++ [n]) = t := by
  induction at_ generalizing t with
  | nil =>
    cases hat
    show dir ((es.set n new).erase n) = dir es
    rw [Entries.erase_set hget]
  | cons m ms ih =>
    cases t with
    | file bytes => cases hat
    | dir es₀ =>
      obtain ⟨u, hu, hms⟩ := Option.bind_eq_some_iff.mp hat
      have hinner := ih hms
      rw [List.cons_append, put, remove_cons (List.concat_ne_nil n ms), entries, entries, hu, Option.getD_some,
        Entries.get?_set_self]
      show dir (Entries.set (Entries.set es₀ m (u.put (ms ++ [n]) new)) m
        ((u.put (ms ++ [n]) new).remove (ms ++ [n]))) = dir es₀
      rw [hinner, Entries.set_set, Entries.set_get hu]

theorem create_eq_ok {new : Tree} (h : t.create p new = .ok t') :
    ∃ at_ es, Spot t p at_ es ∧ Entries.get? es p.name = none ∧ t' = t.put (at_ ++ [p.name]) new := by
  rw [create] at h
  rcases hfind : t.find p with e | u
  · rw [hfind] at h
    obtain ⟨names, hslot, h⟩ := bind_eq_ok h
    obtain ⟨at_, es, hspot, rfl⟩ := exists_spot hslot (by simp [hfind])
    refine ⟨at_, es, hspot, ?_, (Except.ok.inj h).symm⟩
    rcases hget : Entries.get? es p.name with _ | u
    · rfl
    · rw [hspot.find hget] at hfind
      cases hfind
  · rw [hfind] at h
    cases h

theorem create_congr (t : Tree) (p : Path) (new new' : Tree) :
    (t.create p new).map (fun _ => ()) = (t.create p new').map fun _ => () := by
  rw [create, create]
  rcases t.find p with e | u
  · show (t.slot p >>= _).map _ = (t.slot p >>= _).map _
    rcases t.slot p with e | names
    · rfl
    · rfl
  · rfl

theorem writeBytes_eq_ok {bytes : List UInt8} :
    t.writeBytes p bytes = .ok t' ↔
      (∀ es, t.find p ≠ .ok (.dir es)) ∧ ∃ at_ es, Spot t p at_ es ∧ t' = t.put (at_ ++ [p.name]) (.file bytes) := by
  have hwrite : t.writeBytes p bytes = .ok t' ↔
      (∀ es, t.find p ≠ .ok (.dir es)) ∧ ∃ names, t.slot p = .ok names ∧ t.put names (.file bytes) = t' := by
    rw [writeBytes]
    split
    next es hfind => simp [hfind]
    next hnot =>
      constructor
      · exact fun h => ⟨hnot, map_eq_ok h⟩
      · rintro ⟨-, names, hslot, rfl⟩
        rw [hslot]
        rfl
  rw [hwrite]
  refine and_congr_right fun hdir => ?_
  constructor
  · rintro ⟨names, hslot, rfl⟩
    obtain ⟨at_, es, hspot, rfl⟩ := exists_spot hslot hdir
    exact ⟨at_, es, hspot, rfl⟩
  · rintro ⟨at_, es, hspot, rfl⟩
    exact ⟨_, hspot.slot, rfl⟩

/-! ## What is written -/

theorem Spot.not_dir {at_ : List String} {es : Entries} (h : Spot t p at_ es)
    (hdir : ∀ es', t.find p ≠ .ok (.dir es')) : ∀ es', Entries.get? es p.name ≠ some (.dir es') :=
  fun es' hget => hdir es' (h.find hget)

theorem within_put_file {at_ : List String} {es : Entries} (bytes : List UInt8) (hspot : Spot t p at_ es)
    (hget : ∀ es', Entries.get? es p.name ≠ some (.dir es')) :
    Within {at_ ++ [p.name]} ∅ t (t.put (at_ ++ [p.name]) (.file bytes)) := by
  have h := Within.put hspot.dir (within_set_file bytes hget hspot.fits)
  rwa [Set.image_empty, Set.image_singleton] at h

theorem within_makeDir (h : t.makeDir p = .ok t') :
    ∃ at_, Within ∅ {at_} t t' ∧ t'.walk p p.names = .ok (.inside at_) := by
  obtain ⟨at_, es, hspot, hget, rfl⟩ := create_eq_ok h
  have hwithin := Within.put hspot.dir (within_set_dir hget hspot.fits)
  rw [Set.image_empty, Set.image_singleton] at hwithin
  obtain ⟨es', hspot'⟩ := hwithin.spot hspot
  refine ⟨_, hwithin, hspot'.walk_self (u := .dir []) ?_⟩
  rw [← below_concat hspot'.dir, below?_put_self]

theorem Spot.get_put {at_ : List String} {es : Entries} {new : Tree}
    (h : Spot (t.put (at_ ++ [p.name]) new) p at_ es) : Entries.get? es p.name = some new := by
  rw [← below_concat h.dir, below?_put_self]

/-- **Writing a file writes one file only,** the one that its path leads to from then on. -/
theorem within_writeBytes {bytes : List UInt8} (h : t.writeBytes p bytes = .ok t') :
    ∃ names, Within {names} ∅ t t' ∧ t'.walk p p.names = .ok (.inside names) ∧
      t'.below? names = some (.file bytes) := by
  obtain ⟨hdir, at_, es, hspot, rfl⟩ := writeBytes_eq_ok.mp h
  have hwithin := within_put_file bytes hspot (hspot.not_dir hdir)
  obtain ⟨es', hspot'⟩ := hwithin.spot hspot
  exact ⟨_, hwithin, hspot'.walk_self hspot'.get_put, below?_put_self _ _ _⟩

/-- **What was written is read back.** -/
theorem readBytes_writeBytes {bytes : List UInt8} (h : t.writeBytes p bytes = .ok t') :
    t'.readBytes p = .ok bytes := by
  obtain ⟨names, -, hwalk, hbelow⟩ := within_writeBytes h
  rw [readBytes, find_inside hwalk hbelow]

theorem exists_writeBytes {bytes : List UInt8} (h : t.writeBytes p bytes = .ok t') (bytes' : List UInt8) :
    ∃ t'', t.writeBytes p bytes' = .ok t'' := by
  obtain ⟨hdir, at_, es, hspot, -⟩ := writeBytes_eq_ok.mp h
  exact ⟨_, writeBytes_eq_ok.mpr ⟨hdir, at_, es, hspot, rfl⟩⟩

/-! ## A file that is made for a while -/

section Scratch

variable {bytes : List UInt8} (h : t.create p (.file bytes) = .ok t')

include h

/-- A new file that is taken away leaves nothing behind. -/
theorem removeFile_create : t'.removeFile p = t := by
  obtain ⟨at_, es, hspot, hget, rfl⟩ := create_eq_ok h
  obtain ⟨es', hspot'⟩ := (within_put_file bytes hspot (by simp [hget])).spot hspot
  rw [removeFile, hspot'.slot]
  exact remove_put hspot.dir hget _

/-- **A new file that is moved is written at its new place,** and it is as if it had never been elsewhere. -/
theorem moveFile_create (q : Path) {t'' : Tree} :
    t'.moveFile p q = .ok t'' ↔ t.writeBytes q bytes = .ok t'' := by
  obtain ⟨at_, es, hspot, hget, rfl⟩ := create_eq_ok h
  have hwithin := within_put_file bytes hspot (by simp [hget])
  obtain ⟨es', hspot'⟩ := hwithin.spot hspot
  have hread : (t.put (at_ ++ [p.name]) (.file bytes)).readBytes p = .ok bytes := by
    rw [readBytes, hspot'.find hspot'.get_put]
  have hmove : (t.put (at_ ++ [p.name]) (.file bytes)).moveFile p q = .ok t'' ↔
      (∀ es, (t.put (at_ ++ [p.name]) (.file bytes)).find q ≠ .ok (.dir es)) ∧
        ∃ names, (t.put (at_ ++ [p.name]) (.file bytes)).slot q = .ok names ∧
          t.put names (.file bytes) = t'' := by
    simp only [moveFile, hread, hspot'.slot, bind, Except.bind, remove_put hspot.dir hget]
    split
    next es hfind => simp [hfind]
    next hnot =>
      constructor
      · exact fun h => ⟨hnot, map_eq_ok h⟩
      · rintro ⟨-, names, hslot, rfl⟩
        rw [hslot]
        rfl
  rw [hmove, writeBytes_eq_ok]
  constructor
  · rintro ⟨hdir, names, hslot, rfl⟩
    obtain ⟨at', es', hspotq, rfl⟩ := exists_spot hslot hdir
    obtain ⟨es₀, hspot₀⟩ := hwithin.spot_back hspotq
    refine ⟨fun es hfind => ?_, at', es₀, hspot₀, rfl⟩
    obtain ⟨es', hes'⟩ := hwithin.find_dir hfind
    exact hdir es' hes'
  · rintro ⟨hdir, at', es₀, hspotq, rfl⟩
    obtain ⟨es', hspot'⟩ := hwithin.spot hspotq
    refine ⟨fun es hfind => ?_, _, hspot'.slot, rfl⟩
    obtain ⟨es', hes'⟩ := hwithin.find_dir_back hfind
    exact hdir es' hes'

end Scratch

/-! ## Directories made on the way -/

/-- The places that a path leads through. -/
def wayTo (t : Tree) (p : Path) : Set (List String) :=
  {at_ | ∃ k, follow t (start p) (p.names.take k) = .ok (.inside at_)}

theorem Within.wayTo {written made : Set (List String)} (h : Within written made t t') (p : Path) :
    t.wayTo p ⊆ t'.wayTo p :=
  fun _ ⟨k, hk⟩ => ⟨k, h.follow hk⟩

theorem wayTo_parent (t : Tree) (p : Path) : t.wayTo p.parent ⊆ t.wayTo p := by
  rintro at_ ⟨k, hk⟩
  refine ⟨min k (p.names.length - 1), ?_⟩
  rw [Path.parent, List.dropLast_eq_take, List.take_take] at hk
  exact hk

/-- **Making a directory makes only directories that its path leads through,** also when it fails. -/
theorem within_ensureDir {fuel : ℕ} {e : Option Trouble} (h : t.ensureDir p fuel = (t', e)) :
    Within ∅ (t'.wayTo p) t t' := by
  have hstay (made : Set (List String)) : Within ∅ made t t :=
    (Framed.refl _).mono (Set.Subset.refl _) (Set.empty_subset _)
  induction fuel generalizing p t' e with
  | zero =>
    cases h
    exact hstay _
  | succ fuel ih =>
    rw [ensureDir] at h
    have hmake {t₁ t₂ : Tree} (h : t₁.makeDir p = .ok t₂) : Within ∅ (t₂.wayTo p) t₁ t₂ := by
      obtain ⟨at_, hwithin, hwalk⟩ := within_makeDir h
      refine hwithin.mono (Set.Subset.refl _) (Set.singleton_subset_iff.mpr ⟨p.names.length, ?_⟩)
      rw [List.take_length]
      exact (walk_eq_ok.mp hwalk).2.2
    split at h
    next t₁ hmakes =>
      cases h
      exact hmake hmakes
    next shown _ =>
      split at h
      · cases h
        exact hstay _
      split at h
      next t₁ e₁ hparent =>
        cases h
        exact (ih hparent).mono (Set.Subset.refl _) (wayTo_parent _ p)
      next t₁ hparent =>
        have habove := (ih hparent).mono (Set.Subset.refl _) (wayTo_parent _ p)
        split at h
        next t₂ hmakes =>
          cases h
          have hlast := hmake hmakes
          refine (habove.trans hlast).mono (by simp) (Set.union_subset ?_ (Set.Subset.refl _))
          exact Within.wayTo hlast p
        next =>
          cases h
          exact habove
    next =>
      cases h
      exact hstay _

end ScenarioAudit.Tree
