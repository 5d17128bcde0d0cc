import NfsVolume.Proofs.Volume.Directory

/-! A tree in which directories of volumes are made and one file is rewritten, again and again. -/
namespace NfsVolume.Volume

open Files

/-- A tree that has come from another one by making directories at some places and rewriting a
file, beside which there is still room if there was room at first. -/
structure Grown (t₀ t : FileTree) (file : Text) (place : Place) (mode : Nat) (content : List UInt8)
    (places : List Place) : Prop where
  files : t = (t₀.putAll places (.directory directoryMode)).put place (.file mode content)
  there : (t₀.putAll places (.directory directoryMode)).get? place ≠ none
  tree : t.IsTree
  resolve : t.resolve file = .ok (place, .file mode content)
  room : roomBeside t₀ place = true → roomBeside t place = true
  covered : t₀.Covers t
  covers : t.Covers t₀
  empty : ∀ q, t.get? q = none → t₀.get? q = none ∧ q ∉ places

variable {t₀ t : FileTree} {file path : Text} {place q : Place} {mode : Nat} {content : List UInt8}
  {places : List Place}

theorem Grown.start (ht : t.IsTree) (hfile : t.resolve file = .ok (place, .file mode content)) :
    Grown t t file place mode content [] where
  files := by
    have hnode := (FileTree.resolve_eq_ok.mp hfile).2.1
    exact (FileTree.put_self (FileTree.not_isFixed_of_file hnode) hnode).symm
  there := by
    rw [show t.putAll [] (.directory directoryMode) = t from rfl,
      (FileTree.resolve_eq_ok.mp hfile).2.1]
    exact Option.some_ne_none _
  tree := ht
  resolve := hfile
  room := id
  covered := fun _ _ _ h => h
  covers := fun _ _ _ h => h
  empty := fun q h => ⟨h, List.not_mem_nil⟩

theorem Grown.node (h : Grown t₀ t file place mode content places) :
    t.get? place = some (.file mode content) := (FileTree.resolve_eq_ok.mp h.resolve).2.1

theorem Grown.ne_place (h : Grown t₀ t file place mode content places) (hq : t.get? q = none) :
    q ≠ place := by
  rintro rfl
  rw [h.node] at hq
  cases hq

/-- A directory other than the changed place may be changed as before. -/
theorem mayChange_put {n : Node} (hp : FileTree.isFixed q = false)
    (hdir : t.mayChange place.dropLast = true) (hq : ∀ k, t.get? q ≠ some (.directory k)) :
    (t.put q n).mayChange place.dropLast = t.mayChange place.dropLast := by
  refine mayChange_congr ((FileTree.get?_put t hp _ n).trans (if_neg ?_))
  intro he
  rw [he] at hdir
  unfold FileTree.mayChange at hdir
  cases hn : t.get? q with
  | none => simp [hn] at hdir
  | some found =>
    cases found with
    | directory k => exact hq k hn
    | file k old => simp [hn, Node.isDirectory] at hdir

theorem mayChange_of_roomBeside (h : roomBeside t place = true) :
    t.mayChange place.dropLast = true := by
  unfold roomBeside at h
  split at h
  · cases h
  · exact (Bool.and_eq_true_iff.mp h).2

theorem Grown.rewrite (h : Grown t₀ t file place mode content places) (later : Nat)
    (more : List UInt8) :
    Grown t₀ (t.put place (.file later more)) file place later more places where
  files := by
    rw [h.files, FileTree.put_put]
  there := h.there
  tree := h.tree.put_file h.node later more
  resolve := FileTree.resolve_put_file h.resolve more
  room hroom := by
    have hfixed := FileTree.not_isFixed_of_file h.node
    refine roomBeside_mono (FileTree.length_put_le _ _ _) (fun k => ?_) ?_ (h.room hroom)
    · rw [FileTree.get?_put _ hfixed]
      split
      · rename_i he
        rw [he, h.node]
        rfl
      · rfl
    · refine mayChange_put hfixed (mayChange_of_roomBeside (h.room hroom)) fun k hk => ?_
      rw [h.node] at hk
      cases hk
  covered := h.covered.trans (FileTree.Covers.put_file h.node _)
  covers := (FileTree.Covers.of_put_file h.node).trans h.covers
  empty := by
    intro r hr
    rw [FileTree.get?_put _ (FileTree.not_isFixed_of_file h.node)] at hr
    split at hr
    · cases hr
    · exact h.empty r hr

theorem Grown.make (h : Grown t₀ t file place mode content places) (hpath : IsVolumePath path)
    (hq : Vacant t path q) :
    Grown t₀ (t.put q (.directory directoryMode)) file place mode content (places ++ [q]) where
  files := by
    obtain ⟨m, hm⟩ := Option.ne_none_iff_exists'.mp h.there
    rw [FileTree.putAll_append_singleton, h.files]
    exact (FileTree.put_comm (h.ne_place hq.free) (FileTree.not_isFixed_of_file h.node) hm _ _).symm
  there := by
    rw [FileTree.putAll_append_singleton,
      FileTree.get?_put _ (FileTree.not_isFixed_of_none hq.free),
      if_neg (h.ne_place hq.free).symm]
    exact h.there
  tree := by
    obtain ⟨k, hk⟩ := hq.parent
    exact h.tree.put_new hq.free hk _
  resolve := FileTree.resolve_put_new hq.free h.resolve _
  room hroom := by
    have hfixed := FileTree.not_isFixed_of_none hq.free
    refine roomBeside_mono (FileTree.length_put_le _ _ _) (fun k => ?_) ?_ (h.room hroom)
    · rw [FileTree.get?_put _ hfixed, if_neg]
      obtain ⟨above, name, rfl, hdot⟩ := hpath.place hq.located
      intro he
      obtain ⟨-, hname⟩ := List.append_inj' he rfl
      exact hdot _ (List.singleton_inj.mp hname).symm
    · refine mayChange_put hfixed (mayChange_of_roomBeside (h.room hroom)) fun k hk => ?_
      rw [hq.free] at hk
      cases hk
  covered := h.covered.trans (FileTree.Covers.put_new hq.free _)
  covers := (FileTree.Covers.of_put_new hq.free closed_directoryMode.2).trans h.covers
  empty := by
    intro r hr
    rw [FileTree.get?_put _ (FileTree.not_isFixed_of_none hq.free)] at hr
    split at hr
    · cases hr
    · rename_i hne
      obtain ⟨hfree, hmem⟩ := h.empty r hr
      refine ⟨hfree, ?_⟩
      simp [hmem, hne]

end NfsVolume.Volume
