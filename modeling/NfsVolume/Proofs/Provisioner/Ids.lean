import NfsVolume.Proofs.Provisioner.Failure
import Mathlib.Data.List.Nodup

/-! What provisioning a volume adds to the ids in ganesha's file: nothing, or one block whose id
follows the ids that the ledger knows of. -/
namespace NfsVolume

/-- A label that ends in a blank is in a path only if it is in its directory. -/
theorem Volume.idLabel_infix_of_join {directory name : Text} (hn : IsVolumeName name)
    (h : Export.idLabel <:+: Path.join directory name) : Export.idLabel <:+: directory := by
  have hblank : ' ' ∉ name := hn.notMem (by decide) (by decide)
  have hcut {rest : Text} (hrest : ' ' ∉ rest) (h : Export.idLabel <:+: directory ++ rest) :
      Export.idLabel <:+: directory := by
    rcases List.infix_append_iff.mp h with h | h | ⟨front, back, hlabel, hfront, hback⟩
    · exact h
    · exact absurd (h.subset (by decide)) hrest
    · cases back using List.reverseRecOn with
      | nil =>
        rw [hlabel, List.append_nil]
        exact hfront.isInfix
      | append_singleton back c =>
        have hlast : Export.idLabel.getLast? = some ' ' := by decide
        rw [hlabel, ← List.append_assoc, List.getLast?_concat] at hlast
        cases hlast
        exact absurd (hback.subset (List.mem_append_right _ (List.mem_singleton.mpr rfl))) hrest
  unfold Path.join at h
  split at h
  · exact absurd (h.subset (by decide)) hblank
  · split at h
    · exact hcut hblank h
    · have hslash : ' ' ∉ '/' :: name := by simpa using hblank
      exact hcut hslash h

namespace ExportBackend

open Run Ledger

variable {b : ExportBackend} {file path text entry message : Text} {w v : World} {place : Place}
  {mode : Nat} {record : ExportRecord} {activate : Run (Except ActivationProblem Unit)}

theorem of_finish_ok {r : ExportRecord}
    (h : finish file entry activate message record w = (.ok r, v)) :
    r = record ∧ ∃ u, activate w = (.ok (.ok ()), u) ∧ v.files = u.files ∧ v.events = u.events := by
  obtain ⟨answer, u, hanswer, hrest⟩ := of_bind_ok h
  cases answer with
  | ok _ =>
    cases hrest
    exact ⟨rfl, u, hanswer, rfl, rfl⟩
  | error problem =>
    obtain ⟨_, u', hsettle, -⟩ := of_bind_ok hrest
    obtain ⟨_, u'', -, hthrow⟩ := of_bind_ok hsettle
    cases hthrow

/-- With ganesha, a path that is exported has its block at the end of the file. -/
theorem of_add_ok (hb : b.kind = .ganesha)
    (hfile : w.files.resolve b.file = .ok (place, .file mode (Text.Utf8.encode text)))
    (h : b.add path w = (.ok record, v)) :
    ∃ last, Follows b.file w last ∧
      v.files = stored w place mode (text ++ Export.ganeshaBlock (last + 1 : Nat) path) := by
  rw [add_ganesha hb] at h
  obtain ⟨id, u, hid, h⟩ := of_bind_ok h
  have hwu : World.Frame [.count] w u := (Ledger.allocateId_within (by simp) _).frame hid
  have hfiles : u.files = w.files := hwu.files (by simp)
  rcases Ledger.of_allocateId hid with ⟨-, e, hr⟩ | ⟨last, hlast, hr, -⟩
  · cases hr
  · cases hr
    obtain ⟨block, u', hblock, h⟩ := of_bind_ok h
    rw [ofExcept_apply] at hblock
    obtain ⟨hentry, rfl⟩ := Prod.mk.inj hblock
    obtain ⟨-, hblock⟩ := of_entryFor hentry
    subst hblock
    obtain ⟨_, u', happend, h⟩ := of_bind_ok h
    obtain ⟨-, hu'⟩ :=
      of_append_ok (entryOf_ne_nil .ganesha path (last + 1)) (hfiles ▸ hfile) happend
    obtain ⟨-, u₂, hcall, hv, -⟩ := of_finish_ok h
    have hu₂ : World.Frame [.results b.program] u' u₂ :=
      (activate_within (by simp) path).frame hcall
    refine ⟨last, hlast, ?_⟩
    rw [hv, hu₂.files (by simp), hu', stored, stored, hfiles]
    rfl

end ExportBackend

namespace Provisioner

open Run Volume ExportBackend Ledger

variable {p : Provisioner} {request : VolumeRequest} {w u v after : World} {file path text : Text}
  {place q : Place} {mode : Nat} {added : Except Failure ExportRecord} {t : FileTree}

/-- A tree with a file of text. -/
structure Holds (t : FileTree) (file : Text) (place : Place) (mode : Nat) (text : Text) : Prop where
  tree : t.IsTree
  resolve : t.resolve file = .ok (place, .file mode (Text.Utf8.encode text))

theorem Holds.put_directory (h : Holds t file place mode text) (hv : Vacant t path q) (k : Nat) :
    Holds (t.put q (.directory k)) file place mode text where
  tree := by
    obtain ⟨above, habove⟩ := hv.parent
    exact h.tree.put_new hv.free habove _
  resolve := FileTree.resolve_put_new hv.free h.resolve _

theorem Holds.rewrite (h : Holds t file place mode text) (later : Nat) (more : Text) :
    Holds (t.put place (.file later (Text.Utf8.encode more))) file place later more := by
  have hnode := (FileTree.resolve_eq_ok.mp h.resolve).2.1
  exact ⟨h.tree.put_file hnode _ _, FileTree.resolve_put_file h.resolve _⟩

theorem Left.holds {base : FileTree} (h : Left w v path base)
    (hw : Holds w.files file place mode text) : Holds base file place mode text := by
  rcases h with rfl | ⟨q, k, hvacant, -, rfl, -⟩
  · exact hw
  · exact hw.put_directory hvacant k

/-- Whatever becomes of a call, the change that its export has made to the file stays. -/
theorem Reached.holds {res : Except Failure ProvisionedVolume}
    (h : Reached p w path q u added after) (change : FileTree → FileTree)
    (hw : Holds w.files file place mode text)
    (hafter : after.files = change u.files) (hremove : (change u.files).remove q = change w.files)
    (hmade : Made after.files path q directoryMode) (hdecides : Decides path q added after res v) :
    v.lastExportId = after.lastExportId ∧
      ∃ base, Holds base file place mode text ∧ v.files = change base := by
  rcases hdecides with ⟨server, gid, record, -, -, hv, hcount⟩ | ⟨e, -, -, hreleased⟩
  · exact ⟨hcount, u.files, h.files ▸ hw.put_directory h.vacant _, hv.trans hafter⟩
  · obtain ⟨hcount, hreleased⟩ := hreleased hmade
    obtain ⟨base, hleft, hv⟩ := h.left change hreleased hafter hremove
    exact ⟨hcount, base, hleft.holds hw, hv⟩

/-- What a ledger can do to the text of a file for a path: nothing, or an id is allocated that
follows the ones that the ledger knows of, and its block is appended or not. -/
def Allots (file : Text) (w : World) (path : Text) (count : Nat) (more : Text) : Prop :=
  (count = w.lastExportId ∧ more = []) ∨
    ∃ last, Follows file w last ∧ count = last + 1 ∧
      (more = [] ∨ more = Export.ganeshaBlock (last + 1 : Nat) path)

/-- A call on a file without ids above the count. -/
theorem provision_allots {res : Except Failure ProvisionedVolume} (hb : p.backend.kind = .ganesha)
    (hw : Holds w.files p.backend.file place mode text) (hahead : Ahead w.lastExportId text)
    (h : p.provision request w = (res, v)) :
    ∃ later more, Holds v.files p.backend.file place later (text ++ more) ∧
      Allots p.backend.file w (p.pathOf request) v.lastExportId more := by
  rcases of_provision hw.tree h with
    ⟨-, hearly⟩ | ⟨q, u, added, after, hreached, hdecides⟩
  · obtain ⟨base, hleft, hv⟩ := hearly.left
    refine ⟨mode, [], ?_, .inl ⟨hearly.1, rfl⟩⟩
    rw [List.append_nil, hv]
    exact hleft.holds hw
  · have hcount : u.lastExportId = w.lastExportId :=
      hreached.frame.count (by simp [earlyParts, allocationParts])
    have hresolve := hreached.resolve hw.resolve
    rcases hallocate : Ledger.allocateId p.backend.file u with ⟨e | id, u'⟩
    · obtain ⟨-, hafter, hsame⟩ := of_add_unallocated hb (congrArg Prod.fst hallocate) hreached.add
      obtain ⟨hv, base, hbase, hfiles⟩ := hreached.holds id hw hafter hreached.remove
        (hafter ▸ hreached.made hw.tree) hdecides
      refine ⟨mode, [], ?_, .inl ⟨hv.trans (hsame.trans hcount), rfl⟩⟩
      rw [List.append_nil, hfiles]
      exact hbase
    · rcases Ledger.of_allocateId hallocate with ⟨-, e, hr⟩ | ⟨last, hlast, hr, -⟩
      · cases hr
      · cases hr
        obtain ⟨hid, hout⟩ := of_add_allocated hb (congrArg Prod.fst hallocate)
          (hcount ▸ hahead) hresolve hreached.add
        have hmade := hreached.made_after hw.tree hw.resolve hout
        have hallots (more : Text) (hmore : more = [] ∨
            more = Export.ganeshaBlock (last + 1 : Nat) (p.pathOf request)) :
            Allots p.backend.file w (p.pathOf request) (last + 1) more :=
          .inr ⟨last, hlast.congr hcount hresolve hw.resolve, rfl, hmore⟩
        have hwritten (later : Text) (hafter : after.files = stored u place mode later) :
            v.lastExportId = last + 1 ∧
              Holds v.files p.backend.file place (Node.writtenMode mode) later := by
          obtain ⟨hv, base, hbase, hfiles⟩ := hreached.holds (fun t => t.put place
            (.file (Node.writtenMode mode) (Text.Utf8.encode later))) hw hafter
            (hreached.remove_put hw.resolve _) hmade hdecides
          exact ⟨hv.trans hid, hfiles ▸ hbase.rewrite _ _⟩
        generalize hafter : after.files = t at hout
        cases hout with
        | refused e =>
          obtain ⟨hv, base, hbase, hfiles⟩ := hreached.holds id hw hafter
            hreached.remove hmade hdecides
          refine ⟨mode, [], ?_, hv.trans hid ▸ hallots [] (.inl rfl)⟩
          rw [List.append_nil, hfiles]
          exact hbase
        | undone e =>
          obtain ⟨hv, hholds⟩ := hwritten text hafter
          refine ⟨Node.writtenMode mode, [], ?_, hv ▸ hallots [] (.inl rfl)⟩
          rw [List.append_nil]
          exact hholds
        | stuck e _ =>
          obtain ⟨hv, hholds⟩ := hwritten _ hafter
          exact ⟨_, _, hholds, hv ▸ hallots _ (.inr rfl)⟩
        | exported =>
          obtain ⟨hv, hholds⟩ := hwritten _ hafter
          exact ⟨_, _, hholds, hv ▸ hallots _ (.inr rfl)⟩

/-- A call that returns a volume has appended the block of the next id, whether the text has ids
above the count or not. -/
theorem provision_ok_block {volume : ProvisionedVolume} (hb : p.backend.kind = .ganesha)
    (hw : Holds w.files p.backend.file place mode text)
    (h : p.provision request w = (.ok volume, v)) :
    ∃ later last, Follows p.backend.file w last ∧ Holds v.files p.backend.file place later
      (text ++ Export.ganeshaBlock (last + 1 : Nat) (p.pathOf request)) := by
  obtain ⟨hpath, q, u, after, hreached, hv, -⟩ := of_provision_ok hw.tree h
  have hcount : u.lastExportId = w.lastExportId :=
    hreached.frame.count (by simp [earlyParts, allocationParts])
  have hresolve := hreached.resolve hw.resolve
  have hu : Holds u.files p.backend.file place mode text :=
    hreached.files ▸ hw.put_directory hreached.vacant _
  obtain ⟨last, hlast, hafter⟩ := of_add_ok hb hresolve hreached.add
  refine ⟨Node.writtenMode mode, last, hlast.congr hcount hresolve hw.resolve, ?_⟩
  rw [hv, hafter, ← hpath]
  exact hu.rewrite _ _

theorem provision_ok_path {volume : ProvisionedVolume}
    (hdir : ¬ Export.idLabel <:+: p.exportDirectory)
    (h : p.provision request w = (.ok volume, v)) : ¬ Export.idLabel <:+: p.pathOf request := by
  cases hvalid : request.validate with
  | error e =>
    rw [provision_invalid hvalid] at h
    cases h
  | ok _ =>
    exact fun hlabel => hdir (idLabel_infix_of_join (isVolumeName_of_validate hvalid) hlabel)

/-- What a call does to the ids of a file and to the count: nothing, or the id after a last one is
allocated and stands in the file or not. The last one is the count, or while that is zero the
greatest id of the file. -/
def Counts (ids : List Nat) (count : Nat) (ids' : List Nat) (count' : Nat) : Prop :=
  (count' = count ∧ ids' = ids) ∨
    ∃ last, ((count ≠ 0 ∧ last = count) ∨
        (count = 0 ∧ (∀ id ∈ ids, id ≤ last) ∧ (last = 0 ∨ last ∈ ids))) ∧
      count' = last + 1 ∧ (ids' = ids ∨ ids' = ids ++ [last + 1])

theorem Counts.of_follows {last : Nat} (h : Follows file w last)
    (hfile : w.files.resolve file = .ok (place, .file mode (Text.Utf8.encode text))) :
    (w.lastExportId ≠ 0 ∧ last = w.lastExportId) ∨
      (w.lastExportId = 0 ∧ (∀ id ∈ Export.ids text, id ≤ last) ∧
        (last = 0 ∨ last ∈ Export.ids text)) := by
  rcases h with h | ⟨hz, place', mode', text', hl, hlast⟩
  · exact .inl h
  · obtain rfl := Files.text_unique hfile hl
    rw [← Export.ids_unifyNewlines]
    exact .inr ⟨hz, Export.lastId_ok hlast⟩

theorem Counts.nodup {ids ids' : List Nat} {count count' : Nat} (h : Counts ids count ids' count')
    (hle : count = 0 ∨ ∀ id ∈ ids, id ≤ count) (hn : ids.Nodup) : ids'.Nodup := by
  rcases h with ⟨-, rfl⟩ | ⟨last, hlast, -, rfl | rfl⟩
  · exact hn
  · exact hn
  · have hnew : last + 1 ∉ ids := by
      intro hmem
      rcases hlast with ⟨hne, rfl⟩ | ⟨-, hall, -⟩
      · have := hle.resolve_left hne _ hmem
        omega
      · have := hall _ hmem
        omega
    exact List.Nodup.append hn (List.nodup_singleton _) (List.disjoint_singleton.mpr hnew)

/-- Ids that have no gaps above a number have none either when the one after the greatest is
added. -/
theorem Counts.dense {ids ids' : List Nat} {count' k : Nat} (h : Counts ids 0 ids' count')
    (hd : ∀ n, k < n → (∃ id ∈ ids, n ≤ id) → n ∈ ids) :
    ∀ n, k < n → (∃ id ∈ ids', n ≤ id) → n ∈ ids' := by
  rcases h with ⟨-, rfl⟩ | ⟨last, hlast, -, rfl | rfl⟩
  · exact hd
  · exact hd
  · intro n hk ⟨id, hid, hn⟩
    rcases hlast with ⟨hne, -⟩ | ⟨-, -, hgreatest⟩
    · exact absurd rfl hne
    · rcases List.mem_append.mp hid with hid | hid
      · exact List.mem_append_left _ (hd n hk ⟨id, hid, hn⟩)
      · rw [List.mem_singleton.mp hid] at hn
        rcases Nat.lt_or_eq_of_le hn with hlt | rfl
        · rcases hgreatest with rfl | hmem
          · omega
          · exact List.mem_append_left _ (hd n hk ⟨last, hmem, by omega⟩)
        · exact List.mem_append_right _ (List.mem_singleton.mpr rfl)

/-- A ledger that is up to date stays so. -/
theorem Counts.le {ids ids' : List Nat} {count count' : Nat} (h : Counts ids count ids' count')
    (hle : count = 0 ∨ ∀ id ∈ ids, id ≤ count) : count' = 0 ∨ ∀ id ∈ ids', id ≤ count' := by
  rcases h with ⟨rfl, rfl⟩ | ⟨last, hlast, rfl, hids⟩
  · exact hle
  · have hall : ∀ id ∈ ids, id ≤ last := by
      rcases hlast with ⟨hne, rfl⟩ | ⟨-, hall, -⟩
      · exact hle.resolve_left hne
      · exact hall
    refine .inr fun id hid => ?_
    rcases hids with rfl | rfl
    · exact (hall id hid).trans (Nat.le_succ last)
    · rcases List.mem_append.mp hid with hid | hid
      · exact (hall id hid).trans (Nat.le_succ last)
      · exact (List.mem_singleton.mp hid).le

/-- A call on a file without ids above the count keeps to the ids. -/
theorem provision_counts {res : Except Failure ProvisionedVolume} (hb : p.backend.kind = .ganesha)
    (hdir : ¬ Export.idLabel <:+: p.exportDirectory)
    (hw : Holds w.files p.backend.file place mode text)
    (hcount : w.lastExportId = 0 ∨ ∀ id ∈ Export.ids text, id ≤ w.lastExportId)
    (h : p.provision request w = (res, v)) :
    ∃ later text', Holds v.files p.backend.file place later text' ∧
      Counts (Export.ids text) w.lastExportId (Export.ids text') v.lastExportId := by
  cases hvalid : request.validate with
  | error e =>
    rw [provision_invalid hvalid] at h
    cases h
    exact ⟨mode, text, hw, .inl ⟨rfl, rfl⟩⟩
  | ok _ =>
    have hpath : ¬ Export.idLabel <:+: p.pathOf request := fun hlabel =>
      hdir (idLabel_infix_of_join (isVolumeName_of_validate hvalid) hlabel)
    obtain ⟨later, more, hv, ⟨hsame, rfl⟩ | ⟨last, hlast, hlater, hmore⟩⟩ :=
      provision_allots hb hw (ahead_of_ids hcount) h
    · exact ⟨later, _, hv, .inl ⟨hsame, by rw [List.append_nil]⟩⟩
    · refine ⟨later, _, hv, .inr ⟨last, Counts.of_follows hlast hw.resolve, hlater, ?_⟩⟩
      rcases hmore with hmore | hmore
      · exact .inl (by rw [hmore, List.append_nil])
      · exact .inr (by rw [hmore, Export.ids_append_ganeshaBlock hpath])

end Provisioner
end NfsVolume
