import NfsVolume.Proofs.Provisioner.Forward
import NfsVolume.Proofs.World.Circumstances

/-! What a failed call leaves behind when the system fails at any time: the entry of the volume or
its directory may remain, each only for a reason, and nothing else. -/
namespace NfsVolume.Provisioner

open Run Volume ExportBackend

variable {p : Provisioner} {request : VolumeRequest} {w u v : World} {path text : Text}
  {place other : Place} {mode : Nat} {added : Except Failure ExportRecord}

theorem Reached.resolve {m : Node} (h : Reached p w path place u added v)
    (hfile : w.files.resolve p.backend.file = .ok (other, m)) :
    u.files.resolve p.backend.file = .ok (other, m) := by
  rw [h.files]
  exact FileTree.resolve_put_new h.vacant.free hfile _

theorem Reached.made (h : Reached p w path place u added v) (ht : w.files.IsTree) :
    Made u.files path place directoryMode :=
  h.files ▸ h.vacant.made ht closed_directoryMode

/-- The directory is still there after its export. -/
theorem Reached.made_after {entry : Text} {record : ExportRecord}
    (h : Reached p w path place u added v) (ht : w.files.IsTree)
    (hfile : w.files.resolve p.backend.file = .ok (other, .file mode (Text.Utf8.encode text)))
    (hout : Outcome p.backend path u other mode text entry record added v.files) :
    Made v.files path place directoryMode := by
  have hmade := h.made ht
  have hnode := (FileTree.resolve_eq_ok.mp (h.resolve hfile)).2.1
  generalize v.files = t at hout
  cases hout with
  | refused e => exact hmade
  | undone e => exact hmade.put_file hnode _
  | stuck e _ => exact hmade.put_file hnode _
  | exported => exact hmade.put_file hnode _

/-- The tree besides the export file: as before, or with the directory of the volume, for a
reason. -/
def Left (w v : World) (path : Text) (base : FileTree) : Prop :=
  base = w.files ∨ ∃ place mode, Vacant w.files path place ∧ Closed mode ∧
    base = w.files.put place (.directory mode) ∧ Remains path w v

theorem EndedEarly.left (h : EndedEarly w v path) :
    ∃ base, Left w v path base ∧ v.files = base := by
  rcases h with ⟨-, hv | ⟨place, mode, hvacant, hclosed, hv, hremains⟩⟩
  · exact ⟨w.files, .inl rfl, hv⟩
  · exact ⟨_, .inr ⟨place, mode, hvacant, hclosed, rfl, hremains⟩, hv⟩

theorem Reached.frame_after {after : World} (h : Reached p w path place u added after) :
    World.Frame (forwardParts p.backend) w after := by
  refine (h.frame.mono (by simp [forwardParts])).trans ?_
  refine (add_within ?_ ?_ ?_ ?_ ?_ ?_ ?_ _).frame h.add
  all_goals simp [forwardParts, earlyParts, allocationParts]

theorem Reached.remove {after : World} (h : Reached p w path place u added after) :
    u.files.remove place = w.files := by
  rw [h.files, FileTree.remove_put h.vacant.free]

theorem Reached.remove_put {after : World} {content : List UInt8}
    (h : Reached p w path place u added after)
    (hfile : w.files.resolve p.backend.file = .ok (other, .file mode content)) (n : Node) :
    (u.files.put other n).remove place = w.files.put other n := by
  have hnode := (FileTree.resolve_eq_ok.mp hfile).2.1
  rw [h.files]
  exact FileTree.remove_put_put h.vacant.free hnode (FileTree.not_isFixed_of_file hnode) _ _

/-- Releasing the directory takes back its making, whatever has changed elsewhere meanwhile. -/
theorem Reached.left {after : World} (h : Reached p w path place u added after)
    (change : FileTree → FileTree) (hreleased : Released after v path place after.files)
    (hafter : after.files = change u.files)
    (hremove : (change u.files).remove place = change w.files) :
    ∃ base, Left w v path base ∧ v.files = change base := by
  rcases hreleased with ⟨-, hv⟩ | ⟨hv, hremains⟩
  · exact ⟨w.files, .inl rfl, by rw [hv, hafter, hremove]⟩
  · refine ⟨u.files, .inr ⟨place, _, h.vacant, closed_directoryMode, h.files, ?_⟩, hv.trans hafter⟩
    exact hremains.of_frame h.frame_after (by simp [forwardParts, earlyParts, allocationParts])

theorem NextEntry.of_reached {entry : Text} (h : Reached p w path place u added v)
    (hfile : w.files.resolve p.backend.file = .ok (other, .file mode (Text.Utf8.encode text)))
    (hnext : p.backend.NextEntry u path entry) : p.backend.NextEntry w path entry := by
  unfold NextEntry at hnext ⊢
  cases hb : p.backend.kind with
  | kernel =>
    rw [hb] at hnext
    exact hnext
  | ganesha =>
    rw [hb] at hnext
    obtain ⟨last, hlast, hentry⟩ := hnext
    have hcount : u.lastExportId = w.lastExportId :=
      h.frame.count (by simp [earlyParts, allocationParts])
    exact ⟨last, hlast.congr hcount (h.resolve hfile) hfile, hentry⟩

theorem Separable.of_reached (h : Reached p w path place u added v)
    (hseparable : p.backend.Separable w path text) : p.backend.Separable u path text := by
  unfold Separable at hseparable ⊢
  rw [h.frame.count (by simp [earlyParts, allocationParts])]
  exact hseparable

/-- A failed call leaves the text of the export file, or that and the entry of the volume, and the
tree as it was, or that and the directory of the volume; and its failure is the one of the steps
without their undo. -/
theorem provision_fails (p : Provisioner) (request : VolumeRequest) (w v : World) (e : Failure)
    (place : Place) (mode : Nat) (text : Text) (ht : w.files.IsTree)
    (hfile : w.files.resolve p.backend.file = .ok (place, .file mode (Text.Utf8.encode text)))
    (hseparable : p.backend.Separable w (p.pathOf request) text)
    (h : p.provision request w = (.error e, v)) :
    (p.provisionForward request w).1 = .error e ∧
      ∃ base, Left w v (p.pathOf request) base ∧
        (v.files = base ∨ ∃ later,
          (later = text ∨ ∃ entry, p.backend.NextEntry w (p.pathOf request) entry ∧
            later = text ++ entry) ∧
          v.files = base.put place (.file (Node.writtenMode mode) (Text.Utf8.encode later))) := by
  constructor
  · rw [← (provision_agree p request ht hfile).result, h]
  rcases of_provision ht h with
    ⟨-, hearly⟩ | ⟨made, u, added, after, hreached, ⟨server, gid, record, -, hr, -⟩ |
      ⟨e', rfl, -, hreleased⟩⟩
  · obtain ⟨base, hleft, hv⟩ := hearly.left
    exact ⟨base, hleft, .inl hv⟩
  · cases hr
  · have hadded := of_add (Separable.of_reached hreached hseparable) (hreached.resolve hfile)
      hreached.add
    rcases hadded with
      ⟨-, hafter⟩ | ⟨entry, record, hnext, hout⟩
    · have hmade : Made after.files _ made directoryMode := hafter ▸ hreached.made ht
      obtain ⟨base, hleft, hv⟩ :=
        hreached.left id (hreleased hmade).2 hafter hreached.remove
      exact ⟨base, hleft, .inl hv⟩
    · have hnext := NextEntry.of_reached hreached hfile hnext
      have hreleased := (hreleased (hreached.made_after ht hfile hout)).2
      have hleft (later : Text) (hafter : after.files = stored u place mode later) :=
        hreached.left (fun t => t.put place (.file (Node.writtenMode mode)
          (Text.Utf8.encode later))) hreleased hafter
          (hreached.remove_put hfile _)
      generalize hafter : after.files = t at hout
      cases hout with
      | refused e =>
        obtain ⟨base, hbase, hv⟩ := hreached.left id hreleased hafter hreached.remove
        exact ⟨base, hbase, .inl hv⟩
      | undone e =>
        obtain ⟨base, hbase, hv⟩ := hleft text hafter
        exact ⟨base, hbase, .inr ⟨text, .inl rfl, hv⟩⟩
      | stuck e _ =>
        obtain ⟨base, hbase, hv⟩ := hleft (text ++ entry) hafter
        exact ⟨base, hbase, .inr ⟨text ++ entry, .inr ⟨entry, hnext, rfl⟩, hv⟩⟩

/-- A world with the directory `v` for volumes and the export file `x`, in which every command
fails. -/
def refusingWorld (mode : Nat) (text : Text) (faults : List Fault) : World :=
  let files := ⟨[([['v']], .directory 0o755), ([['x']], .file mode (Text.Utf8.encode text))]⟩
  { World.ofFiles files with
    environment := [(['P'], ['h'])]
    faults := faults
    otherResult := .finished 1 [] [] }

/-- A provisioner for volumes in `v` that the kernel's server exports with the file `x`. -/
def kernelProvisioner : Provisioner where
  exportDirectory := ['v']
  backend := ⟨.kernel, ['x']⟩
  locator := ⟨⟨[], none, 5, .standard⟩, ['P'], ['S'], ['N']⟩
  ranges := [⟨5, 5⟩]

def smallRequest : VolumeRequest := ⟨['a'], 1, [], [], .null, .null⟩

/-- The second `fsync` is the one of the undo, so the entry stays. -/
theorem provision_fails_keeping_entry :
    (kernelProvisioner.provisionForward smallRequest
        (refusingWorld 0o644 ['#'] [⟨.fsync, 5, 1, 1⟩])).1 =
      .error (.provisioning (.activation (.reexportFailed []))) ∧
      (kernelProvisioner.provision smallRequest
        (refusingWorld 0o644 ['#'] [⟨.fsync, 5, 1, 1⟩])).2.files =
      (refusingWorld 0o644 (['#'] ++ Export.kernelLine ['v', '/', 'a']) []).files := by
  refine ⟨(provision_fails kernelProvisioner smallRequest
    (refusingWorld 0o644 ['#'] [⟨.fsync, 5, 1, 1⟩]) _ _ [['x']] 0o644 ['#'] ?_ rfl ?_ rfl).1, rfl⟩
  · exact FileTree.isTree_of_wellFormed (by decide)
  · exact Export.onlyAtEnd_kernelLine (by decide) (by decide)

/-- Writing to a file takes away that it runs as its owner, and a failed call does not bring it
back. -/
theorem provision_fails_clearing_mode :
    (kernelProvisioner.provision smallRequest (refusingWorld 0o4644 ['#'] [])).1 =
      .error (.provisioning (.activation (.reexportFailed []))) ∧
      (kernelProvisioner.provision smallRequest (refusingWorld 0o4644 ['#'] [])).2.files =
      (refusingWorld 0o644 ['#'] []).files := by
  exact ⟨rfl, rfl⟩

end NfsVolume.Provisioner
