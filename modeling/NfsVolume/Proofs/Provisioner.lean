import NfsVolume.Provisioner
import NfsVolume.Proofs.Export.Backend
import NfsVolume.Proofs.Lookup
import NfsVolume.Proofs.Volume.Directory

/-! The steps of provisioning a volume: a call ends before its directory is made, or it reaches the
export of the directory, which decides what becomes of it. -/
namespace NfsVolume.Provisioner

open Run Volume

variable {p : Provisioner} {request : VolumeRequest} {w u v : World} {path : Text} {place : Place}

/-- The path of the volume of a request. -/
def pathOf (p : Provisioner) (request : VolumeRequest) : Text :=
  Path.join p.exportDirectory request.name

theorem isVolumeName_of_validate (h : request.validate = .ok ()) : IsVolumeName request.name :=
  IsVolumeName.of_validateName (VolumeRequest.of_validate_ok h).1

/-- What is left of the directory of a volume whose call has failed. -/
def Released (w v : World) (path : Text) (place : Place) (t : FileTree) : Prop :=
  (Fault.due? .rmdir w.faults = none ∧ v.files = t.remove place) ∨
    (v.files = t ∧ Remains path w v)

theorem warnRemoval_within {parts : List Part} (name path : Text) (problem : Failure) :
    Within parts (warnRemoval name path problem) := log_within _ _ _

/-- What follows a failure behind the directory of a volume. -/
def abandon (name path : Text) (problem : Failure) : Run (Int × ExportRecord) := do
  warnRemoval name path problem
  release path
  throw problem

theorem abandon_ne_ok {name : Text} {problem : Failure} (a : Int × ExportRecord) :
    abandon name path problem u ≠ (.ok a, v) := by
  intro h
  obtain ⟨_, u₁, -, h⟩ := of_bind_ok h
  obtain ⟨_, u₂, -, hthrow⟩ := of_bind_ok h
  cases hthrow

/-- Releasing the directory does not hide the failure that it follows. -/
theorem of_abandon_error {name : Text} {problem : Failure} {r : Except Failure (Int × ExportRecord)}
    (hp : '\x00' ∉ path) (h : abandon name path problem u = (r, v)) : r = .error problem := by
  rcases of_bind h with ⟨_, u₁, -, hrest⟩ | ⟨e, hwarn, -⟩
  · rcases of_bind hrest with ⟨_, u₂, -, hthrow⟩ | ⟨e, hrelease, -⟩
    · cases hthrow
      rfl
    · exact (release_raises (P := fun _ => False) hp _ _ _ hrelease).elim
  · cases hwarn

theorem of_abandon {name : Text} {problem : Failure} {r : Except Failure (Int × ExportRecord)}
    (hpath : IsVolumePath path) {mode : Nat} (hm : Made u.files path place mode)
    (h : abandon name path problem u = (r, v)) :
    v.lastExportId = u.lastExportId ∧ Released u v path place u.files := by
  rcases of_bind h with ⟨_, u₁, hwarn, hrest⟩ | ⟨e, hwarn, -⟩
  · have hu₁ : World.Frame [] u u₁ := (warnRemoval_within _ _ _).frame hwarn
    have hfiles : u₁.files = u.files := hu₁.files (by simp)
    rcases of_bind hrest with ⟨_, u₂, hrelease, hthrow⟩ | ⟨e, hrelease, -⟩
    · cases hthrow
      have hframe : World.Frame [.files, .call .rmdir, .call .rmtree] u₁ v :=
        (release_within (by simp) (by simp) (by simp) path).frame hrelease
      refine ⟨(hframe.count (by simp)).trans (hu₁.count (by simp)), ?_⟩
      rcases of_release hpath (hfiles ▸ hm) hrelease with ⟨hdue, hv⟩ | ⟨hv, hremains⟩
      · exact .inl ⟨hu₁.due? (by simp) ▸ hdue, hfiles ▸ hv⟩
      · exact .inr ⟨hfiles ▸ hv, hremains.of_frame hu₁ (by simp)⟩
    · exact (release_raises (P := fun _ => False) hpath.noNull _ _ _ hrelease).elim
  · cases hwarn

theorem Released.of_frame {parts : List Part} {t : FileTree} (h : Released u v path place t)
    (hf : World.Frame parts w u) (hrmdir : Part.call .rmdir ∉ parts) :
    Released w v path place t := by
  rcases h with ⟨hdue, hv⟩ | ⟨hv, hremains⟩
  · exact .inl ⟨hf.due? hrmdir ▸ hdue, hv⟩
  · exact .inr ⟨hv, hremains.of_frame hf hrmdir⟩

/-- The parts that provisioning touches up to the export of the directory. -/
def earlyParts : List Part := allocationParts ++ [.call .chown]

/-- The program that tells a server of an export is not the one that tells of the host. -/
theorem results_notMem_earlyParts (b : ExportBackend) : Part.results b.program ∉ earlyParts := by
  unfold ExportBackend.program
  cases b.kind with
  | kernel => decide
  | ganesha => decide

/-- The parts that provisioning touches before a directory is released. -/
def forwardParts (b : ExportBackend) : List Part :=
  earlyParts ++ [.count, .call .fsync, .call .mkstemp, .call .replace, .results b.program]

/-- Nothing but the directory of the volume can remain of a call that ended before the export. -/
def EndedEarly (w v : World) (path : Text) : Prop :=
  v.lastExportId = w.lastExportId ∧ (v.files = w.files ∨
    ∃ place mode, Vacant w.files path place ∧ Closed mode ∧
      v.files = w.files.put place (.directory mode) ∧ Remains path w v)

/-- A call that reaches the export of its directory: the world in which the path is added, what
comes of that, and the world afterwards. -/
structure Reached (p : Provisioner) (w : World) (path : Text) (place : Place) (u : World)
    (added : Except Failure ExportRecord) (after : World) : Prop where
  isVolumePath : IsVolumePath path
  vacant : Vacant w.files path place
  frame : World.Frame earlyParts w u
  files : u.files = w.files.put place (.directory directoryMode)
  passed : World.Passed .chmod w u
  add : p.backend.add path u = (added, after)

/-- What adding the path of a volume decides of the call. -/
def Decides (path : Text) (place : Place) (added : Except Failure ExportRecord) (after : World)
    (res : Except Failure ProvisionedVolume) (v : World) : Prop :=
  (∃ server gid record, added = .ok record ∧ res = .ok ⟨server, path, gid, record⟩ ∧
      v.files = after.files ∧ v.lastExportId = after.lastExportId) ∨
    ∃ e, added = .error e ∧ res = .error e ∧ (Made after.files path place directoryMode →
      v.lastExportId = after.lastExportId ∧ Released after v path place after.files)

/-- The steps behind the directory. -/
def furnish (p : Provisioner) (name path : Text) : Run (Int × ExportRecord) :=
  tryCatch (p.equip path) (abandon name path)

/-- They fail before the export, or the export decides. -/
theorem of_furnish {name : Text} {r : Except Failure (Int × ExportRecord)} {mode : Nat}
    (hpath : IsVolumePath path) (hm : Made u.files path place mode)
    (h : p.furnish name path u = (r, v)) :
    ((∃ e, r = .error e) ∧ v.lastExportId = u.lastExportId ∧ Released u v path place u.files) ∨
      ∃ u₁ added after, World.Frame [.call .chown] u u₁ ∧ p.backend.add path u₁ = (added, after) ∧
        ((∃ gid record, added = .ok record ∧ r = .ok (gid, record) ∧ v = after) ∨
          ∃ e, added = .error e ∧ r = .error e ∧ (Made after.files path place mode →
            v.lastExportId = after.lastExportId ∧ Released after v path place after.files)) := by
  unfold furnish at h
  rcases hgid : Group.pickGroup p.ranges u with ⟨e | gid, u₀⟩
  · have hu₀ : World.Frame [] u u₀ := (Group.pickGroup_within _).frame hgid
    have hfiles : u₀.files = u.files := hu₀.files (by simp)
    have hequip : p.equip path u = (.error e, u₀) := by
      rw [equip, bind_error hgid]
    rw [tryCatch_error hequip] at h
    obtain ⟨hcount, hreleased⟩ := of_abandon hpath (hfiles ▸ hm) h
    refine .inl ⟨⟨e, of_abandon_error hpath.noNull h⟩, hcount.trans (hu₀.count (by simp)), ?_⟩
    exact hfiles ▸ hreleased.of_frame hu₀ (by simp)
  · have hu₀ : World.Frame [.call .chown] u u₀ := (Group.pickGroup_within _).frame hgid
    rcases hgroup : setGroup path gid u₀ with ⟨e | _, u₁⟩
    · have hu₁ : World.Frame [.call .chown] u u₁ :=
        hu₀.trans ((setGroup_within (by simp) _ _).frame hgroup)
      have hfiles : u₁.files = u.files := hu₁.files (by simp)
      have hequip : p.equip path u = (.error e, u₁) := by
        rw [equip, bind_ok hgid, bind_error hgroup]
      rw [tryCatch_error hequip] at h
      obtain ⟨hcount, hreleased⟩ := of_abandon hpath (hfiles ▸ hm) h
      refine .inl ⟨⟨e, of_abandon_error hpath.noNull h⟩, hcount.trans (hu₁.count (by simp)), ?_⟩
      exact hfiles ▸ hreleased.of_frame hu₁ (by simp)
    · have hu₁ : World.Frame [.call .chown] u u₁ :=
        hu₀.trans ((setGroup_within (by simp) _ _).frame hgroup)
      rcases hadd : p.backend.add path u₁ with ⟨e | record, after⟩
      · have hequip : p.equip path u = (.error e, after) := by
          rw [equip, bind_ok hgid, bind_ok hgroup, bind_error hadd]
        rw [tryCatch_error hequip] at h
        refine .inr ⟨u₁, _, after, hu₁, hadd, .inr ⟨e, rfl, ?_⟩⟩
        exact ⟨of_abandon_error hpath.noNull h, fun hm => of_abandon hpath hm h⟩
      · have hequip : p.equip path u = (.ok (gid, record), after) := by
          rw [equip, bind_ok hgid, bind_ok hgroup, bind_ok hadd]
          rfl
        rw [tryCatch_ok hequip] at h
        cases h
        exact .inr ⟨u₁, _, _, hu₁, hadd, .inl ⟨gid, record, rfl, rfl, rfl⟩⟩

/-- What is written to the log once a volume is there. -/
def provisionedMessage (server : Json) (name path : Text) (gid : Int) : Text :=
  "Provisioned " ++ name ++ " at " ++ server.toText.shown ++ ":" ++ path ++ " with gid " ++
    Text.integer gid

/-- The steps from the directory on. -/
def establish (p : Provisioner) (name : Text) (server : Json) (path : Text) :
    Run ProvisionedVolume := do
  let (gid, record) ← p.furnish name path
  Run.log .info .provisioning (provisionedMessage server name path gid)
  return ⟨server, path, gid, record⟩

theorem provision_eq (p : Provisioner) (request : VolumeRequest) :
    p.provision request = (do
      Run.ofExcept request.validate
      let server ← p.locator.resolve
      let path ← allocate p.exportDirectory request.name request.capacity
      p.establish request.name server path) := rfl

theorem provision_invalid {e : Failure} (h : request.validate = .error e) (p : Provisioner)
    (w : World) : p.provision request w = (.error e, w) := by
  rw [provision_eq, h]
  rfl

/-- A call that returns has taken all of its steps. -/
theorem steps_of_provision {volume : ProvisionedVolume}
    (h : p.provision request w = (.ok volume, v)) :
    request.validate = .ok () ∧ ∃ server w₁ path u, p.locator.resolve w = (.ok server, w₁) ∧
      allocate p.exportDirectory request.name request.capacity w₁ = (.ok path, u) ∧
      p.establish request.name server path u = (.ok volume, v) := by
  rw [provision_eq] at h
  obtain ⟨⟨⟩, u₀, hvalid, h⟩ := of_bind_ok h
  rw [ofExcept_apply] at hvalid
  obtain ⟨hok, rfl⟩ := Prod.mk.inj hvalid
  obtain ⟨server, w₁, hserver, h⟩ := of_bind_ok h
  obtain ⟨path, u, hallocate, h⟩ := of_bind_ok h
  exact ⟨hok, server, w₁, path, u, hserver, hallocate, h⟩

/-- A call that has made its directory ends before the export, or the export decides. -/
theorem of_establish {name : Text} {server : Json} {res : Except Failure ProvisionedVolume}
    (hpath : IsVolumePath path) (ht : w.files.IsTree) (hw : Allocated w u path place)
    (h : p.establish name server path u = (res, v)) :
    ((∃ e, res = .error e) ∧ EndedEarly w v path) ∨
      ∃ u added after, Reached p w path place u added after ∧
        Decides path place added after res v := by
  have hmade : Made u.files path place directoryMode :=
    hw.files ▸ hw.vacant.made ht closed_directoryMode
  unfold establish at h
  rcases hfurnish : p.furnish name path u with ⟨furnished, u'⟩
  rcases of_furnish hpath hmade hfurnish with
    ⟨⟨e, rfl⟩, hcount, hreleased⟩ | ⟨u₁, added, after, hu₁, hadd, hcases⟩
  · rw [bind_error hfurnish] at h
    cases h
    refine .inl ⟨⟨e, rfl⟩, hcount.trans (hw.frame.count (by simp [allocationParts])), ?_⟩
    rcases hreleased with ⟨-, hv⟩ | ⟨hv, hremains⟩
    · refine .inl ?_
      rw [hv, hw.files, FileTree.remove_put hw.vacant.free]
    · refine .inr ⟨place, directoryMode, hw.vacant, closed_directoryMode, hv.trans hw.files, ?_⟩
      exact hremains.of_frame hw.frame (by simp [allocationParts])
  · have hearly : World.Frame earlyParts w u₁ :=
      (hw.frame.mono (by simp [earlyParts])).trans (hu₁.mono (by simp [earlyParts]))
    have hfiles₁ : u₁.files = w.files.put place (.directory directoryMode) := by
      rw [hu₁.files (by simp), hw.files]
    refine .inr ⟨u₁, added, after,
      ⟨hpath, hw.vacant, hearly, hfiles₁, hw.passed.frame hu₁ (by simp), hadd⟩, ?_⟩
    rcases hcases with ⟨gid, record, rfl, rfl, rfl⟩ | ⟨e, rfl, rfl, hreleased⟩
    · rw [bind_ok hfurnish] at h
      cases h
      exact .inl ⟨server, gid, record, rfl, rfl, rfl, rfl⟩
    · rw [bind_error hfurnish] at h
      cases h
      exact .inr ⟨e, rfl, rfl, hreleased⟩

/-- How far a call gets, step by step. -/
inductive Course (p : Provisioner) (request : VolumeRequest) (w : World) :
    Except Failure ProvisionedVolume → World → Prop
  | refused (e : Failure) (h : request.validate = .error e) : Course p request w (.error e) w
  | unresolved (e : Failure) (v : World) (hname : IsVolumeName request.name)
      (h : p.locator.resolve w = (.error e, v)) : Course p request w (.error e) v
  | unallocated (server : Json) (w₁ : World) (e : Failure) (v : World)
      (hname : IsVolumeName request.name) (hserver : p.locator.resolve w = (.ok server, w₁))
      (h : allocate p.exportDirectory request.name request.capacity w₁ = (.error e, v)) :
      Course p request w (.error e) v
  | allocated (server : Json) (w₁ u : World) (place : Place)
      (res : Except Failure ProvisionedVolume) (v : World) (hname : IsVolumeName request.name)
      (hserver : p.locator.resolve w = (.ok server, w₁))
      (hallocate : allocate p.exportDirectory request.name request.capacity w₁ =
        (.ok (p.pathOf request), u))
      (hpath : IsVolumePath (p.pathOf request)) (hw : Allocated w u (p.pathOf request) place)
      (h : p.establish request.name server (p.pathOf request) u = (res, v)) :
      Course p request w res v

theorem course {res : Except Failure ProvisionedVolume} (ht : w.files.IsTree)
    (h : p.provision request w = (res, v)) : Course p request w res v := by
  cases hvalid : request.validate with
  | error e =>
    rw [provision_invalid hvalid] at h
    cases h
    exact .refused e hvalid
  | ok _ =>
    rw [provision_eq, hvalid, bind_ok (ofExcept_apply _ w)] at h
    have hname := isVolumeName_of_validate hvalid
    rcases of_bind h with ⟨server, w₁, hserver, h⟩ | ⟨e, hserver, rfl⟩
    · have hw₁ := ServerLocator.resolve_frame hserver
      have hfiles₁ : w₁.files = w.files := hw₁.files (by simp)
      rcases of_bind h with ⟨path, u, hallocate, h⟩ | ⟨e, hallocate, rfl⟩
      · rcases of_allocate (hfiles₁ ▸ ht) hname hallocate with
          ⟨-, e, hr⟩ | ⟨hpath, place, ⟨hr, hu⟩ | ⟨-, ⟨e, hr⟩, -⟩⟩
        · cases hr
        · obtain rfl : path = p.pathOf request := Except.ok.inj hr
          exact .allocated server w₁ u place res v hname hserver hallocate hpath
            (hu.of_frame hw₁ (by simp) (by simp) (by simp [allocationParts])) h
        · cases hr
      · exact .unallocated server w₁ e v hname hserver hallocate
    · exact .unresolved e v hname hserver

/-- A call ends before its path is added, or adding it decides what comes of the call. -/
theorem of_provision {res : Except Failure ProvisionedVolume} (ht : w.files.IsTree)
    (h : p.provision request w = (res, v)) :
    ((∃ e, res = .error e) ∧ EndedEarly w v (p.pathOf request)) ∨
      ∃ place u added after, Reached p w (p.pathOf request) place u added after ∧
        Decides (p.pathOf request) place added after res v := by
  cases course ht h with
  | refused e _ => exact .inl ⟨⟨e, rfl⟩, rfl, .inl rfl⟩
  | unresolved e _ _ hserver =>
    have hwv := ServerLocator.resolve_frame hserver
    exact .inl ⟨⟨e, rfl⟩, hwv.count (by simp), .inl (hwv.files (by simp))⟩
  | unallocated server w₁ e _ hname hserver hallocate =>
    have hw₁ := ServerLocator.resolve_frame hserver
    have hfiles₁ : w₁.files = w.files := hw₁.files (by simp)
    have hcount : v.lastExportId = w.lastExportId := by
      have hframe : World.Frame (allocationParts ++ [.call .rmdir, .call .rmtree]) w₁ v :=
        (allocate_within (by simp) (by simp) (by simp) _ _ _).frame hallocate
      exact (hframe.count (by simp [allocationParts])).trans (hw₁.count (by simp))
    rcases of_allocate (hfiles₁ ▸ ht) hname hallocate with
      ⟨hv, -⟩ | ⟨-, place, ⟨hr, -⟩ | ⟨hvacant, -, hv | ⟨⟨mode, hclosed, hv⟩, hremains⟩⟩⟩
    · exact .inl ⟨⟨e, rfl⟩, hcount, .inl (hv.trans hfiles₁)⟩
    · cases hr
    · exact .inl ⟨⟨e, rfl⟩, hcount, .inl (hv.trans hfiles₁)⟩
    · refine .inl ⟨⟨e, rfl⟩, hcount, .inr ⟨place, mode, hfiles₁ ▸ hvacant, hclosed,
        hfiles₁ ▸ hv, hremains.of_frame hw₁ (by simp)⟩⟩
  | allocated server w₁ u place _ _ _ _ _ hpath hw hestablish =>
    rcases of_establish hpath ht hw hestablish with
      hearly | ⟨u', added, after, hreached, hdecides⟩
    · exact .inl hearly
    · exact .inr ⟨place, u', added, after, hreached, hdecides⟩

/-- A call that returns a volume has exported the path of the volume. -/
theorem of_provision_ok {volume : ProvisionedVolume} (ht : w.files.IsTree)
    (h : p.provision request w = (.ok volume, v)) :
    volume.path = p.pathOf request ∧ ∃ place u after,
      Reached p w volume.path place u (.ok volume.record) after ∧ v.files = after.files ∧
        v.lastExportId = after.lastExportId := by
  rcases of_provision ht h with ⟨⟨e, hr⟩, -⟩ |
    ⟨place, u, added, after, hreached, ⟨server, gid, record, rfl, hr, hv, hcount⟩ | ⟨e, -, hr, -⟩⟩
  · cases hr
  · cases hr
    exact ⟨rfl, place, u, after, hreached, hv, hcount⟩
  · cases hr

end NfsVolume.Provisioner
