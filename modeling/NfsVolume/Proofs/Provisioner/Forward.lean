import NfsVolume.Proofs.Provisioner

/-! Provisioning without its undo. The steps forward alone come to the same result, so undoing them
never hides the failure that it follows. -/
namespace NfsVolume

open Run

variable {α β : Type} {x y : Run α} {f g : α → Run β} {w u v : World}

/-- Two runs are the same, or both fail alike and may leave different worlds. -/
def Run.Agree (x y : Run α) (w : World) : Prop :=
  x w = y w ∨ ∃ e, (x w).1 = .error e ∧ (y w).1 = .error e

theorem Run.Agree.refl (x : Run α) (w : World) : Agree x x w := .inl rfl

theorem Run.Agree.result (h : Agree x y w) : (x w).1 = (y w).1 := by
  rcases h with h | ⟨e, hx, hy⟩
  · rw [h]
  · rw [hx, hy]

theorem Run.Agree.bind (hx : Agree x y w) (hf : ∀ a u, x w = (.ok a, u) → Agree (f a) (g a) u) :
    Agree (x >>= f) (y >>= g) w := by
  rcases hrun : x w with ⟨e | a, u⟩
  · have hfails : (x >>= f) w = (.error e, u) := bind_error hrun
    have hresult := hx.result
    rw [hrun] at hresult
    have hfails' : (y >>= g) w = (.error e, (y w).2) := bind_error (Prod.ext hresult.symm rfl)
    exact .inr ⟨e, by rw [hfails], by rw [hfails']⟩
  · rcases hx with hx | ⟨e, he, -⟩
    · have hforth := hf a u hrun
      unfold Agree at hforth ⊢
      rw [bind_ok hrun, bind_ok (hx ▸ hrun)]
      exact hforth
    · rw [hrun] at he
      cases he

theorem Run.Agree.ite {c : Prop} [Decidable c] {x' y' : Run α} (hx : Agree x y w)
    (hy : Agree x' y' w) : Agree (if c then x else x') (if c then y else y') w := by
  split
  · exact hx
  · exact hy

theorem Run.Agree.onOsError {handler handler' : OsError → Run α} (x : Run α)
    (h : ∀ e u, Agree (handler e) (handler' e) u) :
    Agree (onOsError x handler) (onOsError x handler') w := by
  rcases hrun : x w with ⟨e | a, u⟩
  · cases e with
    | os e =>
      have hagree := h e u
      unfold Agree at hagree ⊢
      rw [onOsError_os hrun, onOsError_os hrun]
      exact hagree
    | _ =>
      unfold Agree Run.onOsError
      rw [tryCatch_error hrun, tryCatch_error hrun]
      exact .inl rfl
  · exact .inl ((onOsError_ok hrun).trans (onOsError_ok hrun).symm)

/-- What is refused after an undo that cannot fail is what is refused right away. -/
theorem Run.agree_throw {undo : Run α} {a : α} (h : undo w = (.ok a, u)) (problem : Failure) :
    Agree (undo >>= fun _ => (throw problem : Run β)) (throw problem) w := by
  refine .inr ⟨problem, ?_, rfl⟩
  rw [bind_ok h]
  rfl

namespace Volume

/-- Making a directory, which is not removed when it cannot be closed. -/
def createForward (path : Text) : Run Text := do
  onOsError (Files.makeDirectories path directoryMode) fun e => refuseDirectory path (.mkdir e)
  onOsError (Files.changeMode path directoryMode) fun e => refuseDirectory path (.chmod e)
  return path

def allocateForward (exportDirectory name : Text) (capacity : Int) : Run Text := do
  let path := Path.join exportDirectory name
  if ← Files.isPresent path then refuseDirectory path .occupied
  let available ← availableOctets exportDirectory
  if available < capacity then refuseCapacity available capacity
  createForward path

theorem release_agree {path : Text} (hp : '\x00' ∉ path) (problem : Failure) (w : World) :
    Agree (release path >>= fun _ => (throw problem : Run α)) (throw problem) w := by
  rcases hrelease : release path w with ⟨e | _, u⟩
  · exact (release_raises (P := fun _ => False) hp _ _ _ hrelease).elim
  · exact agree_throw hrelease problem

theorem allocate_agree {name : Text} (hn : IsVolumeName name) (directory : Text) (capacity : Int)
    (w : World) :
    Agree (allocate directory name capacity) (allocateForward directory name capacity) w := by
  have hcreate (hp : '\x00' ∉ directory) (u : World) :
      Agree (create (Path.join directory name)) (createForward (Path.join directory name)) u := by
    refine (Agree.refl _ u).bind fun _ u' _ => Agree.bind ?_ fun _ _ _ => Agree.refl _ _
    exact Agree.onOsError _ fun e u => release_agree (hn.null_notMem_join hp) _ u
  have hrest (u : World) : Agree (do
      let available ← availableOctets directory
      if available < capacity then refuseCapacity available capacity
      create (Path.join directory name)) (do
      let available ← availableOctets directory
      if available < capacity then refuseCapacity available capacity
      createForward (Path.join directory name)) u := by
    refine (Agree.refl _ u).bind fun available u' hspace => ?_
    have hcreate := hcreate (of_availableOctets hspace).1
    exact Agree.ite ((Agree.refl _ u').bind fun _ u'' _ => hcreate u'') (hcreate u')
  refine (Agree.refl _ w).bind fun occupied u _ => ?_
  exact Agree.ite ((Agree.refl _ u).bind fun _ u' _ => hrest u') (hrest u)

end Volume

namespace ExportBackend

/-- What the server refuses fails without the entry being removed. -/
def settleForward : Except ActivationProblem Unit → Run Unit
  | .ok () => pure ()
  | .error problem => throw (.provisioning (.activation problem))

def finishForward (activate : Run (Except ActivationProblem Unit)) (message : Text)
    (record : ExportRecord) : Run ExportRecord := do
  settleForward (← activate)
  Run.log .info .exports message
  return record

def addForward (b : ExportBackend) (path : Text) : Run ExportRecord := do
  match b.kind with
  | .kernel =>
    let line := Export.kernelLine path
    Ledger.append b.file line
    finishForward (b.activate path) ("Exported " ++ path ++ " via " ++ b.file) ⟨.kernel, line, 0⟩
  | .ganesha =>
    let id ← Ledger.allocateId b.file
    let block ← Run.ofExcept (entryFor path id)
    Ledger.append b.file block
    finishForward (b.activate path) (ganeshaMessage path id) ⟨.ganesha, block, id⟩

variable {b : ExportBackend} {file path text entry message : Text} {place : Place} {mode : Nat}
  {record : ExportRecord}

theorem settle_agree (hp : '\x00' ∉ file) (answer : Except ActivationProblem Unit)
    (hfile : w.files.resolve file = .ok (place, .file mode (Text.Utf8.encode text))) :
    Agree (settle file entry answer) (settleForward answer) w := by
  cases answer with
  | ok _ => exact Agree.refl _ w
  | error problem =>
    rcases hroll : rollBack file entry w with ⟨r, u⟩
    obtain ⟨rfl, -⟩ := of_rollBack hp hfile hroll
    exact agree_throw hroll _

theorem append_finish_agree (hne : entry ≠ [])
    (hfile : w.files.resolve b.file = .ok (place, .file mode (Text.Utf8.encode text))) :
    Agree (Ledger.append b.file entry >>= fun _ =>
        finish b.file entry (b.activate path) message record)
      (Ledger.append b.file entry >>= fun _ => finishForward (b.activate path) message record)
      w := by
  refine (Agree.refl _ w).bind fun _ u happend => ?_
  obtain ⟨hp, hu⟩ := of_append_ok hne hfile happend
  refine (Agree.refl _ u).bind fun answer u' hanswer => ?_
  have hu' : u'.files = stored w place mode (text ++ entry) :=
    (((activate_within (by simp) path : Within [.results b.program] _).frame hanswer).files
      (by simp)).trans hu
  refine Agree.bind ?_ fun _ _ _ => Agree.refl _ _
  exact settle_agree hp answer (hu' ▸ resolve_stored hfile _)

theorem add_agree (b : ExportBackend) (path : Text)
    (hfile : w.files.resolve b.file = .ok (place, .file mode (Text.Utf8.encode text))) :
    Agree (b.add path) (b.addForward path) w := by
  cases hb : b.kind with
  | kernel =>
    rw [add_kernel hb]
    unfold addForward
    rw [hb]
    exact append_finish_agree (entryOf_ne_nil .kernel path 0) hfile
  | ganesha =>
    rw [add_ganesha hb]
    unfold addForward
    rw [hb]
    refine (Agree.refl _ w).bind fun id u hid => (Agree.refl _ u).bind fun block u' hblock => ?_
    have hwu : World.Frame [.count] w u := (Ledger.allocateId_within (by simp) _).frame hid
    rw [ofExcept_apply] at hblock
    obtain ⟨hentry, rfl⟩ := Prod.mk.inj hblock
    obtain ⟨-, rfl⟩ := of_entryFor hentry
    rw [← hwu.files (by simp)] at hfile
    exact append_finish_agree (entryOf_ne_nil .ganesha path id) hfile

end ExportBackend

namespace Provisioner

open Volume

variable {p : Provisioner} {request : VolumeRequest} {path text : Text} {place : Place} {mode : Nat}

def equipForward (p : Provisioner) (path : Text) : Run (Int × ExportRecord) := do
  let gid ← Group.pickGroup p.ranges
  setGroup path gid
  let record ← p.backend.addForward path
  return (gid, record)

/-- The steps of provisioning without any undo. -/
def provisionForward (p : Provisioner) (request : VolumeRequest) : Run ProvisionedVolume := do
  Run.ofExcept request.validate
  let server ← p.locator.resolve
  let path ← allocateForward p.exportDirectory request.name request.capacity
  let (gid, record) ← p.equipForward path
  Run.log .info .provisioning (provisionedMessage server request.name path gid)
  return ⟨server, path, gid, record⟩

theorem furnish_agree {name : Text} (hp : '\x00' ∉ path)
    (h : Agree (p.equip path) (p.equipForward path) w) :
    Agree (p.furnish name path) (p.equipForward path) w := by
  rcases hequip : p.equip path w with ⟨e | furnished, u⟩
  · refine .inr ⟨e, ?_, ?_⟩
    · rw [furnish, tryCatch_error hequip]
      exact of_abandon_error hp rfl
    · rw [← h.result, hequip]
  · have hfurnish : p.furnish name path w = (.ok furnished, u) := tryCatch_ok hequip
    unfold Agree at h ⊢
    rw [hfurnish, ← hequip]
    exact h

theorem equip_agree
    (hfile : w.files.resolve p.backend.file = .ok (place, .file mode (Text.Utf8.encode text))) :
    Agree (p.equip path) (p.equipForward path) w := by
  refine (Agree.refl _ w).bind fun gid u hgid => (Agree.refl _ u).bind fun _ u' hgroup => ?_
  have hu' : World.Frame [.call .chown] w u' :=
    ((Group.pickGroup_within _).frame hgid).trans ((setGroup_within (by simp) _ _).frame hgroup)
  rw [← hu'.files (by simp)] at hfile
  exact (ExportBackend.add_agree p.backend path hfile).bind fun _ _ _ => Agree.refl _ _

/-- Provisioning with and without undo come to the same, as long as the export file is text. -/
theorem provision_agree (p : Provisioner) (request : VolumeRequest) (ht : w.files.IsTree)
    (hfile : w.files.resolve p.backend.file = .ok (place, .file mode (Text.Utf8.encode text))) :
    Agree (p.provision request) (p.provisionForward request) w := by
  rw [provision_eq]
  refine (Agree.refl _ w).bind fun _ u hcheck => (Agree.refl _ u).bind fun server w₁ hserver => ?_
  rw [ofExcept_apply] at hcheck
  obtain ⟨hvalid, rfl⟩ := Prod.mk.inj hcheck
  have hname := isVolumeName_of_validate hvalid
  have hw₁ := ServerLocator.resolve_frame hserver
  have hfiles₁ : w₁.files = w.files := hw₁.files (by simp)
  refine (allocate_agree hname _ _ _).bind fun path w₂ hallocate => ?_
  rcases of_allocate (hfiles₁ ▸ ht) hname hallocate with
    ⟨-, e, hr⟩ | ⟨hpath, other, ⟨hr, hw₂⟩ | ⟨-, ⟨e, hr⟩, -⟩⟩
  · cases hr
  · cases hr
    have hfile₂ : w₂.files.resolve p.backend.file =
        .ok (place, .file mode (Text.Utf8.encode text)) := by
      rw [hw₂.files]
      exact FileTree.resolve_put_new hw₂.vacant.free (hfiles₁ ▸ hfile) _
    exact (furnish_agree hpath.noNull (equip_agree hfile₂)).bind fun _ _ _ => Agree.refl _ _
  · cases hr

end Provisioner

end NfsVolume
