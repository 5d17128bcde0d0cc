import NfsVolume.Proofs.Export.Rollback
import NfsVolume.Proofs.Group
import NfsVolume.Proofs.Provisioner.Failure
import NfsVolume.Proofs.Server

/-! Failures of provisioning that are none of its own kinds: where they come from, and that there
are no others. -/
namespace NfsVolume

open Run Files

namespace Ledger

variable {α : Type} {path content : Text} {w v : World} {e : Failure}

/-- A number with too many digits to be read stands in a file as an id. -/
def HasLongId (path : Text) (w : World) (count : Nat) : Prop :=
  ∃ place mode text digits,
    w.files.resolve path = .ok (place, .file mode (Text.Utf8.encode text)) ∧
      digits ∈ Export.idsIn text.unifyNewlines ∧ Text.Integer.maxDigits < digits.length ∧
      count = digits.length

/-- The errors of the system are reported for the file, and nothing else is. -/
theorem of_guarded_error {x : Run α} (h : guarded path x w = (.error e, v)) :
    e.IsOfEffect ∨ x w = (.error e, v) ∧ ¬ e.IsOs := by
  rcases of_onOsError h with ⟨hx, hnot⟩ | ⟨o, u, -, hr⟩
  · refine .inr ⟨hx, ?_⟩
    rintro ⟨o, rfl⟩
    exact hnot o rfl
  · cases hr
    exact .inl (Failure.isOfEffect ⟨nofun, nofun⟩)

theorem append_fails (path content : Text) :
    Raises (fun e => e.IsOfEffect ∨ RefusesNull path e) (append path content) := by
  intro w e v h
  rcases of_guarded_error h with hown | ⟨hx, hnot⟩
  · exact .inl hown
  · exact .inr ((Files.append_fails path content _ _ _ hx).resolve_left hnot)

theorem recover_fails (h : recover path w = (.error e, v)) :
    e.IsOfEffect ∨ RefusesNull path e ∨
      (∃ problem, e = .undecodable problem) ∧ ¬ Legible path w.files ∨
      ∃ count, e = .value (.integer (.tooManyDigits count)) ∧ HasLongId path w count := by
  rcases of_bind h with ⟨current, u, hread, hrest⟩ | ⟨e', hread, hr⟩
  · obtain ⟨text, u', hexact, hunify⟩ := of_bind_ok (of_guarded_ok hread)
    cases hunify
    obtain ⟨-, place, mode, hfile, -⟩ := of_readExact hexact
    cases hlast : Export.lastId text.unifyNewlines with
    | ok last =>
      rw [hlast] at hrest
      cases hrest
    | error problem =>
      rw [hlast] at hrest
      cases hrest
      obtain ⟨digits, hdigits, hlong, rfl⟩ := Export.lastId_error hlast
      exact .inr (.inr (.inr ⟨_, rfl, place, mode, text, digits, hfile, hdigits, hlong, rfl⟩))
  · cases hr
    rcases of_guarded_error hread with hown | ⟨hread, hnot⟩
    · exact .inl hown
    · rcases of_bind hread with ⟨text, u, -, hunify⟩ | ⟨e'', hexact, hr⟩
      · cases hunify
      · cases hr
        rcases readExact_fails hexact with hos | hnull | ⟨problem, rfl, hspoilt⟩
        · exact absurd hos hnot
        · exact .inr (.inl hnull)
        · exact .inr (.inr (.inl ⟨⟨problem, rfl⟩, hspoilt.not_legible⟩))

theorem allocateId_fails (h : allocateId path w = (.error e, v)) :
    e.IsOfEffect ∨ RefusesNull path e ∨
      (∃ problem, e = .undecodable problem) ∧ ¬ Legible path w.files ∨
      w.lastExportId = 0 ∧
        ∃ count, e = .value (.integer (.tooManyDigits count)) ∧ HasLongId path w count := by
  unfold allocateId at h
  rw [bind_ok (get_apply w)] at h
  dsimp only at h
  by_cases hz : w.lastExportId = 0
  · rw [if_pos hz] at h
    rcases of_bind h with ⟨_, u, -, hrest⟩ | ⟨e', hrecover, hr⟩
    · cases hrest
    · cases hr
      rcases recover_fails hrecover with hown | hnull | hspoilt | hlong
      · exact .inl hown
      · exact .inr (.inl hnull)
      · exact .inr (.inr (.inl hspoilt))
      · exact .inr (.inr (.inr ⟨hz, hlong⟩))
  · rw [if_neg hz] at h
    cases h

end Ledger

namespace ExportBackend

open Ledger

/-- What an export can fail with that is no failure of provisioning: a null character in the name of
its file, a file that is no text, a program that writes what is no text, and ids that are too long. -/
inductive Stray (b : ExportBackend) (w : World) : Failure → Prop
  | null (h : '\x00' ∈ b.file) : Stray b w (.value .nullInPath)
  | undecodable (e : Text.Utf8.ReadError) (h : ¬ Legible b.file w.files) :
      Stray b w (.undecodable e)
  | unheard (e : Text.Utf8.ReadError) (h : w.answerOf b.program = .error (.undecodable e)) :
      Stray b w (.undecodable e)
  | longId (hb : b.kind = .ganesha) (hzero : w.lastExportId = 0) (count : Nat)
      (h : HasLongId b.file w count) : Stray b w (.value (.integer (.tooManyDigits count)))
  | longCount (hb : b.kind = .ganesha) (last : Nat) (hlast : Follows b.file w last)
      (h : Text.Integer.tooLong (last + 1 : Nat) = true) : Stray b w (.value .unwritable)

variable {b : ExportBackend} {path : Text} {w u v : World} {e : Failure}

theorem Stray.of_null (h : RefusesNull b.file e) : b.Stray w e := by
  obtain ⟨hnull, rfl⟩ := h
  exact .null hnull

theorem enter_strays (h : b.enter path w = (.error e, v)) : e.IsOfEffect ∨ b.Stray w e := by
  unfold enter at h
  cases hb : b.kind with
  | kernel =>
    rw [hb] at h
    rcases of_bind h with ⟨_, u, -, hreturn⟩ | ⟨e', happend, hr⟩
    · cases hreturn
    · cases hr
      exact (append_fails _ _ _ _ _ happend).imp_right Stray.of_null
  | ganesha =>
    rw [hb] at h
    rcases of_bind h with ⟨id, u, hid, hrest⟩ | ⟨e', hid, hr⟩
    · rcases of_allocateId hid with ⟨-, e', hr⟩ | ⟨last, hlast, hr, -⟩
      · cases hr
      · cases hr
        cases hentry : entryFor path ((last + 1 : Nat)) with
        | error problem =>
          rw [hentry] at hrest
          cases hrest
          unfold entryFor at hentry
          split at hentry
          · rename_i hlong
            cases hentry
            exact .inr (.longCount hb last hlast hlong)
          · cases hentry
        | ok block =>
          rw [hentry, bind_ok (ofExcept_apply _ u)] at hrest
          rcases of_bind hrest with ⟨_, u', -, hreturn⟩ | ⟨e', happend, hr⟩
          · cases hreturn
          · cases hr
            exact (append_fails _ _ _ _ _ happend).imp_right Stray.of_null
    · cases hr
      rcases allocateId_fails hid with
        hown | hnull | ⟨⟨problem, rfl⟩, hno⟩ | ⟨hz, count, rfl, hlong⟩
      · exact .inl hown
      · exact .inr (Stray.of_null hnull)
      · exact .inr (.undecodable problem hno)
      · exact .inr (.longId hb hz count hlong)

theorem enter_within (b : ExportBackend) (path : Text) :
    Within [.files, .count, .call .fsync] (b.enter path) := by
  unfold enter
  cases b.kind with
  | kernel => exact (Ledger.append_within (by simp) (by simp) _ _).bind fun _ => pure_within _
  | ganesha =>
    apply (allocateId_within (by simp) _).bind
    intro id
    apply (ofExcept_within _).bind
    intro block
    exact (Ledger.append_within (by simp) (by simp) _ _).bind fun _ => pure_within _

/-- An export fails with a failure of provisioning or with a stray one. -/
theorem add_strays (hpath : '\x00' ∉ path) (h : b.add path w = (.error e, v)) :
    e.IsOfEffect ∨ b.Stray w e := by
  have hresult : (b.add path w).1 = .error e := by rw [h]
  rw [add_eq] at h
  rcases of_bind h with ⟨⟨id, entry⟩, u, henter, hfinish⟩ | ⟨e', henter, hr⟩
  · rcases of_bind hfinish with ⟨answer, v', hactivate, hrest⟩ | ⟨e', hactivate, hr⟩
    · cases answer with
      | ok _ => cases hrest
      | error problem =>
        rcases of_refused henter hactivate with ⟨hfailed, -⟩ | ⟨⟨e', hfailed⟩, hno⟩
        · rw [hresult] at hfailed
          cases hfailed
          exact .inl (Failure.isOfEffect ⟨nofun, nofun⟩)
        · rw [hresult] at hfailed
          cases hfailed
          exact .inr (.undecodable e' hno)
    · cases hr
      refine .inr ?_
      have hunheard : b.Unheard path w e :=
        (of_activate_error (null_notMem_of_enter henter) hactivate).of_frame
          ((b.enter_within path).frame henter) (by simp)
      cases hunheard with
      | undecodable problem hanswer => exact .unheard problem hanswer
      | null _ hnull => exact absurd hnull hpath
  · cases hr
    exact enter_strays henter

/-- A directory that has been made for a volume changes nothing about that. -/
theorem Stray.of_put_new {place : Place} (h : b.Stray u e) (hfree : w.files.get? place = none)
    (hfiles : u.files = w.files.put place (.directory Volume.directoryMode))
    (hcount : u.lastExportId = w.lastExportId)
    (hanswer : u.answerOf b.program = w.answerOf b.program) : b.Stray w e := by
  have hback {q : Place} {mode : Nat} {octets : List UInt8}
      (hl : u.files.resolve b.file = .ok (q, .file mode octets)) :
      w.files.resolve b.file = .ok (q, .file mode octets) := by
    rw [hfiles] at hl
    exact FileTree.resolve_of_put_new hfree Volume.closed_directoryMode.2 hl
  cases h with
  | null h => exact .null h
  | undecodable e h =>
    refine .undecodable e fun hlegible => h fun q mode octets hl => ?_
    exact hlegible q mode octets (hback hl)
  | unheard e h => exact .unheard e (hanswer ▸ h)
  | longId hb hzero count h =>
    obtain ⟨q, mode, text, digits, hl, hrest⟩ := h
    exact .longId hb (hcount ▸ hzero) count ⟨q, mode, text, digits, hback hl, hrest⟩
  | longCount hb last hlast h =>
    refine .longCount hb last ?_ h
    rcases hlast with ⟨hne, rfl⟩ | ⟨hzero, q, mode, text, hl, hlast⟩
    · exact .inl ⟨hcount ▸ hne, hcount⟩
    · exact .inr ⟨hcount ▸ hzero, q, mode, text, hback hl, hlast⟩

end ExportBackend

namespace Volume

variable {directory name path : Text} {capacity available : Int} {w v : World} {e : Failure}

theorem availableOctets_fails (directory : Text) :
    Raises (fun e => e.IsOfEffect ∨ RefusesNull directory e) (availableOctets directory) := by
  refine Raises.onOsError ((freeOctets_fails directory).mono fun e h => ?_) fun _ => ?_
  · exact h.imp_right .inr
  · exact throw_raises (.inl (Failure.isOfEffect ⟨nofun, nofun⟩))

theorem of_availableOctets_ok (h : availableOctets directory w = (.ok available, v)) :
    available = w.freeBlocks * w.blockSize := by
  rcases of_onOsError h with ⟨hfree, -⟩ | ⟨e, u, -, hr⟩
  · obtain ⟨_, u, hmeet, hrest⟩ := of_bind_ok hfree
    obtain ⟨rfl, -⟩ := of_meet hmeet
    obtain ⟨found, u, hl, hreturn⟩ := of_bind_ok hrest
    obtain ⟨rfl, -⟩ := of_resolve hl
    cases hreturn
    rfl
  · cases hr

theorem create_raises (hp : '\x00' ∉ path) : Raises Failure.IsOfEffect (create path) := by
  have hmake : Raises Failure.IsOfEffect (onOsError (makeDirectories path directoryMode)
      fun e => refuseDirectory path (.mkdir e)) :=
    ((makeDirectories_raises hp _).mono fun e h => .inl h).onOsError fun _ =>
      throw_raises (Failure.isOfEffect ⟨nofun, nofun⟩)
  refine hmake.bind fun _ => Raises.bind ?_ fun _ => pure_raises _
  refine ((changeMode_raises hp _).mono fun e h => .inl h).onOsError fun _ => ?_
  exact (release_raises hp).bind fun _ => throw_raises (Failure.isOfEffect ⟨nofun, nofun⟩)

theorem allocate_fails (hn : IsVolumeName name)
    (h : allocate directory name capacity w = (.error e, v)) :
    e.IsOfEffect ∨ RefusesNull directory e ∨ e = .value .unwritable ∧
      (Text.Integer.tooLong (w.freeBlocks * w.blockSize) = true ∨
        Text.Integer.tooLong capacity = true) := by
  rcases allocate_cases h with
    ⟨hr, -⟩ | ⟨e', hspace, hr⟩ | ⟨available, u, hspace, ⟨e', hrefuse, -, hr⟩ | hcreate⟩
  · cases hr
    exact .inl (Failure.isOfEffect ⟨nofun, nofun⟩)
  · cases hr
    rcases availableOctets_fails directory _ _ _ hspace with hown | hnull
    · exact .inl hown
    · exact .inr (.inl hnull)
  · cases hr
    obtain rfl := of_availableOctets_ok hspace
    unfold refuseCapacity at hrefuse
    split at hrefuse
    · rename_i hlong
      cases hrefuse
      exact .inr (.inr ⟨rfl, Bool.or_eq_true_iff.mp hlong⟩)
    · cases hrefuse
      exact .inl (Failure.isOfEffect ⟨nofun, nofun⟩)
  · have hp := hn.null_notMem_join (of_availableOctets hspace).1
    exact .inl (create_raises hp _ _ _ hcreate)

theorem null_notMem_of_allocate (hn : IsVolumeName name)
    (h : allocate directory name capacity w = (.ok path, v)) : '\x00' ∉ path := by
  obtain ⟨available, u, hspace, hcreate⟩ := create_of_allocate_ok h
  obtain ⟨_, u', -, h⟩ := of_bind_ok hcreate
  obtain ⟨_, u', -, hreturn⟩ := of_bind_ok h
  cases hreturn
  exact hn.null_notMem_join (of_availableOctets hspace).1

theorem setGroup_fails (path : Text) (gid : Int) :
    Raises (fun e => e.IsOfEffect ∨
      (∃ problem, e = .overflow problem) ∧ (gid < -1 ∨ maxGroup < gid)) (setGroup path gid) := by
  refine Raises.onOsError ?_ fun _ => throw_raises (.inl (Failure.isOfEffect ⟨nofun, nofun⟩))
  refine Raises.bind (fun _ _ _ h => by cases h) fun _ => ?_
  refine Raises.bind ((meet_raises _).mono fun e h => .inl h) fun _ => ?_
  by_cases hword : maxWord < gid
  · rw [if_pos hword]
    have hlarge : maxGroup < gid := by
      unfold maxWord at hword
      unfold maxGroup
      omega
    exact throw_raises (.inr (.inr ⟨⟨_, rfl⟩, .inr hlarge⟩))
  · rw [if_neg hword]
    by_cases hout : (gid < -1 || maxGroup < gid) = true
    · rw [if_pos hout]
      have hout : gid < -1 ∨ maxGroup < gid := by simpa using hout
      exact throw_raises (.inr (.inr ⟨⟨_, rfl⟩, hout⟩))
    · rw [if_neg hout]
      exact pure_raises _

end Volume

namespace Provisioner

open Volume

/-- What provisioning can fail with that is no failure of provisioning. -/
inductive Stray (p : Provisioner) (request : VolumeRequest) (w : World) : Failure → Prop
  | entry (e : Failure) (h : p.backend.Stray w e) : Stray p request w e
  | null (h : '\x00' ∈ p.exportDirectory) : Stray p request w (.value .nullInPath)
  | capacity (h : Text.Integer.tooLong (w.freeBlocks * w.blockSize) = true ∨
      Text.Integer.tooLong request.capacity = true) : Stray p request w (.value .unwritable)
  | group (range : GroupRange) (hrange : range ∈ p.ranges)
      (h : range.min < -1 ∨ maxGroup < range.max) (problem : OverflowProblem) :
      Stray p request w (.overflow problem)

variable {p : Provisioner} {request : VolumeRequest} {w u v : World} {path : Text} {place : Place}
  {e : Failure}

theorem validate_fails (h : request.validate = .error e) : e.IsOfStep := by
  obtain ⟨problem, rfl⟩ := VolumeRequest.of_validate_error h
  exact Failure.isOfStep nofun

/-- The steps behind the directory. -/
theorem equip_strays (request : VolumeRequest) (hpath : '\x00' ∉ path)
    (hallocated : Allocated w u path place)
    (hranges : ∀ range ∈ p.ranges, range.min ≤ range.max)
    (h : p.equip path u = (.error e, v)) : e.IsProvisioning ∨ p.Stray request w e := by
  rcases of_bind h with ⟨gid, u₁, hgid, h⟩ | ⟨e', hgid, hr⟩
  · have hu₁ : World.Frame [.call .chown] u u₁ := (Group.pickGroup_within _).frame hgid
    rcases of_bind h with ⟨_, u₂, hgroup, h⟩ | ⟨e', hgroup, hr⟩
    · rcases of_bind h with ⟨record, u₃, -, hreturn⟩ | ⟨e', hadd, hr⟩
      · cases hreturn
      · cases hr
        have hu₂ : World.Frame [.call .chown] u u₂ :=
          hu₁.trans ((setGroup_within (by simp) _ _).frame hgroup)
        have hfiles : u₂.files = w.files.put place (.directory directoryMode) := by
          rw [hu₂.files (by simp), hallocated.files]
        have hcount : u₂.lastExportId = w.lastExportId := by
          rw [hu₂.count (by simp), hallocated.frame.count (by simp [allocationParts])]
        have hanswer : u₂.answerOf p.backend.program = w.answerOf p.backend.program := by
          have hearly : World.Frame earlyParts w u₂ :=
            (hallocated.frame.mono (by simp [earlyParts])).trans (hu₂.mono (by simp [earlyParts]))
          exact hearly.answerOf (results_notMem_earlyParts p.backend)
        rcases ExportBackend.add_strays hpath hadd with hown | hstray
        · exact .inl hown.isProvisioning
        · exact .inr (.entry e (hstray.of_put_new hallocated.vacant.free hfiles hcount hanswer))
    · cases hr
      rcases setGroup_fails path gid _ _ _ hgroup with hown | ⟨⟨problem, rfl⟩, hout⟩
      · exact .inl hown.isProvisioning
      · obtain ⟨range, hrange, ⟨hmin, hmax⟩, -⟩ := Group.of_pickGroup hgid
        refine .inr (.group range hrange ?_ problem)
        omega
  · cases hr
    exact .inl ⟨_, (Group.pickGroup_raises hranges _ _ _ hgid).2⟩

/-- Provisioning on a pod that knows its own address returns a volume, fails with a failure of
provisioning, or fails with a stray one. -/
theorem provision_strays (p : Provisioner) (request : VolumeRequest) (w v : World) (e : Failure)
    (ht : w.files.IsTree) (hranges : ∀ range ∈ p.ranges, range.min ≤ range.max)
    (hown : w.valueOf p.locator.podIpVariable ≠ [])
    (hservice : w.valueOf p.locator.serviceVariable = [])
    (h : p.provision request w = (.error e, v)) : e.IsProvisioning ∨ p.Stray request w e := by
  obtain ⟨known, hknown, hblocks, hsize⟩ := ServerLocator.resolve_own hown hservice
  cases course ht h with
  | refused _ hinvalid => exact .inl (validate_fails hinvalid).isProvisioning
  | unresolved _ _ _ hserver =>
    rw [hknown] at hserver
    cases hserver
  | unallocated server w₁ _ _ hname hserver hallocate =>
    rw [hknown] at hserver
    cases hserver
    rcases allocate_fails hname hallocate with hfailed | ⟨hnull, rfl⟩ | ⟨rfl, hlong⟩
    · exact .inl hfailed.isProvisioning
    · exact .inr (.null hnull)
    · rw [hblocks, hsize] at hlong
      exact .inr (.capacity hlong)
  | allocated server w₁ u place _ _ hname hserver hallocate hpath hallocated hestablish =>
    rcases of_bind hestablish with ⟨furnished, u', -, hreturn⟩ | ⟨e', hfurnish, hr⟩
    · cases hreturn
    · cases hr
      rcases of_tryCatch hfurnish with ⟨a, -, hr⟩ | ⟨problem, u', hequip, habandon⟩
      · cases hr
      · cases of_abandon_error hpath.noNull habandon
        exact equip_strays request hpath.noNull hallocated hranges hequip

/-- A world whose export file is no text, and in which every command fails. -/
def spoiltWorld : World :=
  (refusingWorld 0o644 [] []).withFiles
    ⟨[([['v']], .directory 0o755), ([['x']], .file 0o644 [0xff])]⟩

/-- A provisioner for volumes in `v` that ganesha exports with the file `x`. -/
def ganeshaProvisioner : Provisioner := { kernelProvisioner with backend := ⟨.ganesha, ['x']⟩ }

theorem provision_strays_undecodable :
    (ganeshaProvisioner.provision smallRequest spoiltWorld).1 =
      .error (.undecodable ⟨.startOctet, 0, [0xff]⟩) ∧
    (Failure.IsProvisioning (.undecodable ⟨.startOctet, 0, [0xff]⟩) ∨
      ganeshaProvisioner.Stray smallRequest spoiltWorld
        (.undecodable ⟨.startOctet, 0, [0xff]⟩)) := by
  have hranges : ∀ range ∈ ganeshaProvisioner.ranges, range.min ≤ range.max := by decide
  exact ⟨rfl, provision_strays ganeshaProvisioner smallRequest spoiltWorld _ _
    (FileTree.isTree_of_wellFormed (by decide)) hranges (by decide) (by decide) rfl⟩

/-- Octets that are no text come up when ganesha's ids are looked for, when a line is to be removed
again and in what a command writes, and a group may be one that the system cannot name. -/
theorem provision_fails_elsewhere :
    (ganeshaProvisioner.provision smallRequest spoiltWorld).1 =
      .error (.undecodable ⟨.startOctet, 0, [0xff]⟩) ∧
    (kernelProvisioner.provision smallRequest spoiltWorld).1 =
      .error (.undecodable ⟨.startOctet, 0, [0xff]⟩) ∧
    (kernelProvisioner.provision smallRequest
      { refusingWorld 0o644 [] [] with otherResult := .finished 1 [] [0xe9] }).1 =
      .error (.undecodable ⟨.endOfData, 0, [0xe9]⟩) ∧
    (({ kernelProvisioner with ranges := [⟨-5, -5⟩] } : Provisioner).provision smallRequest
      (refusingWorld 0o644 [] [])).1 = .error (.overflow .gidTooSmall) := by
  exact ⟨rfl, rfl, rfl, rfl⟩

end Provisioner

end NfsVolume
