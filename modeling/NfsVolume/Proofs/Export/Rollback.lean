import NfsVolume.Proofs.Export.Backend
import NfsVolume.Proofs.Text.Integer
import NfsVolume.Proofs.World.Circumstances

/-! Exports that the server does not take up: which failure is reported, and what the removal of the
entry leaves in the file. -/
namespace NfsVolume.ExportBackend

open Run Files Ledger

variable {b : ExportBackend} {path text entry : Text} {w u v : World} {place : Place}
  {mode id : Nat} {old : List UInt8} {problem : ActivationProblem}

/-- The steps up to the entry, which is in the file with its id afterwards. -/
def enter (b : ExportBackend) (path : Text) : Run (Nat × Text) := do
  match b.kind with
  | .kernel =>
    Ledger.append b.file (Export.kernelLine path)
    return (0, Export.kernelLine path)
  | .ganesha => Ledger.appendWithId b.file (entryFor path)

def exportedMessage (b : ExportBackend) (path : Text) (id : Nat) : Text :=
  match b.kind with
  | .kernel => "Exported " ++ path ++ " via " ++ b.file
  | .ganesha => ganeshaMessage path id

theorem add_eq (b : ExportBackend) (path : Text) :
    b.add path = b.enter path >>= fun entered =>
      finish b.file entered.2 (b.activate path) (b.exportedMessage path entered.1)
        ⟨b.kind, entered.2, entered.1⟩ := by
  cases hb : b.kind with
  | kernel =>
    rw [add_kernel hb]
    simp only [enter, exportedMessage, hb, bind_assoc, pure_bind]
    rfl
  | ganesha =>
    rw [add_ganesha hb]
    simp only [enter, exportedMessage, hb, appendWithId, bind_assoc, pure_bind]

/-- What has been entered is the entry of the path, at the end of a file that was there. -/
theorem of_enter (h : b.enter path w = (.ok (id, entry), u)) :
    (entry = entryOf b.kind path id ∧ (b.kind = .kernel → id = 0) ∧
      Text.Integer.tooLong id = false) ∧
    ∃ w', World.Frame [.count] w w' ∧ w'.events = w.events ∧
      Ledger.append b.file entry w' = (.ok (), u) := by
  unfold enter at h
  cases hb : b.kind with
  | kernel =>
    rw [hb] at h
    obtain ⟨_, u', happend, hreturn⟩ := of_bind_ok h
    cases hreturn
    have hshort : Text.Integer.tooLong (0 : Nat) = false := Text.Integer.tooLong_of_lt (by decide)
    exact ⟨⟨rfl, fun _ => rfl, hshort⟩, w, World.Frame.refl _ w, rfl, happend⟩
  | ganesha =>
    rw [hb] at h
    obtain ⟨id', w', hid, h⟩ := of_bind_ok h
    obtain ⟨block, w'', hblock, h⟩ := of_bind_ok h
    obtain ⟨_, u', happend, hreturn⟩ := of_bind_ok h
    cases hreturn
    rw [ofExcept_apply] at hblock
    obtain ⟨hentry, rfl⟩ := Prod.mk.inj hblock
    have hw' : World.Frame [.count] w w' := (allocateId_within (by simp) _).frame hid
    have hevents : w'.events = w.events := (allocateId_silent _).events hid
    obtain ⟨hshort, hblock⟩ := of_entryFor hentry
    exact ⟨⟨hblock.symm, nofun, hshort⟩, w', hw', hevents, happend⟩

theorem null_notMem_of_enter (h : b.enter path w = (.ok (id, entry), u)) : '\x00' ∉ b.file := by
  obtain ⟨⟨hentry, -⟩, w', -, -, happend⟩ := of_enter h
  rcases Ledger.of_append (hentry ▸ entryOf_ne_nil b.kind path id) happend with
    ⟨-, e, hr⟩ | ⟨place, mode, old, hp, -⟩
  · cases hr
  · exact hp

theorem entryOf_eq_cons (kind : ExportKind) (path : Text) (id : Nat) :
    ∃ rest, entryOf kind path id = '\n' :: rest := by
  cases kind with
  | kernel => exact ⟨_, Export.kernelLine_eq path⟩
  | ganesha => exact ⟨_, Export.ganeshaBlock_eq id path⟩

/-- An entry neither makes text of a file nor spoils it. -/
theorem legible_written (hne : entry = entryOf b.kind path id)
    (hfile : w.files.resolve b.file = .ok (place, .file mode old)) :
    Legible b.file (written b.file entry place mode old w).files ↔ Legible b.file w.files := by
  obtain ⟨rest, hrest⟩ := entryOf_eq_cons b.kind path id
  have htext : (∃ text, old ++ Text.Utf8.encode entry = Text.Utf8.encode text) ↔
      ∃ text, old = Text.Utf8.encode text := by
    rw [hne, hrest]
    exact Text.Utf8.exists_encode_append_iff (by decide)
  have hlater : (written b.file entry place mode old w).files.resolve b.file =
      .ok (place, .file (Node.writtenMode mode) (old ++ Text.Utf8.encode entry)) :=
    FileTree.resolve_put_file hfile _
  have hmode : (Node.file (Node.writtenMode mode) (old ++ Text.Utf8.encode entry)).mayRead =
      (Node.file mode old).mayRead := Node.mayRead_writtenMode mode
  constructor
  · intro h place' mode' octets hl hread
    rw [hfile] at hl
    cases hl
    exact htext.mp (h _ _ _ hlater (hmode.trans hread))
  · intro h place' mode' octets hl hread
    rw [hlater] at hl
    cases hl
    exact htext.mpr (h _ _ _ hfile (hmode.symm.trans hread))

/-- What comes of an export whose entry is in the file and that the server does not take up. -/
theorem of_refused (henter : b.enter path w = (.ok (id, entry), u))
    (hactivate : b.activate path u = (.ok (.error problem), v)) :
    ((b.add path w).1 = .error (.provisioning (.activation problem)) ∧ Legible b.file w.files) ∨
      (∃ e, (b.add path w).1 = .error (.undecodable e)) ∧ ¬ Legible b.file w.files := by
  obtain ⟨⟨hentry, -⟩, w', hw', -, happend⟩ := of_enter henter
  have hfiles : w'.files = w.files := hw'.files (by simp)
  have hne : entry ≠ [] := hentry ▸ entryOf_ne_nil b.kind path id
  rcases Ledger.of_append hne happend with ⟨-, e, hr⟩ | ⟨place, mode, old, hp, hfile, hu, -⟩
  · cases hr
  · have huv : World.Frame [.results b.program] u v :=
      (activate_within (by simp) path).frame hactivate
    have hv : v.files = (written b.file entry place mode old w').files := by
      rw [huv.files (by simp), hu, struck_files]
    have hlater : v.files.resolve b.file =
        .ok (place, .file (Node.writtenMode mode) (old ++ Text.Utf8.encode entry)) := by
      rw [hv]
      exact FileTree.resolve_put_file hfile _
    have hlegible : Legible b.file v.files ↔ Legible b.file w.files := by
      rw [hv, legible_written hentry hfile, hfiles]
    rcases hroll : rollBack b.file entry v with ⟨r, v'⟩
    rcases of_rollBack_octets hp hlater hroll with ⟨rfl, hyes⟩ | ⟨⟨e, rfl⟩, hno⟩
    · rw [add_eq, bind_ok henter, finish_refused hactivate hroll]
      exact .inl ⟨rfl, hlegible.mp hyes⟩
    · have hsettle : settle b.file entry (.error problem) v = (.error (.undecodable e), v') := by
        rw [settle, bind_error hroll]
      rw [add_eq, bind_ok henter, finish, bind_ok hactivate, bind_error hsettle]
      exact .inr ⟨⟨e, rfl⟩, fun hyes => hno (hlegible.mpr hyes)⟩

/-- An export whose entry is in the file and that the server does not take up fails for that reason,
whatever becomes of the entry, exactly if the octets of the file are text. If they are not, the
failure to read them when the entry is to be removed comes in its place. Where it is not even known
what the server has done, that is what the export fails with, and nothing is removed. -/
theorem add_reports_activation (b : ExportBackend) (path : Text) (w u : World) (id : Nat)
    (entry : Text) (henter : b.enter path w = (.ok (id, entry), u)) :
    (∀ problem v, b.activate path u = (.ok (.error problem), v) →
      (Legible b.file w.files →
        (b.add path w).1 = .error (.provisioning (.activation problem))) ∧
      (¬ Legible b.file w.files → ∃ e, (b.add path w).1 = .error (.undecodable e))) ∧
    ∀ e v, b.activate path u = (.error e, v) →
      b.Unheard path u e ∧ b.add path w = (.error e, v) := by
  refine ⟨fun problem v hactivate => ?_, fun e v hactivate => ?_⟩
  · rcases of_refused henter hactivate with ⟨hfailed, hyes⟩ | ⟨hfailed, hno⟩
    · exact ⟨fun _ => hfailed, fun hno => absurd hyes hno⟩
    · exact ⟨fun hyes => absurd hyes hno, fun _ => hfailed⟩
  · refine ⟨of_activate_error (null_notMem_of_enter henter) hactivate, ?_⟩
    rw [add_eq, bind_ok henter, finish, bind_error hactivate]

/-- A world with the export file `x`, in which every command comes to the same. -/
def exportsWorld (mode : Nat) (octets : List UInt8) (result : CommandResult) : World :=
  { World.ofFiles ⟨[([['x']], .file mode octets)]⟩ with otherResult := result }

def kernelBackend : ExportBackend := ⟨.kernel, ['x']⟩

/-- The removal of the entry fails in the end, and what is reported is the refusal all the same. -/
theorem add_reports_activation_of_text :
    let w := { exportsWorld 0o644 (Text.Utf8.encode ['#'])
        (.finished 1 [] (Text.Utf8.encode ['n', 'o'])) with
      faults := [⟨.replace, 5, 0, 1⟩] }
    (kernelBackend.add ['v'] w).1 =
      .error (.provisioning (.activation (.reexportFailed ['n', 'o']))) := by
  intro w
  have hlegible : Legible kernelBackend.file w.files := by
    intro place mode octets hl _
    cases hl
    exact ⟨['#'], rfl⟩
  exact ((add_reports_activation kernelBackend ['v'] w _ 0 (Export.kernelLine ['v']) rfl).1
    (.reexportFailed ['n', 'o']) _ rfl).1 hlegible

/-- A single octet that is no text hides why the server has not taken the export up. -/
theorem add_hides_activation :
    let w := exportsWorld 0o644 [0xff] (.finished 1 [] (Text.Utf8.encode ['n', 'o']))
    (kernelBackend.enter ['v'] w).1 = .ok (0, Export.kernelLine ['v']) ∧
      (kernelBackend.activate ['v'] (kernelBackend.enter ['v'] w).2).1 =
        .ok (.error (.reexportFailed ['n', 'o'])) ∧
      (kernelBackend.add ['v'] w).1 = .error (.undecodable ⟨.startOctet, 0, [0xff]⟩) := by
  exact ⟨rfl, rfl, rfl⟩

/-- What the kernel's server says, by the result of its command. -/
def reexportAnswer (result : CommandResult) : Except Failure (Except ActivationProblem Unit) :=
  (Outside.answerOf "exportfs" result).map (accepted .reexportNotStarted .reexportFailed)

theorem reexport_result (w : World) : (reexport w).1 = reexportAnswer (w.resultOf "exportfs") := by
  have hrun : Outside.runCommand "exportfs" ["-r"] w =
      (Outside.answerOf "exportfs" (w.resultOf "exportfs"), _) :=
    Outside.runCommand_apply (by decide) w
  unfold reexport reexportAnswer
  rw [bind_apply, hrun]
  cases Outside.answerOf "exportfs" (w.resultOf "exportfs") with
  | error e => rfl
  | ok answer => rfl

/-- What is in the file after an entry could not be taken up and was removed again, as far as the
file may be read and there is room beside it. -/
def leftText (w : World) (place : Place) (mode : Nat) (text entry : Text) : Text :=
  if (Node.directory mode).mayRead && roomBeside w.files place then
    Text.erase entry (text ++ entry)
  else text ++ entry

/-- Without faults, the entry is removed again wherever that is possible. -/
theorem rollBack_calm (hp : '\x00' ∉ b.file)
    (hfile : w.files.resolve b.file = .ok (place, .file mode (Text.Utf8.encode text)))
    (hv : v.files = stored w place mode (text ++ entry))
    (hcalm : ∀ call, Fault.Calm call v.faults) :
    (rollBack b.file entry v).1 = .ok () ∧
      (rollBack b.file entry v).2.files =
        stored w place mode (leftText w place mode text entry) := by
  have hlater : v.files.resolve b.file =
      .ok (place, .file (Node.writtenMode mode) (Text.Utf8.encode (text ++ entry))) :=
    hv ▸ resolve_stored hfile _
  have hread : (Node.directory (Node.writtenMode mode)).mayRead = (Node.directory mode).mayRead :=
    Node.mayRead_writtenMode mode
  have hroom : roomBeside v.files place = roomBeside w.files place := by
    rw [hv, stored, roomBeside_put_file (FileTree.resolve_eq_ok.mp hfile).2.1]
  rcases hroll : rollBack b.file entry v with ⟨r, v'⟩
  obtain ⟨rfl, ⟨⟨hread', hroom'⟩, hv'⟩ | ⟨hv', hrw⟩⟩ := of_rollBack hp hlater hroll
  · refine ⟨rfl, ?_⟩
    rw [hv', hv, stored, FileTree.put_put, leftText, ← hread, ← hroom, hread', hroom']
    rfl
  · refine ⟨rfl, ?_⟩
    have hstuck : ((Node.directory mode).mayRead && roomBeside w.files place) = false := by
      rw [Bool.and_eq_false_iff, ← Bool.not_eq_true, ← Bool.not_eq_true, ← not_and_or]
      rintro ⟨hread', hroom'⟩
      exact hrw ⟨hread.trans hread', hroom.trans hroom', (hcalm _).due?, (hcalm _).due?,
        (hcalm _).due?, (hcalm _).due?⟩
    rw [hv', hv, leftText, hstuck]
    rfl

/-- Without faults, a path that the kernel's server does not take up fails for that reason, if the
file may be written. If it may also be read and there is room beside it, every line for the path is
removed from it, so that it has its text again exactly if there was no such line before. In any case
writing has taken away what a write takes from its mode. Where it cannot be read what the server
says, that is the failure, and the line stays. -/
theorem add_kernel_refused (b : ExportBackend) (path : Text) (w : World) (place : Place)
    (mode : Nat) (text : Text) (hb : b.kind = .kernel)
    (hp : '\n' ∉ path) (hnull : '\x00' ∉ b.file)
    (hfile : w.files.resolve b.file = .ok (place, .file mode (Text.Utf8.encode text)))
    (hcalm : ∀ call, Fault.Calm call w.faults) :
    ((Node.directory mode).mayWrite = true →
      (∀ problem, reexportAnswer (w.resultOf "exportfs") = .ok (.error problem) →
        (b.add path w).1 = .error (.provisioning (.activation problem)) ∧
        (b.add path w).2.files =
          stored w place mode (leftText w place mode text (Export.kernelLine path))) ∧
      ∀ e, reexportAnswer (w.resultOf "exportfs") = .error e →
        (b.add path w).1 = .error e ∧
        (b.add path w).2.files = stored w place mode (text ++ Export.kernelLine path)) ∧
    ((Node.directory mode).mayWrite = false →
      (∃ e, (b.add path w).1 = .error (.provisioning (.exportFile b.file e))) ∧
        (b.add path w).2.files = w.files) ∧
    (Text.erase (Export.kernelLine path) (text ++ Export.kernelLine path) = text ↔
      ¬ Export.kernelLine path <:+: text ++ ['\n']) := by
  refine ⟨fun hwrite => ?_, fun hwrite => ?_, Export.erase_kernelLine_eq_iff hp⟩
  · have happend : Ledger.append b.file (Export.kernelLine path) w = _ :=
      Ledger.append_ok hnull (entryOf_ne_nil .kernel path 0) hfile hwrite (hcalm .fsync).due?
    generalize hu : struck .fsync _ = u at happend
    have hufiles : u.files = stored w place mode (text ++ Export.kernelLine path) := by
      rw [← hu, stored, Text.Utf8.encode_append]
      rfl
    have hanswer : (b.activate path u).1 = reexportAnswer (w.resultOf "exportfs") := by
      rw [activate, hb, reexport_result, ← hu]
      rfl
    rcases hexport : b.activate path u with ⟨answer, v⟩
    rw [hexport] at hanswer
    have huv : World.Frame [.results b.program] u v :=
      (activate_within (by simp) path).frame hexport
    have hvfiles : v.files = stored w place mode (text ++ Export.kernelLine path) :=
      (huv.files (by simp)).trans hufiles
    refine ⟨fun problem hrefused => ?_, fun e hunheard => ?_⟩
    · obtain rfl := hanswer.trans hrefused
      have hwu : World.Frame [.files, .call .fsync] w u :=
        (Ledger.append_within (by simp) (by simp) _ _).frame happend
      obtain ⟨hdone, hfiles⟩ := rollBack_calm hnull hfile hvfiles
        fun call => huv.calm call (hwu.calm call (hcalm call))
      rcases hroll : rollBack b.file (Export.kernelLine path) v with ⟨r, v'⟩
      rw [hroll] at hdone hfiles
      subst hdone
      rw [add_kernel hb, bind_ok happend, finish_refused hexport hroll]
      exact ⟨rfl, hfiles⟩
    · obtain rfl := hanswer.trans hunheard
      rw [add_kernel hb, bind_ok happend, finish, bind_error hexport]
      exact ⟨rfl, hvfiles⟩
  · have happend : Ledger.append b.file (Export.kernelLine path) w = _ :=
      Ledger.append_unwritable hnull hfile hwrite
    rw [add_kernel hb, bind_error happend]
    exact ⟨⟨_, rfl⟩, rfl⟩

/-- A file of one other line has that line again. -/
theorem add_kernel_refused_restoring :
    let w := exportsWorld 0o644 (Text.Utf8.encode ['#', '\n']) (.finished 1 [] [])
    (kernelBackend.add ['v'] w).1 = .error (.provisioning (.activation (.reexportFailed []))) ∧
      (kernelBackend.add ['v'] w).2.files = w.files := by
  intro w
  obtain ⟨hfailed, hfiles⟩ := ((add_kernel_refused kernelBackend ['v'] w [['x']] 0o644 ['#', '\n']
    rfl (by decide) (by decide) rfl (fun call => by cases call <;> rfl)).1 rfl).1
    (.reexportFailed []) rfl
  refine ⟨hfailed, hfiles.trans ?_⟩
  decide +kernel

/-- A line that the file already had for the path is lost; the file loses that it runs as its owner;
and the new line stays in a file that may not be read, and where the server writes what is no
text. -/
theorem add_kernel_refused_changing :
    let refused (mode : Nat) (text : Text) := (kernelBackend.add ['v']
      (exportsWorld mode (Text.Utf8.encode text) (.finished 1 [] []))).2.files
    let unread := kernelBackend.add ['v'] (exportsWorld 0o644 [] (.finished 1 [] [0xe9]))
    refused 0o644 (Export.kernelLine ['v']) = (exportsWorld 0o644 [] (.finished 1 [] [])).files ∧
      refused 0o4644 [] = (exportsWorld 0o644 [] (.finished 1 [] [])).files ∧
      refused 0o200 [] = (exportsWorld 0o200 (Text.Utf8.encode (Export.kernelLine ['v']))
        (.finished 1 [] [])).files ∧
      unread.1 = .error (.undecodable ⟨.endOfData, 0, [0xe9]⟩) ∧
      unread.2.files = (exportsWorld 0o644 (Text.Utf8.encode (Export.kernelLine ['v']))
        (.finished 1 [] [])).files := by
  decide +kernel

end NfsVolume.ExportBackend
