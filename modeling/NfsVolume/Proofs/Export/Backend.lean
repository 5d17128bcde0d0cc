import NfsVolume.Export.Backend
import NfsVolume.Proofs.Export.Ledger
import NfsVolume.Proofs.World.Outside

/-! Exporting a path: its entry is in the file in the end, or the file is as it was, or there is a
reason why the entry could not be removed again. -/
namespace NfsVolume.ExportBackend

open Run Files Ledger

variable {b : ExportBackend} {file path text entry : Text} {w u v : World} {place : Place}
  {mode : Nat} {record : ExportRecord}

/-- The entry of a path with an id. -/
def entryOf (kind : ExportKind) (path : Text) (id : Nat) : Text :=
  match kind with
  | .kernel => Export.kernelLine path
  | .ganesha => Export.ganeshaBlock id path

theorem entryOf_ne_nil (kind : ExportKind) (path : Text) (id : Nat) :
    entryOf kind path id ≠ [] := by
  cases kind with
  | kernel =>
    rw [entryOf, Export.kernelLine_eq]
    exact List.cons_ne_nil _ _
  | ganesha =>
    rw [entryOf, Export.ganeshaBlock_eq]
    exact List.cons_ne_nil _ _

/-- The tree after a text has been written to an export file that was there. -/
def stored (w : World) (place : Place) (mode : Nat) (text : Text) : FileTree :=
  w.files.put place (.file (Node.writtenMode mode) (Text.Utf8.encode text))

theorem resolve_stored {old : List UInt8}
    (h : w.files.resolve file = .ok (place, .file mode old)) (text : Text) :
    (stored w place mode text).resolve file =
      .ok (place, .file (Node.writtenMode mode) (Text.Utf8.encode text)) :=
  FileTree.resolve_put_file h _

/-- The program that tells the server of an export. -/
def program (b : ExportBackend) : Text :=
  match b.kind with
  | .kernel => "exportfs"
  | .ganesha => busProgram

/-- Why it is not known whether the server has taken an export up: its program has written what is
no text, or cannot be called with a null character in the path. -/
inductive Unheard (b : ExportBackend) (path : Text) (w : World) : Failure → Prop
  | undecodable (problem : Text.Utf8.ReadError)
      (h : w.answerOf b.program = .error (.undecodable problem)) :
      Unheard b path w (.undecodable problem)
  | null (hb : b.kind = .ganesha) (h : '\x00' ∈ path) :
      Unheard b path w (.value .nullInPath)

/-- Why an entry can stay although its server has not taken it up: the file could not be synced, it
is not known what the server has done, or the file could not be rewritten when the entry was to be
removed. -/
inductive Stuck (b : ExportBackend) (path : Text) (w : World) (place : Place) (mode : Nat)
    (text entry : Text) : Prop
  | unsynced (h : Fault.due? .fsync w.faults ≠ none)
  | unheard (e : Failure) (h : b.Unheard path w e)
  | unremoved (u : World)
      (hu : World.Frame [.files, .count, .call .fsync, .results b.program] w u)
      (hfiles : u.files = stored w place mode (text ++ entry))
      (h : ¬ Rewritable u place (Node.writtenMode mode))

/-- What adding an entry can come to. -/
inductive Outcome (b : ExportBackend) (path : Text) (w : World) (place : Place) (mode : Nat)
    (text entry : Text) (record : ExportRecord) : Except Failure ExportRecord → FileTree → Prop
  | refused (e : Failure) : Outcome b path w place mode text entry record (.error e) w.files
  | undone (e : Failure) :
      Outcome b path w place mode text entry record (.error e) (stored w place mode text)
  | stuck (e : Failure) (h : Stuck b path w place mode text entry) :
      Outcome b path w place mode text entry record (.error e) (stored w place mode (text ++ entry))
  | exported :
      Outcome b path w place mode text entry record (.ok record)
        (stored w place mode (text ++ entry))

/-- Whatever adding an entry comes to, the file holds its text, or its text and the entry. -/
theorem Outcome.resolve {r : Except Failure ExportRecord} {t : FileTree}
    (h : Outcome b path w place mode text entry record r t)
    (hfile : w.files.resolve file = .ok (place, .file mode (Text.Utf8.encode text))) :
    ∃ later mode, (later = text ∨ later = text ++ entry) ∧
      t.resolve file = .ok (place, .file mode (Text.Utf8.encode later)) := by
  cases h with
  | refused e => exact ⟨text, mode, .inl rfl, hfile⟩
  | undone e => exact ⟨text, _, .inl rfl, resolve_stored hfile _⟩
  | stuck e _ => exact ⟨text ++ entry, _, .inr rfl, resolve_stored hfile _⟩
  | exported => exact ⟨text ++ entry, _, .inr rfl, resolve_stored hfile _⟩

/-- The server is told. -/
def activate (b : ExportBackend) (path : Text) : Run (Except ActivationProblem Unit) :=
  match b.kind with
  | .kernel => reexport
  | .ganesha => callAddExport b.file path

theorem activate_within {parts : List Part} (h : Part.results b.program ∈ parts) (path : Text) :
    Within parts (b.activate path) := by
  unfold activate
  unfold program at h
  cases hb : b.kind with
  | kernel =>
    rw [hb] at h
    exact (Outside.runCommand_within h _).bind fun _ => pure_within _
  | ganesha =>
    rw [hb] at h
    exact (log_within _ _ _).bind fun _ =>
      (Outside.runCommand_within h _).bind fun _ => pure_within _

theorem Unheard.of_frame {parts : List Part} {e : Failure} (h : b.Unheard path u e)
    (hf : World.Frame parts w u) (hr : Part.results b.program ∉ parts) : b.Unheard path w e := by
  cases h with
  | undecodable problem h => exact .undecodable problem (hf.answerOf hr ▸ h)
  | null hb h => exact .null hb h

/-- The words of a call hold a null character only if the file or the path does. -/
theorem null_mem_callArguments {word : Text} (hword : word ∈ busProgram :: callArguments file path)
    (hnull : '\x00' ∈ word) : '\x00' ∈ file ∨ '\x00' ∈ path := by
  have hfixed : ∀ fixed ∈ busProgram :: (callArguments [] []).take 5, '\x00' ∉ fixed := by decide
  have hcut : busProgram :: callArguments file path =
      (busProgram :: (callArguments [] []).take 5) ++
        ["string:" ++ file, "string:export(path = " ++ path ++ ")"] := rfl
  rw [hcut] at hword
  rcases List.mem_append.mp hword with hword | hword
  · exact absurd hnull (hfixed word hword)
  · rcases List.mem_pair.mp hword with rfl | rfl
    · exact .inl ((List.mem_append.mp hnull).resolve_left (by decide))
    · refine .inr ?_
      have hfront := (List.mem_append.mp hnull).resolve_right (by decide)
      exact (List.mem_append.mp hfront).resolve_left (by decide)

/-- Telling the server fails only if it is not known what the server has done. -/
theorem of_activate_error {e : Failure} (hp : '\x00' ∉ b.file)
    (h : b.activate path w = (.error e, v)) : b.Unheard path w e := by
  have hread {w' : World} (hw' : w'.answerOf b.program = w.answerOf b.program)
      (he : w'.answerOf b.program = .error e) : b.Unheard path w e := by
    rw [hw'] at he
    obtain ⟨⟨problem, rfl⟩, -⟩ := Outside.of_answerOf_error he
    exact .undecodable problem he
  unfold activate at h
  cases hb : b.kind with
  | kernel =>
    have hprogram : b.program = "exportfs" := by rw [program, hb]
    rw [hb] at h
    rcases of_bind h with ⟨answer, u, -, hr⟩ | ⟨e', hrun, hr⟩
    · cases hr
    · cases hr
      rw [Outside.runCommand_apply (by decide)] at hrun
      exact hread rfl (hprogram ▸ congrArg Prod.fst hrun)
  | ganesha =>
    have hprogram : b.program = busProgram := by rw [program, hb]
    rw [hb] at h
    obtain ⟨_, u, hlog, h⟩ | ⟨e', hlog, -⟩ := of_bind h
    · rcases of_bind h with ⟨answer, u', -, hr⟩ | ⟨e', hrun, hr⟩
      · cases hr
      · cases hr
        have hu : World.Frame [] w u := (log_within _ _ _).frame hlog
        rcases Outside.of_runCommand hrun with ⟨⟨word, hword, hnull⟩, he, -⟩ | ⟨he, -⟩
        · cases he
          exact .null hb ((null_mem_callArguments hword hnull).resolve_left hp)
        · exact hread (hu.answerOf (by simp)) (hprogram ▸ he.symm)
    · cases hlog

theorem rollBack_within {parts : List Part} (hf : Part.files ∈ parts)
    (hmkstemp : Part.call .mkstemp ∈ parts) (hfsync : Part.call .fsync ∈ parts)
    (hchmod : Part.call .chmod ∈ parts) (hreplace : Part.call .replace ∈ parts)
    (file content : Text) : Within parts (rollBack file content) := by
  apply (Ledger.remove_within hf hmkstemp hfsync hchmod hreplace file content).tryCatch
  intro e
  cases e with
  | provisioning problem =>
    cases problem with
    | exportFile path e => exact log_within _ _ _
    | _ => exact throw_within _
  | _ => exact throw_within _

/-- Rolling an entry back from a file of text never fails: the entry is gone, from a file that may
be read and has room beside it, or the file cannot be rewritten. -/
theorem of_rollBack {r : Except Failure Unit} (hp : '\x00' ∉ file)
    (hfile : w.files.resolve file = .ok (place, .file mode (Text.Utf8.encode text)))
    (h : rollBack file entry w = (r, v)) :
    r = .ok () ∧
      (((Node.directory mode).mayRead = true ∧ roomBeside w.files place = true) ∧
          v.files = w.files.put place (.file mode (Text.Utf8.encode (Text.erase entry text))) ∨
        (v.files = w.files ∧ ¬ Rewritable w place mode)) := by
  rcases of_tryCatch h with ⟨_, hremove, rfl⟩ | ⟨e, u, hremove, hlog⟩
  · rcases of_remove hp hfile hremove with ⟨-, hroom, hv⟩ | ⟨⟨e, hr⟩, -⟩
    · exact ⟨rfl, .inl ⟨hroom, hv⟩⟩
    · cases hr
  · rcases of_remove hp hfile hremove with ⟨hr, -⟩ | ⟨⟨e', hr⟩, hu, hrw⟩
    · cases hr
    · cases hr
      cases hlog
      exact ⟨rfl, .inr ⟨hu, hrw⟩⟩

/-- Rolling an entry back fails only if the file is no text. -/
theorem of_rollBack_octets {octets : List UInt8} {r : Except Failure Unit} (hp : '\x00' ∉ file)
    (hfile : w.files.resolve file = .ok (place, .file mode octets))
    (h : rollBack file entry w = (r, v)) :
    (r = .ok () ∧ Legible file w.files) ∨
      (∃ e, r = .error (.undecodable e)) ∧ ¬ Legible file w.files := by
  cases hread : (Node.file mode octets).mayRead with
  | false =>
    have hremove : remove file entry w = _ := remove_unreadable hp hfile hread
    rw [rollBack, tryCatch_error hremove] at h
    cases h
    refine .inl ⟨rfl, fun place' mode' octets' hl hread' => ?_⟩
    rw [hfile] at hl
    cases hl
    rw [hread] at hread'
    cases hread'
  | true =>
    cases hdecode : Text.Utf8.decode octets with
    | ok text =>
      obtain rfl := Text.Utf8.encode_of_decode hdecode
      refine .inl ⟨(of_rollBack hp hfile h).1, fun place' mode' octets' hl _ => ?_⟩
      rw [hfile] at hl
      cases hl
      exact ⟨text, rfl⟩
    | error e =>
      have hremove : remove file entry w = _ := remove_undecodable hp hfile hread hdecode
      rw [rollBack, tryCatch_error hremove] at h
      cases h
      exact .inr ⟨⟨e, rfl⟩, not_legible hfile hread hdecode⟩

/-- The steps behind the entry: the server is told, and what it says is seen to. -/
def finish (file entry : Text) (activate : Run (Except ActivationProblem Unit)) (message : Text)
    (record : ExportRecord) : Run ExportRecord := do
  settle file entry (← activate)
  Run.log .info .exports message
  return record

variable {activate : Run (Except ActivationProblem Unit)} {message : Text}

theorem finish_within {parts : List Part} (hf : Part.files ∈ parts)
    (hmkstemp : Part.call .mkstemp ∈ parts) (hfsync : Part.call .fsync ∈ parts)
    (hchmod : Part.call .chmod ∈ parts) (hreplace : Part.call .replace ∈ parts)
    (hact : Within parts activate) : Within parts (finish file entry activate message record) := by
  have hfinished : Within parts (log .info .exports message >>= fun _ => pure record) :=
    (log_within _ _ _).bind fun _ => pure_within _
  refine hact.bind fun answer => Within.bind ?_ fun _ => hfinished
  cases answer with
  | ok _ => exact pure_within _
  | error problem =>
    apply (rollBack_within hf hmkstemp hfsync hchmod hreplace file entry).bind
    intro _
    exact throw_within _

/-- A refusal is reported once the entry has been removed again. -/
theorem finish_refused {problem : ActivationProblem}
    (hanswer : activate w = (.ok (.error problem), u))
    (hroll : rollBack file entry u = (.ok (), v)) :
    finish file entry activate message record w =
      (.error (.provisioning (.activation problem)), v) := by
  have hsettle : settle file entry (.error problem) u =
      (.error (.provisioning (.activation problem)), v) := by
    rw [settle, bind_ok hroll]
    rfl
  rw [finish, bind_ok hanswer, bind_error hsettle]

theorem of_finish {r : Except Failure ExportRecord} (hp : '\x00' ∉ b.file) (hne : entry ≠ [])
    (hend : Text.OnlyAtEnd entry text)
    (hfile : w.files.resolve b.file = .ok (place, .file mode (Text.Utf8.encode (text ++ entry))))
    (h : finish b.file entry (b.activate path) message record w = (r, v)) :
    (r = .ok record ∧ v.files = w.files) ∨
      ((∃ e, r = .error e) ∧ (v.files = w.files.put place (.file mode (Text.Utf8.encode text)) ∨
        (v.files = w.files ∧ ((∃ e, b.Unheard path w e) ∨
          ∃ u, World.Frame [.results b.program] w u ∧ u.files = w.files ∧
            ¬ Rewritable u place mode)))) := by
  have hact : Within [.results b.program] (b.activate path) := activate_within (by simp) path
  rcases of_bind h with ⟨answer, u, hanswer, hrest⟩ | ⟨e, hanswer, rfl⟩
  · have hwu : World.Frame [.results b.program] w u := hact.frame hanswer
    have hfiles : u.files = w.files := hwu.files (by simp)
    cases answer with
    | ok _ =>
      cases hrest
      exact .inl ⟨rfl, hfiles⟩
    | error problem =>
      rcases hroll : rollBack b.file entry u with ⟨r', u'⟩
      obtain ⟨rfl, hu'⟩ := of_rollBack hp (hfiles ▸ hfile) hroll
      rw [finish_refused hanswer hroll] at h
      cases h
      refine .inr ⟨⟨_, rfl⟩, ?_⟩
      rw [hfiles, Text.erase_append hne hend] at hu'
      exact hu'.imp (fun ⟨_, hv⟩ => hv) fun ⟨hv, hrw⟩ => ⟨hv, .inr ⟨u, hwu, hfiles, hrw⟩⟩
  · refine .inr ⟨⟨e, rfl⟩, .inr ⟨?_, .inl ⟨e, of_activate_error hp hanswer⟩⟩⟩
    exact (hact.frame hanswer).files (by simp)

/-- An entry that could be appended stands at the end of the file. -/
theorem of_append_ok (hne : entry ≠ [])
    (hfile : w.files.resolve file = .ok (place, .file mode (Text.Utf8.encode text)))
    (h : Ledger.append file entry w = (.ok (), u)) :
    '\x00' ∉ file ∧ u.files = stored w place mode (text ++ entry) := by
  rcases Ledger.of_append hne h with ⟨-, e, hr⟩ | ⟨place', mode', old, hp, hl, hu, -⟩
  · cases hr
  · rw [hfile] at hl
    cases hl
    refine ⟨hp, ?_⟩
    rw [hu, stored, Text.Utf8.encode_append]
    rfl

/-- Appending an entry and telling the server. -/
theorem of_append_finish {r : Except Failure ExportRecord} (hne : entry ≠ [])
    (hend : Text.OnlyAtEnd entry text)
    (hfile : w.files.resolve b.file = .ok (place, .file mode (Text.Utf8.encode text)))
    (h : (Ledger.append b.file entry >>= fun _ =>
      finish b.file entry (b.activate path) message record) w = (r, v)) :
    Outcome b path w place mode text entry record r v.files := by
  rcases of_bind h with ⟨_, u, happend, hfinish⟩ | ⟨e, happend, rfl⟩
  · obtain ⟨hp, hufiles⟩ := of_append_ok hne hfile happend
    have hwu : World.Frame [.files, .call .fsync] w u :=
      (Ledger.append_within (by simp) (by simp) b.file entry).frame happend
    have hback : u.files.put place (.file (Node.writtenMode mode) (Text.Utf8.encode text)) =
        stored w place mode text := by
      rw [hufiles, stored, stored, FileTree.put_put]
    rcases of_finish hp hne hend (hufiles ▸ resolve_stored hfile _) hfinish with
      ⟨rfl, hv⟩ | ⟨⟨e, rfl⟩, hv | ⟨hv, ⟨e', hunheard⟩ | ⟨u', huu', hu', hrw⟩⟩⟩
    · rw [hv, hufiles]
      exact .exported
    · rw [hv, hback]
      exact .undone e
    · rw [hv, hufiles]
      exact .stuck e (.unheard e' (hunheard.of_frame hwu (by simp)))
    · rw [hv, hufiles]
      exact .stuck e (.unremoved u' ((hwu.mono (by simp)).trans (huu'.mono (by simp)))
        (hu'.trans hufiles) hrw)
  · rcases Ledger.of_append hne happend with ⟨rfl, -⟩ |
      ⟨place', mode', old, hp, hl, hu, ⟨-, hr⟩ | ⟨hdue, -⟩⟩
    · exact .refused e
    · cases hr
    · rw [hfile] at hl
      cases hl
      have hufiles : v.files = stored w place mode (text ++ entry) := by
        rw [hu, stored, Text.Utf8.encode_append]
        rfl
      rw [hufiles]
      exact .stuck e (.unsynced hdue)

theorem Stuck.of_frame (h : Stuck b path u place mode text entry)
    (hf : World.Frame [.count] w u) : Stuck b path w place mode text entry := by
  cases h with
  | unsynced hdue => exact .unsynced (hf.due? (by simp) ▸ hdue)
  | unheard e h => exact .unheard e (h.of_frame hf (by simp))
  | unremoved u' huu' hfiles hrw =>
    refine .unremoved u' ((hf.mono (by simp)).trans huu') ?_ hrw
    rw [hfiles, stored, stored, hf.files (by simp)]

theorem Outcome.of_frame {r : Except Failure ExportRecord} {t : FileTree}
    (h : Outcome b path u place mode text entry record r t) (hf : World.Frame [.count] w u) :
    Outcome b path w place mode text entry record r t := by
  have hstored (s : Text) : stored u place mode s = stored w place mode s := by
    rw [stored, stored, hf.files (by simp)]
  cases h with
  | refused e =>
    rw [hf.files (by simp)]
    exact .refused e
  | undone e =>
    rw [hstored]
    exact .undone e
  | stuck e hstuck =>
    rw [hstored]
    exact .stuck e (hstuck.of_frame hf)
  | exported =>
    rw [hstored]
    exact .exported

theorem add_kernel (hb : b.kind = .kernel) (path : Text) :
    b.add path = (Ledger.append b.file (Export.kernelLine path) >>= fun _ =>
      finish b.file (Export.kernelLine path) (b.activate path)
        ("Exported " ++ path ++ " via " ++ b.file) ⟨.kernel, Export.kernelLine path, 0⟩) := by
  unfold add activate
  rw [hb]
  rfl

/-- What is written to the log when ganesha exports a path. -/
def ganeshaMessage (path : Text) (id : Nat) : Text :=
  "Exported " ++ path ++ " via ganesha with Export_Id " ++ Text.decimal id

theorem add_ganesha (hb : b.kind = .ganesha) (path : Text) :
    b.add path = (Ledger.allocateId b.file >>= fun id =>
      Run.ofExcept (entryFor path id) >>= fun block => Ledger.append b.file block >>= fun _ =>
        finish b.file block (b.activate path) (ganeshaMessage path id)
          ⟨.ganesha, block, id⟩) := by
  unfold add activate
  rw [hb]
  simp only [appendWithId, bind_assoc, pure_bind]
  rfl

theorem of_entryFor {id : Nat} {block : Text} (h : entryFor path id = .ok block) :
    Text.Integer.tooLong id = false ∧ Export.ganeshaBlock id path = block := by
  unfold entryFor at h
  split at h
  · cases h
  · rename_i hshort
    exact ⟨eq_false_of_ne_true hshort, Except.ok.inj h⟩

theorem add_within {parts : List Part} (hf : Part.files ∈ parts) (hc : Part.count ∈ parts)
    (hfsync : Part.call .fsync ∈ parts) (hmkstemp : Part.call .mkstemp ∈ parts)
    (hchmod : Part.call .chmod ∈ parts) (hreplace : Part.call .replace ∈ parts)
    (hresults : Part.results b.program ∈ parts) (path : Text) : Within parts (b.add path) := by
  cases hb : b.kind with
  | kernel =>
    rw [add_kernel hb]
    exact (Ledger.append_within hf hfsync _ _).bind fun _ =>
      finish_within hf hmkstemp hfsync hchmod hreplace (activate_within hresults path)
  | ganesha =>
    rw [add_ganesha hb]
    apply (Ledger.allocateId_within hc _).bind
    intro _
    apply (ofExcept_within _).bind
    intro _
    exact (Ledger.append_within hf hfsync _ _).bind fun _ =>
      finish_within hf hmkstemp hfsync hchmod hreplace (activate_within hresults path)

theorem of_add_kernel {r : Except Failure ExportRecord} (hb : b.kind = .kernel)
    (hend : Text.OnlyAtEnd (Export.kernelLine path) text)
    (hfile : w.files.resolve b.file = .ok (place, .file mode (Text.Utf8.encode text)))
    (h : b.add path w = (r, v)) :
    Outcome b path w place mode text (Export.kernelLine path)
      ⟨.kernel, Export.kernelLine path, 0⟩ r v.files := by
  rw [add_kernel hb] at h
  exact of_append_finish (entryOf_ne_nil .kernel path 0) hend hfile h

/-- With ganesha, nothing happens unless there is an id for the entry. -/
theorem of_add_unallocated {r : Except Failure ExportRecord} {e : Failure} (hb : b.kind = .ganesha)
    (hid : (Ledger.allocateId b.file w).1 = .error e) (h : b.add path w = (r, v)) :
    (∃ e, r = .error e) ∧ v.files = w.files ∧ v.lastExportId = w.lastExportId := by
  have hallocate : Ledger.allocateId b.file w = (.error e, (Ledger.allocateId b.file w).2) :=
    Prod.ext hid rfl
  rw [add_ganesha hb, bind_error hallocate] at h
  cases h
  rcases Ledger.of_allocateId hallocate with ⟨hkept, -⟩ | ⟨last, -, hr, -⟩
  · exact ⟨⟨e, rfl⟩, congrArg World.files hkept, congrArg World.lastExportId hkept⟩
  · cases hr

/-- The id of an entry is the count from then on. -/
theorem of_add_allocated {r : Except Failure ExportRecord} {id : Nat} (hb : b.kind = .ganesha)
    (hid : (Ledger.allocateId b.file w).1 = .ok id) (hahead : Ahead w.lastExportId text)
    (hfile : w.files.resolve b.file = .ok (place, .file mode (Text.Utf8.encode text)))
    (h : b.add path w = (r, v)) :
    v.lastExportId = id ∧
      Outcome b path w place mode text (Export.ganeshaBlock id path)
        ⟨.ganesha, Export.ganeshaBlock id path, id⟩ r v.files := by
  rcases hallocate : Ledger.allocateId b.file w with ⟨r', u⟩
  rw [hallocate] at hid
  subst hid
  rw [add_ganesha hb, bind_ok hallocate] at h
  have hwu : World.Frame [.count] w u := (Ledger.allocateId_within (by simp) _).frame hallocate
  have hfiles : u.files = w.files := hwu.files (by simp)
  rcases Ledger.of_allocateId hallocate with ⟨-, e, hr⟩ | ⟨last, hlast, hr, hcount⟩
  · cases hr
  · cases hr
    cases hentry : entryFor path ((last + 1 : Nat)) with
    | error e =>
      rw [hentry] at h
      cases h
      exact ⟨hcount, hfiles ▸ .refused e⟩
    | ok block =>
      rw [hentry] at h
      obtain ⟨-, hblock⟩ := of_entryFor hentry
      subst hblock
      rw [bind_ok (ofExcept_apply _ u)] at h
      have hend := Export.onlyAtEnd_ganeshaBlock
        (hlast.not_idMark hfile hahead (Nat.lt_succ_self last)) path
      have huv : World.Frame [.files, .call .fsync, .call .mkstemp, .call .chmod, .call .replace,
          .results b.program] u v := by
        refine Within.frame ?_ h
        exact (Ledger.append_within (by simp) (by simp) _ _).bind fun _ =>
          finish_within (by simp) (by simp) (by simp) (by simp) (by simp)
            (activate_within (by simp) path)
      refine ⟨(huv.count (by simp)).trans hcount, ?_⟩
      have hout :=
        of_append_finish (entryOf_ne_nil .ganesha path (last + 1)) hend (hfiles ▸ hfile) h
      exact hout.of_frame hwu

/-- The entry that is appended next for a path. -/
def NextEntry (b : ExportBackend) (w : World) (path entry : Text) : Prop :=
  match b.kind with
  | .kernel => entry = Export.kernelLine path
  | .ganesha => ∃ last, Follows b.file w last ∧ entry = Export.ganeshaBlock (last + 1 : Nat) path

/-- An entry that is appended to a text can be told from the text: the line of the kernel's server
occurs only at the end, and the ids of ganesha's are not above the count unless it is zero. -/
def Separable (b : ExportBackend) (w : World) (path text : Text) : Prop :=
  match b.kind with
  | .kernel => Text.OnlyAtEnd (Export.kernelLine path) text
  | .ganesha => w.lastExportId = 0 ∨ ∀ id ∈ Export.ids text, id ≤ w.lastExportId

theorem of_add {r : Except Failure ExportRecord} (hseparable : b.Separable w path text)
    (hfile : w.files.resolve b.file = .ok (place, .file mode (Text.Utf8.encode text)))
    (h : b.add path w = (r, v)) :
    ((∃ e, r = .error e) ∧ v.files = w.files) ∨
      ∃ entry record, b.NextEntry w path entry ∧
        Outcome b path w place mode text entry record r v.files := by
  unfold Separable at hseparable
  unfold NextEntry
  cases hb : b.kind with
  | kernel =>
    rw [hb] at hseparable
    exact .inr ⟨_, _, rfl, of_add_kernel hb hseparable hfile h⟩
  | ganesha =>
    rw [hb] at hseparable
    rcases hallocate : Ledger.allocateId b.file w with ⟨e | id, u⟩
    · obtain ⟨he, hv, -⟩ := of_add_unallocated hb (congrArg Prod.fst hallocate) h
      exact .inl ⟨he, hv⟩
    · rcases Ledger.of_allocateId hallocate with ⟨-, e, hr⟩ | ⟨last, hlast, hr, -⟩
      · cases hr
      · cases hr
        have hout := (of_add_allocated hb (congrArg Prod.fst hallocate)
          (ahead_of_ids hseparable) hfile h).2
        exact .inr ⟨_, _, ⟨last, hlast, rfl⟩, hout⟩

/-- Without an export file nothing is written. -/
theorem of_add_missing {r : Except Failure ExportRecord}
    (hfile : ∀ place mode old, w.files.resolve b.file ≠ .ok (place, .file mode old))
    (h : b.add path w = (r, v)) : (∃ e, r = .error e) ∧ v.files = w.files := by
  have happend {u : World} (hu : u.files = w.files) (kind : ExportKind) (id : Nat)
      (activate : Run (Except ActivationProblem Unit)) (message : Text) (record : ExportRecord)
      (hrun : (Ledger.append b.file (entryOf kind path id) >>= fun _ =>
        finish b.file (entryOf kind path id) activate message record) u = (r, v)) :
      (∃ e, r = .error e) ∧ v.files = w.files := by
    rcases of_bind hrun with ⟨_, u', hentry, -⟩ | ⟨e, hentry, rfl⟩
    · rcases Ledger.of_append (entryOf_ne_nil kind path id) hentry with
        ⟨-, e, hr⟩ | ⟨place, mode, old, -, hl, -⟩
      · cases hr
      · exact absurd (hu ▸ hl) (hfile place mode old)
    · rcases Ledger.of_append (entryOf_ne_nil kind path id) hentry with
        ⟨rfl, -⟩ | ⟨place, mode, old, -, hl, -⟩
      · exact ⟨⟨e, rfl⟩, hu⟩
      · exact absurd (hu ▸ hl) (hfile place mode old)
  cases hb : b.kind with
  | kernel =>
    rw [add_kernel hb] at h
    exact happend rfl .kernel 0 _ _ _ h
  | ganesha =>
    rw [add_ganesha hb] at h
    rcases of_bind h with ⟨id, u, hid, hrest⟩ | ⟨e, hid, rfl⟩
    · have hwu : World.Frame [.count] w u := (Ledger.allocateId_within (by simp) _).frame hid
      cases hentry : entryFor path id with
      | error e =>
        rw [hentry] at hrest
        cases hrest
        exact ⟨⟨e, rfl⟩, hwu.files (by simp)⟩
      | ok block =>
        rw [hentry, bind_ok (ofExcept_apply _ u)] at hrest
        obtain ⟨-, hblock⟩ := of_entryFor hentry
        subst hblock
        exact happend (hwu.files (by simp)) .ganesha id _ _ _ hrest
    · have hwv : World.Frame [.count] w v := (Ledger.allocateId_within (by simp) _).frame hid
      exact ⟨⟨e, rfl⟩, hwv.files (by simp)⟩

end NfsVolume.ExportBackend
