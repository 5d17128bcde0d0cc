import NfsVolume.Proofs.Export.Removal
import NfsVolume.Proofs.Provisioner.Order
import NfsVolume.Proofs.Provisioner.Runs

/-! Entries of provisioned volumes are removed in any order: the export file always holds its
initial text and the entries of the volumes that are left. -/
namespace NfsVolume

namespace ExportBackend

open Run Ledger

variable {b : ExportBackend} {path text : Text} {w v : World} {place : Place} {mode : Nat}
  {record : ExportRecord}

theorem null_notMem_of_add (h : b.add path w = (.ok record, v)) : '\x00' ∉ b.file := by
  rw [add_eq] at h
  obtain ⟨⟨id, entry⟩, u, henter, -⟩ := of_bind_ok h
  exact null_notMem_of_enter henter

/-- An export that returns has its entry at the end of the file, with an id above all others. -/
theorem of_add_returned
    (hfile : w.files.resolve b.file = .ok (place, .file mode (Text.Utf8.encode text)))
    (hcounted : b.kind = .ganesha →
      w.lastExportId = 0 ∨ ∀ id ∈ Export.ids text, id ≤ w.lastExportId)
    (h : b.add path w = (.ok record, v)) :
    ∃ id : Nat, record.exportId = id ∧ record.content = entryOf b.kind path id ∧
      v.files = stored w place mode (text ++ record.content) ∧
      (b.kind = .ganesha → v.lastExportId = id ∧ ∀ other ∈ Export.ids text, other < id) := by
  cases hb : b.kind with
  | kernel =>
    obtain ⟨place', mode', old, hadded⟩ := Added.of_add h
    obtain ⟨id, hid, hcontent⟩ := hadded.content
    have hresolve := hadded.resolve
    rw [hfile] at hresolve
    cases hresolve
    refine ⟨id, hid, hb ▸ hcontent, ?_, nofun⟩
    rw [hadded.files, stored, Text.Utf8.encode_append]
  | ganesha =>
    have hcounted := hcounted hb
    rcases hallocate : allocateId b.file w with ⟨e | id, u⟩
    · obtain ⟨⟨e', hr⟩, -⟩ := of_add_unallocated hb (congrArg Prod.fst hallocate) h
      cases hr
    · obtain ⟨hcount, hout⟩ := of_add_allocated hb (congrArg Prod.fst hallocate)
        (ahead_of_ids hcounted) hfile h
      rcases of_allocateId hallocate with ⟨-, e, hr⟩ | ⟨last, hlast, hr, -⟩
      · cases hr
      · cases hr
        generalize v.files = t at hout
        cases hout
        refine ⟨last + 1, rfl, rfl, rfl, fun _ => ⟨hcount, fun other hother => ?_⟩⟩
        exact Nat.lt_succ_of_le (hlast.ids_le hfile hcounted other hother)

end ExportBackend

namespace Provisioner

open Run Volume ExportBackend Files

variable {b : ExportBackend} {p : Provisioner} {request : VolumeRequest} {w u v : World}
  {text : Text} {place : Place} {mode : Nat} {places : List Place} {volume : ProvisionedVolume}
  {returned kept before behind : List ProvisionedVolume} {t : FileTree} {c : Circumstances}

/-- What a world is reached by from the first one: volumes are returned, entries of volumes are
removed or cannot be, and new ledgers take over. Besides the world there are the volumes that have
been returned and those of them whose entries have not been removed. -/
inductive Reaches (b : ExportBackend) (w : World) :
    World → List ProvisionedVolume → List ProvisionedVolume → Prop
  | start : Reaches b w w [] []
  | provisioned {u v : World} {returned kept : List ProvisionedVolume} (p : Provisioner)
      (request : VolumeRequest) (circumstances : Circumstances) (volume : ProvisionedVolume)
      (hp : p.backend = b)
      (hprovision : p.provision request (u.meeting circumstances) = (.ok volume, v))
      (h : Reaches b w u returned kept) : Reaches b w v (returned ++ [volume]) (kept ++ [volume])
  | removed {u v : World} {returned before behind : List ProvisionedVolume}
      (circumstances : Circumstances) (volume : ProvisionedVolume)
      (hremove : Ledger.remove b.file volume.record.content (u.meeting circumstances) = (.ok (), v))
      (h : Reaches b w u returned (before ++ volume :: behind)) :
      Reaches b w v returned (before ++ behind)
  | unremoved {u v : World} {returned kept : List ProvisionedVolume}
      (circumstances : Circumstances) (volume : ProvisionedVolume) (hvolume : volume ∈ kept)
      (e : Failure)
      (hremove : Ledger.remove b.file volume.record.content (u.meeting circumstances) =
        (.error e, v))
      (h : Reaches b w u returned kept) : Reaches b w v returned kept
  | restarted {u : World} {returned kept : List ProvisionedVolume}
      (h : Reaches b w u returned kept) : Reaches b w (u.withCount 0) returned kept

/-- The id and the path that the entry of a volume is for. -/
def entryFor (volume : ProvisionedVolume) : Nat × Text :=
  (volume.record.exportId.toNat, volume.path)

/-- What is asked of the volumes of a run, and of the text that the file begins with. -/
structure Clean (b : ExportBackend) (text : Text) (volume : ProvisionedVolume) : Prop where
  newline : '\n' ∉ volume.path
  label : ¬ Export.idLabel <:+: volume.path
  line : b.kind = .kernel → ¬ Export.kernelLine volume.path <:+: text ++ ['\n']

/-- The file holds its initial text and the entries of the volumes that are left, which differ from
each other; and every volume that has been returned still has its directory. -/
structure Undoable (b : ExportBackend) (t : FileTree) (place : Place) (text : Text) (v : World)
    (returned kept : List ProvisionedVolume) (mode : Nat) (places : List Place) : Prop where
  grown : Grown t v.files b.file place mode (Text.Utf8.encode (text ++ entriesOf kept)) places
  readable : ∀ initial content, t.get? place = some (.file initial content) →
    (Node.directory mode).mayRead = (Node.directory initial).mayRead
  noNull : returned ≠ [] → '\x00' ∉ b.file
  sublist : kept.Sublist returned
  located : ∀ volume ∈ returned, ∃ q ∈ places, t.locate volume.path = .ok q
  content : ∀ volume ∈ kept,
    volume.record.content = entryOf b.kind (entryFor volume).2 (entryFor volume).1
  distinct : Distinct b.kind text (kept.map entryFor)
  counted : b.kind = .ganesha →
    v.lastExportId = 0 ∨ ∀ id ∈ Export.ids (text ++ entriesOf kept), id ≤ v.lastExportId

theorem entriesOf_append (volumes more : List ProvisionedVolume) :
    entriesOf (volumes ++ more) = entriesOf volumes ++ entriesOf more := by
  simp [entriesOf]

theorem entriesOf_singleton (volume : ProvisionedVolume) :
    entriesOf [volume] = volume.record.content := List.append_nil volume.record.content

/-- The entries of volumes are those of their ids and paths. -/
theorem entriesOf_eq {kind : ExportKind}
    (h : ∀ volume ∈ kept,
      volume.record.content = entryOf kind (entryFor volume).2 (entryFor volume).1) :
    entriesOf kept = entriesText kind (kept.map entryFor) := by
  unfold entriesOf entriesText
  rw [List.map_map]
  exact congrArg List.flatten (List.map_congr_left h)

theorem ids_entriesOf
    (h : ∀ volume ∈ kept,
      volume.record.content = entryOf .ganesha (entryFor volume).2 (entryFor volume).1)
    (hdistinct : Distinct .ganesha text (kept.map entryFor)) :
    Export.ids (text ++ entriesOf kept) =
      Export.ids text ++ kept.map fun volume => (entryFor volume).1 := by
  rw [entriesOf_eq h, ids_append_entriesText hdistinct, List.map_map]
  rfl

theorem Undoable.start (ht : w.files.IsTree) (hcount : w.lastExportId = 0)
    (hfile : w.files.resolve b.file = .ok (place, .file mode (Text.Utf8.encode text))) :
    Undoable b w.files place text w [] [] mode [] where
  grown := by
    simpa [entriesOf] using Grown.start ht hfile
  readable initial content hnode := by
    rw [(FileTree.resolve_eq_ok.mp hfile).2.1] at hnode
    cases hnode
    rfl
  noNull h := absurd rfl h
  sublist := List.nil_sublist []
  located := by simp
  content := by simp
  distinct := Distinct.nil b.kind text
  counted _ := .inl hcount

theorem Undoable.restarted (h : Undoable b t place text v returned kept mode places) :
    Undoable b t place text (v.withCount 0) returned kept mode places where
  grown := h.grown
  readable := h.readable
  noNull := h.noNull
  sublist := h.sublist
  located := h.located
  content := h.content
  distinct := h.distinct
  counted _ := .inl rfl

/-- A volume is made where none has been made before. -/
theorem Undoable.path_new {path : Text} {q : Place}
    (h : Undoable b t place text v returned kept mode places) (hvacant : Vacant v.files path q) :
    path ∉ returned.map fun volume => volume.path := by
  intro hmem
  obtain ⟨volume, hvolume, rfl⟩ := List.mem_map.mp hmem
  obtain ⟨q', hq', hlocated⟩ := h.located volume hvolume
  have hsame := h.grown.covered.locate hlocated
  rw [hvacant.located] at hsame
  cases hsame
  exact (h.grown.empty q hvacant.free).2 hq'

theorem Undoable.provisioned (hp : p.backend = b)
    (hprovision : p.provision request (u.meeting c) = (.ok volume, v))
    (hclean : Clean b text volume)
    (h : Undoable b t place text u returned kept mode places) :
    ∃ q, Undoable b t place text v (returned ++ [volume]) (kept ++ [volume])
      (Node.writtenMode mode) (places ++ [q]) := by
  obtain ⟨-, q, u₁, after, hreached, hfiles, hcount⟩ :=
    of_provision_ok (w := u.meeting c) h.grown.tree hprovision
  have hbefore : u₁.lastExportId = u.lastExportId :=
    hreached.frame.count (by simp [earlyParts, allocationParts])
  have hresolve := hreached.resolve (hp ▸ h.grown.resolve)
  have hadd := hreached.add
  rw [hp] at hresolve hadd
  obtain ⟨id, hid, hcontent, hstored, hganesha⟩ :=
    of_add_returned hresolve (fun hb => hbefore.symm ▸ h.counted hb) hadd
  have hentry : entryFor volume = (id, volume.path) := by
    rw [entryFor, hid]
    rfl
  have hnew := h.path_new hreached.vacant
  have hmade : u₁.files = u.files.put q (.directory directoryMode) := hreached.files
  have htext := congrArg (text ++ ·) (entriesOf_append kept [volume])
  simp only [entriesOf_singleton, ← List.append_assoc] at htext
  refine ⟨q, ?grown, fun initial content hnode => (Node.mayRead_writtenMode mode).trans
    (h.readable initial content hnode), fun _ => null_notMem_of_add hadd,
    h.sublist.append (List.Sublist.refl _), ?located, ?content, ?distinct, ?counted⟩
  case grown =>
    rw [htext, hfiles, hstored, stored, hmade]
    exact (h.grown.make hreached.isVolumePath hreached.vacant).rewrite _ _
  case located =>
    intro other hother
    rcases List.mem_append.mp hother with hother | hother
    · obtain ⟨q', hq', hlocated⟩ := h.located other hother
      exact ⟨q', List.mem_append_left _ hq', hlocated⟩
    · rw [List.mem_singleton.mp hother]
      exact ⟨q, List.mem_append_right _ (List.mem_singleton.mpr rfl),
        h.grown.covers.locate hreached.vacant.located⟩
  case content =>
    intro other hother
    rcases List.mem_append.mp hother with hother | hother
    · exact h.content other hother
    · rw [List.mem_singleton.mp hother, hcontent, hentry]
  case distinct =>
    have hdistinct := h.distinct
    rw [List.map_append, List.map_singleton, hentry]
    cases hb : b.kind with
    | kernel =>
      rw [hb] at hdistinct
      refine hdistinct.append_kernelLine hclean.newline (hclean.line hb) fun hmem => ?_
      rw [List.map_map] at hmem
      exact hnew ((h.sublist.map _).subset hmem)
    | ganesha =>
      rw [hb] at hdistinct
      refine hdistinct.append_ganeshaBlock hclean.label ?_
      rw [← entriesOf_eq (hb ▸ h.content)]
      exact (hganesha hb).2
  case counted =>
    intro hb
    refine .inr fun other hother => ?_
    rw [htext, hcontent, hb, entryOf, Export.ids_append_ganeshaBlock hclean.label] at hother
    rw [hcount, (hganesha hb).1]
    rcases List.mem_append.mp hother with hother | hother
    · exact ((hganesha hb).2 other hother).le
    · exact (List.mem_singleton.mp hother).le

theorem Undoable.null_notMem (h : Undoable b t place text u returned kept mode places)
    (hvolume : volume ∈ kept) : '\x00' ∉ b.file :=
  h.noNull (List.ne_nil_of_mem (h.sublist.subset hvolume))

/-- Removing an entry does not change the count. -/
theorem count_of_remove {file content : Text} {r : Except Failure Unit}
    (h : Ledger.remove file content (u.meeting c) = (r, v)) : v.lastExportId = u.lastExportId := by
  have hframe : World.Frame [.files, .call .mkstemp, .call .fsync, .call .chmod, .call .replace]
      (u.meeting c) v :=
    (Ledger.remove_within (by simp) (by simp) (by simp) (by simp) (by simp) _ _).frame h
  exact hframe.count (by simp)

/-- An entry is removed from between the others, which stay as they are. -/
theorem Undoable.removed
    (h : Undoable b t place text u returned (before ++ volume :: behind) mode places)
    (hremove : Ledger.remove b.file volume.record.content (u.meeting c) = (.ok (), v)) :
    Undoable b t place text v returned (before ++ behind) mode places := by
  have hmem : volume ∈ before ++ volume :: behind := by simp
  have hfewer : (before ++ behind).Sublist (before ++ volume :: behind) :=
    (List.Sublist.refl before).append (List.sublist_cons_self volume behind)
  have hcontent : ∀ other ∈ before ++ behind,
      other.record.content = entryOf b.kind (entryFor other).2 (entryFor other).1 :=
    fun other hother => h.content other (hfewer.subset hother)
  have herase : Text.erase volume.record.content (text ++ entriesOf (before ++ volume :: behind)) =
      text ++ entriesOf (before ++ behind) := by
    have hdistinct := h.distinct
    rw [List.map_append, List.map_cons] at hdistinct
    rw [entriesOf_eq h.content, entriesOf_eq hcontent, h.content volume hmem, List.map_append,
      List.map_cons, List.map_append]
    exact hdistinct.erase
  rcases Ledger.of_remove (w := u.meeting c) (h.null_notMem hmem) h.grown.resolve hremove with
    ⟨-, -, hv⟩ | ⟨⟨e, hr⟩, -⟩
  · refine ⟨?_, h.readable, h.noNull, hfewer.trans h.sublist, h.located, hcontent,
      h.distinct.sublist (hfewer.map entryFor), fun hb => ?_⟩
    · rw [hv, herase]
      exact h.grown.rewrite mode _
    · refine (h.counted hb).imp (fun hz => (count_of_remove hremove).trans hz) fun hle id hid => ?_
      have hall := h.content
      have hdistinct := h.distinct
      rw [hb] at hall hcontent hdistinct
      rw [ids_entriesOf hcontent (hdistinct.sublist (hfewer.map entryFor))] at hid
      rw [count_of_remove hremove]
      refine hle id ?_
      rw [ids_entriesOf hall hdistinct]
      exact ((List.Sublist.refl _).append (hfewer.map _)).subset hid
  · cases hr

/-- An entry that cannot be removed stays with the others. -/
theorem Undoable.unremoved {e : Failure} (h : Undoable b t place text u returned kept mode places)
    (hvolume : volume ∈ kept)
    (hremove : Ledger.remove b.file volume.record.content (u.meeting c) = (.error e, v)) :
    Undoable b t place text v returned kept mode places := by
  rcases Ledger.of_remove (w := u.meeting c) (h.null_notMem hvolume) h.grown.resolve hremove with
    ⟨hr, -⟩ | ⟨-, hv, -⟩
  · cases hr
  · have hfiles : v.files = u.files := hv
    refine ⟨hfiles ▸ h.grown, h.readable, h.noNull, h.sublist, h.located, h.content, h.distinct,
      fun hb => ?_⟩
    rw [count_of_remove hremove]
    exact h.counted hb

/-- Without faults an entry can be removed from a file that may be read and had room beside it. -/
theorem Undoable.removable {initial : Nat} {content : List UInt8}
    (h : Undoable b t place text u returned kept mode places)
    (hnode : t.get? place = some (.file initial content))
    (hread : (Node.directory initial).mayRead = true) (hroom : roomBeside t place = true)
    (hvolume : volume ∈ kept) (hcalm : c.faults = []) :
    (Ledger.remove b.file volume.record.content (u.meeting c)).1 = .ok () := by
  rcases hremove : Ledger.remove b.file volume.record.content (u.meeting c) with ⟨r, v⟩
  rcases Ledger.of_remove (w := u.meeting c) (h.null_notMem hvolume) h.grown.resolve hremove with
    ⟨hr, -⟩ | ⟨-, -, hstuck⟩
  · exact hr
  · have hnone (call : SystemCall) : Fault.due? call (u.meeting c).faults = none := by
      rw [show (u.meeting c).faults = [] from hcalm]
      rfl
    exact absurd ⟨(h.readable initial content hnode).trans hread, h.grown.room hroom, hnone _,
      hnone _, hnone _, hnone _⟩ hstuck

theorem Reaches.undoable (ht : w.files.IsTree) (hcount : w.lastExportId = 0)
    (hfile : w.files.resolve b.file = .ok (place, .file mode (Text.Utf8.encode text)))
    (h : Reaches b w v returned kept) (hclean : ∀ volume ∈ returned, Clean b text volume) :
    ∃ later places, Undoable b w.files place text v returned kept later places := by
  induction h with
  | start => exact ⟨mode, [], Undoable.start ht hcount hfile⟩
  | provisioned p request c volume hp hprovision _ ih =>
    obtain ⟨later, places, h⟩ := ih fun other ho => hclean other (List.mem_append_left _ ho)
    obtain ⟨q, h⟩ := h.provisioned hp hprovision (hclean volume (by simp))
    exact ⟨_, _, h⟩
  | removed c volume hremove _ ih =>
    obtain ⟨later, places, h⟩ := ih hclean
    exact ⟨later, places, h.removed hremove⟩
  | unremoved c volume hvolume e hremove _ ih =>
    obtain ⟨later, places, h⟩ := ih hclean
    exact ⟨later, places, h.unremoved hvolume hremove⟩
  | restarted _ ih =>
    obtain ⟨later, places, h⟩ := ih hclean
    exact ⟨later, places, h.restarted⟩

/-- Whatever is provisioned and removed, and whenever new ledgers take over: the export file is its
initial text followed by the entries of the volumes whose entries have not been removed, in the
order in which they were returned. Once all are removed, the file has its initial text again; and
each of them can be removed next, if the file may be read and a temporary file can be made beside
it. -/
theorem reaches_initial_and_kept (b : ExportBackend) (w : World) (ht : w.files.IsTree)
    (hcount : w.lastExportId = 0) (place : Place) (mode : Nat) (text : Text)
    (hfile : w.files.resolve b.file = .ok (place, .file mode (Text.Utf8.encode text)))
    (v : World) (returned kept : List ProvisionedVolume) (h : Reaches b w v returned kept)
    (hclean : ∀ volume ∈ returned, Clean b text volume) :
    kept.Sublist returned ∧
      (∃ later, v.files.resolve b.file =
        .ok (place, .file later (Text.Utf8.encode (text ++ entriesOf kept)))) ∧
      (kept = [] → ∃ later, v.files.resolve b.file =
        .ok (place, .file later (Text.Utf8.encode text))) ∧
      ((Node.directory mode).mayRead = true → roomBeside w.files place = true →
        ∀ volume ∈ kept, ∀ circumstances : Circumstances, circumstances.faults = [] →
          (Ledger.remove b.file volume.record.content (v.meeting circumstances)).1 = .ok ()) := by
  obtain ⟨later, places, h⟩ := h.undoable ht hcount hfile hclean
  have hlater := h.grown.resolve
  refine ⟨h.sublist, ⟨later, hlater⟩, fun hnone => ⟨later, ?_⟩,
    fun hread hroom volume hvolume c hcalm => ?_⟩
  · rw [hnone, show entriesOf [] = [] from rfl, List.append_nil] at hlater
    exact hlater
  · exact h.removable (FileTree.resolve_eq_ok.mp hfile).2.1 hread hroom hvolume hcalm

/-- A call for a small volume that meets nothing special. -/
def smallCall (name : Text) (w : World) : Except Failure ProvisionedVolume × World :=
  kernelProvisioner.provision ⟨name, 1, [], [], .null, .null⟩
    (w.meeting (calmCall name (.finished 0 [] [])).circumstances)

theorem Reaches.smallCall (h : Reaches kernelProvisioner.backend w u returned kept)
    (name path content : Text)
    (hreturns : (smallCall name u).1.toOption.map (fun volume =>
      (volume.path, volume.record.content)) = some (path, content)) :
    ∃ volume, Reaches kernelProvisioner.backend w (smallCall name u).2 (returned ++ [volume])
      (kept ++ [volume]) ∧ volume.path = path ∧ volume.record.content = content := by
  rcases hcall : Provisioner.smallCall name u with ⟨e | volume, v⟩
  · rw [hcall] at hreturns
    cases hreturns
  · rw [hcall] at hreturns
    cases hreturns
    exact ⟨volume, .provisioned kernelProvisioner _ _ volume rfl hcall h, rfl, rfl⟩

/-- Two volumes are provisioned by two ledgers, and the entry of the first one is removed. -/
theorem reaches_initial_and_second :
    let w := refusingWorld 0o644 ['#', '\r', '\n'] []
    ∃ v first second, Reaches kernelProvisioner.backend w v [first, second] [second] ∧
      first.record.content = Export.kernelLine ['v', '/', 'a'] ∧
      second.record.content = Export.kernelLine ['v', '/', 'b'] ∧
      ∃ later, v.files.resolve ['x'] = .ok ([['x']], .file later (Text.Utf8.encode
        (['#', '\r', '\n'] ++ Export.kernelLine ['v', '/', 'b']))) := by
  intro w
  obtain ⟨first, hone, hpath, hline⟩ := (Reaches.start (w := w)).smallCall ['a']
    ['v', '/', 'a'] (Export.kernelLine ['v', '/', 'a']) (by decide +kernel)
  obtain ⟨second, htwo, hpath', hline'⟩ := hone.restarted.smallCall ['b']
    ['v', '/', 'b'] (Export.kernelLine ['v', '/', 'b']) (by decide +kernel)
  have htwo : Reaches kernelProvisioner.backend w _ [first, second] ([] ++ first :: [second]) :=
    htwo
  generalize (Provisioner.smallCall ['b'] _).2 = u at htwo
  have hclean : ∀ volume ∈ [first, second],
      Clean kernelProvisioner.backend ['#', '\r', '\n'] volume := by
    intro volume hvolume
    simp only [List.mem_cons, List.not_mem_nil, or_false] at hvolume
    rcases hvolume with rfl | rfl
    · exact ⟨by rw [hpath]; decide, by rw [hpath]; decide, fun _ => by rw [hpath]; decide⟩
    · exact ⟨by rw [hpath']; decide, by rw [hpath']; decide, fun _ => by rw [hpath']; decide⟩
  have hstart : w.files.IsTree := FileTree.isTree_of_wellFormed (by decide)
  obtain ⟨-, -, -, hremovable⟩ := reaches_initial_and_kept kernelProvisioner.backend w hstart rfl
    [['x']] 0o644 ['#', '\r', '\n'] rfl _ _ _ htwo hclean
  rcases hremove : Ledger.remove kernelProvisioner.backend.file first.record.content
    (u.meeting (.answering (.finished 0 [] []))) with ⟨r, v⟩
  have hgone := hremovable rfl (by decide +kernel) first (by simp)
    (.answering (.finished 0 [] [])) rfl
  obtain rfl : r = .ok () := (congrArg Prod.fst hremove).symm.trans hgone
  have hremoved : Reaches kernelProvisioner.backend w v [first, second] [second] :=
    .removed _ first hremove htwo
  have hfile := (reaches_initial_and_kept kernelProvisioner.backend w hstart rfl [['x']] 0o644
    ['#', '\r', '\n'] rfl _ _ _ hremoved hclean).2.1
  rw [entriesOf_singleton, hline'] at hfile
  exact ⟨_, first, second, hremoved, hline, hline', hfile⟩

end Provisioner
end NfsVolume
