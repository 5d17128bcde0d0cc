import NfsVolume.Proofs.Provisioner.Order
import NfsVolume.Proofs.Volume.Manifest

/-! A volume that is returned is what its call has made: the directory, its group, the entry of the
export file and the object for the cluster all say the same. -/
namespace NfsVolume.Provisioner

open Run Volume

variable {p : Provisioner} {request : VolumeRequest} {volume : ProvisionedVolume} {w u v : World}
  {directory name path : Text} {place : Place} {server : Json}

/-- A directory for a volume, where nothing was before: it stands right in the export directory,
access comes from its group alone, and there is nothing in it. -/
structure Fresh (t s : FileTree) (directory name : Text) (place : Place) : Prop where
  child : ∃ above mode, t.resolve directory = .ok (above, .directory mode) ∧ place = above ++ [name]
  located : t.locate (Path.join directory name) = .ok place
  free : t.get? place = none
  resolve : s.resolve (Path.join directory name) = .ok (place, .directory directoryMode)
  empty : s.children place = []

theorem Fresh.of_made {found : Place × Node} (hname : IsVolumeName name)
    (hd : w.files.resolve directory = .ok found)
    (hvacant : Vacant w.files (Path.join directory name) place)
    (hmade : Made v.files (Path.join directory name) place directoryMode) :
    Fresh w.files v.files directory name place where
  child := by
    obtain ⟨mode, hparent⟩ := hvacant.parent
    have hplace : place = found.1 ++ [name] := locate_join hname hd hvacant.located
    have hnode : w.files.get? found.1 = some found.2 := (FileTree.resolve_eq_ok.mp hd).2.1
    rw [hplace, List.dropLast_concat, hnode] at hparent
    obtain ⟨above, node⟩ := found
    cases hparent
    exact ⟨above, mode, hd, hplace⟩
  located := hvacant.located
  free := hvacant.free
  resolve := FileTree.resolve_eq_ok.mpr ⟨hmade.located, hmade.found, fun _ => rfl⟩
  empty := FileTree.children_eq_nil_of_get? hmade.notFixed hmade.below

theorem tooLong_group {gid : Int} (h : -1 ≤ gid ∧ gid ≤ Files.maxGroup) :
    Text.Integer.tooLong gid = false := by
  apply Text.Integer.tooLong_of_lt
  unfold Files.maxGroup at h
  omega

/-- Behind the directory, a group is picked and set, and the path is added. -/
theorem of_establish_ok (h : p.establish name server path w = (.ok volume, v)) :
    (volume.server = server ∧ volume.path = path) ∧
      (-1 ≤ volume.gid ∧ volume.gid ≤ Files.maxGroup) ∧
      ∃ range ∈ p.ranges, (range.min ≤ volume.gid ∧ volume.gid ≤ range.max) ∧
      ∃ u, World.Frame [.call .chown] w u ∧ u.events = w.events ++ [.draw p.ranges.length,
          .draw (range.max - range.min + 1), .chown path volume.gid] ∧
        ∃ q mode old, p.backend.Added path u v volume.record q mode old := by
  obtain ⟨⟨gid, record⟩, u, hfurnish, hreturn⟩ := of_bind_ok h
  cases hreturn
  rcases of_tryCatch hfurnish with ⟨a, hequip, hr⟩ | ⟨problem, u', hequip, habandon⟩
  · cases hr
    obtain ⟨gid', u₁, hpick, h⟩ := of_bind_ok hequip
    obtain ⟨_, u₂, hgroup, h⟩ := of_bind_ok h
    obtain ⟨record', u₃, hadd, hpure⟩ := of_bind_ok h
    cases hpure
    obtain ⟨range, hrange, hgid, hdrawn⟩ := Group.of_pickGroup hpick
    obtain ⟨hchown, htaken⟩ := of_setGroup hgroup
    have hu₁ : World.Frame [.call .chown] w u₁ := (Group.pickGroup_within _).frame hpick
    have hu₂ : World.Frame [.call .chown] w u₂ :=
      hu₁.trans ((setGroup_within (by simp) _ _).frame hgroup)
    obtain ⟨q, mode, old, hadded⟩ := ExportBackend.Added.of_add hadd
    refine ⟨⟨rfl, rfl⟩, htaken, range, hrange, hgid, u₂, hu₂, ?_, q, mode, old,
      { hadded with files := hadded.files, events := hadded.events }⟩
    rw [hchown, hdrawn, List.append_assoc]
    rfl
  · exact absurd habandon (abandon_ne_ok _)

/-- A volume that is returned has the address that has been found, and an object. -/
theorem written_of_provision (h : p.provision request w = (.ok volume, v))
    (hcapacity : Text.Integer.tooLong request.capacity = false) :
    (∃ u, p.locator.resolve w = (.ok volume.server, u)) ∧
      Text.Integer.tooLong volume.gid = false ∧
      Text.Integer.tooLong volume.record.exportId = false ∧
      ∃ notes, volume.manifest request = .ok (ProvisionedVolume.objectOf volume request notes) := by
  obtain ⟨-, server, w₁, path, u, hserver, -, h⟩ := steps_of_provision h
  obtain ⟨⟨rfl, -⟩, htaken, -, -, -, u', -, -, q, mode, old, hadded⟩ := of_establish_ok h
  have hgid := tooLong_group htaken
  obtain ⟨notes, hnotes, -⟩ := @ProvisionedVolume.annotations_described volume request hgid
    hadded.short fun hk => hadded.kernel (hadded.kind.symm.trans hk)
  exact ⟨⟨w₁, hserver⟩, hgid, hadded.short, notes,
    ProvisionedVolume.manifest_eq hnotes hcapacity⟩

/-- The account that a volume gives of its call: where its directory is, what the export file was
before, and what was done outside, in this order. What was asked for the address comes first. -/
structure Account (p : Provisioner) (request : VolumeRequest) (volume : ProvisionedVolume)
    (w v : World) (range : GroupRange) (place q : Place) (mode : Nat) (old : List UInt8)
    (asked : List Event) : Prop where
  path : volume.path = p.pathOf request
  server : (p.locator.resolve w).1 = .ok volume.server
  group : range ∈ p.ranges ∧ range.min ≤ volume.gid ∧ volume.gid ≤ range.max
  directory : Fresh w.files v.files p.exportDirectory request.name place
  before : w.files.resolve p.backend.file = .ok (q, .file mode old)
  after : v.files.resolve p.backend.file =
    .ok (q, .file (Node.writtenMode mode) (old ++ Text.Utf8.encode volume.record.content))
  files : v.files = (w.files.put place (.directory directoryMode)).put q
    (.file (Node.writtenMode mode) (old ++ Text.Utf8.encode volume.record.content))
  inquiries : ∀ e ∈ asked, e.IsInquiry
  events : v.events = w.events ++ asked ++
    [.directoryMade volume.path, .draw p.ranges.length, .draw (range.max - range.min + 1),
      .chown volume.path volume.gid, .appended p.backend.file volume.record.content,
      .command (p.backend.command volume.path)]
  kind : volume.record.kind = p.backend.kind
  content : ∃ id : Nat, volume.record.exportId = id ∧
    volume.record.content = ExportBackend.entryOf p.backend.kind volume.path id
  kernel : p.backend.kind = .kernel → volume.record.exportId = 0
  ganesha : p.backend.kind = .ganesha → ¬ Export.idLabel <:+: volume.path →
    Export.idsIn volume.record.content = [Text.integer volume.record.exportId]
  manifest : Text.Integer.tooLong request.capacity = false →
    ∃ object, volume.manifest request = .ok object ∧ ProvisionedVolume.describe? object =
      some ⟨volume, request.name, request.capacity, request.accessModes, request.reclaimPolicy⟩

/-- The id of an entry is the one that is found in it. -/
theorem idsIn_entryOf (hpath : ¬ Export.idLabel <:+: path) (id : Nat) :
    Export.idsIn (ExportBackend.entryOf .ganesha path id) = [Text.integer id] := by
  have hids := Export.idsIn_append_ganeshaBlock hpath id []
  rwa [List.nil_append] at hids

/-- From the directory on, a call does what the volume then tells. -/
theorem Account.of_establish {found : Place × Node} {asked : List Event} (ht : w.files.IsTree)
    (hname : IsVolumeName request.name) (hd : w.files.resolve p.exportDirectory = .ok found)
    (hvacant : Vacant w.files (p.pathOf request) place)
    (hserver : (p.locator.resolve w).1 = .ok server) (hinquiries : ∀ e ∈ asked, e.IsInquiry)
    (hfiles : u.files = w.files.put place (.directory directoryMode))
    (hevents : u.events = w.events ++ asked ++ [.directoryMade (p.pathOf request)])
    (h : p.establish request.name server (p.pathOf request) u = (.ok volume, v)) :
    ∃ range q mode old, p.Account request volume w v range place q mode old asked := by
  obtain ⟨⟨hvserver, hvpath⟩, htaken, range, hrange, hgid, u', huu', hchown, q, mode, old,
    hadded⟩ := of_establish_ok h
  have hfiles' : u'.files = w.files.put place (.directory directoryMode) := by
    rw [huu'.files (by simp), hfiles]
  have hbefore : w.files.resolve p.backend.file = .ok (q, .file mode old) :=
    FileTree.resolve_of_put_new hvacant.free closed_directoryMode.2 (hfiles' ▸ hadded.resolve)
  have hmade : Made v.files (p.pathOf request) place directoryMode := by
    rw [hadded.files]
    exact (hfiles' ▸ hvacant.made ht closed_directoryMode).put_file
      (FileTree.resolve_eq_ok.mp hadded.resolve).2.1 _
  refine ⟨range, q, mode, old, {
    path := hvpath
    server := by rw [hserver, hvserver]
    group := ⟨hrange, hgid⟩
    directory := Fresh.of_made hname hd hvacant hmade
    before := hbefore
    after := ?after
    files := by rw [hadded.files, hfiles']
    inquiries := hinquiries
    events := ?events
    kind := hadded.kind
    content := hvpath ▸ hadded.content
    kernel := hadded.kernel
    ganesha := ?ganesha
    manifest := ?manifest }⟩
  case after =>
    rw [hadded.files]
    exact FileTree.resolve_put_file hadded.resolve _
  case events =>
    rw [hadded.events, hchown, hevents, hvpath]
    simp
  case ganesha =>
    intro hb hlabel
    obtain ⟨id, hid, hcontent⟩ := hadded.content
    rw [hcontent, hid, hb]
    exact idsIn_entryOf (hvpath ▸ hlabel) id
  case manifest =>
    intro hcapacity
    exact ProvisionedVolume.manifest_described (tooLong_group htaken) hadded.short hcapacity
      fun hk => hadded.kernel (hadded.kind.symm.trans hk)

/-- A volume that is returned gives a true account of its call. -/
theorem provision_account (p : Provisioner) (request : VolumeRequest) (w v : World)
    (volume : ProvisionedVolume) (ht : w.files.IsTree)
    (h : p.provision request w = (.ok volume, v)) :
    ∃ range place q mode old asked,
      p.Account request volume w v range place q mode old asked := by
  cases course ht h with
  | allocated server w₁ u place _ _ hname hserver hallocate _ hallocated hestablish =>
    have hw₁ := ServerLocator.resolve_frame hserver
    have hanswer : (p.locator.resolve w).1 = .ok server := by rw [hserver]
    obtain ⟨asked, hasked, hinquiries⟩ := (p.locator.resolve_asks).events hserver
    obtain ⟨⟨found, hfound⟩, hevents⟩ := of_allocate_ok hallocate
    rw [hw₁.files (by simp)] at hfound
    rw [hasked] at hevents
    obtain ⟨range, q, mode, old, haccount⟩ := Account.of_establish ht hname hfound
      hallocated.vacant hanswer hinquiries hallocated.files hevents hestablish
    exact ⟨range, place, q, mode, old, asked, haccount⟩

/-- A world in which every command succeeds. -/
def acceptingWorld : World :=
  { refusingWorld 0o644 ['#'] [] with otherResult := .finished 0 [] [] }

/-- The object of a small volume is read back. -/
theorem provision_account_small :
    let volume : ProvisionedVolume :=
      ⟨.text "h", ['v', '/', 'a'], 5, ⟨.kernel, Export.kernelLine ['v', '/', 'a'], 0⟩⟩
    (kernelProvisioner.provision smallRequest acceptingWorld).1 = .ok volume ∧
      ∃ object, volume.manifest smallRequest = .ok object ∧
        ProvisionedVolume.describe? object = some ⟨volume, ['a'], 1, [], []⟩ := by
  intro volume
  obtain ⟨range, place, q, mode, old, asked, haccount⟩ := provision_account kernelProvisioner
    smallRequest acceptingWorld _ volume (FileTree.isTree_of_wellFormed (by decide)) rfl
  have hcapacity : Text.Integer.tooLong smallRequest.capacity = false :=
    Text.Integer.tooLong_of_lt (by decide)
  exact ⟨rfl, haccount.manifest hcapacity⟩

end NfsVolume.Provisioner
