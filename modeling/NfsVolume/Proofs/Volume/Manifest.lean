import NfsVolume.Volume.Manifest
import NfsVolume.Proofs.Json
import NfsVolume.Proofs.Text.Integer

/-! The object that makes a volume known to the cluster tells all that there is to know of it. -/
namespace NfsVolume

theorem writeInteger_ok {n : Int} (hn : Text.Integer.tooLong n = false) :
    writeInteger n = .ok (Text.integer n) := by
  simp [writeInteger, hn]

theorem writeInteger_error {n : Int} {e : Failure} (h : writeInteger n = .error e) :
    e = .value .unwritable := by
  cases hlong : Text.Integer.tooLong n with
  | false =>
    rw [writeInteger_ok hlong] at h
    cases h
  | true =>
    rw [writeInteger, if_pos hlong] at h
    cases h
    rfl

namespace ProvisionedVolume

open Json

/-- What the cluster is told of a volume, and of the request for it. -/
structure Description where
  volume : ProvisionedVolume
  name : Text
  capacity : Int
  accessModes : List RawText
  reclaimPolicy : RawText

def rawTextAt? (names : List RawText) (object : Json) : Option RawText :=
  (follow? names object).bind text?

def textAt? (names : List RawText) (object : Json) : Option Text :=
  (rawTextAt? names object).bind RawText.toText?

def numberAt? (names : List RawText) (object : Json) : Option Int :=
  (rawTextAt? names object).bind fun text => (Text.Integer.read text).toOption

def notePath (key : Text) : List RawText := ["metadata", "annotations", key]

/-- The line of an export file comes without an id. -/
def recordOf? (object : Json) : Option ExportRecord :=
  match textAt? (notePath lineKey) object with
  | some line => some ⟨.kernel, line, 0⟩
  | none => do
    let block ← textAt? (notePath blockKey) object
    let id ← numberAt? (notePath exportIdKey) object
    return ⟨.ganesha, block, id⟩

/-- What an object says, read from it alone. -/
def describe? (object : Json) : Option Description := do
  let server ← follow? ["spec", "nfs", "server"] object
  let path ← textAt? ["spec", "nfs", "path"] object
  let gid ← numberAt? (notePath gidKey) object
  let record ← recordOf? object
  let name ← textAt? ["metadata", "name"] object
  let capacity ← numberAt? ["spec", "capacity", "storage"] object
  let accessModes ← (follow? ["spec", "accessModes"] object).bind texts?
  let reclaimPolicy ← rawTextAt? ["spec", "persistentVolumeReclaimPolicy"] object
  return ⟨⟨server, path, gid, record⟩, name, capacity, accessModes, reclaimPolicy⟩

/-- The object of a volume with given annotations. -/
def objectOf (v : ProvisionedVolume) (r : VolumeRequest) (notes : List (Text × Text)) : Json :=
  .object [
    ("apiVersion", .text "v1"),
    ("kind", .text "PersistentVolume"),
    ("metadata", .object [
      ("name", .text r.name), ("labels", .object []), ("annotations", textObject notes)]),
    ("spec", .object [
      ("persistentVolumeReclaimPolicy", .text r.reclaimPolicy),
      ("accessModes", .array (r.accessModes.map .text)),
      ("capacity", .object [("storage", .text (Text.integer r.capacity))]),
      ("nfs", .object [
        ("server", v.server), ("path", .text v.path), ("readOnly", .bool false)])])]

variable {v : ProvisionedVolume} {request : VolumeRequest} {object : Json} {names : List RawText}
  {text : Text} {n : Int} {notes : List (Text × Text)}

theorem manifest_eq (hnotes : v.annotations = .ok notes)
    (hcapacity : Text.Integer.tooLong request.capacity = false) :
    v.manifest request = .ok (objectOf v request notes) := by
  unfold manifest
  rw [hnotes, writeInteger_ok hcapacity]
  rfl

theorem textAt?_eq (h : follow? names object = some (.text (RawText.ofText text))) :
    textAt? names object = some text := by
  simp [textAt?, rawTextAt?, h, text?]

theorem textAt?_eq_none (h : follow? names object = none) : textAt? names object = none := by
  simp [textAt?, rawTextAt?, h]

theorem numberAt?_eq (h : follow? names object = some (.text (RawText.ofText (Text.integer n))))
    (hn : Text.Integer.tooLong n = false) : numberAt? names object = some n := by
  simp [numberAt?, rawTextAt?, h, text?, Text.Integer.read_integer hn, Except.toOption]

/-- What stands outside the annotations is the same for both file servers. -/
theorem describe?_objectOf (hgid : numberAt? (notePath gidKey) (objectOf v request notes) =
      some v.gid) (hrecord : recordOf? (objectOf v request notes) = some v.record)
    (hcapacity : Text.Integer.tooLong request.capacity = false) :
    describe? (objectOf v request notes) = some ⟨v, request.name, request.capacity,
      request.accessModes, request.reclaimPolicy⟩ := by
  have hserver : follow? ["spec", "nfs", "server"] (objectOf v request notes) = some v.server := rfl
  have hpath : textAt? ["spec", "nfs", "path"] (objectOf v request notes) = some v.path :=
    textAt?_eq rfl
  have hname : textAt? ["metadata", "name"] (objectOf v request notes) = some request.name :=
    textAt?_eq rfl
  have hstorage : numberAt? ["spec", "capacity", "storage"] (objectOf v request notes) =
      some request.capacity := numberAt?_eq rfl hcapacity
  have hmodes : (follow? ["spec", "accessModes"] (objectOf v request notes)).bind texts? =
      some request.accessModes := texts?_map_text request.accessModes
  have hpolicy : rawTextAt? ["spec", "persistentVolumeReclaimPolicy"] (objectOf v request notes) =
      some request.reclaimPolicy := rfl
  simp only [describe?, hserver, hpath, hgid, hrecord, hname, hstorage, hmodes, hpolicy,
    Option.bind_eq_bind, Option.bind_some, Option.pure_def]

/-- The annotations tell the record of the export apart from one by the other file server. -/
theorem annotations_described (hgid : Text.Integer.tooLong v.gid = false)
    (hid : Text.Integer.tooLong v.record.exportId = false)
    (hkernel : v.record.kind = .kernel → v.record.exportId = 0) :
    ∃ notes, v.annotations = .ok notes ∧
      numberAt? (notePath gidKey) (objectOf v request notes) = some v.gid ∧
      recordOf? (objectOf v request notes) = some v.record := by
  obtain ⟨server, path, gid, kind, content, id⟩ := v
  have hwritten : writeInteger gid = .ok (Text.integer gid) := writeInteger_ok hgid
  cases kind with
  | kernel =>
    obtain rfl : id = 0 := hkernel rfl
    refine ⟨[(createdByKey, creator), (gidKey, Text.integer gid), (lineKey, content)], ?_,
      numberAt?_eq rfl hgid, ?_⟩
    · unfold annotations exportAnnotations
      rw [hwritten]
      rfl
    · unfold recordOf?
      rw [textAt?_eq rfl]
  | ganesha =>
    refine ⟨[(createdByKey, creator), (gidKey, Text.integer gid), (blockKey, content),
      (exportIdKey, Text.integer id)], ?_, numberAt?_eq rfl hgid, ?_⟩
    · unfold annotations exportAnnotations
      rw [hwritten, writeInteger_ok hid]
      rfl
    · unfold recordOf?
      rw [textAt?_eq_none rfl, textAt?_eq rfl, numberAt?_eq rfl hid]
      rfl

/-- A volume whose numbers can be written has an object, and that object describes the volume. -/
theorem manifest_described (hgid : Text.Integer.tooLong v.gid = false)
    (hid : Text.Integer.tooLong v.record.exportId = false)
    (hcapacity : Text.Integer.tooLong request.capacity = false)
    (hkernel : v.record.kind = .kernel → v.record.exportId = 0) :
    ∃ object, v.manifest request = .ok object ∧
      describe? object = some ⟨v, request.name, request.capacity, request.accessModes,
        request.reclaimPolicy⟩ := by
  obtain ⟨notes, hnotes, hgid', hrecord⟩ := annotations_described hgid hid hkernel
  exact ⟨_, manifest_eq hnotes hcapacity, describe?_objectOf hgid' hrecord hcapacity⟩

theorem annotations_error {e : Failure} (h : v.annotations = .error e) : e = .value .unwritable := by
  unfold annotations exportAnnotations at h
  cases hgid : writeInteger v.gid with
  | error problem =>
    rw [hgid] at h
    cases h
    exact writeInteger_error hgid
  | ok gid =>
    rw [hgid] at h
    cases hkind : v.record.kind with
    | kernel =>
      rw [hkind] at h
      cases h
    | ganesha =>
      rw [hkind] at h
      cases hid : writeInteger v.record.exportId with
      | error problem =>
        simp only [hid] at h
        cases h
        exact writeInteger_error hid
      | ok id =>
        simp only [hid] at h
        cases h

/-- A volume has no object only if one of its numbers cannot be written. -/
theorem manifest_error {e : Failure} (h : v.manifest request = .error e) : e = .value .unwritable := by
  unfold manifest at h
  cases hnotes : v.annotations with
  | error problem =>
    rw [hnotes] at h
    cases h
    exact annotations_error hnotes
  | ok notes =>
    rw [hnotes] at h
    cases hcapacity : writeInteger request.capacity with
    | error problem =>
      rw [hcapacity] at h
      cases h
      exact writeInteger_error hcapacity
    | ok capacity =>
      rw [hcapacity] at h
      cases h

end ProvisionedVolume
end NfsVolume
