import NfsVolume.Export.Backend
import NfsVolume.Volume.Request

/-!
Provisioned volumes, and the objects that describe them to the cluster.
-/
namespace NfsVolume

structure ProvisionedVolume where
  server : Json
  path : Text
  gid : Int
  record : ExportRecord
  deriving BEq, Repr

namespace ProvisionedVolume

def createdByKey : Text := "kubernetes.io/createdby"
def creator : Text := "nfs-dynamic-provisioner"
def gidKey : Text := "pv.beta.kubernetes.io/gid"
def blockKey : Text := "EXPORT_block"
def exportIdKey : Text := "Export_Id"
def lineKey : Text := "etcexports_line"

/-- What is needed later to undo the export. -/
def exportAnnotations (r : ExportRecord) : Except Failure (List (Text × Text)) :=
  match r.kind with
  | .ganesha => do return [(blockKey, r.content), (exportIdKey, ← writeInteger r.exportId)]
  | .kernel => .ok [(lineKey, r.content)]

def annotations (v : ProvisionedVolume) : Except Failure (List (Text × Text)) := do
  let gid ← writeInteger v.gid
  return [(createdByKey, creator), (gidKey, gid)] ++ (← exportAnnotations v.record)

def toJson (v : ProvisionedVolume) : Json :=
  .object [
    ("server", v.server), ("path", .text v.path), ("gid", .int v.gid),
    ("backend", .text v.record.kind.name), ("content", .text v.record.content),
    ("export_id", .int v.record.exportId)]

def textObject (members : List (Text × Text)) : Json :=
  .object (members.map fun m => (↑m.1, .text m.2))

/-- The object that makes the volume known to the cluster. -/
def manifest (v : ProvisionedVolume) (r : VolumeRequest) : Except Failure Json := do
  let annotations ← v.annotations
  let capacity ← writeInteger r.capacity
  return .object [
    ("apiVersion", .text "v1"),
    ("kind", .text "PersistentVolume"),
    ("metadata", .object [
      ("name", .text r.name), ("labels", .object []), ("annotations", textObject annotations)]),
    ("spec", .object [
      ("persistentVolumeReclaimPolicy", .text r.reclaimPolicy),
      ("accessModes", .array (r.accessModes.map .text)),
      ("capacity", .object [("storage", .text capacity)]),
      ("nfs", .object [
        ("server", v.server), ("path", .text v.path), ("readOnly", .bool false)])])]

end ProvisionedVolume
end NfsVolume
