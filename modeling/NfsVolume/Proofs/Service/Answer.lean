import NfsVolume.Proofs.Service
import NfsVolume.Proofs.Volume.Manifest

/-! What the service answers of a volume that has been made: it can be sent exactly if the address
of its server can. -/
namespace NfsVolume

namespace ProvisionedVolume

open Json

variable {v : ProvisionedVolume} {request : VolumeRequest} {server : RawText}
  {notes : List (Text × Text)}

/-- The access modes and the policy of a request can be shown. -/
structure IsShown (request : VolumeRequest) : Prop where
  accessModes : ∀ mode ∈ request.accessModes, mode.hasHalf = false
  reclaimPolicy : request.reclaimPolicy.hasHalf = false

theorem hasHalf_objectOf (hserver : v.server = .text server) (h : IsShown request) :
    (objectOf v request notes).hasHalf = server.hasHalf := by
  have hmodes : (request.accessModes.any fun s => s.hasHalf) = false := by
    simpa using h.accessModes
  simp [objectOf, textObject, hasHalf, holds, holdsAt, holdsIn_map, holdsAt_map, hserver,
    h.reclaimPolicy, hmodes]

theorem hasLongNumber_objectOf (hserver : v.server = .text server) :
    (objectOf v request notes).hasLongNumber = false := by
  simp [objectOf, textObject, hasLongNumber, holds, holdsAt, holdsIn_map, holdsAt_map, hserver]

theorem depth_objectOf (hserver : v.server = .text server) :
    (objectOf v request notes).depth ≤ 5 := by
  have hmodes : depthIn (request.accessModes.map .text) ≤ 1 :=
    depthIn_map_le _ fun _ => le_refl 1
  have hnotes : depthAt (notes.map fun m => ((m.1 : RawText), .text m.2)) ≤ 1 :=
    depthAt_map_le _ _ fun _ => le_refl 1
  simp only [objectOf, textObject, depth, depthAt, hserver]
  omega

theorem onlyFinite_objectOf (hserver : v.server = .text server) :
    onlyFinite (objectOf v request notes) = objectOf v request notes := by
  have hmodes : onlyFiniteIn (request.accessModes.map .text) = request.accessModes.map .text :=
    onlyFiniteIn_map _ fun _ => rfl
  have hnotes : onlyFiniteAt (notes.map fun m => ((m.1 : RawText), .text m.2)) =
      notes.map fun m => ((m.1 : RawText), .text m.2) := onlyFiniteAt_map _ _ fun _ => rfl
  simp [objectOf, textObject, onlyFinite, onlyFiniteAt, hmodes, hnotes, hserver]

theorem hasHalf_toJson (hserver : v.server = .text server) :
    v.toJson.hasHalf = server.hasHalf := by
  simp [toJson, hasHalf, holds, holdsAt, hserver]

theorem hasLongNumber_toJson (hserver : v.server = .text server) :
    v.toJson.hasLongNumber =
      (Text.Integer.tooLong v.gid || Text.Integer.tooLong v.record.exportId) := by
  simp [toJson, hasLongNumber, holds, holdsAt, hserver]

theorem depth_toJson (hserver : v.server = .text server) : v.toJson.depth = 2 := by
  simp [toJson, depth, depthAt, hserver]

end ProvisionedVolume

namespace Service

open ProvisionedVolume

variable {volume : ProvisionedVolume} {request : VolumeRequest} {server : RawText}
  {notes : List (Text × Text)}

/-- A volume whose numbers can be written is answered with its object, unless the address of its
server holds a lone half. -/
theorem responseTo_volume (hserver : volume.server = .text server) (h : IsShown request)
    (hgid : Text.Integer.tooLong volume.gid = false)
    (hid : Text.Integer.tooLong volume.record.exportId = false) (requestId : Text) :
    responseTo requestId
        (.ok [("volume", volume.toJson), ("persistent_volume", objectOf volume request notes)]) =
      if server.hasHalf then internalError requestId
      else success 201 requestId (.object [("volume", Json.onlyFinite volume.toJson),
        ("persistent_volume", objectOf volume request notes)]) := by
  have hvolume : isSendable volume.toJson = !server.hasHalf := by
    rw [isSendable, hasHalf_toJson hserver, hasLongNumber_toJson hserver, hgid, hid,
      depth_toJson hserver]
    simp [maxDepth]
  have hobject : isSendable (objectOf volume request notes) = !server.hasHalf := by
    have hdepth : (objectOf volume request notes).depth ≤ maxDepth :=
      (depth_objectOf hserver).trans (by decide)
    rw [isSendable, hasHalf_objectOf hserver h, hasLongNumber_objectOf hserver,
      decide_eq_true hdepth]
    simp
  change sendable requestId 201 _ = _
  unfold sendable
  rw [List.all_cons, List.all_cons, List.all_nil, hvolume, hobject]
  cases server.hasHalf with
  | true => rfl
  | false =>
    have hdata : Json.onlyFinite (.object [("volume", volume.toJson),
        ("persistent_volume", objectOf volume request notes)]) =
        .object [("volume", Json.onlyFinite volume.toJson),
          ("persistent_volume", Json.onlyFinite (objectOf volume request notes))] := rfl
    rw [hdata, onlyFinite_objectOf hserver]
    rfl

end Service
end NfsVolume
