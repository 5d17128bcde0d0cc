import NfsVolume.Volume.Name

/-!
Requests for volumes, and the check of a request before anything is made.
-/
namespace NfsVolume

structure VolumeRequest where
  name : Text
  capacity : Int
  accessModes : List RawText
  reclaimPolicy : RawText
  parameters : Json
  selector : Json
  deriving BEq, Repr

namespace VolumeRequest

def defaultAccessModes : List RawText := ["ReadWriteMany"]
def defaultReclaimPolicy : RawText := "Delete"

end VolumeRequest

namespace Volume

def refuseRequest {α : Type} (problem : RequestProblem) : Except Failure α :=
  .error (.provisioning (.invalidRequest problem))

/-- Whether a value is a number that is not above zero. -/
def isNotPositive (v : Json) : Except Failure Bool :=
  match v with
  | .int n => .ok (n ≤ 0)
  | .bool b => .ok !b
  | .double .nan => .ok false
  | .double (.infinite negative) => .ok negative
  | .double (.finite negative mantissa _) => .ok (negative || mantissa = 0)
  | _ => .error (.shape (.noOrder v.kind))

/-- The name and the capacity must be usable, and no parameters and no selector be given. -/
def validateRequest (name capacity parameters selector : Json) : Except Failure Unit :=
  if !parameters.isEmpty then refuseRequest .parameters
  else if !selector.isEmpty then refuseRequest .selector
  else
    match validateNameValue name with
    | .error (.value problem) => refuseRequest (.name problem)
    | .error problem => .error problem
    | .ok () =>
      match isNotPositive capacity with
      | .error problem => .error problem
      | .ok true => refuseRequest .capacity
      | .ok false => .ok ()

end Volume

def VolumeRequest.validate (r : VolumeRequest) : Except Failure Unit :=
  Volume.validateRequest (.text r.name) (.int r.capacity) r.parameters r.selector

theorem VolumeRequest.validate_eq (r : VolumeRequest) :
    r.validate =
      if !r.parameters.isEmpty then Volume.refuseRequest .parameters
      else if !r.selector.isEmpty then Volume.refuseRequest .selector
      else
        match Volume.validateName r.name with
        | .error problem => Volume.refuseRequest (.name problem)
        | .ok () => if r.capacity ≤ 0 then Volume.refuseRequest .capacity else .ok () := by
  simp only [validate, Volume.validateRequest, Volume.validateNameValue_text, Volume.isNotPositive]
  split
  · rfl
  · split
    · rfl
    · cases Volume.validateName r.name with
      | error p => rfl
      | ok u =>
        have named : Except.mapError Failure.value (.ok u) = .ok u := rfl
        simp only [named]
        by_cases h : r.capacity ≤ 0 <;> simp [h]

theorem VolumeRequest.of_validate_ok {r : VolumeRequest} (h : r.validate = .ok ()) :
    Volume.validateName r.name = .ok () ∧ 0 < r.capacity := by
  rw [validate_eq] at h
  split at h
  · cases h
  · split at h
    · cases h
    · split at h
      · cases h
      · rename_i hname
        split at h
        · cases h
        · exact ⟨hname, by omega⟩

/-- A request that does not pass is refused as such. -/
theorem VolumeRequest.of_validate_error {r : VolumeRequest} {e : Failure}
    (h : r.validate = .error e) : ∃ problem, e = .provisioning (.invalidRequest problem) := by
  have of_refuse {problem : RequestProblem}
      (hr : Volume.refuseRequest problem = (.error e : Except Failure Unit)) :
      ∃ problem, e = .provisioning (.invalidRequest problem) := by
    cases hr
    exact ⟨problem, rfl⟩
  rw [validate_eq] at h
  split at h
  · exact of_refuse h
  · split at h
    · exact of_refuse h
    · split at h
      · exact of_refuse h
      · split at h
        · exact of_refuse h
        · cases h

end NfsVolume
