import NfsVolume.Json.Content
import NfsVolume.Service.Body
import NfsVolume.Proofs.Volume.Name

/-! What is accepted as the body of a request: the fields that it is put together from, and the
request that comes of them. -/
namespace NfsVolume

namespace Volume

theorem validateRequest_bare (name : RawText) (n : Int) :
    validateRequest (.text name) (.int n) .null .null =
      match validateName name.shown with
      | .error problem => refuseRequest (.name problem)
      | .ok () => if n ≤ 0 then refuseRequest .capacity else .ok () := by
  simp only [validateRequest, validateNameValue_raw, isNotPositive, Json.isEmpty, Bool.not_true,
    Bool.false_eq_true, if_false]
  cases validateName name.shown with
  | error problem => rfl
  | ok _ => by_cases h : n ≤ 0 <;> simp [Except.mapError, h]

end Volume

namespace Service

variable {α β : Type} {members : List (RawText × Json)} {request : VolumeRequest} {v : Json}
  {location : List Step}

theorem both_ok_iff {x : Checked α} {y : Checked β} {a : α} {b : β} :
    both x y = .ok (a, b) ↔ x = .ok a ∧ y = .ok b := by
  cases x with
  | error d => cases y <;> simp [both]
  | ok a' => cases y <;> simp [both]

/-- The fields of an object from which a request is made. -/
structure Makes (members : List (RawText × Json)) (request : VolumeRequest) : Prop where
  name : required members "name" checkName = .ok request.name
  capacity : required members "capacity_bytes" checkCapacity = .ok request.capacity
  accessModes : optional members "access_modes" VolumeRequest.defaultAccessModes checkList =
    .ok request.accessModes
  reclaimPolicy : optional members "reclaim_policy" VolumeRequest.defaultReclaimPolicy checkText =
    .ok request.reclaimPolicy
  parameters : optional members "parameters" .null (checkDictionary checkTextOnly) =
    .ok request.parameters
  selector : optional members "selector" .null (checkDictionary fun _ _ => .ok ()) =
    .ok request.selector

theorem checkMembers_ok_iff : checkMembers members = .ok request ↔ Makes members request := by
  constructor
  · intro h
    unfold checkMembers at h
    dsimp only at h
    generalize hfound : both (required members "name" checkName) _ = found at h
    cases found with
    | error errors => cases h
    | ok fields =>
      obtain ⟨name, capacity, accessModes, reclaimPolicy, parameters, selector⟩ := fields
      cases h
      simp only [both_ok_iff] at hfound
      obtain ⟨hname, hcapacity, haccessModes, hreclaimPolicy, hparameters, hselector⟩ := hfound
      exact ⟨hname, hcapacity, haccessModes, hreclaimPolicy, hparameters, hselector⟩
  · intro h
    have hrest := both_ok_iff.mpr ⟨h.reclaimPolicy, both_ok_iff.mpr ⟨h.parameters, h.selector⟩⟩
    have hfound := both_ok_iff.mpr
      ⟨h.name, both_ok_iff.mpr ⟨h.capacity, both_ok_iff.mpr ⟨h.accessModes, hrest⟩⟩⟩
    unfold checkMembers
    dsimp only
    rw [hfound]
    rfl

/-- Where nothing is wrong with the other fields, the name and the capacity decide. -/
theorem checkMembers_of_optional {name capacity : Json} {accessModes : List RawText}
    {reclaimPolicy : RawText} {parameters selector : Json}
    (hname : Json.lookup ("name" : String) members = some name)
    (hcapacity : Json.lookup ("capacity_bytes" : String) members = some capacity)
    (haccessModes : optional members "access_modes" VolumeRequest.defaultAccessModes checkList =
      .ok accessModes)
    (hreclaimPolicy : optional members "reclaim_policy" VolumeRequest.defaultReclaimPolicy
      checkText = .ok reclaimPolicy)
    (hparameters : optional members "parameters" .null (checkDictionary checkTextOnly) =
      .ok parameters)
    (hselector : optional members "selector" .null (checkDictionary fun _ _ => .ok ()) =
      .ok selector) :
    checkMembers members =
      (both (checkName (fieldAt "name") name)
        (checkCapacity (fieldAt "capacity_bytes") capacity)).map fun found =>
          ⟨found.1, found.2, accessModes, reclaimPolicy, parameters, selector⟩ := by
  have hname : required members "name" checkName = checkName (fieldAt "name") name := by
    rw [required, hname]
  have hcapacity : required members "capacity_bytes" checkCapacity =
      checkCapacity (fieldAt "capacity_bytes") capacity := by
    rw [required, hcapacity]
  unfold checkMembers
  dsimp only
  rw [hname, hcapacity, haccessModes, hreclaimPolicy, hparameters, hselector]
  cases checkName (fieldAt "name") name with
  | error d => cases checkCapacity (fieldAt "capacity_bytes") capacity <;> rfl
  | ok s => cases checkCapacity (fieldAt "capacity_bytes") capacity <;> rfl

/-- Only objects make requests. -/
theorem of_checkBody_ok (h : checkBody v = .ok request) :
    ∃ members, v = .object members ∧ Makes members request := by
  cases v with
  | object members => exact ⟨members, rfl, checkMembers_ok_iff.mp h⟩
  | _ => cases h

theorem checkName_text (location : List Step) (name : RawText) :
    checkName location (.text name) =
      match name.toText? with
      | none => wrong location .notCharacters (.text name)
      | some s =>
        if s.isEmpty then wrong location .tooShort (.text name)
        else if Volume.maxNameLength < s.length then wrong location .tooLong (.text name)
        else
          match Volume.validateName s with
          | .ok () => .ok s
          | .error problem => wrong location (.value problem) (.text name) := rfl

theorem of_checkName_ok {name : Text} (h : checkName location v = .ok name) :
    v = .text (name : RawText) ∧ Volume.validateName name = .ok () := by
  cases v with
  | text s =>
    rw [checkName_text] at h
    split at h
    · cases h
    · rename_i t ht
      split at h
      · cases h
      · split at h
        · cases h
        · split at h
          · rename_i hvalid
            cases h
            exact ⟨congrArg Json.text (RawText.ofText_of_toText? ht), hvalid⟩
          · cases h
  | _ => cases h

theorem of_checkCapacity_ok {n : Int} (h : checkCapacity location v = .ok n) : 0 < n := by
  unfold checkCapacity at h
  split at h
  · cases h
  · split at h
    · cases h
    · cases h
      omega

/-- A request that is made from a body is refused for its parameters or its selector only. -/
theorem Makes.validate (h : Makes members request) :
    request.validate =
      if !request.parameters.isEmpty then Volume.refuseRequest .parameters
      else if !request.selector.isEmpty then Volume.refuseRequest .selector
      else .ok () := by
  have hname : Volume.validateName request.name = .ok () := by
    have hname := h.name
    unfold required at hname
    split at hname
    · exact (of_checkName_ok hname).2
    · cases hname
  have hcapacity : 0 < request.capacity := by
    have hcapacity := h.capacity
    unfold required at hcapacity
    split at hcapacity
    · exact of_checkCapacity_ok hcapacity
    · cases hcapacity
  rw [VolumeRequest.validate_eq, hname]
  dsimp only
  rw [if_neg (by omega : ¬ request.capacity ≤ 0)]

/-- A name that is text is accepted exactly if it is valid as shown. -/
theorem checkName_text_cases (location : List Step) (name : RawText) :
    (checkName location (.text name) = .ok name.shown ∧ name.hasHalf = false ∧
        Volume.validateName name.shown = .ok ()) ∨
      ∃ problem cause, checkName location (.text name) = wrong location problem (.text name) ∧
        Volume.validateName name.shown = .error cause := by
  rw [checkName_text]
  cases hhalf : name.hasHalf with
  | true =>
    obtain ⟨cause, hcause⟩ := Volume.validateName_of_hasHalf hhalf
    rw [RawText.toText?_of_hasHalf hhalf]
    exact .inr ⟨_, cause, rfl, hcause⟩
  | false =>
    rw [RawText.toText?_of_not_hasHalf hhalf]
    dsimp only
    split
    · rename_i hempty
      refine .inr ⟨_, .emptyName, rfl, ?_⟩
      rw [Volume.validateName, if_pos hempty]
    · rename_i hempty
      split
      · rename_i hlong
        refine .inr ⟨_, .longName, rfl, ?_⟩
        rw [Volume.validateName, if_neg hempty, if_pos hlong]
      · cases hvalid : Volume.validateName name.shown with
        | ok _ => exact .inl ⟨rfl, rfl, rfl⟩
        | error cause => exact .inr ⟨_, cause, rfl, rfl⟩

/-- An object that has a name and a capacity, of the kinds that they are meant to be of, and no other
member. -/
structure IsBare (members : List (RawText × Json)) (name : RawText) (n : Int) : Prop where
  name : Json.lookup ("name" : String) members = some (.text name)
  capacity : Json.lookup ("capacity_bytes" : String) members = some (.int n)
  alone : ∀ m ∈ members, m.1 = ("name" : String) ∨ m.1 = ("capacity_bytes" : String)

/-- The name and the capacity of a body that has nothing else. -/
def bare? : Json → Option (RawText × Int)
  | .object members =>
    match Json.lookup ("name" : String) members, Json.lookup ("capacity_bytes" : String) members with
    | some (.text name), some (.int n) =>
      if members.all fun m => m.1 = ("name" : String) || m.1 = ("capacity_bytes" : String) then
        some (name, n)
      else none
    | _, _ => none
  | _ => none

theorem of_bare? {name : RawText} {n : Int} (h : bare? v = some (name, n)) :
    ∃ members, v = .object members ∧ IsBare members name n := by
  unfold bare? at h
  split at h
  · rename_i members
    split at h
    · rename_i hname hcapacity
      split at h
      · rename_i hall
        cases h
        refine ⟨members, rfl, hname, hcapacity, fun m hm => ?_⟩
        exact (Bool.or_eq_true _ _).mp (List.all_eq_true.mp hall m hm) |>.imp
          of_decide_eq_true of_decide_eq_true
      · cases h
    · cases h
  · cases h

theorem lookup_eq_none {key : RawText} (h : ∀ m ∈ members, m.1 ≠ key) :
    Json.lookup key members = none := by
  induction members with
  | nil => rfl
  | cons m rest ih =>
    rw [Json.lookup, if_neg (h m List.mem_cons_self)]
    exact ih fun m hm => h m (List.mem_cons_of_mem _ hm)

variable {name : RawText} {n : Int}

theorem IsBare.optional_eq (h : IsBare members name n) (key : Text)
    (hname : (key : RawText) ≠ ("name" : String))
    (hcapacity : (key : RawText) ≠ ("capacity_bytes" : String)) (standard : α)
    (check : List Step → Json → Checked α) :
    optional members key standard check = .ok standard := by
  have hnone : Json.lookup key members = none := by
    refine lookup_eq_none fun m hm hkey => ?_
    rcases h.alone m hm with hm | hm
    · exact hname (hkey.symm.trans hm)
    · exact hcapacity (hkey.symm.trans hm)
  rw [optional, hnone]

theorem IsBare.checkMembers_eq (h : IsBare members name n) :
    checkMembers members =
      (both (checkName (fieldAt "name") (.text name))
        (checkCapacity (fieldAt "capacity_bytes") (.int n))).map fun found =>
          ⟨found.1, found.2, VolumeRequest.defaultAccessModes, VolumeRequest.defaultReclaimPolicy,
            .null, .null⟩ :=
  checkMembers_of_optional h.name h.capacity
    (h.optional_eq "access_modes" (by decide) (by decide) _ _)
    (h.optional_eq "reclaim_policy" (by decide) (by decide) _ _)
    (h.optional_eq "parameters" (by decide) (by decide) _ _)
    (h.optional_eq "selector" (by decide) (by decide) _ _)

theorem checkCapacity_int (location : List Step) (n : Int) :
    checkCapacity location (.int n) =
      if n ≤ 0 then wrong location .notPositive (.int n) else .ok n := rfl

/-- Whether some of the values at fault cannot be shown in a report. -/
def cannotShow (errors : List BodyError) : Bool :=
  errors.any fun e => e.input.hasNonFinite || e.input.hasHalf

/-- Name and capacity alone are accepted exactly if the check of requests accepts them, and what is
reported of them can be shown but for lone halves in the name. -/
theorem IsBare.checked (h : IsBare members name n) :
    ((∃ request, checkMembers members = .ok request) ∧ name.hasHalf = false ∧
        Volume.validateRequest (.text name) (.int n) .null .null = .ok ()) ∨
      (∃ errors, checkMembers members = .error errors ∧ cannotShow errors = name.hasHalf) ∧
        ∃ e, Volume.validateRequest (.text name) (.int n) .null .null = .error e := by
  rw [h.checkMembers_eq, checkCapacity_int, Volume.validateRequest_bare]
  have hnumber : cannotShow [⟨fieldAt "capacity_bytes", .notPositive, .int n⟩] = false := rfl
  have hshown (problem : BodyProblem) (rest : List BodyError) (hrest : cannotShow rest = false) :
      cannotShow (⟨fieldAt "name", problem, .text name⟩ :: rest) = name.hasHalf := by
    unfold cannotShow at hrest ⊢
    rw [List.any_cons, hrest, Bool.or_false]
    rfl
  rcases checkName_text_cases (fieldAt "name") name with
    ⟨hchecked, hhalf, hvalid⟩ | ⟨problem, cause, hchecked, hinvalid⟩
  · rw [hchecked, hvalid, hhalf]
    dsimp only
    split
    · exact .inr ⟨⟨_, rfl, hnumber⟩, _, rfl⟩
    · exact .inl ⟨⟨_, rfl⟩, rfl, rfl⟩
  · rw [hchecked, hinvalid]
    refine .inr ⟨?_, _, rfl⟩
    split
    · exact ⟨_, rfl, hshown problem _ hnumber⟩
    · exact ⟨_, rfl, hshown problem [] rfl⟩

end Service
end NfsVolume
