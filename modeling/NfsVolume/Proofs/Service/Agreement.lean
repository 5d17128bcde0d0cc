import NfsVolume.Proofs.CommandLine.Create
import NfsVolume.Proofs.Provisioner.Result
import NfsVolume.Proofs.Service.Answer
import NfsVolume.Proofs.Service.Refusal

/-! The program and the service make the same volume of the same request: from one world they come
to one world, and they say the same of it, unless the address of the server cannot be sent. -/
namespace NfsVolume

open Run ProvisionedVolume

variable {α : Type} {p : Provisioner} {request : VolumeRequest} {volume : ProvisionedVolume}
  {w u v : World}

namespace ServerLocator

variable {l : ServerLocator} {server service : Json}

/-- The object of the service that is named to stand in front of the pod, as it is looked up. -/
def Finds (l : ServerLocator) (w : World) (service : Json) : Prop :=
  ∃ own name space u v, l.ownAddress w = (.ok own, u) ∧
    environment l.serviceVariable u = (.ok name, u) ∧ name ≠ [] ∧
    environment l.namespaceVariable u = (.ok space, u) ∧ space ≠ [] ∧
    l.cluster.lookup (Cluster.servicePath space name) u = (.ok (.ok service), v)

/-- A service is found only if the environment names one. -/
theorem Finds.named (h : l.Finds w service) :
    (w.environment.lookup l.serviceVariable).getD [] ≠ [] := by
  obtain ⟨own, name, space, u, v, hown, hname, hne, -⟩ := h
  have hframe : World.Frame [.results "hostname"] w u :=
    (l.ownAddress_within (by simp)).frame hown
  have hname : (u.environment.lookup l.serviceVariable).getD [] = name :=
    Except.ok.inj (congrArg Prod.fst hname)
  rwa [← hframe.environment, hname]

theorem of_serviceAddress_ok {space name own : Text}
    (h : l.serviceAddress space name own w = (.ok server, v)) :
    ∃ service u, l.cluster.lookup (Cluster.servicePath space name) w = (.ok (.ok service), u) ∧
      Server.clusterIp service = .ok (some server) := by
  obtain ⟨found, u, hfound, h⟩ := of_bind_ok h
  cases found with
  | error problem => cases h
  | ok service =>
    refine ⟨service, u, hfound, ?_⟩
    obtain ⟨found, u₁, -, h⟩ := of_bind_ok h
    cases found with
    | error problem => cases h
    | ok endpoints =>
      obtain ⟨same, u₂, -, h⟩ := of_bind_ok h
      cases same with
      | false => cases h
      | true =>
        obtain ⟨ip, u₃, hip, h⟩ := of_bind_ok h
        rw [ofExcept_apply] at hip
        cases ip with
        | none => cases h
        | some ip =>
          cases h
          exact (Prod.mk.inj hip).1

/-- An address that is found is the pod's own, or that of the service. -/
theorem of_resolve_ok (h : l.resolve w = (.ok server, v)) :
    (∃ own : Text, server = .text own) ∨
      ∃ service, l.Finds w service ∧ Server.clusterIp service = .ok (some server) := by
  obtain ⟨own, u, hown, h⟩ := of_bind_ok h
  obtain ⟨name, u', hname, h⟩ := of_bind_ok h
  obtain rfl : u' = u := (congrArg Prod.snd hname).symm
  cases name with
  | nil =>
    cases h
    exact .inl ⟨own, rfl⟩
  | cons c rest =>
    obtain ⟨space, u'', hspace, h⟩ := of_bind_ok h
    obtain rfl : u'' = u' := (congrArg Prod.snd hspace).symm
    cases space with
    | nil => cases h
    | cons d more =>
      obtain ⟨service, u₁, hfound, hip⟩ := of_serviceAddress_ok h
      exact .inr ⟨service, ⟨own, _, _, u'', u₁, hown, hname, nofun, hspace, nofun, hfound⟩, hip⟩

end ServerLocator

namespace Service

open CommandLine

variable {requestId : Text} {r : Request}

theorem create_eq (request : VolumeRequest) :
    create request = build >>= fun p => p.provision request >>= fun volume => do
      let gid ← Run.ofExcept (writeInteger volume.gid)
      let manifest ← Run.ofExcept (volume.manifest request)
      let place : RawText := volume.server.toText ++ ":" ++ volume.path
      return (errorLine ("  Exported " ++ place ++ " with gid " ++ gid), manifest) :=
  (bind_assoc _ _ _).symm

/-- The line by which the program reports a volume. -/
def exported (volume : ProvisionedVolume) : RawText :=
  let place : RawText := volume.server.toText ++ ":" ++ volume.path
  errorLine ("  Exported " ++ place ++ " with gid " ++ Text.integer volume.gid)

/-- The program and the service fail with the same, or make the same volume. -/
theorem create_or (request : VolumeRequest)
    (hcapacity : Text.Integer.tooLong request.capacity = false) (w : World) :
    (∃ e v, create request w = (.error e, v) ∧
        (build >>= provisionWith request) w = (.error e, v)) ∨
      ∃ p u volume notes v, build w = (.ok p, u) ∧ p.provision request u = (.ok volume, v) ∧
        create request w = (.ok (exported volume, objectOf volume request notes), v) ∧
        (build >>= provisionWith request) w =
          (.ok [("volume", volume.toJson),
            ("persistent_volume", objectOf volume request notes)], v) := by
  rw [create_eq]
  rcases hmade : build w with ⟨e | p, u⟩
  · exact .inl ⟨e, u, bind_error hmade, bind_error hmade⟩
  · rw [bind_ok hmade, bind_ok hmade]
    unfold provisionWith
    rcases hprovision : p.provision request u with ⟨e | volume, v⟩
    · exact .inl ⟨e, v, bind_error hprovision, bind_error hprovision⟩
    · obtain ⟨-, hgid, -, notes, hmanifest⟩ := Provisioner.written_of_provision hprovision hcapacity
      refine .inr ⟨p, u, volume, notes, v, rfl, hprovision, ?_, ?_⟩
      · rw [bind_ok hprovision, writeInteger_ok hgid, hmanifest]
        rfl
      · rw [bind_ok hprovision, hmanifest]
        rfl

/-- A service without a provisioner makes one for the request. -/
theorem served_start {act : Provisioner → Run α} {done : Except Failure α}
    (h : (build >>= act) (w.withCount 0) = (done, v)) (respond : Except Failure α → Response) :
    ∃ later, served .start act respond w =
      (.ok (respond done, later), v.withCount w.lastExportId) := by
  have hcount : State.start.lastExportId = 0 := rfl
  rw [served_apply, obtain_of_none rfl, hcount]
  rcases hmade : build (w.withCount 0) with ⟨e | p, u⟩
  · rw [bind_error hmade] at h
    cases h
    exact ⟨_, rfl⟩
  · rw [bind_ok hmade] at h
    dsimp only
    rw [h]
    exact ⟨_, rfl⟩

variable {members : List (RawText × Json)} {name policy : Text} {n : Nat} {modes : List Text}
  {given : List Given}

/-- The fields of a body that says what the arguments of the program say. -/
structure Carries (members : List (RawText × Json)) (name : Text) (n : Nat) (modes : List Text)
    (policy : Text) : Prop where
  name : Json.lookup ("name" : String) members = some (.text (name : RawText))
  capacity : Json.lookup ("capacity_bytes" : String) members = some (.int n)
  accessModes : Json.lookup ("access_modes" : String) members =
    some (.array ((modes.map RawText.ofText).map .text))
  reclaimPolicy : Json.lookup ("reclaim_policy" : String) members = some (.text (policy : RawText))
  parameters : Json.lookup ("parameters" : String) members = none
  selector : Json.lookup ("selector" : String) members = none

/-- The fields of a body without parameters and selector, if all of them are of the kinds that they
are meant to be of. -/
def carried? : Json → Option (RawText × Int × List RawText × RawText)
  | .object members => do
    let name ← (Json.lookup ("name" : String) members).bind Json.text?
    let capacity ← (Json.lookup ("capacity_bytes" : String) members).bind Json.int?
    let accessModes ← (Json.lookup ("access_modes" : String) members).bind Json.texts?
    let reclaimPolicy ← (Json.lookup ("reclaim_policy" : String) members).bind Json.text?
    if (Json.lookup ("parameters" : String) members).isSome ||
        (Json.lookup ("selector" : String) members).isSome then none
    else some (name, capacity, accessModes, reclaimPolicy)
  | _ => none

theorem of_carried? {v : Json} (h : carried? v =
      some (RawText.ofText name, (n : Int), modes.map RawText.ofText, RawText.ofText policy)) :
    ∃ members, v = .object members ∧ Carries members name n modes policy := by
  cases v with
  | object members =>
    obtain ⟨found, hname, h⟩ := Option.bind_eq_some_iff.mp h
    obtain ⟨number, hcapacity, h⟩ := Option.bind_eq_some_iff.mp h
    obtain ⟨texts, hmodes, h⟩ := Option.bind_eq_some_iff.mp h
    obtain ⟨last, hpolicy, h⟩ := Option.bind_eq_some_iff.mp h
    split at h
    · cases h
    · rename_i hrest
      cases h
      obtain ⟨hparameters, hselector⟩ := Bool.or_eq_false_iff.mp (eq_false_of_ne_true hrest)
      obtain ⟨name, hname, hnamed⟩ := Option.bind_eq_some_iff.mp hname
      obtain ⟨number, hcapacity, hnumber⟩ := Option.bind_eq_some_iff.mp hcapacity
      obtain ⟨list, hmodes, htexts⟩ := Option.bind_eq_some_iff.mp hmodes
      obtain ⟨last, hpolicy, hlast⟩ := Option.bind_eq_some_iff.mp hpolicy
      rw [Option.isSome_eq_false_iff, Option.isNone_iff_eq_none] at hparameters hselector
      refine ⟨members, rfl, ?_, ?_, ?_, ?_, hparameters, hselector⟩
      · rw [hname, Json.eq_of_text? hnamed]
      · rw [hcapacity, Json.eq_of_int? hnumber]
      · rw [hmodes, Json.eq_of_texts? htexts]
      · rw [hpolicy, Json.eq_of_text? hlast]
  | _ => cases h

theorem checkTexts_texts (location : List Step) (position : Nat) (texts : List RawText) :
    checkTexts location position (texts.map .text) = .ok texts := by
  induction texts generalizing position with
  | nil => rfl
  | cons s rest ih =>
    rw [List.map_cons, checkTexts, ih]
    rfl

/-- Such a body makes the request of the arguments, if its name is valid, and is refused
otherwise. -/
theorem Carries.checked (h : Carries members name n modes policy) (hpos : 0 < n) :
    (checkMembers members = .ok (requestFor name n modes policy) ∧
        Volume.validateName name = .ok ()) ∨
      ∃ errors problem, checkMembers members = .error errors ∧
        Volume.validateName name = .error problem := by
  have hmodes : optional members "access_modes" VolumeRequest.defaultAccessModes checkList =
      .ok (modes.map RawText.ofText) := by
    rw [optional, h.accessModes]
    exact checkTexts_texts _ 0 _
  have hpolicy : optional members "reclaim_policy" VolumeRequest.defaultReclaimPolicy checkText =
      .ok (policy : RawText) := by
    rw [optional, h.reclaimPolicy]
    rfl
  have hparameters : optional members "parameters" .null (checkDictionary checkTextOnly) =
      .ok .null := by
    rw [optional, h.parameters]
  have hselector : optional members "selector" .null (checkDictionary fun _ _ => .ok ()) =
      .ok .null := by
    rw [optional, h.selector]
  rw [checkMembers_of_optional h.name h.capacity hmodes hpolicy hparameters hselector,
    checkCapacity_int, if_neg (by omega)]
  rcases checkName_text_cases (fieldAt "name") (name : RawText) with
    ⟨hchecked, -, hvalid⟩ | ⟨problem, cause, hchecked, hinvalid⟩
  · rw [hchecked]
    rw [RawText.shown_ofText] at hvalid ⊢
    exact .inl ⟨rfl, hvalid⟩
  · rw [hchecked]
    rw [RawText.shown_ofText] at hinvalid
    exact .inr ⟨_, cause, rfl, hinvalid⟩

/-- So the service provisions that request, or says what is wrong with the name. -/
theorem Carries.uses (h : Carries members name n modes policy) (hpos : 0 < n)
    (hasks : r.Asks .volumes)
    (hread : (bodyText? (Text.Utf8.encode r.body)).map Json.read = some (.ok (.object members)))
    (requestId : Text) :
    (Volume.validateName name = .ok () ∧
        r.Uses requestId (.volume (requestFor name n modes policy))) ∨
      ∃ errors problem, Volume.validateName name = .error problem ∧
        ∀ state w, handle state requestId r w = (.ok (unprocessable requestId errors, state), w) := by
  have hbody := readBody_ok requestId hread
  change _ = (checkMembers members).mapError _ at hbody
  rcases h.checked hpos with ⟨hchecked, hvalid⟩ | ⟨errors, problem, hchecked, hinvalid⟩
  · rw [hchecked] at hbody
    exact .inl ⟨hvalid, .volume _ hasks hbody⟩
  · rw [hchecked] at hbody
    refine .inr ⟨errors, problem, hinvalid, fun state w => ?_⟩
    rw [handle_asks hasks]
    change createVolume state requestId r.body w = _
    rw [createVolume_eq, hbody]
    rfl

theorem isShown_requestFor (name : Text) (n : Nat) (modes : List Text) (policy : Text) :
    IsShown (requestFor name n modes policy) where
  accessModes mode hmode := by
    obtain ⟨text, -, rfl⟩ := List.mem_map.mp hmode
    exact RawText.hasHalf_ofText text
  reclaimPolicy := RawText.hasHalf_ofText policy

/-- The object for the cluster in an answer. -/
def manifest? (response : Response) : Option Json :=
  match response.content with
  | .json v => Json.follow? ["data", "persistent_volume"] v
  | .nothing => none

/-- The provisioner of a world finds an address that cannot be sent. -/
def Unshown (w : World) : Prop :=
  ∃ p u server v, build (w.withCount 0) = (.ok p, u) ∧
    p.locator.resolve u = (.ok (.text server), v) ∧ server.hasHalf = true

/-- What the program and the service say of one volume. -/
structure Agree (w : World) (requestId : Text) (outcome : Outcome) (response : Response) :
    Prop where
  exit : outcome.exit = 0 ∨ outcome.exit = 1
  status : response.status = 201 ↔ outcome.exit = 0 ∧ ¬ Unshown w
  manifest : response.status = 201 → ∃ manifest, outcome.output = manifest.lines ++ ['\n'] ∧
    manifest? response = some manifest
  unshown : outcome.exit = 0 → Unshown w → response = internalError requestId

theorem Agree.of_failed {outcome : Outcome} {response : Response} (hexit : outcome.exit = 1)
    (hstatus : response.status ≠ 201) (w : World) (requestId : Text) :
    Agree w requestId outcome response where
  exit := .inr hexit
  status := iff_of_false hstatus fun h => by rw [hexit] at h; exact absurd h.1 (by decide)
  manifest h := absurd h hstatus
  unshown h := by
    rw [hexit] at h
    cases h

/-- An address that is found is a text, if that of a service is. -/
theorem text_of_resolve {server : Json}
    (hservice : ∀ service, p.locator.Finds u service → ∀ address,
      Server.clusterIp service = .ok (some address) → ∃ s, address = .text s)
    (h : p.locator.resolve u = (.ok server, v)) : ∃ s : RawText, server = .text s := by
  rcases ServerLocator.of_resolve_ok h with ⟨own, rfl⟩ | ⟨service, hfinds, hip⟩
  · exact ⟨own, rfl⟩
  · exact hservice service hfinds _ hip

/-- A volume that is made is the same for both. -/
theorem agree_of_made {level : Nat} {announced server : RawText}
    {notes : List (Text × Text)} (hshown : IsShown request)
    (hcapacity : Text.Integer.tooLong request.capacity = false)
    (hmade : build (w.withCount 0) = (.ok p, u))
    (hprovision : p.provision request u = (.ok volume, v))
    (hserver : volume.server = .text server) (requestId : Text) :
    Agree w requestId
      (created level announced (.ok (exported volume, objectOf volume request notes)))
      (responseTo requestId (.ok [("volume", volume.toJson),
        ("persistent_volume", objectOf volume request notes)])) := by
  obtain ⟨⟨u', hresolve⟩, hgid, hid, -⟩ := Provisioner.written_of_provision hprovision hcapacity
  rw [hserver] at hresolve
  have hunshown : Unshown w ↔ server.hasHalf = true := by
    constructor
    · rintro ⟨p', u₁, server', u₂, hmade', hresolve', hhalf⟩
      cases hmade.symm.trans hmade'
      cases hresolve.symm.trans hresolve'
      exact hhalf
    · exact fun hhalf => ⟨p, u, server, u', hmade, hresolve, hhalf⟩
  rw [responseTo_volume hserver hshown hgid hid]
  cases hhalf : server.hasHalf with
  | true =>
    have hhidden := hunshown.mpr hhalf
    exact ⟨.inl rfl, iff_of_false nofun fun h => h.2 hhidden, nofun, fun _ _ => rfl⟩
  | false =>
    have hvisible : ¬ Unshown w := by simp [hunshown, hhalf]
    exact ⟨.inl rfl, iff_of_true rfl ⟨rfl, hvisible⟩, fun _ => ⟨_, rfl, rfl⟩,
      fun _ h => absurd h hvisible⟩

/-- The program and the service, asked for the same volume in the same world, come to the same world
and say the same of the volume, but for an address that cannot be sent. -/
theorem create_agrees (w : World) (name policy : Text) (n : Nat) (modes : List Text)
    (given : List Given) (hgiven : Gives given name n modes policy) (hmodes : modes ≠ [])
    (hpos : 0 < n) (hn : Text.Integer.tooLong n = false)
    (hlevel : ∀ s, (Settings.load w).1 = .ok s →
      ∃ level, LogThreshold.ofName s.logLevel.upper = .ok level)
    (hservice : ∀ p u service, build (w.withCount 0) = (.ok p, u) → p.locator.Finds u service →
      ∀ address, Server.clusterIp service = .ok (some address) → ∃ s, address = .text s)
    (requestId : Text) (r : Request) (hasks : r.Asks .volumes) (members : List (RawText × Json))
    (hread : (bodyText? (Text.Utf8.encode r.body)).map Json.read = some (.ok (.object members)))
    (hcarries : Carries members name n modes policy) :
    ∃ outcome response later v,
      run ("volume" :: "create" :: given.flatMap Given.texts) w = (.ok outcome, v) ∧
      handle .start requestId r w = (.ok (response, later), v) ∧
      Agree w requestId outcome response := by
  obtain ⟨outcome, v, hrun, hcreates⟩ := run_creates hgiven hmodes hn w hlevel
  refine ⟨outcome, ?_⟩
  rcases hcarries.uses hpos hasks hread requestId with
    ⟨hvalid, huses⟩ | ⟨errors, problem, hinvalid, hhandle⟩
  · rw [huses.handle]
    change ∃ response later v, _ ∧ served .start (provisionWith _) (responseTo requestId) w = _ ∧ _
    cases hcreates with
    | refused _ problem hname => cases hvalid.symm.trans hname
    | unset _ e hload hexit =>
      have hload' := Settings.load_withCount w 0
      rw [hload] at hload'
      have hfailed : (build >>= provisionWith (requestFor name n modes policy)) (w.withCount 0) =
          (.error e, w.withCount 0) := bind_error (bind_error hload')
      obtain ⟨later, hserved⟩ := served_start hfailed (responseTo requestId)
      exact ⟨_, later, w, hrun, hserved,
        .of_failed hexit (responseTo_error requestId e) w requestId⟩
    | created level announced =>
      rcases create_or (requestFor name n modes policy) hn (w.withCount 0) with
        ⟨e, v, hcreate, hfailed⟩ | ⟨p, u, volume, notes, v, hmade, hprovision, hcreate, hdone⟩
      · obtain ⟨later, hserved⟩ := served_start hfailed (responseTo requestId)
        rw [hcreate] at hrun ⊢
        exact ⟨_, later, _, hrun, hserved,
          .of_failed rfl (responseTo_error requestId e) w requestId⟩
      · obtain ⟨later, hserved⟩ := served_start hdone (responseTo requestId)
        obtain ⟨⟨u', hresolve⟩, -⟩ := Provisioner.written_of_provision hprovision hn
        obtain ⟨server, hserver⟩ := text_of_resolve (hservice p u · hmade) hresolve
        rw [hcreate] at hrun ⊢
        exact ⟨_, later, _, hrun, hserved, agree_of_made (isShown_requestFor name n modes policy)
          hn hmade hprovision hserver requestId⟩
  · -- the program checks the name before it asks for anything, as the service does
    have hstatus := unprocessable_status requestId errors
    cases hcreates with
    | created level announced hname => cases hinvalid.symm.trans hname
    | unset _ e hload hexit =>
      exact ⟨_, _, w, hrun, hhandle .start w, .of_failed hexit hstatus w requestId⟩
    | refused _ problem hname hexit =>
      exact ⟨_, _, w, hrun, hhandle .start w, .of_failed hexit hstatus w requestId⟩

/-- A body for a volume of one octet, with an access mode and a policy. -/
def fullBody : Text :=
  "\x7b\"name\": \"a\", \"capacity_bytes\": 1, \"access_modes\": [\"m\"], \"reclaim_policy\": \"p\"\x7d"

/-- Arguments for the same volume. -/
def fullGiven : List Given := [.accessMode ['m'], .name ['a'], .reclaimPolicy ['p'], .capacity 1]

theorem gives_fullGiven : Gives fullGiven ['a'] 1 [['m']] ['p'] :=
  ⟨by decide, rfl, rfl, rfl, rfl⟩

theorem read_fullBody : ∃ members,
    (bodyText? (Text.Utf8.encode fullBody)).map Json.read = some (.ok (.object members)) ∧
      Carries members ['a'] 1 [['m']] ['p'] := by
  have hseen : ((bodyText? (Text.Utf8.encode fullBody)).map Json.read).bind
      (fun found => found.toOption.bind carried?) =
        some (RawText.ofText ['a'], 1, [RawText.ofText ['m']], RawText.ofText ['p']) := by
    decide +kernel
  obtain ⟨value, hread, hseen⟩ := read_of_eval hseen
  obtain ⟨members, rfl, hcarries⟩ := @of_carried? ['a'] ['p'] 1 [['m']] value hseen
  exact ⟨members, hread, hcarries⟩

/-- No service is named in this world. -/
theorem readyWorld_finds {service : Json} (hmade : build (readyWorld.withCount 0) = (.ok p, u)) :
    ¬ p.locator.Finds u service := by
  intro hfinds
  have hvariable : (build (readyWorld.withCount 0)).1.toOption.map
      (fun p => p.locator.serviceVariable) = some ("MY_SERVICE_NAME" : Text) := by decide +kernel
  rw [hmade] at hvariable
  have hvariable : p.locator.serviceVariable = ("MY_SERVICE_NAME" : Text) :=
    Option.some.inj hvariable
  have hnamed := hfinds.named
  have hframe : World.Frame [.count] (readyWorld.withCount 0) u :=
    (obtain_within (List.mem_singleton.mpr rfl) .start).frame hmade
  rw [hframe.environment, hvariable] at hnamed
  exact hnamed (by decide +kernel)

/-- Both make the volume, and the service answers what the program prints. -/
theorem create_agrees_ready : ∃ outcome response later v,
    run ("volume" :: "create" :: fullGiven.flatMap Given.texts) readyWorld = (.ok outcome, v) ∧
      handle .start [] (postRequest fullBody) readyWorld = (.ok (response, later), v) ∧
      outcome.exit = 0 ∧ response.status = 201 ∧
      ∃ manifest, outcome.output = manifest.lines ++ ['\n'] ∧ manifest? response = some manifest := by
  obtain ⟨members, hread, hcarries⟩ := read_fullBody
  have hlevel : ∀ s, (Settings.load readyWorld).1 = .ok s →
      ∃ level, LogThreshold.ofName s.logLevel.upper = .ok level := by
    intro s hs
    obtain rfl : s = Settings.standard := configured_of_load (by decide +kernel) s hs
    exact ⟨20, eq_ok_of_toOption (by decide +kernel)⟩
  obtain ⟨outcome, response, later, v, hrun, hhandle, hagree⟩ := create_agrees readyWorld ['a'] ['p']
    1 [['m']] fullGiven gives_fullGiven (List.cons_ne_nil _ _) (by decide)
    (Text.Integer.tooLong_of_lt (by decide)) hlevel
    (fun p u service hmade hfinds => absurd hfinds (readyWorld_finds hmade)) []
    (postRequest fullBody) (postRequest_asks _) members hread hcarries
  have hstatus : (handle .start [] (postRequest fullBody) readyWorld).1.toOption.map
      (fun answered => answered.1.status) = some 201 := by decide +kernel
  rw [hhandle] at hstatus
  have hstatus : response.status = 201 := Option.some.inj hstatus
  exact ⟨outcome, response, later, v, hrun, hhandle, (hagree.status.mp hstatus).1, hstatus,
    hagree.manifest hstatus⟩

/-- A world in which a service stands in front of the pod, with an address that the cluster shows as
a text. -/
def servedWorld (address : Text) : World :=
  { readyWorld with
    environment := [("MY_POD_IP", ['h']), ("MY_SERVICE_NAME", ['s']), ("MY_POD_NAMESPACE", ['n'])]
    replies := [
      ("/api/v1/namespaces/n/services/s", [.response 200
        ("\x7b\"spec\": \x7b\"clusterIP\": \"" ++ address ++ "\"\x7d\x7d")]),
      ("/api/v1/namespaces/n/endpoints/s", [.response 200
        ("\x7b\"subsets\": [\x7b\"addresses\": [\x7b\"ip\": \"h\"\x7d], \"ports\": [" ++
          "\x7b\"port\": 2049\x7d, \x7b\"port\": 20048\x7d, \x7b\"port\": 111\x7d, " ++
          "\x7b\"port\": 111, \"protocol\": \"UDP\"\x7d]\x7d]\x7d")])] }

/-- An address that is half of a pair of surrogates is printed by the program, but the service cannot
answer the volume that it has made. -/
theorem create_agrees_half : Gives fullGiven ['a'] 1 [['m']] ['p'] ∧
    (∃ members, (bodyText? (Text.Utf8.encode fullBody)).map Json.read =
      some (.ok (.object members)) ∧ Carries members ['a'] 1 [['m']] ['p']) ∧
    (∃ p u v, build ((servedWorld "\\ud800").withCount 0) = (.ok p, u) ∧
      p.locator.resolve u = (.ok (.text halfName), v)) ∧
    (∃ outcome v, run ("volume" :: "create" :: fullGiven.flatMap Given.texts)
      (servedWorld "\\ud800") = (.ok outcome, v) ∧ outcome.exit = 0) ∧
    ∃ response later v, handle .start [] (postRequest fullBody) (servedWorld "\\ud800") =
      (.ok (response, later), v) ∧ response.status = 500 := by
  refine ⟨gives_fullGiven, read_fullBody, ?_, ?_, ?_⟩
  · have haddress : ((build >>= fun p => p.locator.resolve)
        ((servedWorld "\\ud800").withCount 0)).1.toOption.bind Json.text? = some halfName := by
      decide +kernel
    obtain ⟨server, hserver, htext⟩ := Option.bind_eq_some_iff.mp haddress
    obtain ⟨v, hserver⟩ := apply_ok_of_toOption hserver
    obtain ⟨p, u, hmade, hresolve⟩ := of_bind_ok hserver
    exact ⟨p, u, v, hmade, Json.eq_of_text? htext ▸ hresolve⟩
  · have hexit : (run ("volume" :: "create" :: fullGiven.flatMap Given.texts)
        (servedWorld "\\ud800")).1.toOption.map (fun outcome => outcome.exit) = some 0 := by
      decide +kernel
    obtain ⟨outcome, hrun, hexit⟩ := Option.map_eq_some_iff.mp hexit
    obtain ⟨v, hrun⟩ := apply_ok_of_toOption hrun
    exact ⟨outcome, v, hrun, hexit⟩
  · have hstatus : (handle .start [] (postRequest fullBody) (servedWorld "\\ud800")).1.toOption.map
        (fun answered => answered.1.status) = some 500 := by decide +kernel
    obtain ⟨⟨response, later⟩, hanswer, hstatus⟩ := Option.map_eq_some_iff.mp hstatus
    obtain ⟨v, hhandle⟩ := apply_ok_of_toOption hanswer
    exact ⟨response, later, v, hhandle, hstatus⟩

end Service
end NfsVolume
