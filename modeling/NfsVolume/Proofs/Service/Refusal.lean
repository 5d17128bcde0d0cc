import NfsVolume.Proofs.Service.Body
import NfsVolume.Proofs.Service.Session

/-! Requests for volumes that are refused. The body of a request and the check of requests are of one
mind, but for names that cannot be shown in a report, and a refusal changes nothing. -/
namespace NfsVolume

open Run

/-- A request is refused as such. -/
def Failure.IsRefusal (e : Failure) : Prop :=
  ∃ problem, e = .provisioning (.invalidRequest problem)

theorem Failure.IsBehind.not_isRefusal {e : Failure} (h : e.IsBehind) : ¬ e.IsRefusal := by
  rintro ⟨problem, rfl⟩
  cases h with
  | effect _ h =>
    obtain ⟨problem, ⟨-, hkind⟩, he⟩ := h
    cases he
    exact hkind rfl
  | lost _ h =>
    cases h with
    | misshapen _ h => cases h
  | null _ _ h => cases h.2
  | entry _ _ _ h => cases h

/-- Looking for annotations asks nobody. -/
theorem Group.annotationOrNone_silent (file key : Text) : Silent (annotationOrNone file key) := by
  refine Emits.onOsError ?_ fun _ => (log_silent _ _ _).bind fun _ => pure_silent _
  exact (Files.readText_reads file).silent.bind fun _ => pure_silent _

theorem Group.fromSource_fetches (cluster : Cluster) (file space : Text) (source : Source) :
    Emits Event.IsFetch (fromSource cluster file space source) := by
  have hannotated (key shortName : Text) (path : Text → Text) (ranges : Json → Run (List GroupRange))
      (hranges : ∀ object, Silent (ranges object)) :
      Emits Event.IsFetch (fromAnnotated cluster file key shortName path ranges) := by
    apply (annotationOrNone_silent file key).emits.bind
    intro name
    refine Emits.ite (pure_silent _).emits ?_
    apply (cluster.lookup_fetches _).bind
    intro found
    cases found with
    | ok object => exact (hranges object).emits
    | error problem => exact (log_silent _ _ _).emits.bind fun _ => (pure_silent _).emits
  cases source with
  | constraint => exact hannotated _ _ _ _ fun object => (rangesOfConstraint_yields object).silent
  | policy => exact hannotated _ _ _ _ fun object => (rangesOfPolicy_yields object).silent
  | space =>
    refine Emits.ite ((log_silent _ _ _).emits.bind fun _ => (pure_silent _).emits) ?_
    apply (cluster.lookup_fetches _).bind
    intro found
    cases found with
    | error problem => exact (log_silent _ _ _).emits.bind fun _ => (pure_silent _).emits
    | ok object =>
      dsimp only
      cases rangesOfNamespace object with
      | ok ranges => exact (pure_silent _).emits
      | error problem =>
        cases problem with
        | value problem => exact (log_silent _ _ _).emits.bind fun _ => (pure_silent _).emits
        | _ => exact (throw_silent _).emits

theorem Group.firstOf_fetches (cluster : Cluster) (file space : Text) (sources : List Source) :
    Emits Event.IsFetch (firstOf cluster file space sources) := by
  induction sources with
  | nil => exact (log_silent _ _ _).emits.bind fun _ => (pure_silent _).emits
  | cons source rest ih =>
    apply (fromSource_fetches cluster file space source).bind
    intro ranges
    exact Emits.ite ih ((log_silent _ _ _).emits.bind fun _ => (pure_silent _).emits)

theorem Cluster.ofSettings_silent (s : Settings) : Silent (Cluster.ofSettings s) := by
  have hrest (token : Option Text) : Silent (do
      let bundle := if ← Files.isPresentOrRefused (Path.normal s.bundleFile) then some s.bundleFile
        else none
      return Cluster.access s.clusterUrl token bundle s.clusterTimeout) :=
    (Files.isPresentOrRefused_reads _).silent.bind fun _ => pure_silent _
  unfold Cluster.ofSettings
  apply (Files.isPresentOrRefused_reads _).silent.bind
  intro present
  dsimp only
  refine Emits.ite ((Files.readText_reads _).silent.bind fun _ => ?_)
    ((log_silent _ _ _).bind fun _ => ?_)
  · exact (pure_silent _).bind hrest
  · exact (pure_silent _).bind hrest

theorem Provisioner.ofSettings_fetches (s : Settings) : Emits Event.IsFetch (ofSettings s) := by
  have hzero : Silent (Ledger.setLast 0) := silent_of_events fun _ => rfl
  refine (Cluster.ofSettings_silent s).emits.bind fun cluster => ?_
  refine (environment_silent _).emits.bind fun space => ?_
  refine (Group.firstOf_fetches _ _ _ _).bind fun ranges => ?_
  exact hzero.emits.bind fun _ => (pure_silent _).emits

namespace Service

variable {state later : State} {p : Provisioner} {requestId : Text} {r : Request}
  {request : VolumeRequest} {response : Response} {w u v : World} {value : Json}

/-- Getting the provisioner of the service asks the cluster at most. -/
theorem obtain_fetches (state : State) : Emits Event.IsFetch state.obtain := by
  unfold State.obtain
  split
  · exact (pure_silent _).emits
  · apply Settings.load_reads.silent.emits.bind
    intro settings
    exact Provisioner.ofSettings_fetches settings

theorem unprocessable_status_eq (requestId : Text) (errors : List BodyError) :
    (unprocessable requestId errors).status = if cannotShow errors then 500 else 422 := by
  change (if cannotShow errors then internalError requestId else _ : Response).status = _
  split <;> rfl

theorem failureStatus_iff (problem : Failure) :
    (failureStatus problem = some 400 ↔ problem.IsRefusal) ∧ failureStatus problem ≠ some 422 := by
  cases problem with
  | provisioning problem => cases problem <;> simp [failureStatus, Failure.IsRefusal]
  | _ => simp [failureStatus, Failure.IsRefusal]

/-- A request is answered as refused exactly if it is refused, and never as one with a body that
cannot be processed. -/
theorem responseTo_status (requestId : Text) (done : Except Failure (List (RawText × Json))) :
    ((responseTo requestId done).status = 400 ↔ ∃ e, done = .error e ∧ e.IsRefusal) ∧
      (responseTo requestId done).status ≠ 422 := by
  cases done with
  | ok data =>
    change ((sendable requestId 201 data).status = 400 ↔ _) ∧
      (sendable requestId 201 data).status ≠ 422
    unfold sendable
    split <;> simp [success, internalError, respond]
  | error problem =>
    obtain ⟨hrefusal, hbody⟩ := failureStatus_iff problem
    unfold responseTo
    dsimp only
    cases hstatus : failureStatus problem with
    | none =>
      rw [hstatus] at hrefusal
      simpa [internalError, respond] using hrefusal
    | some status =>
      rw [hstatus, Option.some.injEq] at hrefusal
      rw [hstatus, Ne, Option.some.injEq] at hbody
      simpa [detail, respond, hbody] using hrefusal

theorem provisionWith_refused {e : Failure} (h : request.validate = .error e) :
    provisionWith request p u = (.error e, u) :=
  bind_error (Provisioner.provision_invalid h _ _)

/-- A request is refused exactly if its check says so. -/
theorem provisionWith_isRefusal_iff (hne : p.ranges ≠ [])
    (hranges : ∀ range ∈ p.ranges, range.min ≤ range.max)
    {done : Except Failure (List (RawText × Json))} (h : provisionWith request p u = (done, v)) :
    (∃ e, done = .error e ∧ e.IsRefusal) ↔ ∃ e, request.validate = .error e := by
  constructor
  · rintro ⟨e, rfl, hrefusal⟩
    cases hvalid : request.validate with
    | error problem => exact ⟨problem, rfl⟩
    | ok _ =>
      refine absurd hrefusal (Failure.IsBehind.not_isRefusal ?_)
      rcases of_bind h with ⟨volume, u', -, hrest⟩ | ⟨e', hprovision, he⟩
      · rcases of_bind hrest with ⟨manifest, u'', -, hreturn⟩ | ⟨e', hmanifest, he⟩
        · cases hreturn
        · cases he
          rw [ofExcept_apply] at hmanifest
          rw [ProvisionedVolume.manifest_error (Prod.mk.inj hmanifest).1]
          exact .unwritable
      · cases he
        exact Provisioner.provision_behind hne hranges hvalid hprovision
  · rintro ⟨e, he⟩
    rw [provisionWith_refused he] at h
    cases h
    exact ⟨e, rfl, VolumeRequest.of_validate_error he⟩

/-- Getting a provisioner leaves the count as it is. -/
theorem State.Settled.count (h : state.Settled) (hw : w.lastExportId = state.lastExportId)
    (hmade : state.obtain w = (.ok p, u)) : u.lastExportId = state.lastExportId := by
  cases hp : state.provisioner with
  | some kept =>
    rw [obtain_of_some hp] at hmade
    cases hmade
    exact hw
  | none =>
    rw [obtain_of_none hp] at hmade
    obtain ⟨settings, u', -, hmade⟩ := of_bind_ok hmade
    obtain ⟨-, -, hzero⟩ := Provisioner.of_ofSettings hmade
    rw [hzero, h.start hp]
    rfl

/-- Nothing has been done but asking the cluster. -/
structure Untouched (state later : State) (w v : World) : Prop where
  files : v.files = w.files
  count : v.lastExportId = w.lastExportId
  serviceCount : later.lastExportId = state.lastExportId
  events : ∃ asked, v.events = w.events ++ asked ∧ ∀ e ∈ asked, e.IsFetch

/-- What the answer to a request for a volume says of its body, and what has been done for it. -/
structure Judges (value : Json) (requestId : Text) (state : State) (w : World)
    (response : Response) (later : State) (v : World) : Prop where
  accepted : ∀ request, checkBody value = .ok request →
    ((∃ e, request.validate = .error e) ↔
      request.parameters.isEmpty = false ∨ request.selector.isEmpty = false) ∧
    (response.status = 400 ↔ ∃ e, request.validate = .error e) ∧ response.status ≠ 422
  reported : ∀ errors, checkBody value = .error errors →
    response = unprocessable requestId errors ∧
      response.status = if cannotShow errors then 500 else 422
  bare : ∀ members name n, value = .object members → IsBare members name n →
    (response.status = 422 ↔
      (∃ e, Volume.validateRequest (.text name) (.int n) .null .null = .error e) ∧
        name.hasHalf = false) ∧
    (name.hasHalf = true → response.status = 500)
  untouched : response.status = 422 ∨ response.status = 400 → Untouched state later w v

theorem judges_of_reported {errors : List BodyError} (h : checkBody value = .error errors)
    (requestId : Text) (state : State) (w : World) :
    Judges value requestId state w (unprocessable requestId errors) state w where
  accepted request hrequest := by
    rw [h] at hrequest
    cases hrequest
  reported errors' herrors := by
    rw [h] at herrors
    cases herrors
    exact ⟨rfl, unprocessable_status_eq requestId errors⟩
  bare members name n hvalue hbare := by
    subst hvalue
    rw [unprocessable_status_eq]
    rcases hbare.checked with ⟨⟨request, hrequest⟩, -⟩ | ⟨⟨errors', herrors, hshown⟩, hinvalid⟩
    · cases h.symm.trans hrequest
    · cases h.symm.trans herrors
      rw [hshown]
      cases name.hasHalf with
      | true => exact ⟨iff_of_false (by decide) (by simp), fun _ => rfl⟩
      | false => exact ⟨iff_of_true rfl ⟨hinvalid, rfl⟩, nofun⟩
  untouched _ := ⟨rfl, rfl, rfl, [], by rw [List.append_nil], nofun⟩

theorem judges_of_accepted (hsettled : state.Settled)
    (hmade : state.obtain (w.withCount state.lastExportId) = (.ok p, u))
    (h : checkBody value = .ok request) {done : Except Failure (List (RawText × Json))}
    (hdone : provisionWith request p u = (done, v)) (requestId : Text) :
    Judges value requestId state w (responseTo requestId done) ⟨some p, v.lastExportId⟩
      (v.withCount w.lastExportId) := by
  obtain ⟨members, rfl, hmakes⟩ := of_checkBody_ok h
  obtain ⟨hne, hranges⟩ := hsettled.obtained hmade
  obtain ⟨hrefused, hbody⟩ := responseTo_status requestId done
  rw [provisionWith_isRefusal_iff hne hranges hdone] at hrefused
  refine ⟨fun request' hrequest => ?_, fun errors herrors => ?_,
    fun members' name n hmembers hbare => ?_, fun hstatus => ?_⟩
  · cases h.symm.trans hrequest
    refine ⟨?_, hrefused, hbody⟩
    rw [hmakes.validate]
    cases request.parameters.isEmpty <;> cases request.selector.isEmpty <;>
      simp [Volume.refuseRequest]
  · cases h.symm.trans herrors
  · cases hmembers
    rcases hbare.checked with ⟨-, hhalf, hvalid⟩ | ⟨⟨errors, herrors, -⟩, -⟩
    · rw [hvalid, hhalf]
      exact ⟨iff_of_false hbody (by simp), nofun⟩
    · cases h.symm.trans herrors
  · -- the request is checked before anything else is done with the provisioner
    obtain ⟨e, he⟩ := hrefused.mp (hstatus.resolve_left hbody)
    rw [provisionWith_refused he] at hdone
    cases hdone
    have hfiles := ((obtain_within (List.mem_singleton.mpr rfl) state).frame hmade).files (by simp)
    have hasked := (obtain_fetches state).events hmade
    exact ⟨hfiles, rfl, hsettled.count rfl hmade, hasked⟩

/-- A request for a volume whose body can be read is answered, if the service has a provisioner or
can make one, and the answer judges its body. Every session leaves the service settled. -/
theorem handle_judges (state : State) (hsettled : state.Settled) (requestId : Text) (r : Request)
    (hasks : r.Asks .volumes) (value : Json)
    (hread : (bodyText? (Text.Utf8.encode r.body)).map Json.read = some (.ok value)) (w u : World)
    (p : Provisioner) (hmade : state.obtain (w.withCount state.lastExportId) = (.ok p, u)) :
    ∃ response later v, handle state requestId r w = (.ok (response, later), v) ∧
      Judges value requestId state w response later v := by
  rw [handle_asks hasks]
  change ∃ response later v, createVolume state requestId r.body w = _ ∧ _
  rw [createVolume_eq, readBody_ok requestId hread]
  cases hchecked : checkBody value with
  | error errors => exact ⟨_, _, _, rfl, judges_of_reported hchecked requestId state w⟩
  | ok request =>
    rcases hdone : provisionWith request p u with ⟨done, v⟩
    exact ⟨_, _, _, bind_ok (withProvisioner_ok hmade hdone),
      judges_of_accepted hsettled hmade hchecked hdone requestId⟩

/-- What a body is read as, if it has a name and a capacity and nothing else. -/
theorem read_bare {body : Text} {name : RawText} {n : Int}
    (h : ((bodyText? (Text.Utf8.encode body)).map Json.read).bind
      (fun found => found.toOption.bind bare?) = some (name, n)) :
    ∃ members, (bodyText? (Text.Utf8.encode body)).map Json.read = some (.ok (.object members)) ∧
      IsBare members name n := by
  obtain ⟨value, hread, h⟩ := read_of_eval h
  obtain ⟨members, rfl, hbare⟩ := of_bare? h
  exact ⟨members, hread, hbare⟩

/-- A world in which volumes can be made. -/
def readyWorld : World := Site.empty.world.meeting Site.calm

theorem obtain_readyWorld : ∃ p u, State.start.obtain (readyWorld.withCount 0) = (.ok p, u) := by
  have hmade : (State.start.obtain (readyWorld.withCount 0)).1.toOption.isSome = true := by
    decide +kernel
  obtain ⟨p, hp⟩ := Option.isSome_iff_exists.mp hmade
  exact ⟨p, apply_ok_of_toOption hp⟩

/-- A name that leads to another directory is refused, and nothing has been done. -/
theorem handle_judges_name :
    ∃ response later v, handle .start [] (postRequest (Site.bodyOf "../a")) readyWorld =
        (.ok (response, later), v) ∧
      response.status = 422 ∧ Untouched .start later readyWorld v := by
  obtain ⟨members, hread, hbare⟩ := @read_bare (Site.bodyOf "../a") ("../a" : String) 1
    (by decide +kernel)
  obtain ⟨p, u, hmade⟩ := obtain_readyWorld
  obtain ⟨response, later, v, hhandle, hjudges⟩ := handle_judges .start State.settled_start []
    (postRequest (Site.bodyOf "../a")) (postRequest_asks _) (.object members) hread readyWorld u p
    hmade
  have hinvalid : ∃ e, Volume.validateRequest (.text ("../a" : String)) (.int 1) .null .null =
      .error e := exists_error_of_toOption (by decide +kernel)
  have hstatus : response.status = 422 :=
    (hjudges.bare members _ 1 rfl hbare).1.mpr ⟨hinvalid, by decide⟩
  exact ⟨response, later, v, hhandle, hstatus, hjudges.untouched (.inl hstatus)⟩

/-- A name that is half of a pair of surrogates. -/
def halfName : RawText := [.half ⟨0xd800, by decide⟩]

/-- Such a name is refused, but not reported as such. -/
theorem handle_judges_half :
    ∃ members, (bodyText? (Text.Utf8.encode (Site.bodyOf "\\ud800"))).map Json.read =
        some (.ok (.object members)) ∧ IsBare members halfName 1 ∧
      (∃ p u, State.start.obtain (readyWorld.withCount 0) = (.ok p, u)) ∧
      (∃ e, Volume.validateRequest (.text halfName) (.int 1) .null .null = .error e) ∧
      ∃ response later v, handle .start [] (postRequest (Site.bodyOf "\\ud800")) readyWorld =
        (.ok (response, later), v) ∧ response.status = 500 := by
  obtain ⟨members, hread, hbare⟩ := @read_bare (Site.bodyOf "\\ud800") halfName 1
    (by decide +kernel)
  refine ⟨members, hread, hbare, obtain_readyWorld, exists_error_of_toOption (by decide +kernel), ?_⟩
  have hanswer : (handle .start [] (postRequest (Site.bodyOf "\\ud800")) readyWorld).1.toOption.map
      (fun answered => answered.1.status) = some 500 := by decide +kernel
  obtain ⟨⟨response, later⟩, hanswer, hstatus⟩ := Option.map_eq_some_iff.mp hanswer
  obtain ⟨v, hhandle⟩ := apply_ok_of_toOption hanswer
  exact ⟨response, later, v, hhandle, hstatus⟩

end Service
end NfsVolume
