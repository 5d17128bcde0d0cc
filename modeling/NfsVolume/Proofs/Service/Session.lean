import NfsVolume.Proofs.Provisioner.Groups
import NfsVolume.Proofs.Service

/-! Sessions: requests to one service, while everything outside may change in between. The first
provisioner that can be made stays for good, so the ranges that are shown are those from which every
group is picked. -/
namespace NfsVolume.Service

open Run

variable {α : Type} {state : State} {p : Provisioner} {requestId : Text} {r : Request}
  {w u v : World} {route : Route}

/-- What is done with the provisioner for a request. -/
inductive Use where
  | volume (request : VolumeRequest)
  | ranges
  | server

inductive Request.Uses (requestId : Text) (r : Request) : Use → Prop
  | volume (request : VolumeRequest) (h : r.Asks .volumes)
      (hbody : readBody requestId (Text.Utf8.encode r.body) = .ok request) :
      Uses requestId r (.volume request)
  | ranges (h : r.Asks .ranges) : Uses requestId r .ranges
  | server (h : r.Asks .server) : Uses requestId r .server

/-- An answer for which something is done with the provisioner. -/
def served (state : State) (act : Provisioner → Run α) (respond : Except Failure α → Response) :
    Run (Response × State) :=
  withProvisioner state act >>= fun done => pure (respond done.1, done.2)

/-- Either the provisioner cannot be made, and the service stays as it is, or something is done with
it, and it is kept. -/
theorem served_apply (state : State) (act : Provisioner → Run α)
    (respond : Except Failure α → Response) (w : World) :
    served state act respond w = match state.obtain (w.withCount state.lastExportId) with
      | (.error e, u) => (.ok (respond (.error e), state), u.withCount w.lastExportId)
      | (.ok p, u) => (.ok (respond (act p u).1, ⟨some p, (act p u).2.lastExportId⟩),
          (act p u).2.withCount w.lastExportId) := by
  unfold served
  rcases hmade : state.obtain (w.withCount state.lastExportId) with ⟨e | p, u⟩
  · rw [bind_ok (withProvisioner_error hmade)]
    rfl
  · rw [bind_ok (withProvisioner_ok hmade rfl)]
    rfl

def rangesResponse (requestId : Text) : Except Failure (List GroupRange) → Response
  | .ok ranges => sendable requestId 200 [("items", .array (ranges.map rangeJson))]
  | .error _ => internalError requestId

def serverResponse (requestId : Text) : Except Failure Json → Response
  | .ok server => sendable requestId 200 [("server", server)]
  | .error (.provisioning (.server problem)) =>
    detail 503 (ProvisioningError.server problem).message
  | .error _ => internalError requestId

def Use.answer (state : State) (requestId : Text) : Use → Run (Response × State)
  | .volume request => served state (provisionWith request) (responseTo requestId)
  | .ranges => served state (fun p => pure p.ranges) (rangesResponse requestId)
  | .server => served state (fun p => p.locator.resolve) (serverResponse requestId)

theorem Use.answer_served (use : Use) (requestId : Text) :
    ∃ (α : Type) (act : Provisioner → Run α) (respond : Except Failure α → Response),
      ∀ state, use.answer state requestId = served state act respond := by
  cases use with
  | volume request => exact ⟨_, _, _, fun _ => rfl⟩
  | ranges => exact ⟨_, _, _, fun _ => rfl⟩
  | server => exact ⟨_, _, _, fun _ => rfl⟩

theorem showRanges_eq (state : State) (requestId : Text) :
    showRanges state requestId = Use.ranges.answer state requestId := by
  apply bind_congr
  intro done
  obtain ⟨done, state⟩ := done
  cases done <;> rfl

theorem showServer_eq (state : State) (requestId : Text) :
    showServer state requestId = Use.server.answer state requestId := by
  apply bind_congr
  intro done
  obtain ⟨done, state⟩ := done
  cases done with
  | ok server => rfl
  | error e =>
    cases e with
    | provisioning problem => cases problem <;> rfl
    | _ => rfl

theorem Request.Uses.handle {use : Use} (h : r.Uses requestId use) (state : State) :
    handle state requestId r = use.answer state requestId := by
  cases h with
  | volume request h hbody =>
    rw [handle_asks h]
    change createVolume state requestId r.body = _
    rw [createVolume_eq, hbody]
    rfl
  | ranges h =>
    rw [handle_asks h]
    exact showRanges_eq state requestId
  | server h =>
    rw [handle_asks h]
    exact showServer_eq state requestId

theorem withoutContent_status (method : Text) (response : Response) :
    (withoutContent method response).status = response.status := by
  unfold withoutContent
  split <;> rfl

/-- A request for which nothing is done with the provisioner leaves the service as it is, and no
volume is made for it. -/
theorem handle_idle (h : ∀ use, ¬ r.Uses requestId use) (state : State) (w : World) :
    ∃ res, handle state requestId r w = (res, w) ∧
      ∀ response later, res = .ok (response, later) → later = state ∧ response.status ≠ 201 := by
  have hother (method text : Text) (status : Nat) (hstatus : status ≠ 201) (response : Response)
      (later : State) (hres : (Except.ok (withoutContent method (detail status text), state) :
        Except Failure _) = .ok (response, later)) : later = state ∧ response.status ≠ 201 := by
    cases hres
    exact ⟨rfl, by rwa [withoutContent_status]⟩
  by_cases hasks : ∃ route, r.Asks route
  · obtain ⟨route, hasks⟩ := hasks
    rw [handle_asks hasks]
    cases route with
    | health => exact ⟨_, rfl, fun response later hres => by cases hres; exact ⟨rfl, nofun⟩⟩
    | volumes =>
      change ∃ res, createVolume state requestId r.body w = (res, w) ∧ _
      rw [createVolume_eq]
      cases hbody : readBody requestId (Text.Utf8.encode r.body) with
      | ok request => exact absurd (.volume request hasks hbody) (h _)
      | error refusal =>
        refine ⟨_, rfl, fun response later hres => ?_⟩
        cases hres
        exact ⟨rfl, readBody_status hbody⟩
    | ranges => exact absurd (.ranges hasks) (h _)
    | server => exact absurd (.server hasks) (h _)
    | document path =>
      exact ⟨_, rfl, fun response later hres => by cases hres; exact ⟨rfl, nofun⟩⟩
  · unfold handle
    cases hread : Target.read r.target with
    | error e => exact ⟨_, bind_error (ofExcept_apply _ w), fun _ _ hres => by cases hres⟩
    | ok t =>
      rw [bind_ok (ofExcept_apply _ w)]
      cases hroute : findRoute t with
      | error e => exact ⟨_, bind_error (ofExcept_apply _ w), fun _ _ hres => by cases hres⟩
      | ok found =>
        rw [show (Except.ok found).mapError Failure.target = .ok found from rfl,
          bind_ok (ofExcept_apply _ w)]
        cases found with
        | none => exact ⟨_, rfl, hother _ _ 404 (by decide)⟩
        | some route =>
          dsimp only
          split
          · rename_i hmethod
            exact absurd ⟨route, t, hread, hroute, hmethod⟩ hasks
          · exact ⟨_, rfl, hother _ _ 405 (by decide)⟩

/-- The group of the volume in an answer. -/
def createdGroup? (response : Response) : Option Int :=
  match response.content with
  | .json v =>
    match Json.follow? ["data", "volume", "gid"] v with
    | some (.int gid) => some gid
    | _ => none
  | .nothing => none

/-- A volume that is answered has a group of the provisioner's. -/
theorem group_of_created {request : VolumeRequest}
    {done : Except Failure (List (RawText × Json))} (h : provisionWith request p u = (done, v))
    (hstatus : (responseTo requestId done).status = 201) :
    ∃ gid, createdGroup? (responseTo requestId done) = some gid ∧
      ∃ range ∈ p.ranges, range.min ≤ gid ∧ gid ≤ range.max := by
  cases done with
  | error problem => exact absurd hstatus (responseTo_error requestId problem)
  | ok data =>
    obtain ⟨volume, u', hprovision, h⟩ := of_bind_ok h
    obtain ⟨manifest, u'', -, hreturn⟩ := of_bind_ok h
    cases hreturn
    refine ⟨volume.gid, ?_, Provisioner.group_of_provision hprovision⟩
    change (sendable requestId 201 _).status = 201 at hstatus
    change createdGroup? (sendable requestId 201 _) = _
    unfold sendable at hstatus ⊢
    split
    · rfl
    · rename_i hnot
      rw [if_neg hnot] at hstatus
      cases hstatus

/-- The bounds of a range can be written. -/
def Writable (range : GroupRange) : Prop :=
  Text.Integer.tooLong range.min = false ∧ Text.Integer.tooLong range.max = false

instance (range : GroupRange) : Decidable (Writable range) := inferInstanceAs (Decidable (_ ∧ _))

/-- Ranges that can be written are shown as they are. -/
theorem rangesResponse_ok {ranges : List GroupRange} (h : ∀ range ∈ ranges, Writable range)
    (requestId : Text) : rangesResponse requestId (.ok ranges) =
      success 200 requestId (.object [("items", .array (ranges.map rangeJson))]) := by
  have hhalf : Json.hasHalf (.array (ranges.map rangeJson)) = false := by
    unfold Json.hasHalf Json.holds
    rw [Json.holdsIn_map]
    exact List.any_eq_false.mpr fun _ _ => nofun
  have hlong : Json.hasLongNumber (.array (ranges.map rangeJson)) = false := by
    unfold Json.hasLongNumber Json.holds
    rw [Json.holdsIn_map]
    refine List.any_eq_false.mpr fun range hrange => ?_
    obtain ⟨hmin, hmax⟩ := h range hrange
    simp [rangeJson, Json.holds, Json.holdsAt, hmin, hmax]
  have hdepth : Json.depth (.array (ranges.map rangeJson)) ≤ maxDepth := by
    have hranges : Json.depthIn (ranges.map rangeJson) ≤ 2 :=
      Json.depthIn_map_le _ fun _ => le_refl 2
    unfold Json.depth maxDepth
    omega
  have hfinite : Json.onlyFiniteIn (ranges.map rangeJson) = ranges.map rangeJson :=
    Json.onlyFiniteIn_map _ fun _ => rfl
  have hsendable : isSendable (.array (ranges.map rangeJson)) = true := by
    simp [isSendable, hhalf, hlong, hdepth]
  unfold rangesResponse sendable
  simp [hsendable, Json.onlyFinite, Json.onlyFiniteAt, hfinite]

/-- A provisioner is made from the settings and the cluster of a world. -/
def build : Run Provisioner := do Provisioner.ofSettings (← Settings.load)

theorem build_raises : Raises (fun e => ¬ e.Groupless) build :=
  Settings.load_raises.bind Provisioner.ofSettings_raises

theorem obtain_of_some (h : state.provisioner = some p) (w : World) :
    state.obtain w = (.ok p, w) := by
  unfold State.obtain
  rw [h]
  rfl

theorem obtain_of_none (h : state.provisioner = none) : state.obtain = build := by
  unfold State.obtain
  rw [h]
  rfl

/-- A service without a provisioner is as it was started, and a provisioner has ranges, with ids
in each of them. -/
structure State.Settled (state : State) : Prop where
  start : state.provisioner = none → state = .start
  ranges : ∀ p, state.provisioner = some p → p.ranges ≠ [] ∧ Group.Filled p.ranges

theorem State.settled_start : State.start.Settled := ⟨fun _ => rfl, fun _ h => by cases h⟩

theorem State.settled_some (h : p.ranges ≠ [] ∧ Group.Filled p.ranges) (count : Nat) :
    State.Settled ⟨some p, count⟩ where
  start hnone := by cases hnone
  ranges p' hp' := by
    cases hp'
    exact h

theorem State.Settled.obtained (h : state.Settled) (hmade : state.obtain w = (.ok p, u)) :
    p.ranges ≠ [] ∧ Group.Filled p.ranges := by
  cases hp : state.provisioner with
  | some kept =>
    rw [obtain_of_some hp] at hmade
    cases hmade
    exact h.ranges _ hp
  | none =>
    rw [obtain_of_none hp] at hmade
    obtain ⟨settings, u', -, hmade⟩ := of_bind_ok hmade
    exact Provisioner.ranges_of_ofSettings hmade

theorem obtain_raises (state : State) : Raises (fun e => ¬ e.Groupless) state.obtain := by
  cases hp : state.provisioner with
  | some kept =>
    intro w e v h
    rw [obtain_of_some hp] at h
    cases h
  | none =>
    rw [obtain_of_none hp]
    exact build_raises

theorem provisionWith_raises (hne : p.ranges ≠ [])
    (hranges : ∀ range ∈ p.ranges, range.min ≤ range.max) (request : VolumeRequest) :
    Raises (fun e => ¬ e.Groupless) (provisionWith request p) :=
  (Provisioner.provision_raises hne hranges request).bind fun volume => by
    refine Raises.bind (fun w e v h => ?_) fun _ => pure_raises _
    rw [ofExcept_apply] at h
    obtain ⟨h, -⟩ := Prod.mk.inj h
    rw [ProvisionedVolume.manifest_error h]
    nofun

namespace Site

variable {site : Site} {use : Use}

/-- A request to the service, or a change of anything outside. -/
inductive Turn where
  | request (requestId : Text) (r : Request)
  | edit (change : World → World)

def turn (site : Site) : Turn → Site
  | .request requestId r =>
    let (answered, world) := handle site.service requestId r site.world
    ⟨world, (answered.toOption.map Prod.snd).getD site.service⟩
  | .edit change => { site with world := change site.world }

def session (site : Site) (turns : List Turn) : Site := turns.foldl turn site

/-- The response to a request, if it can be made at all. -/
def answerTo (site : Site) (requestId : Text) (r : Request) : Except Failure Response :=
  (handle site.service requestId r site.world).1.map Prod.fst

/-- The world in which the service gets its provisioner. -/
def obtaining (site : Site) : World := site.world.withCount site.service.lastExportId

theorem turn_request {res : Except Failure (Response × State)}
    (h : handle site.service requestId r site.world = (res, v)) :
    site.turn (.request requestId r) = ⟨v, (res.toOption.map Prod.snd).getD site.service⟩ := by
  rw [turn, h]

/-- A request for which something is done with the provisioner makes the service keep it, if it can
be made, and leaves the service as it is otherwise. -/
theorem turn_served {act : Provisioner → Run α} {respond : Except Failure α → Response}
    (h : ∀ state, handle state requestId r = served state act respond) (site : Site) :
    (∃ e u, site.service.obtain site.obtaining = (.error e, u) ∧
        site.answerTo requestId r = .ok (respond (.error e)) ∧
        (site.turn (.request requestId r)).service = site.service) ∨
      ∃ p u, site.service.obtain site.obtaining = (.ok p, u) ∧
        site.answerTo requestId r = .ok (respond (act p u).1) ∧
        (site.turn (.request requestId r)).service = ⟨some p, (act p u).2.lastExportId⟩ := by
  have hhandle := congrFun (h site.service) site.world
  rw [served_apply] at hhandle
  unfold answerTo
  rcases hmade : site.service.obtain (site.world.withCount site.service.lastExportId) with
    ⟨e | p, u⟩
  · rw [hmade] at hhandle
    exact .inl ⟨e, u, hmade, by rw [hhandle]; rfl, by rw [turn_request hhandle]; rfl⟩
  · rw [hmade] at hhandle
    exact .inr ⟨p, u, hmade, by rw [hhandle]; rfl, by rw [turn_request hhandle]; rfl⟩

theorem turn_uses (h : r.Uses requestId use) (site : Site) :
    (∃ e u, site.service.obtain site.obtaining = (.error e, u) ∧
        (site.turn (.request requestId r)).service = site.service) ∨
      ∃ p u count, site.service.obtain site.obtaining = (.ok p, u) ∧
        (site.turn (.request requestId r)).service = ⟨some p, count⟩ := by
  obtain ⟨α, act, respond, hserved⟩ := use.answer_served requestId
  rcases turn_served (fun state => (h.handle state).trans (hserved state)) site with
    ⟨e, u, hmade, -, hservice⟩ | ⟨p, u, hmade, -, hservice⟩
  · exact .inl ⟨e, u, hmade, hservice⟩
  · exact .inr ⟨p, u, _, hmade, hservice⟩

theorem turn_idle (h : ∀ use, ¬ r.Uses requestId use) (site : Site) :
    (site.turn (.request requestId r)).service = site.service := by
  obtain ⟨res, hhandle, hres⟩ := handle_idle h site.service site.world
  rw [turn_request hhandle]
  cases res with
  | error e => rfl
  | ok answered => exact (hres _ _ rfl).1

theorem turn_settled (h : site.service.Settled) (t : Turn) : (site.turn t).service.Settled := by
  cases t with
  | edit change => exact h
  | request requestId r =>
    by_cases huses : ∃ use, r.Uses requestId use
    · obtain ⟨use, huses⟩ := huses
      rcases turn_uses huses site with ⟨e, u, -, hservice⟩ | ⟨p, u, count, hmade, hservice⟩
      · rwa [hservice]
      · rw [hservice]
        exact State.settled_some (h.obtained hmade) count
    · rwa [turn_idle (not_exists.mp huses)]

/-- A provisioner stays for good. -/
theorem turn_kept (h : site.service.provisioner = some p) (t : Turn) :
    (site.turn t).service.provisioner = some p := by
  cases t with
  | edit change => exact h
  | request requestId r =>
    by_cases huses : ∃ use, r.Uses requestId use
    · obtain ⟨use, huses⟩ := huses
      rcases turn_uses huses site with ⟨e, u, -, hservice⟩ | ⟨p', u, count, hmade, hservice⟩
      · rwa [hservice]
      · rw [obtain_of_some h] at hmade
        cases hmade
        rw [hservice]
    · rwa [turn_idle (not_exists.mp huses)]

theorem session_settled (h : site.service.Settled) (turns : List Turn) :
    (site.session turns).service.Settled := by
  induction turns generalizing site with
  | nil => exact h
  | cons t rest ih => exact ih (turn_settled h t)

theorem session_kept (h : site.service.provisioner = some p) (turns : List Turn) :
    (site.session turns).service.provisioner = some p := by
  induction turns generalizing site with
  | nil => exact h
  | cons t rest ih => exact ih (turn_kept h t)

/-- Without a provisioner, the next request that needs one makes it in the world as it is then. -/
theorem turn_builds (hsettled : site.service.Settled) (hnone : site.service.provisioner = none)
    (h : r.Uses requestId use) :
    (site.turn (.request requestId r)).service.provisioner =
      (build (site.world.withCount 0)).1.toOption := by
  have hcount : site.service.lastExportId = 0 := by
    rw [hsettled.start hnone]
    rfl
  have hworld : site.obtaining = site.world.withCount 0 := by rw [obtaining, hcount]
  rw [← obtain_of_none hnone, ← hworld]
  rcases turn_uses h site with ⟨e, u, hmade, hservice⟩ | ⟨p, u, count, hmade, hservice⟩
  · rw [hservice, hmade, hnone]
    rfl
  · rw [hservice, hmade]
    rfl

/-- Whoever asks for the ranges is shown those of the provisioner. -/
theorem answerTo_ranges (hasks : r.Asks .ranges)
    (hp : (site.turn (.request requestId r)).service.provisioner = some p) :
    site.answerTo requestId r = .ok (rangesResponse requestId (.ok p.ranges)) := by
  have huse : r.Uses requestId .ranges := .ranges hasks
  rcases turn_served huse.handle site with
    ⟨e, u, hmade, -, hservice⟩ | ⟨p', u, hmade, hanswer, hservice⟩
  · rw [hservice] at hp
    rw [obtain_of_some hp] at hmade
    cases hmade
  · rw [hservice] at hp
    cases hp
    exact hanswer

theorem rangesResponse_status (requestId : Text) (done : Except Failure (List GroupRange)) :
    (rangesResponse requestId done).status ≠ 201 := by
  cases done with
  | error e => nofun
  | ok ranges =>
    unfold rangesResponse sendable
    dsimp only
    split <;> nofun

theorem serverResponse_status (requestId : Text) (done : Except Failure Json) :
    (serverResponse requestId done).status ≠ 201 := by
  unfold serverResponse
  split
  · unfold sendable
    split <;> nofun
  · nofun
  · nofun

/-- A volume that is answered has a group of the provisioner that the service keeps. -/
theorem answerTo_created {response : Response} (hanswer : site.answerTo requestId r = .ok response)
    (hcreated : response.status = 201) :
    ∃ p gid, (site.turn (.request requestId r)).service.provisioner = some p ∧
      createdGroup? response = some gid ∧
      ∃ range ∈ p.ranges, range.min ≤ gid ∧ gid ≤ range.max := by
  by_cases huses : ∃ use, r.Uses requestId use
  · obtain ⟨use, huses⟩ := huses
    cases use with
    | volume request =>
      rcases turn_served huses.handle site with
        ⟨e, u, -, hresponse, -⟩ | ⟨p, u, -, hresponse, hservice⟩
      · cases hanswer.symm.trans hresponse
        exact absurd hcreated (responseTo_error requestId e)
      · cases hanswer.symm.trans hresponse
        obtain ⟨gid, hgid, hrange⟩ := group_of_created rfl hcreated
        exact ⟨p, gid, by rw [hservice], hgid, hrange⟩
    | ranges =>
      rcases turn_served huses.handle site with
        ⟨e, u, -, hresponse, -⟩ | ⟨p, u, -, hresponse, -⟩
      all_goals
        cases hanswer.symm.trans hresponse
        exact absurd hcreated (rangesResponse_status requestId _)
    | server =>
      rcases turn_served huses.handle site with
        ⟨e, u, -, hresponse, -⟩ | ⟨p, u, -, hresponse, -⟩
      all_goals
        cases hanswer.symm.trans hresponse
        exact absurd hcreated (serverResponse_status requestId _)
  · obtain ⟨res, hhandle, hres⟩ := handle_idle (not_exists.mp huses) site.service site.world
    unfold answerTo at hanswer
    rw [hhandle] at hanswer
    cases res with
    | error e => cases hanswer
    | ok answered =>
      cases hanswer
      exact absurd hcreated (hres _ _ rfl).2

/-- Whatever becomes of a request for a volume, it does not fail for want of a group. -/
theorem answerTo_volume (hsettled : site.service.Settled) {request : VolumeRequest}
    (h : r.Uses requestId (.volume request)) :
    ∃ done later v, withProvisioner site.service (provisionWith request) site.world =
        (.ok (done, later), v) ∧
      site.answerTo requestId r = .ok (responseTo requestId done) ∧
      ∀ e, done = .error e → ¬ e.Groupless := by
  have hhandle := congrFun (h.handle site.service) site.world
  unfold answerTo
  rcases hmade : site.service.obtain (site.world.withCount site.service.lastExportId) with
    ⟨problem | p, u⟩
  · have hdone : withProvisioner site.service (provisionWith request) site.world = _ :=
      withProvisioner_error hmade
    refine ⟨_, _, _, hdone, ?_, fun e he => ?_⟩
    · rw [hhandle]
      change ((withProvisioner site.service (provisionWith request) >>= _) site.world).1.map _ = _
      rw [bind_ok hdone]
      rfl
    · cases he
      exact obtain_raises _ _ _ _ hmade
  · have hdone : withProvisioner site.service (provisionWith request) site.world = _ :=
      withProvisioner_ok hmade rfl
    obtain ⟨hne, hfilled⟩ := hsettled.obtained hmade
    refine ⟨_, _, _, hdone, ?_, fun e he => ?_⟩
    · rw [hhandle]
      change ((withProvisioner site.service (provisionWith request) >>= _) site.world).1.map _ = _
      rw [bind_ok hdone]
      rfl
    · exact provisionWith_raises hne hfilled request _ _ _ (Prod.ext he rfl)

/-- What the service answers, and what becomes of its provisioner, at any request of a session. -/
theorem session_groups (w : World) (turns : List Turn) (site : Site)
    (hsite : session ⟨w, .start⟩ turns = site) (requestId : Text) (r : Request) :
    ((site.turn (.request requestId r)).service.provisioner = none →
      (site.turn (.request requestId r)).service = .start) ∧
    (∀ use, site.service.provisioner = none → r.Uses requestId use →
      (site.turn (.request requestId r)).service.provisioner =
        (build (site.world.withCount 0)).1.toOption) ∧
    (∀ p, (site.turn (.request requestId r)).service.provisioner = some p →
      (p.ranges ≠ [] ∧ Group.Filled p.ranges) ∧
      (∀ later, ((site.turn (.request requestId r)).session later).service.provisioner = some p) ∧
      (r.Asks .ranges → (∀ range ∈ p.ranges, Writable range) →
        site.answerTo requestId r = .ok (success 200 requestId
          (.object [("items", .array (p.ranges.map rangeJson))]))) ∧
      ∀ u, ∃ gid v, Group.pickGroup p.ranges u = (.ok gid, v)) ∧
    (∀ response, site.answerTo requestId r = .ok response → response.status = 201 →
      ∃ p gid, (site.turn (.request requestId r)).service.provisioner = some p ∧
        createdGroup? response = some gid ∧
        ∃ range ∈ p.ranges, range.min ≤ gid ∧ gid ≤ range.max) ∧
    ∀ request, r.Uses requestId (.volume request) →
      ∃ done later v, withProvisioner site.service (provisionWith request) site.world =
          (.ok (done, later), v) ∧
        site.answerTo requestId r = .ok (responseTo requestId done) ∧
        ∀ e, done = .error e → ¬ e.Groupless := by
  have hsettled : site.service.Settled := hsite ▸ session_settled State.settled_start turns
  have hnext := turn_settled hsettled (.request requestId r)
  refine ⟨hnext.start, fun use hnone huses => ?_, fun p hp => ?_,
    fun response hanswer hcreated => ?_, fun request huses => ?_⟩
  · exact turn_builds hsettled hnone huses
  · have hranges := hnext.ranges p hp
    refine ⟨hranges, fun later => session_kept hp later, fun hasks hwritable => ?_,
      Group.pickGroup_ok hranges.1 hranges.2⟩
    rw [answerTo_ranges hasks hp, rangesResponse_ok hwritable]
  · exact answerTo_created hanswer hcreated
  · exact answerTo_volume hsettled huses

/-- A world in which no provisioner can be made: the file of the settings is no text. -/
def spoilt : World :=
  { empty.world with files := empty.world.files.put [['s']] (.file 0o644 [0xff]) }

def rangesRequest : Request := ⟨"GET", Route.ranges.path, []⟩

/-- A request that fails, and a change that helps. -/
def mended : Site := session ⟨spoilt, .start⟩
  [.request [] rangesRequest, .edit fun _ => empty.world.meeting calm]

theorem rangesRequest_asks : rangesRequest.Asks .ranges := by
  refine ⟨⟨"http", "testserver", none, "/v1/gid-ranges", [], []⟩, ?_, ?_, by decide +kernel⟩
  · exact eq_ok_of_toOption (by decide +kernel)
  · exact eq_ok_of_toOption (by decide +kernel)

/-- The provisioner that could not be made at first is made at the next request, and then its
ranges are shown, or a group of one of them is picked. -/
theorem session_groups_mended :
    (build (spoilt.withCount 0)).1.toOption = none ∧ mended.service = .start ∧
      (∃ p, (mended.turn (.request [] rangesRequest)).service.provisioner = some p ∧
        mended.answerTo [] rangesRequest =
          .ok (success 200 [] (.object [("items", .array [rangeJson ⟨0, 65533⟩])]))) ∧
      ∃ p gid response,
        (mended.turn (.request [] (postRequest (bodyOf ['a'])))).service.provisioner = some p ∧
        mended.answerTo [] (postRequest (bodyOf ['a'])) = .ok response ∧ response.status = 201 ∧
        createdGroup? response = some gid ∧
        ∃ range ∈ p.ranges, range.min ≤ gid ∧ gid ≤ range.max := by
  have hstart : mended.service = .start := by decide +kernel
  have hnone : mended.service.provisioner = none := by rw [hstart]; rfl
  refine ⟨by decide +kernel, hstart, ?_, ?_⟩
  · obtain ⟨-, hbuilds, hkept, -⟩ := session_groups spoilt _ mended rfl [] rangesRequest
    have hmade := hbuilds _ hnone (.ranges rangesRequest_asks)
    have hranges : (build (mended.world.withCount 0)).1.toOption.map (fun p => p.ranges) =
        some [⟨0, 65533⟩] := by decide +kernel
    obtain ⟨p, hbuild, hp⟩ := Option.map_eq_some_iff.mp hranges
    rw [hbuild] at hmade
    obtain ⟨-, -, hshown, -⟩ := hkept p hmade
    have hwritable : ∀ range ∈ p.ranges, Writable range := by
      rw [hp]
      decide +kernel
    have hanswer := hshown rangesRequest_asks hwritable
    rw [hp] at hanswer
    exact ⟨p, hmade, hanswer⟩
  · obtain ⟨-, -, -, hcreated, -⟩ :=
      session_groups spoilt _ mended rfl [] (postRequest (bodyOf ['a']))
    have hstatus : (mended.answerTo [] (postRequest (bodyOf ['a']))).toOption.map
        (fun response => response.status) = some 201 := by decide +kernel
    obtain ⟨response, hanswer, hstatus⟩ := Option.map_eq_some_iff.mp hstatus
    have hanswer := eq_ok_of_toOption hanswer
    obtain ⟨p, gid, hp, hgid, hrange⟩ := hcreated response hanswer hstatus
    exact ⟨p, gid, response, hp, hanswer, hstatus, hgid, hrange⟩

end Site
end NfsVolume.Service
