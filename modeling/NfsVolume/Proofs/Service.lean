import NfsVolume.Service.Basic
import NfsVolume.Proofs.CommandLine
import NfsVolume.Proofs.World.Circumstances

/-! The service and the program at work on the same file of ganesha's. The service counts on from
what it knows, so its ids are unique as long as nobody else has added later ones. -/
namespace NfsVolume.Service

open Run Provisioner

theorem eq_ok_of_toOption {ε α : Type} {x : Except ε α} {a : α} (h : x.toOption = some a) :
    x = .ok a := by
  cases x with
  | error e => cases h
  | ok b =>
    cases h
    rfl

theorem apply_ok_of_toOption {α : Type} {x : Run α} {w : World} {a : α}
    (h : (x w).1.toOption = some a) : ∃ v, x w = (.ok a, v) :=
  ⟨(x w).2, Prod.ext (eq_ok_of_toOption h) rfl⟩

theorem exists_error_of_toOption {ε α : Type} {x : Except ε α} (h : x.toOption = none) :
    ∃ e, x = .error e := by
  cases x with
  | error e => exact ⟨e, rfl⟩
  | ok a => cases h

/-- The value of a body is known by what is seen in it. -/
theorem read_of_eval {β : Type} {see : Json → Option β} {body : Text} {b : β}
    (h : ((bodyText? (Text.Utf8.encode body)).map Json.read).bind
      (fun found => found.toOption.bind see) = some b) :
    ∃ value, (bodyText? (Text.Utf8.encode body)).map Json.read = some (.ok value) ∧
      see value = some b := by
  obtain ⟨found, hread, h⟩ := Option.bind_eq_some_iff.mp h
  obtain ⟨value, hvalue, h⟩ := Option.bind_eq_some_iff.mp h
  exact ⟨value, by rw [hread, eq_ok_of_toOption hvalue], h⟩

/-- The target of requests for volumes. -/
def volumesTarget : Target := ⟨"http", "testserver", none, "/v1/volumes", [], []⟩

theorem read_volumes : Target.read Route.volumes.path = .ok volumesTarget :=
  eq_ok_of_toOption (by decide +kernel)

theorem findRoute_volumes : findRoute volumesTarget = .ok (some .volumes) :=
  eq_ok_of_toOption (by decide +kernel)

variable {α : Type} {s : Settings} {state : State} {p : Provisioner} {requestId body : Text}
  {w u v : World} {place : Place} {mode : Nat} {text : Text}

def postRequest (body : Text) : Request := ⟨"POST", Route.volumes.path, body⟩

/-- A request leads to a route, with one of its methods. -/
def Request.Asks (r : Request) (route : Route) : Prop :=
  ∃ t, Target.read r.target = .ok t ∧ findRoute t = .ok (some route) ∧
    route.methods.contains r.method.upper = true

theorem handle_asks {r : Request} {route : Route} (h : r.Asks route) (state : State)
    (requestId : Text) : handle state requestId r = answer state requestId r.body route := by
  obtain ⟨t, hread, hroute, hmethod⟩ := h
  have hroute : (findRoute t).mapError Failure.target = .ok (some route) := by
    rw [hroute]
    rfl
  funext w
  unfold handle
  dsimp only
  rw [hread, bind_ok (ofExcept_apply _ w), hroute, bind_ok (ofExcept_apply _ w)]
  dsimp only
  rw [if_pos hmethod]

theorem postRequest_asks (body : Text) : (postRequest body).Asks .volumes := by
  have hmethod : Route.volumes.methods.contains (Text.upper "POST") = true := by decide +kernel
  exact ⟨volumesTarget, read_volumes, findRoute_volumes, hmethod⟩

theorem handle_post (state : State) (requestId body : Text) :
    handle state requestId (postRequest body) = createVolume state requestId body :=
  handle_asks (postRequest_asks body) state requestId

theorem unprocessable_status (requestId : Text) (errors : List BodyError) :
    (unprocessable requestId errors).status ≠ 201 := by
  unfold unprocessable
  split
  · show (500 : Nat) ≠ 201
    decide
  · show (422 : Nat) ≠ 201
    decide

theorem readBody_status {octets : List UInt8} {response : Response}
    (h : readBody requestId octets = .error response) : response.status ≠ 201 := by
  unfold readBody at h
  split at h
  · cases h
    exact unprocessable_status _ _
  · split at h
    · cases h
      show (400 : Nat) ≠ 201
      decide
    · cases h
      show (400 : Nat) ≠ 201
      decide
    · cases h
      show (400 : Nat) ≠ 201
      decide
    · cases h
      exact unprocessable_status _ _
    · rename_i v _
      cases hbody : checkBody v with
      | error errors =>
        rw [hbody] at h
        cases h
        exact unprocessable_status _ _
      | ok r =>
        rw [hbody] at h
        cases h

/-- A body that can be read is refused for what its fields say only. -/
theorem readBody_ok (requestId : Text) {octets : List UInt8} {value : Json}
    (hread : (bodyText? octets).map Json.read = some (.ok value)) :
    readBody requestId octets = (checkBody value).mapError (unprocessable requestId) := by
  have hne : octets.isEmpty = false := by
    cases octets with
    | nil => cases hread
    | cons => rfl
  unfold readBody
  rw [hne, hread]
  rfl

/-- The response to a request whose provisioning has come to something. -/
def responseTo (requestId : Text) : Except Failure (List (RawText × Json)) → Response
  | .ok data => sendable requestId 201 data
  | .error problem =>
    match failureStatus problem with
    | some status => detail status problem.message
    | none => internalError requestId

theorem failureStatus_ge {problem : Failure} {status : Nat}
    (h : failureStatus problem = some status) : 400 ≤ status := by
  unfold failureStatus at h
  split at h
  all_goals cases h
  all_goals omega

/-- A failure is not answered as a success. -/
theorem responseTo_error (requestId : Text) (problem : Failure) :
    (responseTo requestId (.error problem)).status ≠ 201 := by
  unfold responseTo
  dsimp only
  split
  · rename_i status hstatus
    have := failureStatus_ge hstatus
    show status ≠ 201
    omega
  · show (500 : Nat) ≠ 201
    decide

/-- The steps by which the service gets its provisioner. -/
theorem obtain_within {parts : List Part} (hc : Part.count ∈ parts) (state : State) :
    Within parts state.obtain := by
  unfold State.obtain
  split
  · exact pure_within _
  · exact Settings.load_within.bind fun settings => ofSettings_within hc settings

/-- The provisioners that a service with some settings works with. -/
def Serves (s : Settings) (p : Provisioner) : Prop :=
  p.backend = .ofSettings s ∧ p.exportDirectory = s.exportDirectory

/-- A service that has not been given other settings, and only counts with a provisioner. -/
structure State.Set (s : Settings) (state : State) : Prop where
  serves : ∀ p, state.provisioner = some p → Serves s p
  fresh : state.provisioner = none → state.lastExportId = 0

theorem of_obtain (hstate : state.Set s) (hconfigured : Configured s w)
    (hcount : w.lastExportId = state.lastExportId) (h : state.obtain w = (.ok p, u)) :
    Serves s p ∧ u.lastExportId = state.lastExportId := by
  unfold State.obtain at h
  cases hp : state.provisioner with
  | some cached =>
    rw [hp] at h
    cases h
    exact ⟨hstate.serves _ hp, hcount⟩
  | none =>
    rw [hp] at h
    obtain ⟨s', u', hload, h⟩ := of_bind_ok h
    obtain rfl : s' = s := hconfigured s' (by rw [hload])
    obtain ⟨hbackend, hdir, hzero⟩ := of_ofSettings h
    exact ⟨⟨hbackend, hdir⟩, hzero.trans (hstate.fresh hp).symm⟩

theorem createVolume_eq (state : State) (requestId body : Text) :
    createVolume state requestId body = (
      match readBody requestId (Text.Utf8.encode body) with
      | .error response => pure (response, state)
      | .ok r => withProvisioner state (provisionWith r) >>= fun done =>
        pure (responseTo requestId done.1, done.2)) := by
  unfold createVolume
  cases readBody requestId (Text.Utf8.encode body) with
  | error response => rfl
  | ok r =>
    apply bind_congr
    intro done
    obtain ⟨done, state⟩ := done
    cases done with
    | ok data => rfl
    | error problem =>
      dsimp only [responseTo]
      cases failureStatus problem with
      | some status => rfl
      | none => rfl

theorem of_provisionWith {request : VolumeRequest} {done : Except Failure (List (RawText × Json))}
    (h : provisionWith request p u = (done, v)) :
    ∃ res, p.provision request u = (res, v) ∧
      ∀ data, done = .ok data → ∃ volume, res = .ok volume := by
  rcases of_bind h with ⟨volume, u', hprovision, hrest⟩ | ⟨e, hprovision, rfl⟩
  · rcases of_bind hrest with ⟨manifest, u'', hmanifest, hreturn⟩ | ⟨e, hmanifest, rfl⟩
    · rw [ofExcept_apply] at hmanifest
      obtain ⟨-, rfl⟩ := Prod.mk.inj hmanifest
      cases hreturn
      exact ⟨_, hprovision, fun _ _ => ⟨volume, rfl⟩⟩
    · rw [ofExcept_apply] at hmanifest
      obtain ⟨-, rfl⟩ := Prod.mk.inj hmanifest
      exact ⟨_, hprovision, fun _ _ => ⟨volume, rfl⟩⟩
  · exact ⟨_, hprovision, fun data hdata => by cases hdata⟩

theorem withProvisioner_error {act : Provisioner → Run α} {e : Failure}
    (hmade : state.obtain (w.withCount state.lastExportId) = (.error e, u)) :
    withProvisioner state act w = (.ok (.error e, state), u.withCount w.lastExportId) := by
  unfold withProvisioner
  rw [bind_ok (apart_apply hmade)]
  rfl

theorem withProvisioner_ok {act : Provisioner → Run α} {done : Except Failure α}
    (hmade : state.obtain (w.withCount state.lastExportId) = (.ok p, u))
    (hact : act p u = (done, v)) :
    withProvisioner state act w =
      (.ok (done, ⟨some p, v.lastExportId⟩), v.withCount w.lastExportId) := by
  have hback : (u.withCount w.lastExportId).withCount u.lastExportId = u := rfl
  unfold withProvisioner
  rw [bind_ok (apart_apply hmade)]
  dsimp only
  rw [bind_ok (apart_apply (hback ▸ hact))]
  rfl

/-- A request for a volume ends before anything is provisioned, or a volume is provisioned with the
count of the service. -/
theorem of_post {r : Except Failure (Response × State)} (hstate : state.Set s)
    (hconfigured : Configured s w) (h : handle state requestId (postRequest body) w = (r, v)) :
    (∃ response, r = .ok (response, state) ∧ response.status ≠ 201 ∧ v.files = w.files) ∨
      ∃ p u request res v' response, Serves s p ∧ u.files = w.files ∧
        u.lastExportId = state.lastExportId ∧ p.provision request u = (res, v') ∧
        v.files = v'.files ∧ r = .ok (response, ⟨some p, v'.lastExportId⟩) ∧
        (response.status = 201 → ∃ volume, res = .ok volume) := by
  rw [handle_post, createVolume_eq] at h
  cases hbody : readBody requestId (Text.Utf8.encode body) with
  | error response =>
    rw [hbody] at h
    cases h
    exact .inl ⟨response, rfl, readBody_status hbody, rfl⟩
  | ok request =>
    rw [hbody] at h
    dsimp only at h
    have hcounted : World.Frame [.count] w (w.withCount state.lastExportId) :=
      withCount_frame (by simp) w _
    rcases hmade : state.obtain (w.withCount state.lastExportId) with ⟨e | p, u⟩
    · rw [bind_ok (withProvisioner_error hmade)] at h
      cases h
      refine .inl ⟨_, rfl, responseTo_error requestId e, ?_⟩
      have hu : World.Frame [.count] _ u := (obtain_within (by simp) state).frame hmade
      exact hu.files (by simp)
    · obtain ⟨hserves, hcount⟩ :=
        of_obtain hstate (hconfigured.of_frame hcounted (by simp)) rfl hmade
      have hu : World.Frame [.count] _ u := (obtain_within (by simp) state).frame hmade
      rcases hprovision : provisionWith request p u with ⟨done, v'⟩
      rw [bind_ok (withProvisioner_ok hmade hprovision)] at h
      cases h
      obtain ⟨res, hres, hok⟩ := of_provisionWith hprovision
      refine .inr ⟨p, u, request, res, v', _, hserves, hu.files (by simp), hcount, hres, rfl, rfl,
        ?_⟩
      intro hstatus
      cases done with
      | ok data => exact hok data rfl
      | error problem => exact absurd hstatus (responseTo_error requestId problem)

/-- A world, and a service that runs in it. -/
structure Site where
  world : World
  service : State

namespace Site

variable {site : Site} {circumstances : Circumstances}

inductive Step where
  /-- A run of the program. -/
  | command (circumstances : Circumstances) (arguments : List Text)
  /-- A request for a volume. -/
  | post (circumstances : Circumstances) (requestId body : Text)
  /-- The service is started anew. -/
  | restart

def post (site : Site) (circumstances : Circumstances) (requestId body : Text) : Site :=
  let (answered, world) :=
    handle site.service requestId (postRequest body) (site.world.meeting circumstances)
  ⟨world, (answered.toOption.map Prod.snd).getD site.service⟩

def step (site : Site) : Step → Site
  | .command circumstances arguments =>
    { site with world := (CommandLine.run arguments (site.world.meeting circumstances)).2 }
  | .post circumstances requestId body => site.post circumstances requestId body
  | .restart => { site with service := .start }

theorem step_restart_world (site : Site) : (site.step .restart).world = site.world := rfl

def run (site : Site) (steps : List Step) : Site := steps.foldl step site

theorem run_concat (site : Site) (steps : List Step) (step : Step) :
    site.run (steps ++ [step]) = (site.run steps).step step := by
  simp [run]

/-- A request that is answered with a volume is a step. -/
theorem step_post_of_created (site : Site) (circumstances : Circumstances) (requestId body : Text)
    (h : (handle site.service requestId (postRequest body)
      (site.world.meeting circumstances)).1.toOption.map (fun answered => answered.1.status) =
      some 201) :
    ∃ response v service, handle site.service requestId (postRequest body)
        (site.world.meeting circumstances) = (.ok (response, service), v) ∧ response.status = 201 ∧
      site.step (.post circumstances requestId body) = ⟨v, service⟩ := by
  obtain ⟨⟨response, service⟩, hanswer, hstatus⟩ := Option.map_eq_some_iff.mp h
  obtain ⟨v, hrun⟩ := apply_ok_of_toOption hanswer
  refine ⟨response, v, service, hrun, hstatus, ?_⟩
  rw [step, Site.post, hrun]
  rfl

/-- The service has not started to count, or no id of the file is above its count. -/
def UpToDate (s : Settings) (site : Site) : Prop :=
  ∀ place mode text, site.world.files.resolve s.ganeshaFile =
      .ok (place, .file mode (Text.Utf8.encode text)) →
    site.service.lastExportId = 0 ∨ ∀ id ∈ Export.ids text, id ≤ site.service.lastExportId

theorem upToDate_restart (s : Settings) (site : Site) : (site.step .restart).UpToDate s :=
  fun _ _ _ _ => .inl rfl

/-- A step with the given settings, at which the service is up to date if it is asked for a
volume. -/
def Orderly (s : Settings) (site : Site) : Step → Prop
  | .command circumstances _ => Configured s (site.world.meeting circumstances)
  | .post circumstances _ _ =>
    Configured s (site.world.meeting circumstances) ∧ site.UpToDate s
  | .restart => True

def OrderlyRun (s : Settings) : Site → List Step → Prop
  | _, [] => True
  | site, step :: rest => site.Orderly s step ∧ OrderlyRun s (site.step step) rest

theorem OrderlyRun.concat {steps : List Step} {step : Step} (h : OrderlyRun s site steps)
    (hstep : (site.run steps).Orderly s step) : OrderlyRun s site (steps ++ [step]) := by
  induction steps generalizing site with
  | nil => exact ⟨hstep, trivial⟩
  | cons first rest ih => exact ⟨h.1, ih h.2 hstep⟩

/-- The ids in the file differ from each other, and those above the count of the service have no
gaps. -/
structure Sound (s : Settings) (site : Site) : Prop where
  service : site.service.Set s
  file : ∃ place mode text, Holds site.world.files s.ganeshaFile place mode text ∧
    (Export.ids text).Nodup ∧ (site.service.lastExportId = 0 ∨
      ∀ n, site.service.lastExportId < n → (∃ id ∈ Export.ids text, n ≤ id) → n ∈ Export.ids text)

theorem Sound.start (ht : w.files.IsTree)
    (hfile : w.files.resolve s.ganeshaFile = .ok (place, .file mode (Text.Utf8.encode text)))
    (hnodup : (Export.ids text).Nodup) : Sound s ⟨w, .start⟩ where
  service := ⟨fun _ hp => absurd hp (Option.some_ne_none _).symm, fun _ => rfl⟩
  file := ⟨place, mode, text, ⟨ht, hfile⟩, hnodup, .inl rfl⟩

theorem Sound.command (h : site.Sound s) (hs : s.Ganesha) (arguments : List Text)
    (hconfigured : Configured s (site.world.meeting circumstances)) :
    (site.step (.command circumstances arguments)).Sound s := by
  obtain ⟨place, mode, text, hw, hn, hdense⟩ := h.file
  obtain ⟨later, text', count, hv, hcounts⟩ :=
    CommandLine.run_adding hs arguments (site.world.meeting circumstances) hconfigured place mode
      text hw
  exact ⟨h.service, place, later, text', hv, hcounts.nodup (.inl rfl) hn,
    hdense.imp_right hcounts.dense⟩

theorem Sound.restart (h : site.Sound s) : (site.step .restart).Sound s := by
  obtain ⟨place, mode, text, hw, hn, -⟩ := h.file
  refine ⟨⟨fun p hp => ?_, fun _ => rfl⟩, place, mode, text, hw, hn, .inl rfl⟩
  cases hp

theorem upToDate_iff (hw : Holds site.world.files s.ganeshaFile place mode text) :
    site.UpToDate s ↔ site.service.lastExportId = 0 ∨
      ∀ id ∈ Export.ids text, id ≤ site.service.lastExportId := by
  constructor
  · intro h
    exact h place mode text hw.resolve
  · intro h place' mode' text' hl
    obtain rfl := Files.text_unique hw.resolve hl
    exact h

theorem serves_ganesha (hs : s.Ganesha) (hp : Serves s p) :
    p.backend.kind = .ganesha ∧ p.backend.file = s.ganeshaFile ∧
      ¬ Export.idLabel <:+: p.exportDirectory := by
  rw [hp.1, ExportBackend.ofSettings_ganesha hs, hp.2]
  exact ⟨rfl, rfl, hs.exportDirectory⟩

theorem Sound.post (h : site.Sound s) (hs : s.Ganesha) (requestId body : Text)
    (hconfigured : Configured s (site.world.meeting circumstances)) (hcurrent : site.UpToDate s) :
    (site.step (.post circumstances requestId body)).Sound s := by
  obtain ⟨place, mode, text, hw, hn, hdense⟩ := h.file
  rcases hrun : handle site.service requestId (postRequest body) (site.world.meeting circumstances)
    with ⟨r, v⟩
  have hpost : site.step (.post circumstances requestId body) =
      ⟨v, (r.toOption.map Prod.snd).getD site.service⟩ := by
    rw [step, Site.post, hrun]
  rw [hpost]
  rcases of_post h.service hconfigured hrun with
    ⟨response, rfl, -, hv⟩ |
    ⟨p, u, request, res, v', response, hp, hu, hcount, hprovision, hv, rfl, -⟩
  · exact ⟨h.service, place, mode, text, hv ▸ hw, hn, hdense⟩
  · obtain ⟨hkind, hfile, hdir⟩ := serves_ganesha hs hp
    have hle := hcurrent place mode text hw.resolve
    rw [← hcount] at hle
    have hw' : Holds u.files p.backend.file place mode text := by
      rw [hu, hfile]
      exact hw
    obtain ⟨later, text', hv', hcounts⟩ := provision_counts hkind hdir hw' hle hprovision
    rw [hfile, ← hv] at hv'
    refine ⟨⟨?_, ?_⟩, place, later, text', hv', hcounts.nodup hle hn, ?_⟩
    · intro p' hp'
      obtain rfl : p = p' := Option.some.inj hp'
      exact hp
    · intro hnone
      cases hnone
    · refine (hcounts.le hle).imp_right fun hall n hlt hex => ?_
      obtain ⟨id, hid, hn⟩ := hex
      have hbound := hall id hid
      exact absurd (hlt.trans_le hn) (not_lt.mpr hbound)

theorem Sound.step (h : site.Sound s) (hs : s.Ganesha) {step : Step}
    (horderly : site.Orderly s step) : (site.step step).Sound s := by
  cases step with
  | command circumstances arguments => exact h.command hs arguments horderly
  | post circumstances requestId body => exact h.post hs requestId body horderly.1 horderly.2
  | restart => exact h.restart

theorem Sound.run (h : site.Sound s) (hs : s.Ganesha) {steps : List Step}
    (horderly : OrderlyRun s site steps) : (site.run steps).Sound s := by
  induction steps generalizing site with
  | nil => exact h
  | cons step rest ih => exact ih (h.step hs horderly.1) horderly.2

/-- A request that is answered with a volume keeps the ids different from each other exactly if the
service is up to date. -/
theorem Sound.post_iff (h : site.Sound s) (hs : s.Ganesha) {requestId : Text}
    (hconfigured : Configured s (site.world.meeting circumstances)) {response : Response}
    {service : State}
    (hrun : handle site.service requestId (postRequest body) (site.world.meeting circumstances) =
      (.ok (response, service), v)) (hstatus : response.status = 201) :
    ∃ place mode text, Holds v.files s.ganeshaFile place mode text ∧
      ((Export.ids text).Nodup ↔ site.UpToDate s) := by
  obtain ⟨place, mode, text, hw, hn, hdense⟩ := h.file
  rcases of_post h.service hconfigured hrun with
    ⟨response', hr, hnot, -⟩ |
    ⟨p, u, request, res, v', response', hp, hu, hcount, hprovision, hv, hr, hok⟩
  · cases hr
    exact absurd hstatus hnot
  · cases hr
    obtain ⟨volume, rfl⟩ := hok hstatus
    obtain ⟨hkind, hfile, hdir⟩ := serves_ganesha hs hp
    have hw' : Holds u.files p.backend.file place mode text := by
      rw [hu, hfile]
      exact hw
    obtain ⟨later, last, hlast, hv'⟩ := provision_ok_block hkind hw' hprovision
    refine ⟨place, later, _, hfile ▸ hv ▸ hv', ?_⟩
    rw [Export.ids_append_ganeshaBlock (provision_ok_path hdir hprovision), upToDate_iff hw]
    have hlast := Counts.of_follows hlast hw'.resolve
    rw [hcount] at hlast
    constructor
    · intro hnodup
      rcases hlast with ⟨hne, rfl⟩ | ⟨hzero, -⟩
      · -- an id above the count comes with the one right above it, which has been given out again
        refine .inr fun id hid => ?_
        by_contra hgt
        have hmem := hdense.resolve_left hne (site.service.lastExportId + 1) (Nat.lt_succ_self _)
          ⟨id, hid, by omega⟩
        have hdisjoint := (List.nodup_append.mp hnodup).2.2
        exact hdisjoint _ hmem _ (List.mem_singleton.mpr rfl) rfl
      · exact .inl hzero
    · intro hle
      refine Counts.nodup (.inr ⟨last, hlast, rfl, .inr rfl⟩) hle hn

/-- Over any orderly run from a file without duplicate ids, its ids stay different from each other;
and then the next volume of the service keeps them so exactly if the service is up to date. -/
theorem run_ids_nodup (s : Settings) (hs : s.Ganesha) (w : World) (ht : w.files.IsTree)
    (place : Place) (mode : Nat) (text : Text)
    (hfile : w.files.resolve s.ganeshaFile = .ok (place, .file mode (Text.Utf8.encode text)))
    (hnodup : (Export.ids text).Nodup) (steps : List Step)
    (horderly : OrderlyRun s ⟨w, .start⟩ steps) :
    (∃ place mode text, (run ⟨w, .start⟩ steps).world.files.resolve s.ganeshaFile =
        .ok (place, .file mode (Text.Utf8.encode text)) ∧ (Export.ids text).Nodup) ∧
      ∀ circumstances requestId body response service v,
        Configured s ((run ⟨w, .start⟩ steps).world.meeting circumstances) →
        handle (run ⟨w, .start⟩ steps).service requestId (postRequest body)
          ((run ⟨w, .start⟩ steps).world.meeting circumstances) = (.ok (response, service), v) →
        response.status = 201 →
        ∃ place mode text, v.files.resolve s.ganeshaFile =
            .ok (place, .file mode (Text.Utf8.encode text)) ∧
          ((Export.ids text).Nodup ↔ (run ⟨w, .start⟩ steps).UpToDate s) := by
  have hsound : (run ⟨w, .start⟩ steps).Sound s := (Sound.start ht hfile hnodup).run hs horderly
  constructor
  · obtain ⟨place, mode, text, hholds, hn, -⟩ := hsound.file
    exact ⟨place, mode, text, hholds.resolve, hn⟩
  · intro circumstances requestId body response service v hconfigured hrun hstatus
    obtain ⟨place, mode, text, hholds, hiff⟩ := hsound.post_iff hs hconfigured hrun hstatus
    exact ⟨place, mode, text, hholds.resolve, hiff⟩

/-- Circumstances in which volumes can be made, and commands succeed. -/
def calm : Circumstances :=
  { Circumstances.answering (.finished 0 [] []) with
    environment := [(Settings.standard.podIpVariable, ['h'])] }

/-- A site without a settings file, before the first volume. -/
def empty : Site where
  world := World.ofFiles ⟨[([['/'], "export"], .directory 0o755),
    ([['/'], "export", "vfs.conf"], .file 0o644 [])]⟩
  service := .start

/-- A request for a volume of one octet. -/
def bodyOf (name : Text) : Text := "\x7b\"name\": \"" ++ name ++ "\", \"capacity_bytes\": 1\x7d"

def request (name : Text) : Step := .post calm [] (bodyOf name)

/-- The service makes a volume, and after it the program does. -/
def both : List Step := [request ['a'], .command calm ["volume", "create", "b", "--capacity", "1"]]

theorem standard_ganesha : Settings.standard.Ganesha where
  useGanesha := rfl
  exportDirectory := by decide +kernel

theorem configured_both :
    Configured Settings.standard ((run empty both).world.meeting calm) :=
  configured_of_load (by decide +kernel)

theorem configured_take_both (n : Nat) :
    Configured Settings.standard ((run empty (both.take n)).world.meeting calm) := by
  rcases n with - | - | n
  · exact configured_of_load (by decide +kernel)
  · exact configured_of_load (by decide +kernel)
  · have hall : both.take (n + 1 + 1) = both := List.take_of_length_le (by simp [both])
    rw [hall]
    exact configured_both

/-- A service that is started anew counts on from the file. -/
theorem run_ids_nodup_restarted :
    OrderlyRun Settings.standard empty (both ++ [.restart]) ∧
      ∃ place mode text, ((run empty (both ++ [.restart])).step (request ['c'])).world.files.resolve
          Settings.standard.ganeshaFile = .ok (place, .file mode (Text.Utf8.encode text)) ∧
        (Export.ids text).Nodup := by
  have horderly : OrderlyRun Settings.standard empty (both ++ [.restart]) := by
    have hfirst : OrderlyRun Settings.standard empty [request ['a']] := by
      have hnone : OrderlyRun Settings.standard empty [] := trivial
      refine hnone.concat ⟨configured_take_both 0, ?_⟩
      intro place mode text hfile
      exact .inl rfl
    have hboth : OrderlyRun Settings.standard empty both := hfirst.concat (configured_take_both 1)
    exact hboth.concat trivial
  have hcurrent : (run empty (both ++ [.restart])).UpToDate Settings.standard := by
    rw [run_concat]
    exact upToDate_restart _ _
  have hconfigured : Configured Settings.standard
      ((run empty (both ++ [.restart])).world.meeting calm) := by
    rw [run_concat, step_restart_world]
    exact configured_both
  have hfile : empty.world.files.resolve Settings.standard.ganeshaFile =
      .ok ([['/'], "export", "vfs.conf"], .file 0o644 (Text.Utf8.encode [])) :=
    eq_ok_of_toOption (by decide +kernel)
  obtain ⟨response, v, service, hrun, hstatus, hstep⟩ :=
    step_post_of_created (run empty (both ++ [.restart])) calm [] (bodyOf ['c']) (by decide +kernel)
  rw [request, hstep]
  obtain ⟨place, mode, text, hresolve, hiff⟩ := (run_ids_nodup Settings.standard standard_ganesha
    empty.world (FileTree.isTree_of_wellFormed (by decide +kernel)) _ 0o644 [] hfile
    List.nodup_nil _ horderly).2 calm [] _ response service v hconfigured hrun hstatus
  exact ⟨horderly, place, mode, text, hresolve, hiff.mpr hcurrent⟩

/-- A service that goes on counting gives out the id that the program has taken. -/
theorem run_ids_repeated :
    Settings.standard.Ganesha ∧
      (∀ n, Configured Settings.standard ((run empty (both.take n)).world.meeting calm)) ∧
      ∃ place mode text, ((run empty both).step (request ['c'])).world.files.resolve
          Settings.standard.ganeshaFile = .ok (place, .file mode (Text.Utf8.encode text)) ∧
        Export.ids text = [1, 2, 2] := by
  refine ⟨standard_ganesha, configured_take_both, [['/'], "export", "vfs.conf"], 0o644,
    Export.ganeshaBlock 1 "/export/a" ++ Export.ganeshaBlock 2 "/export/b" ++
      Export.ganeshaBlock 2 "/export/c", ?_, by decide +kernel⟩
  exact eq_ok_of_toOption (by decide +kernel)

end Site
end NfsVolume.Service
