import NfsVolume.Server
import NfsVolume.Proofs.Cluster
import NfsVolume.Proofs.Group.Imposed

/-! Looking for the address of a server: what each of its steps comes to in a world, and what they
can fail with. -/
namespace NfsVolume

open Run

/-- The value of an environment variable. -/
def World.valueOf (w : World) (name : Text) : Text := (w.environment.lookup name).getD []

theorem Run.environment_apply (name : Text) (w : World) :
    environment name w = (.ok (w.valueOf name), w) := rfl

namespace Server

def refused {α : Type} (problem : ServerProblem) : Except Failure α :=
  .error (.provisioning (.server problem))

/-- What is made of the answer of the host. -/
def told : Except OsError (Int × Text × Text) → Except Failure Text
  | .error e => refused (.hostnameNotStarted e)
  | .ok (status, output, errors) =>
    if status = 0 then .ok output.strip else refused (.hostnameFailed errors)

/-- The address of the host by its own account. -/
def hostFound (w : World) : Except Failure Text := w.answerOf "hostname" >>= told

/-- A host tells what its command prints, if that is text and the command succeeds. -/
theorem hostFound_cases (w : World) :
    (∃ output errors, w.answerOf "hostname" = .ok (.ok (0, output, errors)) ∧
      hostFound w = .ok output.strip) ∨ (∃ problem, hostFound w = refused problem) ∨
    ∃ problem, w.answerOf "hostname" = .error (.undecodable problem) ∧
      hostFound w = .error (.undecodable problem) := by
  unfold hostFound
  cases hanswer : w.answerOf "hostname" with
  | error e =>
    obtain ⟨⟨problem, rfl⟩, -⟩ := Outside.of_answerOf_error hanswer
    exact .inr (.inr ⟨problem, rfl, rfl⟩)
  | ok answer =>
    rcases answer with e | ⟨status, output, errors⟩
    · exact .inr (.inl ⟨_, rfl⟩)
    · by_cases hstatus : status = 0
      · subst hstatus
        exact .inl ⟨output, errors, rfl, rfl⟩
      · exact .inr (.inl ⟨_, if_neg hstatus⟩)

/-- The world in which the host has been asked. -/
def hostAsked (w : World) : World := Outside.asked "hostname" ["-i"] w

theorem hostAddress_apply (w : World) : hostAddress w = (hostFound w, hostAsked w) := by
  have hrun : Outside.runCommand "hostname" ["-i"] w = (w.answerOf "hostname", hostAsked w) :=
    Outside.runCommand_apply (by decide) w
  unfold hostAddress hostFound
  cases hanswer : w.answerOf "hostname" with
  | error e =>
    rw [hanswer] at hrun
    rw [bind_error hrun]
    rfl
  | ok answer =>
    rw [hanswer] at hrun
    rw [bind_ok hrun]
    rcases answer with e | ⟨status, output, errors⟩
    · rfl
    · change _ = (if status = 0 then _ else _, _)
      by_cases hstatus : status = 0
      · rw [if_pos hstatus]
        exact congrFun (if_neg (not_not_intro hstatus)) _
      · rw [if_neg hstatus]
        exact congrFun (if_pos hstatus) _

/-- What the objects of a service and of its endpoints come to. -/
def judged (space service own : Text) (object endpoints : Json) : Except Failure Json :=
  endpointsMatch endpoints own >>= fun same =>
    if same then
      clusterIp object >>= fun
      | some ip => .ok ip
      | none => refused (.noClusterIp space service)
    else refused (.foreignEndpoints space service own)

theorem judge_yields (space service own : Text) (object endpoints : Json) :
    Yields (do
      if !(← Run.ofExcept (endpointsMatch endpoints own)) then
        refuse (.foreignEndpoints space service own)
      match ← Run.ofExcept (clusterIp object) with
      | none => refuse (.noClusterIp space service)
      | some ip => return ip) (judged space service own object endpoints) := by
  apply (ofExcept_yields _).bind
  intro same
  cases same with
  | false => exact throw_yields _
  | true =>
    refine (ofExcept_yields _).bind fun ip => ?_
    cases ip with
    | none => exact throw_yields _
    | some ip => exact pure_yields _

end Server

namespace ServerLocator

open Server

variable (l : ServerLocator)

/-- The pod's own address in a world. -/
def own (w : World) : Except Failure Text :=
  if w.valueOf l.podIpVariable = [] then hostFound w else .ok (w.valueOf l.podIpVariable)

/-- The world behind the search for the own address, but for the log. -/
def ownAsked (w : World) : World :=
  if w.valueOf l.podIpVariable = [] then hostAsked w else w

theorem ownAddress_apply (w : World) :
    ∃ log, l.ownAddress w = (l.own w, { l.ownAsked w with log := log }) := by
  unfold ownAddress own ownAsked
  rw [bind_ok (environment_apply l.podIpVariable w)]
  cases w.valueOf l.podIpVariable with
  | nil =>
    obtain ⟨log, hlog⟩ := (log_yields .info .server ("Pod IP env " ++ l.podIpVariable ++
      " isn't set or provisioner isn't running as a pod")).apply w
    exact ⟨log, (bind_ok hlog).trans (hostAddress_apply _)⟩
  | cons c rest => exact ⟨w.log, rfl⟩

/-- What the cluster replies for a service. -/
def serviceReply (w : World) (space name : Text) : Reply :=
  w.replyTo (l.cluster.baseUrl ++ Cluster.servicePath space name)

/-- What the cluster then replies for the endpoints of the service. -/
def endpointsReply (w : World) (space name : Text) : Reply :=
  (l.cluster.asked (Cluster.servicePath space name) w).replyTo
    (l.cluster.baseUrl ++ Cluster.endpointsPath space name)

theorem lookup_service (w : World) (space name : Text) :
    ∃ log, l.cluster.lookup (Cluster.servicePath space name) w =
      (Cluster.ofReply l.cluster.timeout (Cluster.servicePath space name)
        (l.serviceReply w space name),
        { l.cluster.asked (Cluster.servicePath space name) w with log := log }) :=
  l.cluster.lookup_apply _ w

theorem lookup_endpoints (w : World) (space name : Text) (log : List LogLine) :
    ∃ v, l.cluster.lookup (Cluster.endpointsPath space name)
        { l.cluster.asked (Cluster.servicePath space name) w with log := log } =
      (Cluster.ofReply l.cluster.timeout (Cluster.endpointsPath space name)
        (l.endpointsReply w space name), v) := by
  obtain ⟨log', h⟩ := l.cluster.lookup_apply (Cluster.endpointsPath space name)
    { l.cluster.asked (Cluster.servicePath space name) w with log := log }
  exact ⟨_, h⟩

/-- The address of a service in a world. -/
def serviceFound (w : World) (space name own : Text) : Except Failure Json :=
  Cluster.ofReply l.cluster.timeout (Cluster.servicePath space name)
      (l.serviceReply w space name) >>= fun
  | .error problem => refused (.lookup space name problem)
  | .ok object =>
    Cluster.ofReply l.cluster.timeout (Cluster.endpointsPath space name)
        (l.endpointsReply w space name) >>= fun
    | .error problem => refused (.lookup space name problem)
    | .ok endpoints => judged space name own object endpoints

theorem serviceAddress_result (space name own : Text) (w : World) :
    (l.serviceAddress space name own w).1 = l.serviceFound w space name own := by
  obtain ⟨log, hservice⟩ := l.lookup_service w space name
  unfold serviceAddress serviceFound
  rw [bind_apply, hservice]
  cases Cluster.ofReply l.cluster.timeout (Cluster.servicePath space name)
      (l.serviceReply w space name) with
  | error e => rfl
  | ok found =>
    cases found with
    | error problem => rfl
    | ok object =>
      obtain ⟨u, hendpoints⟩ := l.lookup_endpoints w space name log
      dsimp only [bind, Except.bind]
      refine (congrArg Prod.fst (bind_apply _ _ _)).trans ?_
      rw [hendpoints]
      cases Cluster.ofReply l.cluster.timeout (Cluster.endpointsPath space name)
          (l.endpointsReply w space name) with
      | error e => rfl
      | ok found =>
        cases found with
        | error problem => rfl
        | ok endpoints =>
          obtain ⟨log', hjudge⟩ := (judge_yields space name own object endpoints).apply u
          exact congrArg Prod.fst hjudge

/-- The address in a world. -/
def found (w : World) : Except Failure Json :=
  l.own w >>= fun own =>
    if w.valueOf l.serviceVariable = [] then .ok (.text own)
    else if w.valueOf l.namespaceVariable = [] then
      refused (.noNamespace l.serviceVariable l.namespaceVariable)
    else l.serviceFound w (w.valueOf l.namespaceVariable) (w.valueOf l.serviceVariable) own

/-- A pod with an address is behind a service in a namespace. -/
structure Behind (w : World) (own space name : Text) : Prop where
  own_eq : l.own w = .ok own
  space_eq : w.valueOf l.namespaceVariable = space
  space_ne : space ≠ []
  name_eq : w.valueOf l.serviceVariable = name
  name_ne : name ≠ []

variable {l} {w : World}

theorem Behind.found {own space name : Text} (h : l.Behind w own space name) :
    l.found w = l.serviceFound w space name own := by
  obtain ⟨hown, rfl, hspace, rfl, hname⟩ := h
  unfold ServerLocator.found
  rw [hown]
  dsimp only [bind, Except.bind]
  rw [if_neg hname, if_neg hspace]

theorem valueOf_ownAsked (name : Text) (log : List LogLine) :
    World.valueOf { l.ownAsked w with log := log } name = w.valueOf name := by
  unfold ownAsked
  split <;> rfl

theorem serviceFound_ownAsked (space name own : Text) (log : List LogLine) :
    l.serviceFound { l.ownAsked w with log := log } space name own =
      l.serviceFound w space name own := by
  unfold ownAsked
  split <;> rfl

/-- Without a service the address is the pod's own, and the cluster is not asked. -/
theorem resolve_apply_own (hservice : w.valueOf l.serviceVariable = []) :
    ∃ log, l.resolve w =
      ((l.own w).map fun own => .text own, { l.ownAsked w with log := log }) := by
  obtain ⟨log, hown⟩ := l.ownAddress_apply w
  unfold resolve
  cases hr : l.own w with
  | error e =>
    rw [hr] at hown
    exact ⟨log, bind_error hown⟩
  | ok own =>
    rw [hr] at hown
    rw [bind_ok hown, bind_ok (environment_apply _ _), valueOf_ownAsked, hservice]
    obtain ⟨log', hlog⟩ := (log_yields .info .server ("Service env " ++ l.serviceVariable ++
      " isn't set, using " ++ own ++ " as server address")).apply
        { l.ownAsked w with log := log }
    exact ⟨log', bind_ok hlog⟩

theorem resolve_result (l : ServerLocator) (w : World) : (l.resolve w).1 = l.found w := by
  by_cases hservice : w.valueOf l.serviceVariable = []
  · obtain ⟨log, hresolve⟩ := resolve_apply_own hservice
    unfold found
    rw [hresolve, hservice]
    cases l.own w <;> rfl
  · obtain ⟨log, hown⟩ := l.ownAddress_apply w
    unfold resolve found
    cases hr : l.own w with
    | error e =>
      rw [hr] at hown
      rw [bind_error hown]
      rfl
    | ok own =>
      rw [hr] at hown
      have hnonempty : (w.valueOf l.serviceVariable).isEmpty = false := by simpa using hservice
      rw [bind_ok hown, bind_ok (environment_apply _ _), valueOf_ownAsked, hnonempty]
      refine (congrArg Prod.fst (bind_ok (environment_apply _ _))).trans ?_
      rw [valueOf_ownAsked]
      dsimp only [bind, Except.bind]
      rw [if_neg hservice]
      cases hspace : w.valueOf l.namespaceVariable with
      | nil => rfl
      | cons c rest =>
        exact (l.serviceAddress_result _ _ _ _).trans (serviceFound_ownAsked _ _ _ _)

/-- A pod that knows its own address and of no service uses that address. -/
theorem resolve_own (hown : w.valueOf l.podIpVariable ≠ [])
    (hservice : w.valueOf l.serviceVariable = []) :
    ∃ u, l.resolve w = (.ok (.text (w.valueOf l.podIpVariable)), u) ∧
      u.freeBlocks = w.freeBlocks ∧ u.blockSize = w.blockSize := by
  obtain ⟨log, hresolve⟩ := resolve_apply_own hservice
  rw [own, if_neg hown, ownAsked, if_neg hown] at hresolve
  exact ⟨_, hresolve, rfl, rfl⟩

end ServerLocator

namespace Server

open NfsVolume.Group Json

theorem only?_meets (v : Json) : Meets (fun _ => True) Misshapen v.only? := by
  unfold only?
  split
  all_goals first
    | exact trivial
    | exact .shape _

theorem hash_meets (v : Json) : Meets (fun _ => True) Misshapen (hash v) := by
  cases v with
  | array elements => exact .shape _
  | object members => exact .shape _
  | _ => exact trivial

theorem portOf_meets (entry : Json) : Meets (fun _ => True) Misshapen (portOf entry) :=
  (member_meets _ _).bind fun _ _ => (member_meets _ _).bind fun _ _ =>
    (hash_meets _).bind fun _ _ => (hash_meets _).bind fun _ _ => trivial

theorem portsOf_meets (entries : List Json) :
    Meets (fun _ => True) Misshapen (portsOf entries) := by
  induction entries with
  | nil => exact trivial
  | cons entry rest ih => exact (portOf_meets entry).bind fun _ _ => ih.bind fun _ _ => trivial

theorem endpointsMatch_meets (endpoints : Json) (address : Text) :
    Meets (fun _ => True) Misshapen (endpointsMatch endpoints address) := by
  refine (member_meets _ _).bind fun _ _ => (only?_meets _).bind fun subset _ => ?_
  cases subset with
  | none => exact trivial
  | some subset =>
    refine (member_meets _ _).bind fun _ _ => (only?_meets _).bind fun entry _ => ?_
    cases entry with
    | none => exact trivial
    | some entry =>
      refine (member_meets _ _).bind fun ip _ => Meets.ite (fun _ => trivial) fun _ => ?_
      refine (member_meets _ _).bind fun ports _ => (elements_meets _).bind fun entries _ => ?_
      exact (portsOf_meets entries).bind fun _ _ => trivial

theorem clusterIp_meets (service : Json) :
    Meets (fun _ => True) Misshapen (clusterIp service) :=
  (inside_meets _ _).bind fun _ _ => (member_meets _ _).bind fun _ _ => trivial

/-- What looking for the address can fail with. -/
inductive Lost : Failure → Prop
  | refused (problem : ServerProblem) : Lost (.provisioning (.server problem))
  | undecodable (problem : Text.Utf8.ReadError) : Lost (.undecodable problem)
  | deep (problem : Json.ReadError) : Lost (.json problem)
  | misshapen (e : Failure) (h : Misshapen e) : Lost e

theorem refused_meets {α : Type} {Q : α → Prop} (problem : ServerProblem) :
    Meets Q Lost (refused problem) := .refused problem

theorem hostFound_meets (w : World) : Meets (fun _ => True) Lost (hostFound w) := by
  rcases hostFound_cases w with
    ⟨output, errors, -, hfound⟩ | ⟨problem, hfound⟩ | ⟨problem, -, hfound⟩
  · rw [hfound]
    trivial
  · rw [hfound]
    exact refused_meets problem
  · rw [hfound]
    exact .undecodable problem

theorem judged_meets (space service own : Text) (object endpoints : Json) :
    Meets (fun _ => True) Lost (judged space service own object endpoints) := by
  apply ((endpointsMatch_meets endpoints own).mono Lost.misshapen).bind
  refine fun same _ => Meets.ite (fun _ => ?_) fun _ => refused_meets _
  apply ((clusterIp_meets object).mono Lost.misshapen).bind
  intro ip _
  cases ip with
  | none => exact refused_meets _
  | some ip => exact trivial

end Server

/-- Only an object that is too deep is not reported as a problem of the lookup. -/
theorem Cluster.ofReply_meets (timeout : Int) (path : Text) (reply : Reply) :
    Group.Meets (fun _ => True) (fun e => ∃ problem, e = .json problem)
      (ofReply timeout path reply) := by
  cases reply with
  | timedOut => exact trivial
  | failed reason => exact trivial
  | response status body =>
    refine Group.Meets.ite (fun _ => trivial) fun _ => ?_
    cases Json.read body with
    | ok object => exact trivial
    | error e =>
      cases e with
      | tooDeep kind => exact ⟨_, rfl⟩
      | _ => exact trivial

namespace ServerLocator

open NfsVolume.Server NfsVolume.Group

variable (l : ServerLocator)

theorem serviceFound_meets (w : World) (space name own : Text) :
    Meets (fun _ => True) Lost (l.serviceFound w space name own) := by
  have hreply (path : Text) (reply : Reply) : Meets (fun _ => True) Lost
      (Cluster.ofReply l.cluster.timeout path reply) :=
    (Cluster.ofReply_meets _ _ _).mono fun e ⟨problem, he⟩ => he ▸ .deep problem
  apply (hreply _ _).bind
  intro found _
  cases found with
  | error problem => exact refused_meets _
  | ok object =>
    apply (hreply _ _).bind
    intro found _
    cases found with
    | error problem => exact refused_meets _
    | ok endpoints => exact judged_meets _ _ _ _ _

theorem found_meets (w : World) : Meets (fun _ => True) Lost (l.found w) := by
  have hown : Meets (fun _ => True) Lost (l.own w) :=
    Meets.ite (fun _ => hostFound_meets w) fun _ => trivial
  refine hown.bind fun own _ => Meets.ite (fun _ => trivial) fun _ => ?_
  exact Meets.ite (fun _ => refused_meets _) fun _ => l.serviceFound_meets _ _ _ _

theorem resolve_raises : Raises Lost l.resolve := by
  intro w e v h
  have hmeets := l.found_meets w
  rwa [← l.resolve_result, h] at hmeets

end ServerLocator
end NfsVolume
