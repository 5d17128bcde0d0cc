import NfsVolume.Proofs.Json
import NfsVolume.Proofs.Server
import NfsVolume.Proofs.World.Circumstances

/-! A pod behind a service returns the address of the service, and only if the endpoints of the
service are this pod alone, with the ports of a file server. -/
namespace NfsVolume

open Run

namespace Server

open Json

/-- A port that endpoints list. -/
structure ListedPort where
  number : Option Int
  protocol : Option RawText
  deriving DecidableEq

/-- A port with its protocol, which is TCP if none is given. -/
def ListedPort.meant (port : ListedPort) : Option Int × RawText :=
  (port.number, match port.protocol with
    | none | some [] => "TCP"
    | some protocol => protocol)

structure EndpointSet where
  addresses : List (Option RawText)
  ports : List ListedPort
  deriving DecidableEq

def ListedPort.read? (v : Json) : Option ListedPort := do
  let number ← v.optional? int? "port"
  let protocol ← v.optional? text? "protocol"
  return ⟨number, protocol⟩

def EndpointSet.read? (v : Json) : Option EndpointSet := do
  let addresses ← v.listAt? (optional? text? "ip") "addresses"
  let ports ← v.listAt? ListedPort.read? "ports"
  return ⟨addresses, ports⟩

/-- The sets of the endpoints of a service. -/
def endpointSets? (v : Json) : Option (List EndpointSet) := v.listAt? EndpointSet.read? "subsets"

/-- The address of a service, as far as one is given. -/
def clusterIp? (v : Json) : Option (Option RawText) :=
  v.inside? (optional? text? "clusterIP") "spec"

/-- The ports of a file server. -/
def servicePorts : List (Option Int × RawText) :=
  [(some 2049, "TCP"), (some 20048, "TCP"), (some 111, "TCP"), (some 111, "UDP")]

/-- The endpoints are the pod at an address alone, with the ports of a file server. -/
def LeadsTo (own : RawText) (sets : List EndpointSet) : Prop :=
  ∃ ports, sets = [⟨[some own], ports⟩] ∧
    ∀ port, port ∈ ports.map ListedPort.meant ↔ port ∈ servicePorts

/-- Endpoints that differ in the order and the repetition of their ports only. -/
def EndpointSet.Alike (set other : EndpointSet) : Prop :=
  set.addresses = other.addresses ∧ ∀ port, port ∈ set.ports ↔ port ∈ other.ports

/-- A service and its endpoints, as far as the cluster has them, vouch for an address. -/
structure Vouches (own : RawText) (service : Option (Option RawText))
    (endpoints : Option (List EndpointSet)) (ip : RawText) : Prop where
  service : service = some (some ip)
  ne_nil : ip ≠ []
  ne_none : ip ≠ ("None" : String)
  endpoints : ∃ sets, endpoints = some sets ∧ LeadsTo own sets

theorem LeadsTo.of_alike {own : RawText} {sets others : List EndpointSet}
    (hsets : List.Forall₂ EndpointSet.Alike sets others) (h : LeadsTo own sets) :
    LeadsTo own others := by
  obtain ⟨ports, rfl, hports⟩ := h
  cases hsets with
  | @cons _ other _ _ halike hrest =>
    cases hrest
    obtain ⟨addresses, ports'⟩ := other
    obtain ⟨haddresses, hsame⟩ := halike
    dsimp only at haddresses hsame
    refine ⟨ports', by rw [haddresses], fun port => ?_⟩
    rw [← hports port, List.mem_map, List.mem_map]
    simp only [hsame]

theorem EndpointSet.Alike.symm {set other : EndpointSet} (h : set.Alike other) :
    other.Alike set := ⟨h.1.symm, fun port => (h.2 port).symm⟩

/-- What the ports are compared by. -/
def portKey (found : Json × Json) : Option Int × Option RawText :=
  (numberOf? found.1, textOf? found.2)

def expectedKey (expected : Nat × Text) : Option Int × Option RawText :=
  (some (expected.1 : Int), some (expected.2 : RawText))

theorem isPort_iff {expected : Nat × Text} {found : Json × Json} :
    isPort expected found = true ↔ portKey found = expectedKey expected := by
  simp [isPort, portKey, expectedKey, Prod.ext_iff]

theorem arePorts_iff {found : List (Json × Json)} :
    arePorts found = true ↔
      ∀ key, key ∈ found.map portKey ↔ key ∈ expectedPorts.map expectedKey := by
  simp only [arePorts, Bool.and_eq_true, List.all_eq_true, List.any_eq_true, isPort_iff]
  constructor
  · rintro ⟨hfound, hexpected⟩ key
    constructor
    · intro hkey
      obtain ⟨f, hf, rfl⟩ := List.mem_map.mp hkey
      obtain ⟨e, he, hsame⟩ := hfound f hf
      exact hsame ▸ List.mem_map_of_mem he
    · intro hkey
      obtain ⟨e, he, rfl⟩ := List.mem_map.mp hkey
      obtain ⟨f, hf, hsame⟩ := hexpected e he
      exact hsame ▸ List.mem_map_of_mem hf
  · intro hkeys
    constructor
    · intro f hf
      obtain ⟨e, he, hsame⟩ := List.mem_map.mp ((hkeys _).mp (List.mem_map_of_mem hf))
      exact ⟨e, he, hsame.symm⟩
    · intro e he
      exact List.mem_map.mp ((hkeys _).mpr (List.mem_map_of_mem he))

theorem textOf?_read {value : Json} {found : Option RawText} (h : Tells text? value found) :
    textOf? value = found := by
  cases h with
  | null => rfl
  | value _ s hs =>
    rw [eq_of_text? hs]
    rfl

theorem numberOf?_read {value : Json} {found : Option Int} (h : Tells int? value found) :
    numberOf? value = found := by
  cases h with
  | null => rfl
  | value _ n hn =>
    rw [eq_of_int? hn]
    rfl

theorem hash_read {value : Json} {found : Option Int} (h : Tells int? value found) :
    hash value = .ok () := by
  cases h with
  | null => rfl
  | value _ n hn =>
    rw [eq_of_int? hn]
    rfl

theorem portOf_read {entry : Json} {port : ListedPort} (h : ListedPort.read? entry = some port) :
    ∃ found, portOf entry = .ok found ∧ portKey found = (port.meant.1, some port.meant.2) := by
  obtain ⟨number, hnumber, h⟩ := Option.bind_eq_some_iff.mp h
  obtain ⟨protocol, hprotocol, h⟩ := Option.bind_eq_some_iff.mp h
  cases h
  obtain ⟨portValue, hport, hnumber⟩ := of_optional? hnumber
  obtain ⟨given, hgiven, hprotocol⟩ := of_optional? hprotocol
  have hmeant : (if given.isEmpty then .text "TCP" else given) =
      Json.text (ListedPort.meant ⟨number, protocol⟩).2 := by
    cases hprotocol with
    | null => rfl
    | value _ s hs =>
      rw [eq_of_text? hs]
      cases s <;> rfl
  refine ⟨(portValue, .text (ListedPort.meant ⟨number, protocol⟩).2), ?_, ?_⟩
  · unfold portOf
    rw [hport, hgiven]
    dsimp only [bind, Except.bind]
    rw [hmeant, hash_read hnumber]
    rfl
  · exact Prod.ext (numberOf?_read hnumber) rfl

theorem portsOf_read {entries : List Json} {ports : List ListedPort}
    (h : List.Forall₂ (fun entry port => ListedPort.read? entry = some port) entries ports) :
    ∃ found, portsOf entries = .ok found ∧
      found.map portKey = (ports.map ListedPort.meant).map fun port => (port.1, some port.2) := by
  induction h with
  | nil => exact ⟨[], rfl, rfl⟩
  | cons hentry _ ih =>
    obtain ⟨found, hfound, hkey⟩ := portOf_read hentry
    obtain ⟨rest, hrest, hkeys⟩ := ih
    refine ⟨found :: rest, ?_, ?_⟩
    · rw [portsOf, hfound, hrest]
      rfl
    · rw [List.map_cons, List.map_cons, List.map_cons, hkey, hkeys]

/-- Ports that are read are the expected ones if they are those of a file server. -/
theorem arePorts_read {found : List (Json × Json)} {ports : List ListedPort}
    (h : found.map portKey = (ports.map ListedPort.meant).map fun port => (port.1, some port.2)) :
    arePorts found = true ↔
      ∀ port, port ∈ ports.map ListedPort.meant ↔ port ∈ servicePorts := by
  have hinjective : Function.Injective
      fun port : Option Int × RawText => (port.1, some port.2) := by
    rintro ⟨n, s⟩ ⟨m, t⟩ hsame
    simpa using hsame
  -- the expected ports stand in the order in which a refusal lists them
  have hexpected : List.Perm (expectedPorts.map expectedKey)
      (servicePorts.map fun port => (port.1, some port.2)) := by decide
  rw [arePorts_iff, h]
  constructor
  · intro hkeys port
    have hport := hkeys (port.1, some port.2)
    rwa [hexpected.mem_iff, List.mem_map_of_injective hinjective,
      List.mem_map_of_injective hinjective] at hport
  · intro hports key
    rw [hexpected.mem_iff, List.mem_map, List.mem_map]
    simp only [hports]

theorem leadsTo_singleton {own : RawText} {set : EndpointSet} :
    LeadsTo own [set] ↔ set.addresses = [some own] ∧
      ∀ port, port ∈ set.ports.map ListedPort.meant ↔ port ∈ servicePorts := by
  obtain ⟨addresses, ports⟩ := set
  constructor
  · rintro ⟨ports', hset, hports⟩
    cases hset
    exact ⟨rfl, hports⟩
  · rintro ⟨rfl, hports⟩
    exact ⟨ports, rfl, hports⟩

/-- The only set decides. -/
theorem endpointsMatch_of_set {v value subset : Json} {set : EndpointSet}
    (hmember : v.member "subsets" = .ok value) (honly : value.orArray.only? = .ok (some subset))
    (hset : EndpointSet.read? subset = some set) (own : Text) :
    ∃ same, endpointsMatch v own = .ok same ∧ (same = true ↔ LeadsTo own [set]) := by
  obtain ⟨addresses, haddresses, hset⟩ := Option.bind_eq_some_iff.mp hset
  obtain ⟨ports, hports, hset⟩ := Option.bind_eq_some_iff.mp hset
  cases hset
  unfold endpointsMatch
  rw [leadsTo_singleton, hmember]
  dsimp only [bind, Except.bind]
  rw [honly]
  obtain ⟨value, hmember, ⟨honly, hnone⟩ | ⟨entry, address, honly, rfl, haddress⟩⟩ :=
    only?_of_listAt? haddresses
  · dsimp only
    rw [hmember]
    dsimp only
    rw [honly]
    exact ⟨false, rfl, nofun, fun h => absurd h.1 (hnone _)⟩
  dsimp only
  rw [hmember]
  dsimp only
  rw [honly]
  obtain ⟨ip, hmember, hip⟩ := of_optional? haddress
  dsimp only
  rw [hmember]
  dsimp only
  rw [textOf?_read hip]
  by_cases hown : address = some (own : RawText)
  · -- the ports are only looked at here
    obtain ⟨value, entries, hmember, harray, hentries⟩ := of_listAt? hports
    obtain ⟨found, hfound, hkeys⟩ := portsOf_read hentries
    rw [if_neg (not_not_intro hown), hmember]
    dsimp only
    rw [harray]
    dsimp only [elements]
    rw [hfound]
    refine ⟨arePorts found, rfl, (arePorts_read hkeys).trans ⟨fun hsame => ?_, And.right⟩⟩
    exact ⟨by rw [hown], hsame⟩
  · rw [if_pos hown]
    exact ⟨false, rfl, nofun, fun h => absurd (List.cons.inj h.1).1 hown⟩

theorem endpointsMatch_read {v : Json} {sets : List EndpointSet} (h : endpointSets? v = some sets)
    (own : Text) : ∃ same, endpointsMatch v own = .ok same ∧ (same = true ↔ LeadsTo own sets) := by
  obtain ⟨value, hmember, ⟨honly, hsets⟩ | ⟨subset, set, honly, rfl, hset⟩⟩ := only?_of_listAt? h
  · unfold endpointsMatch
    rw [hmember]
    dsimp only [bind, Except.bind]
    rw [honly]
    refine ⟨false, rfl, nofun, ?_⟩
    rintro ⟨ports, rfl, -⟩
    exact absurd rfl (hsets _)
  · exact endpointsMatch_of_set hmember honly hset own

theorem clusterIp_read {v : Json} {given : Option RawText} (h : clusterIp? v = some given) :
    ∃ found, clusterIp v = .ok found ∧
      ∀ address, found = some address ↔
        ∃ ip, given = some ip ∧ ip ≠ [] ∧ ip ≠ noAddress ∧ address = .text ip := by
  obtain ⟨inner, hinside, hinner⟩ := of_inside? h
  obtain ⟨value, hmember, hvalue⟩ := of_optional? hinner
  unfold clusterIp
  rw [hinside]
  dsimp only [bind, Except.bind]
  rw [hmember]
  refine ⟨_, rfl, fun address => ?_⟩
  cases hvalue with
  | null => exact ⟨nofun, fun ⟨_, hnone, _⟩ => by cases hnone⟩
  | value _ ip hip =>
    rw [eq_of_text? hip]
    have hrefused : ((Json.text ip).isEmpty || textOf? (.text ip) = some noAddress) = true ↔
        ip = [] ∨ ip = noAddress := by simp [isEmpty, textOf?]
    by_cases hno : ip = [] ∨ ip = noAddress
    · rw [if_pos (hrefused.mpr hno)]
      refine ⟨nofun, ?_⟩
      rintro ⟨_, ⟨rfl⟩, hne, hword, -⟩
      exact absurd hno (not_or_intro hne hword)
    · rw [if_neg (mt hrefused.mp hno)]
      obtain ⟨hne, hword⟩ := not_or.mp hno
      constructor
      · rintro ⟨rfl⟩
        exact ⟨ip, rfl, hne, hword, rfl⟩
      · rintro ⟨_, ⟨rfl⟩, -, -, rfl⟩
        rfl

/-- Endpoints that differ in the order and the repetition of their ports match the same pods. -/
theorem endpointsMatch_of_alike {v v' : Json} {sets sets' : List EndpointSet}
    (h : endpointSets? v = some sets) (h' : endpointSets? v' = some sets')
    (hsets : List.Forall₂ EndpointSet.Alike sets sets') (own : Text) :
    endpointsMatch v own = endpointsMatch v' own := by
  obtain ⟨same, hsame, hleads⟩ := endpointsMatch_read h own
  obtain ⟨same', hsame', hleads'⟩ := endpointsMatch_read h' own
  have hback : List.Forall₂ EndpointSet.Alike sets' sets :=
    List.Forall₂.flip (hsets.imp fun _ _ halike => halike.symm)
  have hiff : same = true ↔ same' = true :=
    hleads.trans (Iff.trans ⟨LeadsTo.of_alike hsets, LeadsTo.of_alike hback⟩ hleads'.symm)
  rw [hsame, hsame', Bool.eq_iff_iff.mpr hiff]

/-- A result is the address that is vouched for, or a refusal if there is none. -/
def Settles (own : RawText) (service : Option (Option RawText))
    (endpoints : Option (List EndpointSet)) (r : Except Failure Json) : Prop :=
  (∃ ip, Vouches own service endpoints ip ∧ r = .ok (.text ip)) ∨
    (∀ ip, ¬ Vouches own service endpoints ip) ∧ ∃ problem, r = refused problem

theorem judged_settles {object endpoints : Json} {given : Option RawText} {sets : List EndpointSet}
    (hobject : clusterIp? object = some given) (hendpoints : endpointSets? endpoints = some sets)
    (space service own : Text) :
    Settles own (some given) (some sets) (judged space service own object endpoints) := by
  obtain ⟨same, hsame, hleads⟩ := endpointsMatch_read hendpoints own
  obtain ⟨found, hfound, hgiven⟩ := clusterIp_read hobject
  unfold judged
  rw [hsame, hfound]
  cases same with
  | false =>
    refine .inr ⟨fun ip h => ?_, _, rfl⟩
    obtain ⟨_, ⟨rfl⟩, hleads'⟩ := h.endpoints
    cases hleads.mpr hleads'
  | true =>
    cases found with
    | none =>
      refine .inr ⟨fun ip h => ?_, _, rfl⟩
      have hservice : given = some ip := Option.some.inj h.service
      cases (hgiven (.text ip)).mpr ⟨ip, hservice, h.ne_nil, h.ne_none, rfl⟩
    | some address =>
      obtain ⟨ip, rfl, hne, hword, rfl⟩ := (hgiven address).mp rfl
      exact .inl ⟨ip, ⟨rfl, hne, hword, sets, rfl, hleads.mp rfl⟩, rfl⟩

end Server

namespace ServerLocator

open Server

/-- A pod that knows its address is behind a service in a namespace. The cluster shows an address
for the service, and sets for its endpoints, as far as it knows of them. -/
structure Fronted (l : ServerLocator) (w : World) (own space name : Text)
    (service : Option (Option RawText)) (endpoints : Option (List EndpointSet)) : Prop where
  own_eq : w.valueOf l.podIpVariable = own
  own_ne : own ≠ []
  space_eq : w.valueOf l.namespaceVariable = space
  space_ne : space ≠ []
  name_eq : w.valueOf l.serviceVariable = name
  name_ne : name ≠ []
  shows_service : Cluster.Shows clusterIp? (l.serviceReply w space name) service
  shows_endpoints : Cluster.Shows endpointSets? (l.endpointsReply w space name) endpoints

variable {l : ServerLocator} {w : World} {own space name : Text}
  {service : Option (Option RawText)} {endpoints : Option (List EndpointSet)}

theorem Fronted.behind (h : l.Fronted w own space name service endpoints) :
    l.Behind w own space name where
  own_eq := by
    have hown := h.own_ne
    rw [← h.own_eq] at hown ⊢
    exact if_neg hown
  space_eq := h.space_eq
  space_ne := h.space_ne
  name_eq := h.name_eq
  name_ne := h.name_ne

/-- With endpoints, all that follows depends on the object of the service. -/
theorem Fronted.serviceFound {sets : List EndpointSet}
    (h : l.Fronted w own space name service (some sets)) :
    ∃ v, endpointSets? v = some sets ∧ l.serviceFound w space name own =
      (Cluster.ofReply l.cluster.timeout (Cluster.servicePath space name)
        (l.serviceReply w space name) >>= fun
      | .error problem => refused (.lookup space name problem)
      | .ok object => judged space name own object v) := by
  obtain ⟨v, hv, hreply⟩ := h.shows_endpoints.ofReply_some l.cluster.timeout
    (Cluster.endpointsPath space name)
  refine ⟨v, hv, ?_⟩
  unfold ServerLocator.serviceFound
  rw [hreply]
  rfl

theorem Fronted.settles (h : l.Fronted w own space name service endpoints) :
    Settles own service endpoints (l.serviceFound w space name own) := by
  have hservice := h.shows_service
  cases service with
  | none =>
    obtain ⟨problem, hproblem⟩ := hservice.ofReply_none l.cluster.timeout
      (Cluster.servicePath space name)
    unfold ServerLocator.serviceFound
    rw [hproblem]
    refine .inr ⟨fun ip hip => ?_, _, rfl⟩
    cases hip.service
  | some given =>
    obtain ⟨object, hobject, hreply⟩ := hservice.ofReply_some l.cluster.timeout
      (Cluster.servicePath space name)
    cases endpoints with
    | none =>
      obtain ⟨problem, hproblem⟩ := h.shows_endpoints.ofReply_none l.cluster.timeout
        (Cluster.endpointsPath space name)
      unfold ServerLocator.serviceFound
      rw [hreply, hproblem]
      refine .inr ⟨fun ip hip => ?_, _, rfl⟩
      obtain ⟨_, hnone, -⟩ := hip.endpoints
      cases hnone
    | some sets =>
      obtain ⟨v, hv, hfound⟩ := h.serviceFound
      rw [hfound, hreply]
      exact judged_settles hobject hv space name own

/-- Behind a service, a pod returns the address of the service if the service and its endpoints
vouch for it, and is refused one otherwise. The order and the repetition of ports do not matter, and
a pod that knows of no service returns its own address without asking the cluster. -/
theorem resolve_vouched (l : ServerLocator) :
    (∀ w own space name service endpoints, l.Fronted w own space name service endpoints →
      (∀ address, (l.resolve w).1 = .ok address ↔
        ∃ ip, Vouches own service endpoints ip ∧ address = .text ip) ∧
      ((¬ ∃ ip, Vouches own service endpoints ip) →
        ∃ problem, (l.resolve w).1 = .error (.provisioning (.server problem)))) ∧
    (∀ w v own space name service service' sets sets',
      l.Fronted w own space name service (some sets) →
      l.Fronted v own space name service' (some sets') →
      l.serviceReply w space name = l.serviceReply v space name →
      List.Forall₂ EndpointSet.Alike sets sets' → (l.resolve w).1 = (l.resolve v).1) ∧
    ∀ w, w.valueOf l.serviceVariable = [] →
      (l.resolve w).1 = (l.own w).map (fun own => .text own) ∧
      (l.resolve w).2.events = w.events ++
        if w.valueOf l.podIpVariable = [] then [.command ["hostname", "-i"]] else [] := by
  refine ⟨fun w own space name service endpoints h => ?_, ?_, fun w hservice => ?_⟩
  · rw [l.resolve_result, h.behind.found]
    rcases h.settles with ⟨ip, hip, hr⟩ | ⟨hno, problem, hr⟩
    · rw [hr]
      refine ⟨fun address => ⟨?_, ?_⟩, fun hno => absurd ⟨ip, hip⟩ hno⟩
      · rintro ⟨rfl⟩
        exact ⟨ip, hip, rfl⟩
      · rintro ⟨other, hother, rfl⟩
        cases hip.service.symm.trans hother.service
        rfl
    · rw [hr]
      refine ⟨fun address => ⟨nofun, ?_⟩, fun _ => ⟨problem, rfl⟩⟩
      rintro ⟨ip, hip, -⟩
      exact absurd hip (hno ip)
  · intro w v own space name service service' sets sets' hw hv hreply hsets
    obtain ⟨endpoints, hendpoints, hfound⟩ := hw.serviceFound
    obtain ⟨endpoints', hendpoints', hfound'⟩ := hv.serviceFound
    rw [l.resolve_result, l.resolve_result, hw.behind.found, hv.behind.found, hfound, hfound',
      hreply]
    unfold judged
    rw [endpointsMatch_of_alike hendpoints hendpoints' hsets]
  · obtain ⟨log, hresolve⟩ := resolve_apply_own hservice
    rw [hresolve]
    refine ⟨rfl, ?_⟩
    unfold ownAsked
    split
    · rfl
    · exact (List.append_nil _).symm

/-- A locator that reads the variables `P`, `S` and `N`. -/
def podLocator : ServerLocator := ⟨.access "https://k" none none 10, ['P'], ['S'], ['N']⟩

/-- Endpoints that are the pod `1`, with some ports. -/
def endpointsText (ports : Text) : Text :=
  "\x7b\"subsets\": [\x7b\"addresses\": [\x7b\"ip\": \"1\"\x7d], \"ports\": [" ++ ports ++
    "]\x7d]\x7d"

/-- A service with the address `2`. -/
def serviceText : Text := "\x7b\"spec\": \x7b\"clusterIP\": \"2\"\x7d\x7d"

/-- A world in which the pod `1` is behind that service. -/
def frontedWorld (ports : Text) : World :=
  { World.ofFiles ⟨[]⟩ with
    environment := [(['P'], ['1']), (['S'], ['s']), (['N'], ['n'])]
    replies := [
      ("/api/v1/namespaces/n/services/s", [.response 200 serviceText]),
      ("/api/v1/namespaces/n/endpoints/s", [.response 200 (endpointsText ports)])] }

/-- The ports of a file server, one of them twice in the second list. -/
def portsText : Text :=
  "\x7b\"port\": 2049\x7d, \x7b\"port\": 20048\x7d, \x7b\"port\": 111\x7d, " ++
    "\x7b\"port\": 111, \"protocol\": \"UDP\"\x7d"

def repeatedPortsText : Text :=
  "\x7b\"port\": 111, \"protocol\": \"UDP\"\x7d, \x7b\"port\": 111\x7d, " ++ portsText

def podPorts : List ListedPort :=
  [⟨some 2049, none⟩, ⟨some 20048, none⟩, ⟨some 111, none⟩, ⟨some 111, some (RawText.ofText "UDP")⟩]

def repeatedPodPorts : List ListedPort :=
  [⟨some 111, some (RawText.ofText "UDP")⟩, ⟨some 111, none⟩] ++ podPorts

theorem frontedWorld_serviceReply (text : Text) :
    podLocator.serviceReply (frontedWorld text) ['n'] ['s'] = .response 200 serviceText := rfl

theorem frontedWorld_fronted (text : Text) (sets : List EndpointSet)
    (h : (Json.read (endpointsText text)).toOption.bind endpointSets? = some sets) :
    podLocator.Fronted (frontedWorld text) ['1'] ['n'] ['s'] (some (some (RawText.ofText ['2'])))
      (some sets) where
  own_eq := rfl
  own_ne := by decide
  space_eq := rfl
  space_ne := by decide
  name_eq := rfl
  name_ne := by decide
  shows_service := .of_eval (frontedWorld_serviceReply text) (by decide) (by decide +kernel)
  shows_endpoints := by
    have hreply : podLocator.endpointsReply (frontedWorld text) ['n'] ['s'] =
      .response 200 (endpointsText text) := rfl
    exact .of_eval hreply (by decide) h

theorem resolve_vouched_small :
    podLocator.Fronted (frontedWorld portsText) ['1'] ['n'] ['s']
      (some (some (RawText.ofText ['2']))) (some [⟨[some (RawText.ofText ['1'])], podPorts⟩]) ∧
    podLocator.Fronted (frontedWorld repeatedPortsText) ['1'] ['n'] ['s']
      (some (some (RawText.ofText ['2'])))
      (some [⟨[some (RawText.ofText ['1'])], repeatedPodPorts⟩]) ∧
    (podLocator.resolve (frontedWorld portsText)).1 = .ok (.text (RawText.ofText ['2'])) ∧
    (podLocator.resolve (frontedWorld portsText)).1 =
      (podLocator.resolve (frontedWorld repeatedPortsText)).1 ∧
    (∃ problem, (podLocator.resolve (frontedWorld [])).1 =
      .error (.provisioning (.server problem))) ∧
    (podLocator.resolve (World.ofFiles ⟨[]⟩)).2.events = [.command ["hostname", "-i"]] := by
  obtain ⟨hreturns, hsame, hplain⟩ := resolve_vouched podLocator
  have hports := frontedWorld_fronted portsText [⟨[some (RawText.ofText ['1'])], podPorts⟩]
    (by decide +kernel)
  have hrepeated := frontedWorld_fronted repeatedPortsText
    [⟨[some (RawText.ofText ['1'])], repeatedPodPorts⟩] (by decide +kernel)
  have hnone := frontedWorld_fronted [] [⟨[some (RawText.ofText ['1'])], []⟩] (by decide +kernel)
  refine ⟨hports, hrepeated, ?_, ?_, ?_, (hplain _ rfl).2⟩
  · refine ((hreturns _ _ _ _ _ _ hports).1 _).mpr ⟨_, ⟨rfl, by decide, by decide, _, rfl, ?_⟩, rfl⟩
    exact ⟨podPorts, rfl, fun port => Iff.rfl⟩
  · have hservice := (frontedWorld_serviceReply portsText).trans
      (frontedWorld_serviceReply repeatedPortsText).symm
    refine hsame _ _ _ _ _ _ _ _ _ hports hrepeated hservice (.cons ⟨rfl, fun port => ?_⟩ .nil)
    have hsubset : ∀ port ∈ repeatedPodPorts, port ∈ podPorts := by decide
    exact ⟨fun hport => List.mem_append_right _ hport, hsubset port⟩
  · refine (hreturns _ _ _ _ _ _ hnone).2 ?_
    rintro ⟨ip, hip⟩
    obtain ⟨_, ⟨rfl⟩, ports, ⟨rfl⟩, hsame⟩ := hip.endpoints
    cases (hsame (some 2049, "TCP")).mpr (by decide)

end ServerLocator
end NfsVolume
