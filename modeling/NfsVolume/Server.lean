import NfsVolume.Cluster
import NfsVolume.Json.Access

/-!
The address that volumes point at: the pod's own, or the one of the service in front of it. Once a
service is named it must lead to this pod alone, since an error is better than volumes that break
when the pod moves.
-/
namespace NfsVolume

structure ServerLocator where
  cluster : Cluster
  podIpVariable : Text
  serviceVariable : Text
  namespaceVariable : Text
  deriving DecidableEq, Repr

namespace Server

def refuse {α : Type} (problem : ServerProblem) : Run α := throw (.provisioning (.server problem))

def inform (text : Text) : Run Unit := Run.log .info .server text

/-- The address of the host by its own account. -/
def hostAddress : Run Text := do
  match ← Outside.runCommand "hostname" ["-i"] with
  | .error e => refuse (.hostnameNotStarted e)
  | .ok (status, output, errors) =>
    if status ≠ 0 then refuse (.hostnameFailed errors) else return output.strip

def hash (v : Json) : Except Failure Unit :=
  match v with
  | .array _ | .object _ => .error (.shape (.noHash v.kind))
  | _ => .ok ()

/-- The whole number that a value equals. -/
def numberOf? : Json → Option Int
  | .int n => some n
  | .bool b => some (if b then 1 else 0)
  | .double x => x.toInt?
  | _ => none

def textOf? : Json → Option RawText
  | .text s => some s
  | _ => none

/-- The port and the protocol of an entry, where TCP is meant if none is given. -/
def portOf (entry : Json) : Except Failure (Json × Json) := do
  let port ← entry.member "port"
  let given ← entry.member "protocol"
  let protocol := if given.isEmpty then .text "TCP" else given
  hash port
  hash protocol
  return (port, protocol)

def portsOf : List Json → Except Failure (List (Json × Json))
  | [] => .ok []
  | entry :: rest => do
    let port ← portOf entry
    return port :: (← portsOf rest)

def isPort (expected : Nat × Text) (found : Json × Json) : Bool :=
  numberOf? found.1 = some (expected.1 : Int) && textOf? found.2 = some (expected.2 : RawText)

/-- The same ports on both sides, whatever their order and number. -/
def arePorts (found : List (Json × Json)) : Bool :=
  (found.all fun f => expectedPorts.any fun e => isPort e f) &&
    expectedPorts.all fun e => found.any fun f => isPort e f

/-- Whether the endpoints are one set with one address, the given one, and the expected ports. -/
def endpointsMatch (endpoints : Json) (address : Text) : Except Failure Bool := do
  match ← (← endpoints.member "subsets").orArray.only? with
  | none => return false
  | some subset =>
    match ← (← subset.member "addresses").orArray.only? with
    | none => return false
    | some entry =>
      if textOf? (← entry.member "ip") ≠ some (address : RawText) then return false
      return arePorts (← portsOf (← (← subset.member "ports").orArray.elements))

/-- A service without an address of its own has this word for it. -/
def noAddress : RawText := "None"

/-- The address of a service, if it has one. -/
def clusterIp (service : Json) : Except Failure (Option Json) := do
  let address ← (← service.inside "spec").member "clusterIP"
  return if address.isEmpty || textOf? address = some noAddress then none else some address

end Server

namespace ServerLocator

open Server

def standard (cluster : Cluster) : ServerLocator where
  cluster := cluster
  podIpVariable := Settings.standard.podIpVariable
  serviceVariable := Settings.standard.serviceVariable
  namespaceVariable := Settings.standard.namespaceVariable

def ofSettings (cluster : Cluster) (s : Settings) : ServerLocator where
  cluster := cluster
  podIpVariable := s.podIpVariable
  serviceVariable := s.serviceVariable
  namespaceVariable := s.namespaceVariable

/-- The pod's own address. -/
def ownAddress (l : ServerLocator) : Run Text := do
  let address ← Run.environment l.podIpVariable
  if !address.isEmpty then return address
  inform ("Pod IP env " ++ l.podIpVariable ++ " isn't set or provisioner isn't running as a pod")
  hostAddress

/-- The address of a service that leads to this pod alone. -/
def serviceAddress (l : ServerLocator) (space service address : Text) : Run Json := do
  let found ← l.cluster.lookup (Cluster.servicePath space service)
  match found with
  | .error problem => refuse (.lookup space service problem)
  | .ok object =>
    match ← l.cluster.lookup (Cluster.endpointsPath space service) with
    | .error problem => refuse (.lookup space service problem)
    | .ok endpoints =>
      if !(← Run.ofExcept (endpointsMatch endpoints address)) then
        refuse (.foreignEndpoints space service address)
      match ← Run.ofExcept (clusterIp object) with
      | none => refuse (.noClusterIp space service)
      | some ip => return ip

def resolve (l : ServerLocator) : Run Json := do
  let own ← l.ownAddress
  let service ← Run.environment l.serviceVariable
  if service.isEmpty then
    inform ("Service env " ++ l.serviceVariable ++ " isn't set, using " ++ own ++ " as server address")
    return .text own
  let space ← Run.environment l.namespaceVariable
  if space.isEmpty then refuse (.noNamespace l.serviceVariable l.namespaceVariable)
  l.serviceAddress space service own

end ServerLocator
end NfsVolume
