import NfsVolume.Settings.Basic
import NfsVolume.World.Files
import NfsVolume.World.Outside

/-!
Looking up objects of the cluster through its API.
-/
namespace NfsVolume

structure Cluster where
  baseUrl : Text
  authorization : Option Text
  timeout : Int
  verify : Verification
  deriving DecidableEq, Repr

namespace Cluster

/-- Access to the API at a URL; an empty token or bundle counts as none. -/
def access (url : Text) (token bundle : Option Text) (timeout : Int) : Cluster where
  baseUrl := Text.dropEndWhile (· = '/') url
  authorization :=
    match token with
    | none | some [] => none
    | some token => some ("Bearer " ++ token)
  timeout := timeout
  verify :=
    match bundle with
    | none | some [] => .standard
    | some file => .bundle file

def standardTimeout : Int := 10

/-- Access with the token and the bundle of the pod, as far as there are such files. -/
def ofSettings (s : Settings) : Run Cluster := do
  let tokenFile := Path.normal s.tokenFile
  let token ←
    if ← Files.isPresentOrRefused tokenFile then
      pure (some (← Files.readText tokenFile).strip)
    else do
      Run.log .warning .cluster
        ("Service account token " ++ tokenFile ++ " not found, using anonymous access")
      pure none
  let bundle := if ← Files.isPresentOrRefused (Path.normal s.bundleFile) then some s.bundleFile else none
  return access s.clusterUrl token bundle s.clusterTimeout

/-- The object at a path, or why there is none. One that is too deep to be read is no matter of the
path: nothing goes on behind it. -/
def ofReply (timeout : Int) (path : Text) : Reply → Except Failure (Except LookupProblem Json)
  | .timedOut => .ok (.error (.timedOut path timeout))
  | .failed reason => .ok (.error (.failed path reason))
  | .response status body =>
    if 400 ≤ status then .ok (.error (.refused path status body))
    else
      match Json.read body with
      | .ok v => .ok (.ok v)
      | .error (.tooDeep kind) => .error (.json (.tooDeep kind))
      | .error e => .ok (.error (.unreadable path e))

def lookup (c : Cluster) (path : Text) : Run (Except LookupProblem Json) := do
  Run.log .debug .cluster ("GET " ++ path)
  Run.ofExcept (ofReply c.timeout path
    (← Outside.fetch (c.baseUrl ++ path) c.authorization c.timeout c.verify))

def servicePath (space name : Text) : Text :=
  "/api/v1/namespaces/" ++ space ++ "/services/" ++ name

def endpointsPath (space name : Text) : Text :=
  "/api/v1/namespaces/" ++ space ++ "/endpoints/" ++ name

def namespacePath (name : Text) : Text := "/api/v1/namespaces/" ++ name

def policyPath (name : Text) : Text := "/apis/policy/v1beta1/podsecuritypolicies/" ++ name

def constraintPath (name : Text) : Text :=
  "/apis/security.openshift.io/v1/securitycontextconstraints/" ++ name

end Cluster
end NfsVolume
