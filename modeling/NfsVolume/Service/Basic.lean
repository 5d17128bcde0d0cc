import NfsVolume.Json.Content
import NfsVolume.Provisioner
import NfsVolume.Service.Body
import NfsVolume.Service.Target
import NfsVolume.Settings.Load
import NfsVolume.Text.Case
import NfsVolume.Text.Wide

/-!
The service: volumes are provisioned and settings shown over HTTP. Its provisioner is made at the
first request that needs one and kept from then on, with its ledger; while making it fails, every
request tries anew.
-/
namespace NfsVolume.Service

structure Request where
  method : Text
  target : Text
  body : Text
  deriving DecidableEq, Repr

inductive Content where
  | json (v : Json)
  | nothing
  deriving BEq, Repr

structure Response where
  status : Nat
  content : Content
  deriving BEq, Repr

/-- The provisioner with the last export id of its ledger. -/
structure State where
  provisioner : Option Provisioner
  lastExportId : Nat
  deriving DecidableEq, Repr

def State.start : State := ⟨none, 0⟩

def respond (status : Nat) (v : Json) : Response := ⟨status, .json v⟩

def detail (status : Nat) (text : Text) : Response := respond status (.object [("detail", .text text)])

def success (status : Nat) (requestId : Text) (data : Json) : Response :=
  respond status
    (.object [("request_id", .text requestId), ("status", .text "ok"), ("data", data)])

def internalError (requestId : Text) : Response :=
  respond 500 (.object [
    ("request_id", .text requestId), ("status", .text "error"),
    ("error", .object [("code", .text "INTERNAL_ERROR"), ("message", .text "Internal server error"),
      ("details", .object [])])])

/-- The values of an answer can be so many levels deep. -/
def maxDepth : Nat := 255

def isSendable (v : Json) : Bool := !v.hasHalf && !v.hasLongNumber && v.depth ≤ maxDepth

/-- The members of an answer, where null stands for what is no number of JSON. -/
def sendable (requestId : Text) (status : Nat) (data : List (RawText × Json)) : Response :=
  if data.all fun m => isSendable m.2 then success status requestId (Json.onlyFinite (.object data))
  else internalError requestId

def stepJson : Step → Json
  | .name text => .text text
  | .position n => .int n

def errorJson (e : BodyError) : Json :=
  .object [("type", .text e.problem.code), ("loc", .array (e.location.map stepJson)),
    ("msg", .text e.problem.message)]

/-- The report of what is wrong with a body shows the values at fault, so all of these must be
numbers and texts that can be sent. -/
def unprocessable (requestId : Text) (errors : List BodyError) : Response :=
  if errors.any fun e => e.input.hasNonFinite || e.input.hasHalf then internalError requestId
  else respond 422 (.object [("detail", .array (errors.map errorJson))])

def notParsed : Response := detail 400 "There was an error parsing the body"

/-- The text of a body by its octets, without a mark of their order. -/
def bodyText? (octets : List UInt8) : Option RawText :=
  ((Text.Encoding.ofZeros octets).decode? octets).map fun text =>
    if text.head? = some (.char '\ufeff') then text.drop 1 else text

/-- The request that a body makes, or the response that refuses it. -/
def readBody (requestId : Text) (octets : List UInt8) : Except Response VolumeRequest :=
  if octets.isEmpty then .error (unprocessable requestId [⟨[bodyStep], .missing, .null⟩])
  else
    match (bodyText? octets).map Json.read with
    | none | some (.error (.tooManyDigits _)) | some (.error (.tooDeep _)) => .error notParsed
    | some (.error (.malformed _ _ _ position)) =>
      .error (unprocessable requestId
        [⟨[bodyStep, .position position], .unreadable, .object []⟩])
    | some (.ok v) => (checkBody v).mapError (unprocessable requestId)

/-- The provisioner of the service. -/
def State.obtain (s : State) : Run Provisioner :=
  match s.provisioner with
  | some p => return p
  | none => do Provisioner.ofSettings (← Settings.load)

/-- Something is done with the service's provisioner and its ledger. -/
def withProvisioner {α : Type} (s : State) (act : Provisioner → Run α) :
    Run (Except Failure α × State) := do
  let (made, count) ← Run.apart s.lastExportId s.obtain
  match made with
  | .error problem => return (.error problem, s)
  | .ok p =>
    let (done, count) ← Run.apart count (act p)
    return (done, ⟨some p, count⟩)

def provisionWith (r : VolumeRequest) (p : Provisioner) : Run (List (RawText × Json)) := do
  let volume ← p.provision r
  let manifest ← Run.ofExcept (volume.manifest r)
  return [("volume", volume.toJson), ("persistent_volume", manifest)]

/-- The status of a failure to provision, if it is one that is reported as such. -/
def failureStatus : Failure → Option Nat
  | .provisioning (.invalidRequest _) => some 400
  | .provisioning (.insufficientCapacity ..) => some 507
  | .provisioning _ => some 500
  | _ => none

def createVolume (s : State) (requestId body : Text) : Run (Response × State) := do
  match readBody requestId (Text.Utf8.encode body) with
  | .error response => return (response, s)
  | .ok r =>
    let (done, s) ← withProvisioner s (provisionWith r)
    return match done with
      | .ok data => (sendable requestId 201 data, s)
      | .error problem =>
        match failureStatus problem with
        | some status => (detail status problem.message, s)
        | none => (internalError requestId, s)

def rangeJson (r : GroupRange) : Json := .object [("min", .int r.min), ("max", .int r.max)]

def showRanges (s : State) (requestId : Text) : Run (Response × State) := do
  let (done, s) ← withProvisioner s fun p => return p.ranges
  return match done with
    | .ok ranges => (sendable requestId 200 [("items", .array (ranges.map rangeJson))], s)
    | .error _ => (internalError requestId, s)

def showServer (s : State) (requestId : Text) : Run (Response × State) := do
  let (done, s) ← withProvisioner s fun p => p.locator.resolve
  return match done with
    | .ok server => (sendable requestId 200 [("server", server)], s)
    | .error (.provisioning (.server problem)) =>
      (detail 503 (ProvisioningError.server problem).message, s)
    | .error _ => (internalError requestId, s)

inductive Route where
  | health
  | volumes
  | ranges
  | server
  /-- A document about the service itself. -/
  | document (path : Text)
  deriving DecidableEq, Repr

def Route.path : Route → Text
  | .health => "/health"
  | .volumes => "/v1/volumes"
  | .ranges => "/v1/gid-ranges"
  | .server => "/v1/server"
  | .document path => path

def Route.methods : Route → List Text
  | .volumes => ["POST"]
  | .document _ => ["GET", "HEAD"]
  | _ => ["GET"]

def documents : List Text := ["/openapi.json", "/docs", "/docs/oauth2-redirect", "/redoc"]

def routes : List Route := documents.map .document ++ [.health, .volumes, .ranges, .server]

/-- A path without the slashes behind it. -/
def withoutSlashes (path : Text) : Text := Text.dropEndWhile (· = '/') path

/-- The route of a path, which may have slashes behind it, and one line break before them. -/
def routeOf (path : Text) : Option Route :=
  let path := Text.dropFinalBreak (withoutSlashes path)
  routes.find? fun route => route.path = path

/-- A response to a request for the head alone has no content. -/
def withoutContent (method : Text) (r : Response) : Response :=
  if method = ("HEAD" : Text) then { r with content := .nothing } else r

/-- Documents are answered without content. -/
def answer (s : State) (requestId body : Text) : Route → Run (Response × State)
  | .health => return (respond 200 (.object [("status", .text "ok")]), s)
  | .volumes => createVolume s requestId body
  | .ranges => showRanges s requestId
  | .server => showServer s requestId
  | .document _ => return (⟨200, .nothing⟩, s)

/-- The route that a target leads to. With slashes behind its path it is asked for at another one. -/
def findRoute (t : Target) : Except TargetProblem (Option Route) := do
  let some path := t.pathText? | return none
  let some route := routeOf path | return none
  if path.getLast? = some '/' then t.checkMove (withoutSlashes path)
  return some route

/-- A request is answered by its route, with a method in capitals or not. -/
def handle (s : State) (requestId : Text) (r : Request) : Run (Response × State) := do
  let t ← Run.ofExcept (Target.read r.target)
  let route ← Run.ofExcept ((findRoute t).mapError .target)
  let method := r.method.upper
  match route with
  | none => return (withoutContent method (detail 404 "Not Found"), s)
  | some route =>
    if route.methods.contains method then answer s requestId r.body route
    else return (withoutContent method (detail 405 "Method Not Allowed"), s)

end NfsVolume.Service
