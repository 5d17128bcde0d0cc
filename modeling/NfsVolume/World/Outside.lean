import NfsVolume.Text.Newline
import NfsVolume.World.Basic

/-!
Asking other programs, the cluster and the source of random numbers. Every question is recorded.
-/
namespace NfsVolume.Outside

/-- The next of a list of answers by name; the last one of a name is kept for good. -/
def take? {α : Type} (name : Text) : List (Text × List α) → Option α × List (Text × List α)
  | [] => (none, [])
  | (key, answers) :: rest =>
    if key ≠ name then ((take? name rest).1, (key, answers) :: (take? name rest).2)
    else
      match answers with
      | [] => (none, (key, []) :: rest)
      | [last] => (some last, (key, [last]) :: rest)
      | next :: more => (some next, (key, more) :: rest)

/-- What a program has written, as text with its line ends unified. -/
def readOutput (octets : List UInt8) : Except Failure Text :=
  match Text.Utf8.decode octets with
  | .ok text => .ok text.unifyNewlines
  | .error e => .error (.undecodable e)

/-- The status, the output and the errors of a program, which are read in this order, or why it was
not started. -/
def answerOf (program : Text) : CommandResult → Except Failure (Except OsError (Int × Text × Text))
  | .finished status output errors => do
    let output ← readOutput output
    let errors ← readOutput errors
    return .ok (status, output, errors)
  | .notStarted errno => return .error ⟨errno, some program⟩

/-- The next result of a program. -/
def takeResult (program : Text) : Run CommandResult := do
  let (result, commands) := take? program (← get).commands
  modify fun w => { w with commands := commands }
  return result.getD (← get).otherResult

/-- No word of a command holds a null character. -/
def checkCommand (words : List Text) : Run Unit :=
  if words.any fun word => '\x00' ∈ word then throw (.value .nullInPath) else pure ()

/-- Runs a program and reads what it has written, whatever its status is. -/
def runCommand (program : Text) (arguments : List Text) :
    Run (Except OsError (Int × Text × Text)) := do
  checkCommand (program :: arguments)
  Run.record (.command (program :: arguments))
  Run.ofExcept (answerOf program (← takeResult program))

/-- What stands behind the host in a URL. -/
def pathOfUrl (url : Text) : Text :=
  let afterScheme :=
    match (Text.splitOn ':' url).drop 1 with
    | [] => url
    | more => (Text.after? "//" (Text.join ":" more)).getD url
  afterScheme.dropWhile (· ≠ '/')

/-- The reply of the cluster, by the path in the URL. -/
def fetch (url : Text) (authorization : Option Text) (timeout : Int) (verify : Verification) :
    Run Reply := do
  Run.record (.fetch url authorization timeout verify)
  let (reply, replies) := take? (pathOfUrl url) (← get).replies
  modify fun w => { w with replies := replies }
  return reply.getD (← get).otherReply

/-- A random number below a bound. -/
def drawBelow (bound : Int) : Run Int := do
  Run.record (.draw bound)
  let draws := (← get).draws
  modify fun w => { w with draws := draws.drop 1 }
  return (draws.headD 0) % bound

end NfsVolume.Outside
