import NfsVolume.Failure.Basic
import NfsVolume.World.FileTree

/-!
The outside world of the provisioner and its own running state: files, environment, the answers
of other programs and of the cluster, the source of random numbers, what has been asked of them
so far, and the log. A computation keeps what it changed when it fails.
-/
namespace NfsVolume

/-- Calls to the operating system that can be made to fail. -/
inductive SystemCall where
  | fsync | replace | chmod | mkstemp | makedirs | rmdir | rmtree | chown | statvfs
  deriving DecidableEq, Repr

/-- The call passes `skip` times, and then fails `times` times. -/
structure Fault where
  call : SystemCall
  errno : Errno
  skip : Nat
  times : Nat
  deriving DecidableEq, Repr

/-- What comes of starting a program, with the octets that it writes, which need not be text. -/
inductive CommandResult where
  | finished (status : Int) (output errors : List UInt8)
  | notStarted (errno : Errno)
  deriving DecidableEq, Repr

inductive Reply where
  | response (status : Int) (body : Text)
  | timedOut
  | failed (reason : Text)
  deriving DecidableEq, Repr

/-- How the certificate of a server is verified. -/
inductive Verification where
  | standard
  | bundle (file : Text)
  deriving DecidableEq, Repr

inductive Event where
  | command (arguments : List Text)
  | fetch (url : Text) (authorization : Option Text) (timeout : Int) (verify : Verification)
  | chown (path : Text) (gid : Int)
  | draw (bound : Int)
  | directoryMade (path : Text)
  | appended (path content : Text)
  deriving BEq, Repr

inductive LogLevel where
  | debug | info | warning | error
  deriving DecidableEq, Repr

def LogLevel.name : LogLevel → Text
  | .debug => "DEBUG"
  | .info => "INFO"
  | .warning => "WARNING"
  | .error => "ERROR"

def LogLevel.number : LogLevel → Nat
  | .debug => 10
  | .info => 20
  | .warning => 30
  | .error => 40

/-- The parts of the provisioner that write to the log. -/
inductive LogSource where
  | groups | server | ledger | exports | directories | provisioning | cluster
  deriving DecidableEq, Repr

structure LogLine where
  level : LogLevel
  source : LogSource
  text : Text
  deriving DecidableEq, Repr

structure World where
  files : FileTree
  environment : List (Text × Text)
  /-- Where settings are read from unless the environment says otherwise. -/
  settingsPath : Text
  faults : List Fault
  /-- Replies of the cluster by path, and results of commands by name, in the order of their use;
  the last one of a list is used again and again. -/
  replies : List (Text × List Reply)
  commands : List (Text × List CommandResult)
  /-- What the cluster replies at any other path, and what comes of any other command. -/
  otherReply : Reply
  otherResult : CommandResult
  freeBlocks : Int
  blockSize : Int
  draws : List Int
  /-- The last export id that the running ledger has given out. -/
  lastExportId : Nat
  events : List Event
  log : List LogLine

abbrev Run := ExceptT Failure (StateM World)

namespace Fault

/-- What one execution of a call does to the faults, and the error it meets. -/
def strike (call : SystemCall) : List Fault → Option Errno × List Fault
  | [] => (none, [])
  | f :: rest =>
    if f.call ≠ call then ((strike call rest).1, f :: (strike call rest).2)
    else if 0 < f.skip then ((strike call rest).1, { f with skip := f.skip - 1 } :: (strike call rest).2)
    else if 0 < f.times then (some f.errno, { f with times := f.times - 1 } :: rest)
    else ((strike call rest).1, f :: (strike call rest).2)

end Fault

namespace Run

/-- The outcome of a computation as a value. -/
def outcome {α : Type} (act : Run α) : Run (Except Failure α) := fun w =>
  let (r, w) := act w
  (.ok r, w)

/-- A computation with a ledger of its own, whose count is given, and is handed back with the
outcome; the count of the running ledger stays as it was. -/
def apart {α : Type} (count : Nat) (act : Run α) : Run (Except Failure α × Nat) := fun w =>
  let (r, v) := act { w with lastExportId := count }
  (.ok (r, v.lastExportId), { v with lastExportId := w.lastExportId })

/-- An error of the operating system is handed to the handler. -/
def onOsError {α : Type} (act : Run α) (handler : OsError → Run α) : Run α :=
  tryCatch act fun
    | .os e => handler e
    | problem => throw problem

def ofExcept {α : Type} : Except Failure α → Run α
  | .ok a => pure a
  | .error problem => throw problem

def record (e : Event) : Run Unit := modify fun w => { w with events := w.events ++ [e] }

def log (level : LogLevel) (source : LogSource) (text : Text) : Run Unit :=
  modify fun w => { w with log := w.log ++ [⟨level, source, text⟩] }

/-- One execution of a call, which fails if a fault is due. -/
def meet (call : SystemCall) : Run Unit := do
  let (errno, faults) := Fault.strike call (← get).faults
  modify fun w => { w with faults := faults }
  match errno with
  | some errno => throw (.os ⟨errno, none⟩)
  | none => pure ()

def environment? (name : Text) : Run (Option Text) := do
  return (← get).environment.lookup name

/-- The value of an environment variable, empty if it is not set. -/
def environment (name : Text) : Run Text := do
  return (← environment? name).getD []

end Run
end NfsVolume
