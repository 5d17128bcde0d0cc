import NfsVolume.CommandLine.Level
import NfsVolume.Service.Options
import NfsVolume.Settings.Load

/-!
Starting the service: what its options do not say comes from the settings.
-/
namespace NfsVolume.Service

/-- How the service listens, and the name of its log level. -/
structure Listening where
  host : Text
  port : Int
  logLevel : Text
  deriving DecidableEq, Repr

inductive Launch where
  | misused
  | help
  | started (level : Nat) (listening : Listening)
  deriving DecidableEq, Repr

def orGiven (given : Option Text) (standard : Text) : Text :=
  match given with
  | none | some [] => standard
  | some text => text

/-- The port zero counts as none. -/
def orPort (given : Option Int) (standard : Int) : Int :=
  match given with
  | none | some 0 => standard
  | some port => port

def launch (arguments : List Text) : Run Launch := do
  let settings ← Settings.load
  match Options.read arguments with
  | .misused => return .misused
  | .help => return .help
  | .options o =>
    let name := (orGiven o.logLevel settings.logLevel).upper
    let level ← Run.ofExcept (LogThreshold.ofName name)
    return .started level
      ⟨orGiven o.host settings.host, orPort o.port settings.port, name.lower⟩

end NfsVolume.Service
