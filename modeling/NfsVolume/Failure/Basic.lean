import NfsVolume.Failure.Overflow
import NfsVolume.Failure.Provisioning
import NfsVolume.Failure.Settings
import NfsVolume.Failure.Shape
import NfsVolume.Failure.Target
import NfsVolume.Text.Utf8

/-!
Everything that can go wrong, by cause, and the one wording of each cause.
-/
namespace NfsVolume

inductive Failure where
  | value (problem : ValueProblem)
  | json (e : Json.ReadError)
  | undecodable (e : Text.Utf8.ReadError)
  | unencodable (e : Text.Utf8.WriteError)
  | shape (problem : ShapeProblem)
  | os (e : OsError)
  | overflow (problem : OverflowProblem)
  | settings (problem : SettingsProblem)
  | target (problem : TargetProblem)
  | provisioning (e : ProvisioningError)
  deriving DecidableEq, Repr

def Failure.message : Failure → Text
  | .value problem => problem.message
  | .json e => e.message
  | .undecodable e => e.message
  | .unencodable e => e.message
  | .shape problem => problem.message
  | .os e => e.message
  | .overflow problem => problem.message
  | .settings problem => problem.message
  | .target problem => problem.message
  | .provisioning e => e.message

/-- The text of a number in a message, which may be refused for its length. -/
def writeInteger (n : Int) : Except Failure Text :=
  if Text.Integer.tooLong n then .error (.value .unwritable) else .ok (Text.integer n)

end NfsVolume
