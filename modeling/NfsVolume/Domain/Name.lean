import NfsVolume.Domain.Label

/-!
Domain names: labels with full stops between them, each of which can be written in ASCII and is not
too long then.
-/
namespace NfsVolume.Domain

inductive NameProblem where
  | label (problem : LabelProblem)
  | noLabel
  | long
  deriving DecidableEq, Repr

def maxNameLength : Nat := 253

/-- Characters that stand between labels. -/
def isStop (c : Char) : Bool := c = '.' || c = '\u3002' || c = '\uff0e' || c = '\uff61'

/-- The labels of a name, and the stop behind the last one if there is one. -/
def labelsOf (name : Text) : List Text × Text :=
  let labels := Text.splitOn '.' (name.map fun c => if isStop c then '.' else c)
  if labels.getLast? = some [] then (labels.dropLast, ['.']) else (labels, [])

/-- A name in small letters, as it is written in ASCII. The stop behind it is not counted. -/
def nameInAscii (name : Text) : Except NameProblem Text := do
  let (labels, stop) := labelsOf name
  let written := Text.join "." (← (labels.mapM toAscii).mapError .label)
  if labels.isEmpty then throw .noLabel
  if maxNameLength < written.length then throw .long
  return written ++ stop

/-- Whether a name in ASCII that begins with an encoded label stands for one in characters. -/
def checkName (name : Text) : Except LabelProblem Unit :=
  if name.startsWith asciiMark then (labelsOf name).1.forM checkAscii else .ok ()

end NfsVolume.Domain
