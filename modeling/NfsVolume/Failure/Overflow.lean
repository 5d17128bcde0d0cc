import NfsVolume.Text.Basic

/-!
Numbers that are too large for what they are used as.
-/
namespace NfsVolume

inductive OverflowProblem where
  | gidTooSmall
  | gidTooLarge
  /-- An infinite number has no whole part. -/
  | infinite
  /-- A whole number is beyond all finite doubles. -/
  | noDouble
  | noCharacter
  /-- A width is beyond the words of the machine, or a precision beyond half of one. -/
  | noWord
  | noHalfWord
  | precision
  deriving DecidableEq, Repr

def OverflowProblem.message : OverflowProblem → Text
  | .gidTooSmall => "gid is less than minimum"
  | .gidTooLarge => "gid is greater than maximum"
  | .infinite => "cannot convert float infinity to integer"
  | .noDouble => "int too large to convert to float"
  | .noCharacter => "%c arg not in range(0x110000)"
  | .noWord => "Python int too large to convert to C ssize_t"
  | .noHalfWord => "Python int too large to convert to C int"
  | .precision => "precision too large"

end NfsVolume
