import NfsVolume.Failure.Basic
import NfsVolume.Json.Content
import NfsVolume.Json.Writer

/-!
Storage quantities: digits, and a letter for a power of 1000, or of 1024 with an `i` behind it.
-/
namespace NfsVolume.Volume

/-- The letters of the powers, from the first on. -/
def powerLetters : List Char := ['K', 'M', 'G', 'T', 'P', 'E']

def power? (letter : Char) : Option Nat := (powerLetters.idxOf? letter).map (· + 1)

/-- What the digits of a quantity are multiplied by. -/
def multiplier? : Text → Option Nat
  | [] => some 1
  | [letter] => (power? letter).map (Nat.pow 1000)
  | [letter, 'i'] => (power? letter).map (Nat.pow 1024)
  | _ => none

/-- The octets of a quantity without blanks around it, or none if it is malformed. -/
def quantity? (s : Text) : Option (Except Text.Integer.ReadError Nat) :=
  let digits := s.takeWhile Char.isDigit
  match digits.isEmpty, multiplier? (s.dropWhile Char.isDigit) with
  | false, some factor =>
    some (if Text.Integer.maxDigits < digits.length then .error (.tooManyDigits digits.length)
      else .ok (Nat.ofDigitChars 10 digits 0 * factor))
  | _, _ => none

/-- The octets of a quantity, which is the text of any value. -/
def parseCapacity (value : Json) : Except Failure Nat :=
  if value.hasLongNumber then .error (.value .unwritable)
  else
    match quantity? value.toText.shown.strip with
    | some (.ok n) => .ok n
    | some (.error e) => .error (.value (.integer e))
    | none => .error (.value (.capacity value.inner))

end NfsVolume.Volume
