import NfsVolume.Domain.Mark
import NfsVolume.Text.Integer
import NfsVolume.Text.Quoted

/-!
The direction in which the characters of a label are written. A label that goes from right to left
must begin and end in that direction, and may not mix in what goes from left to right.
-/
namespace NfsVolume.Domain

inductive Direction where
  | left | right | digit | arabicDigit | mark | neutral
  deriving DecidableEq, Repr

/-- Characters that are written from right to left. -/
def rightRanges : List (Nat × Nat) := [
  (0x5d0, 0x5ea), (0x5ef, 0x5f4), (0x620, 0x63f), (0x641, 0x64a), (0x66e, 0x66f), (0x671, 0x674),
  (0x679, 0x6d3), (0x6d5, 0x6d5), (0x6e5, 0x6e6), (0x6ee, 0x6ef), (0x6fa, 0x6ff), (0x710, 0x710),
  (0x712, 0x72f), (0x74d, 0x7a5), (0x7b1, 0x7b1), (0x7c0, 0x7ea), (0x7f4, 0x7f5), (0x800, 0x815),
  (0x81a, 0x81a), (0x824, 0x824), (0x828, 0x828), (0x840, 0x858), (0x860, 0x86a), (0x870, 0x887),
  (0x889, 0x88e), (0x8a0, 0x8c9), (0xfe73, 0xfe73), (0x10800, 0x10805), (0x10808, 0x10808),
  (0x1080a, 0x10835), (0x10837, 0x10838), (0x1083c, 0x1083c), (0x1083f, 0x10855),
  (0x10860, 0x10876), (0x10880, 0x1089e), (0x108e0, 0x108f2), (0x108f4, 0x108f5),
  (0x10900, 0x10915), (0x10920, 0x10939), (0x10980, 0x109b7), (0x109be, 0x109bf),
  (0x10a00, 0x10a00), (0x10a10, 0x10a13), (0x10a15, 0x10a17), (0x10a19, 0x10a35),
  (0x10a60, 0x10a7c), (0x10a80, 0x10a9c), (0x10ac0, 0x10ac7), (0x10ac9, 0x10ae4),
  (0x10b00, 0x10b35), (0x10b40, 0x10b55), (0x10b60, 0x10b72), (0x10b80, 0x10b91),
  (0x10c00, 0x10c48), (0x10cc0, 0x10cf2), (0x10d00, 0x10d23), (0x10e80, 0x10ea9),
  (0x10eb0, 0x10eb1), (0x10f00, 0x10f1c), (0x10f27, 0x10f27), (0x10f30, 0x10f45),
  (0x10f70, 0x10f81), (0x10fb0, 0x10fc4), (0x10fe0, 0x10ff6), (0x1e800, 0x1e8c4),
  (0x1e922, 0x1e943), (0x1e94b, 0x1e94b), (0x1e950, 0x1e959)]

def arabicDigitRanges : List (Nat × Nat) := [(0x660, 0x669), (0x10d30, 0x10d39)]

def digitRanges : List (Nat × Nat) := [(0x30, 0x39), (0x6f0, 0x6f9)]

/-- Characters without a direction of their own. -/
def neutralRanges : List (Nat × Nat) := [
  (0x2d, 0x2d), (0xb7, 0xb7), (0x2b9, 0x2ba), (0x2c6, 0x2cf), (0x2ec, 0x2ec), (0x375, 0x375),
  (0x200c, 0x200d), (0x2e2f, 0x2e2f), (0x30fb, 0x30fb), (0xa67f, 0xa67f), (0xa717, 0xa71f),
  (0xa788, 0xa788)]

/-- Nonspacing marks that are written from left to right all the same. -/
def leftMarkRanges : List (Nat × Nat) := [
  (0xcbf, 0xcbf), (0xcc6, 0xcc6), (0x11a07, 0x11a08), (0x11c3f, 0x11c3f)]

def direction (c : Char) : Direction :=
  if Text.isWithin rightRanges c then .right
  else if Text.isWithin arabicDigitRanges c then .arabicDigit
  else if Text.isWithin digitRanges c then .digit
  else if Text.isWithin neutralRanges c then .neutral
  else if isNonspacing c && !Text.isWithin leftMarkRanges c then .mark
  else .left

/-- Letters whose direction is not known. -/
def newerRanges : List (Nat × Nat) := [
  (0xcf3, 0xcf3), (0xece, 0xece), (0x10efd, 0x10eff), (0x1123f, 0x11241), (0x11f00, 0x11f10),
  (0x11f12, 0x11f3a), (0x11f3e, 0x11f42), (0x11f50, 0x11f59), (0x1342f, 0x1342f),
  (0x13440, 0x13455), (0x1b132, 0x1b132), (0x1b155, 0x1b155), (0x1df25, 0x1df2a),
  (0x1e08f, 0x1e08f), (0x1e4d0, 0x1e4f9), (0x2b739, 0x2b739), (0x2ebf0, 0x2ee5d),
  (0x31350, 0x323af)]

def isNewer (c : Char) : Bool := Text.isWithin newerRanges c

/-- A direction that makes a label go from right to left. -/
def Direction.isRight : Direction → Bool
  | .right | .arabicDigit => true
  | _ => false

/-- Whether a label can end with a direction, marks behind it apart. -/
def Direction.isEnding : Direction → Bool
  | .right | .digit | .arabicDigit => true
  | _ => false

inductive DirectionProblem where
  | unknown (place : Nat) (label : Text)
  | start (label : Text)
  /-- A direction against that of the label. -/
  | against (place : Nat) (isRight : Bool)
  | mixedDigits
  | ending
  deriving DecidableEq, Repr

def DirectionProblem.message : DirectionProblem → Text
  | .unknown place label =>
    "Unknown directionality in label " ++ Text.quoted label ++ " at position " ++ Text.decimal place
  | .start label =>
    "First codepoint in label " ++ Text.quoted label ++ " must be directionality L, R or AL"
  | .against place isRight =>
    "Invalid direction for codepoint at position " ++ Text.decimal place ++ " in a " ++
      (if isRight then "right-to-left" else "left-to-right" : Text) ++ " label"
  | .mixedDigits => "Can not mix numeral types in a right-to-left label"
  | .ending => "Label ends with illegal codepoint directionality"

/-- The first of two kinds of digits that is found after the other kind. -/
def mixedAt? (found : List Direction) : Option Nat :=
  match found.findIdx? (· = .digit), found.findIdx? (· = .arabicDigit) with
  | some i, some j => some (max i j)
  | _, _ => none

/-- A label that goes from right to left must not hold letters from left to right, nor digits of
both kinds; what comes first is reported. -/
def checkRight (found : List Direction) : Except DirectionProblem Unit :=
  match found.findIdx? (· = .left), mixedAt? found with
  | some i, some j => .error (if i < j then .against (i + 1) true else .mixedDigits)
  | some i, none => .error (.against (i + 1) true)
  | none, some _ => .error .mixedDigits
  | none, none =>
    if (found.reverse.dropWhile (· = .mark)).head?.any Direction.isEnding then .ok ()
    else .error .ending

/-- A label that goes from right to left in one part goes so as a whole. -/
def checkDirections (label : Text) : Except DirectionProblem Unit :=
  match label.findIdx? isNewer with
  | some i => .error (.unknown (i + 1) label)
  | none =>
    let found := label.map direction
    match found.findIdx? Direction.isRight, found.head? with
    | none, _ => .ok ()
    | some _, some .right => checkRight found
    | some i, some .left => .error (.against (i + 1) false)
    | some _, _ => .error (.start label)

end NfsVolume.Domain
