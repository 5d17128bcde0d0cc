import NfsVolume.Text.Raw

/-!
Text as units of sixteen bits: a character above the first plane is a pair of surrogates, and the
two halves of a pair, one after the other, are such a character again.
-/
namespace NfsVolume.RawText

def unitsOf : Point → List Nat
  | .half s => [s.number]
  | .char c =>
    let n := c.toNat
    if n < 0x10000 then [n] else [0xd800 + (n - 0x10000) / 0x400, 0xdc00 + (n - 0x10000) % 0x400]

def units (s : RawText) : List Nat := s.flatMap unitsOf

/-- The character of two points that are a pair. -/
def pair? : Point → Point → Option Char
  | .half high, .half low => if high.isHigh && !low.isHigh then some (high.join low) else none
  | _, _ => none

def joinPairs : RawText → RawText
  | [] => []
  | [p] => [p]
  | p :: q :: rest =>
    match pair? p q with
    | some c => .char c :: joinPairs rest
    | none => p :: joinPairs (q :: rest)

def ofUnits (units : List Nat) : RawText := joinPairs (units.map Point.ofNat)

end NfsVolume.RawText
