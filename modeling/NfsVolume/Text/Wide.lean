import NfsVolume.Text.Units
import NfsVolume.Text.Utf8

/-!
Text in units of two or four octets, in either order. JSON begins with two characters of ASCII, so
zeros among its first octets show the size and the order of the units.
-/
namespace NfsVolume.Text

inductive Encoding where
  | utf8
  | utf16 (littleEnd : Bool)
  | utf32 (littleEnd : Bool)
  deriving DecidableEq, Repr

namespace Wide

/-- The number that octets make, the last one first if the little end comes first. -/
def number (littleEnd : Bool) (octets : List UInt8) : Nat :=
  (if littleEnd then octets.reverse else octets).foldl (fun n b => n * 256 + b.toNat) 0

/-- The units of two octets; none if an octet is left. -/
def pairs? (littleEnd : Bool) : List UInt8 → Option (List Nat)
  | [] => some []
  | a :: b :: rest => (pairs? littleEnd rest).map (number littleEnd [a, b] :: ·)
  | _ => none

def quadruples? (littleEnd : Bool) : List UInt8 → Option (List Nat)
  | [] => some []
  | a :: b :: c :: d :: rest => (quadruples? littleEnd rest).map (number littleEnd [a, b, c, d] :: ·)
  | _ => none

end Wide

namespace Encoding

def ofZeros : List UInt8 → Encoding
  | a :: b :: c :: d :: _ =>
    if a = 0 then if b = 0 then .utf32 false else .utf16 false
    else if b = 0 then if c = 0 && d = 0 then .utf32 true else .utf16 true
    else .utf8
  | [a, b] => if a = 0 then .utf16 false else if b = 0 then .utf16 true else .utf8
  | _ => .utf8

/-- The text that octets are; none if they are cut off or go beyond the last character. -/
def decode? (octets : List UInt8) : Encoding → Option RawText
  | .utf8 => (Utf8.decode octets).toOption.map RawText.ofText
  | .utf16 littleEnd => (Wide.pairs? littleEnd octets).map RawText.ofUnits
  | .utf32 littleEnd =>
    match Wide.quadruples? littleEnd octets with
    | some numbers => if numbers.all (· < 0x110000) then some (numbers.map Point.ofNat) else none
    | none => none

end Encoding
end NfsVolume.Text
