import NfsVolume.Json.Binary64

/-!
Doubles written with a given number of places or digits: positionally, with a power of ten, or as
the size of the number asks. Each text is the exact number rounded once, a half to the even
neighbour; the sign is not part of it.
-/
namespace NfsVolume.Binary64

/-- `m * 2 ^ e` as a quotient. -/
def quotient (m : Nat) (e : Int) : Nat × Nat :=
  if 0 ≤ e then (m * twoTo e.toNat, 1) else (m, twoTo (-e).toNat)

/-- The point and the places behind it; a point on its own is written only if it is asked for. -/
def behindPoint (keepPoint : Bool) (places : Text) : Text :=
  if places.isEmpty && !keepPoint then [] else '.' :: places

def positional (keepPoint : Bool) (places : Nat) (m : Nat) (e : Int) : Text :=
  let (num, den) := quotient m e
  let digits := Text.decimal (roundDiv (num * tenTo places) den)
  let digits := List.replicate (places + 1 - digits.length) '0' ++ digits
  digits.take (digits.length - places) ++ behindPoint keepPoint (digits.drop (digits.length - places))

/-- The first `count` digits, rounded, and the power of ten of the first one. -/
def leadingDigits (count m : Nat) (e : Int) : Text × Int :=
  if m = 0 then (List.replicate count '0', 0)
  else
    let (num, den) := quotient m e
    let lead := leadExponent num den
    let shift : Int := count - 1 - lead
    let n :=
      if 0 ≤ shift then roundDiv (num * tenTo shift.toNat) den
      else roundDiv num (den * tenTo (-shift).toNat)
    let digits := Text.decimal n
    (digits.take count, if count < digits.length then lead + 1 else lead)

def withPower (mark : Char) (keepPoint : Bool) (places m : Nat) (e : Int) : Text :=
  let (digits, lead) := leadingDigits (places + 1) m e
  digits.take 1 ++ behindPoint keepPoint (digits.drop 1) ++ powerOfTen mark lead

/-- At most `count` digits, positionally from 10⁻⁴ up to where all of them stand before the point.
Zeros at the end of the places are kept only with the point. -/
def general (mark : Char) (keepPoint : Bool) (count m : Nat) (e : Int) : Text :=
  let count := max count 1
  let (digits, lead) := leadingDigits count m e
  let kept (places : Text) := if keepPoint then places else Text.dropEndWhile (· = '0') places
  if -4 ≤ lead && lead < count then
    let digits := List.replicate (-lead).toNat '0' ++ digits
    let whole := lead.toNat + 1
    digits.take whole ++ behindPoint keepPoint (kept (digits.drop whole))
  else
    digits.take 1 ++ behindPoint keepPoint (kept (digits.drop 1)) ++ powerOfTen mark lead

end NfsVolume.Binary64
