import NfsVolume.Text.Integer

/-!
Doubles, as the exact numbers they stand for. A decimal number is read to the nearest double, a
tie to the even one, and a double is written with the fewest digits that read back to it.
-/
namespace NfsVolume

/-- A finite double is `mantissa * 2 ^ exponent`, with its sign apart. -/
inductive Binary64 where
  | nan
  | infinite (negative : Bool)
  | finite (negative : Bool) (mantissa : Nat) (exponent : Int)
  deriving DecidableEq, Repr, Inhabited

namespace Binary64

def twoTo (k : Nat) : Nat := Nat.pow 2 k
def tenTo (k : Nat) : Nat := Nat.pow 10 k

def mantissaBits : Nat := 53
def leastExponent : Int := -1074
def greatestExponent : Int := 971

/-- A quotient rounded to a whole number, a half to the even neighbour. -/
def roundDiv (num den : Nat) : Nat :=
  let q := num / den
  let twice := 2 * (num % den)
  if den < twice || (twice = den && q % 2 = 1) then q + 1 else q

/-- A quotient scaled down by a power of two, as a quotient again. -/
def scaled (num den : Nat) (exponent : Int) : Nat × Nat :=
  if 0 ≤ exponent then (num, den * twoTo exponent.toNat) else (num * twoTo (-exponent).toNat, den)

/-- The double nearest to a positive quotient. -/
def ofRatio (negative : Bool) (num den : Nat) : Binary64 :=
  let guess : Int := (num.log2 : Int) - den.log2 - (mantissaBits - 1)
  let (n, d) := scaled num den guess
  let fitted := if n < d * twoTo (mantissaBits - 1) then guess - 1 else guess
  let exponent := max fitted leastExponent
  let (n, d) := scaled num den exponent
  let m := roundDiv n d
  let (m, exponent) :=
    if m = twoTo mantissaBits then (twoTo (mantissaBits - 1), exponent + 1) else (m, exponent)
  if greatestExponent < exponent then .infinite negative else .finite negative m exponent

/-- The double nearest to `digits * 10 ^ exponent`. -/
def ofDecimal (negative : Bool) (digits : Nat) (exponent : Int) : Binary64 :=
  let magnitude : Int := (Text.decimal digits).length + exponent
  if digits = 0 || magnitude < -330 then .finite negative 0 leastExponent
  else if 310 < magnitude then .infinite negative
  else if 0 ≤ exponent then ofRatio negative (digits * tenTo exponent.toNat) 1
  else ofRatio negative digits (tenTo (-exponent).toNat)

/-- The double nearest to a whole number; one that is too large is infinite. -/
def ofInt (n : Int) : Binary64 :=
  if n = 0 then .finite false 0 leastExponent else ofRatio (n < 0) n.natAbs 1

def isZero : Binary64 → Bool
  | .finite _ m _ => m = 0
  | _ => false

def isFinite : Binary64 → Bool
  | .finite .. => true
  | _ => false

def signed (negative : Bool) (n : Nat) : Int := if negative then -(n : Int) else n

/-- The whole part of a finite double. -/
def truncate? : Binary64 → Option Int
  | .finite negative m e =>
    some (signed negative (if 0 ≤ e then m * twoTo e.toNat else m / twoTo (-e).toNat))
  | _ => none

/-- The number a double stands for, if it is whole. -/
def toInt? : Binary64 → Option Int
  | .finite negative m e =>
    if 0 ≤ e then some (signed negative (m * twoTo e.toNat))
    else if m % twoTo (-e).toNat = 0 then some (signed negative (m / twoTo (-e).toNat))
    else none
  | _ => none

/-- A positive finite double with its neighbourhood: all numbers in it read back to the double. -/
structure Span where
  /-- Numerator and denominator of the double. -/
  num : Nat
  den : Nat
  /-- How far the span reaches, times `den`. -/
  below : Nat
  above : Nat
  closed : Bool

/-- The span of `m * 2 ^ e` in quarters of the last place. -/
def Span.of (m : Nat) (e : Int) : Span :=
  let below := if m = twoTo (mantissaBits - 1) && leastExponent < e then 1 else 2
  let scale := if 0 ≤ e then twoTo e.toNat else 1
  let den := if 0 ≤ e then 4 else 4 * twoTo (-e).toNat
  ⟨4 * m * scale, den, below * scale, 2 * scale, m % 2 = 0⟩

/-- The exponent of the first decimal digit of a positive quotient. -/
def leadExponent (num den : Nat) : Int :=
  if den ≤ num then (Text.decimal (num / den)).length - 1
  else
    match (List.range 400).find? fun k => den ≤ num * tenTo (k + 1) with
    | some k => -(k + 1 : Int)
    | none => 0

/-- The digits of the number with `count` digits that lies in the span and nearest its double. -/
def Span.digits? (s : Span) (count : Nat) : Option (Nat × Int) :=
  let exponent := leadExponent s.num s.den - (count - 1)
  let up := if 0 ≤ exponent then tenTo exponent.toNat else 1
  let down := if 0 ≤ exponent then 1 else tenTo (-exponent).toNat
  let num := s.num * down
  let unit := s.den * up
  let q := num / unit
  let short := num - q * unit
  let excess := (q + 1) * unit - num
  let fits (gap reach : Nat) : Bool := gap < reach * down || (s.closed && gap = reach * down)
  match fits short s.below, fits excess s.above with
  | true, true =>
    some (if short < excess || (short = excess && q % 2 = 0) then q else q + 1, exponent)
  | true, false => some (q, exponent)
  | false, true => some (q + 1, exponent)
  | false, false => none

/-- The fewest digits that read back to a positive double, with the power of ten of the last. -/
def shortest (m : Nat) (e : Int) : Text × Int :=
  match (List.range 17).findSome? fun k => (Span.of m e).digits? (k + 1) with
  | some (n, exponent) =>
    let digits := Text.decimal n
    let kept := Text.dropEndWhile (· = '0') digits
    (kept, exponent + (digits.length - kept.length))
  | none => ("0", 0)

/-- A power of ten behind a mark, with its sign and two digits or more. -/
def powerOfTen (mark : Char) (n : Int) : Text :=
  let digits := Text.decimal n.natAbs
  mark :: (if n < 0 then '-' else '+') :: List.replicate (2 - digits.length) '0' ++ digits

/-- Positional from 10⁻⁴ up to below 10¹⁶, with a digit after the point; else one digit before
the point and an exponent of two digits or more. -/
def layOut (digits : Text) (exponent : Int) : Text :=
  let lead : Int := digits.length + exponent - 1
  if -4 ≤ lead && lead < 16 then
    if lead < 0 then "0." ++ List.replicate (-lead - 1).toNat '0' ++ digits
    else if 0 ≤ exponent then digits ++ List.replicate exponent.toNat '0' ++ ".0"
    else digits.take (lead + 1).toNat ++ "." ++ digits.drop (lead + 1).toNat
  else
    digits.take 1 ++ (if digits.length = 1 then [] else '.' :: digits.drop 1) ++ powerOfTen 'e' lead

def sign (negative : Bool) : Text := if negative then "-" else []

def toText : Binary64 → Text
  | .nan => "nan"
  | .infinite negative => sign negative ++ "inf"
  | .finite negative 0 _ => sign negative ++ "0.0"
  | .finite negative m e =>
    let (digits, exponent) := shortest m e
    sign negative ++ layOut digits exponent

end Binary64
end NfsVolume
