import NfsVolume.Text.Blank
import NfsVolume.Text.Digit

/-!
Whole numbers in decimal. Reading takes the digits of every script, single underscores between
digits, one sign, and blanks around the number. Neither direction handles more than
`Integer.maxDigits` digits.
-/
namespace NfsVolume.Text

/-- The decimal digits of a number, without leading zeros. -/
def decimal (n : Nat) : Text := Nat.toDigits 10 n

def integer : Int → Text
  | .ofNat n => decimal n
  | .negSucc n => '-' :: decimal (n + 1)

namespace Integer

def maxDigits : Nat := 4300

/-- A number of more digits has no text. -/
def tooLong (n : Int) : Bool := Nat.pow 10 maxDigits ≤ n.natAbs

inductive ReadError where
  | malformed (text : RawText)
  | tooManyDigits (count : Nat)
  deriving DecidableEq, Repr

/-- Blanks that may stand around a number: the separators of information are not among them. -/
def isMargin (c : Char) : Bool :=
  if c.toNat < 0x80 then (0x09 ≤ c.toNat && c.toNat ≤ 0x0d) || c = ' ' else isBlank c

def cutSign : Text → Bool × Text
  | '+' :: rest => (false, rest)
  | '-' :: rest => (true, rest)
  | rest => (false, rest)

def isDigitOrJoint (c : Char) : Bool := (asciiDigit? c).isSome || c = '_'

/-- The digits of a run of digits with single underscores between them. -/
def joinedDigits? (run : Text) : Option Text :=
  let groups := splitOn '_' run
  if groups.any List.isEmpty then none else some (groups.flatten.filterMap asciiDigit?)

/-- A lone half of a pair of surrogates is no digit, and neither is what stands for it. -/
def read (text : RawText) : Except ReadError Int :=
  let (negative, body) := cutSign (text.shown.dropWhile isMargin)
  match joinedDigits? (body.takeWhile isDigitOrJoint) with
  | none => .error (.malformed text)
  | some digits =>
    if maxDigits < digits.length then .error (.tooManyDigits digits.length)
    else if (body.dropWhile isDigitOrJoint).all isMargin then
      .ok (if negative then -(Nat.ofDigitChars 10 digits 0 : Int) else Nat.ofDigitChars 10 digits 0)
    else .error (.malformed text)

end Integer

theorem isDigit_of_mem_decimal {n : Nat} {c : Char} (h : c ∈ decimal n) : c.isDigit = true :=
  Nat.isDigit_of_mem_toDigits (by decide) (by decide) h

theorem ofDigitChars_decimal (n : Nat) : Nat.ofDigitChars 10 (decimal n) 0 = n :=
  Nat.ofDigitChars_ten_toDigits

theorem decimal_ne_nil (n : Nat) : decimal n ≠ [] := Nat.toDigits_ne_nil

theorem decimal_injective {m n : Nat} (h : decimal m = decimal n) : m = n := by
  rw [← ofDigitChars_decimal m, h, ofDigitChars_decimal]

end NfsVolume.Text
