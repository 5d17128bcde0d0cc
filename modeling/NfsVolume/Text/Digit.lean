import NfsVolume.Text.Basic

/-!
Decimal digits of every script: each script has its ten digits in a row, from zero to nine. And
the hexadecimal digits of ASCII.
-/
namespace NfsVolume.Text

/-- The zero of each script that has decimal digits, in Unicode 14. -/
def scriptZeros : List Nat := [
  0x30, 0x660, 0x6f0, 0x7c0, 0x966, 0x9e6, 0xa66, 0xae6, 0xb66, 0xbe6, 0xc66, 0xce6, 0xd66, 0xde6,
  0xe50, 0xed0, 0xf20, 0x1040, 0x1090, 0x17e0, 0x1810, 0x1946, 0x19d0, 0x1a80, 0x1a90, 0x1b50,
  0x1bb0, 0x1c40, 0x1c50, 0xa620, 0xa8d0, 0xa900, 0xa9d0, 0xa9f0, 0xaa50, 0xabf0, 0xff10, 0x104a0,
  0x10d30, 0x11066, 0x110f0, 0x11136, 0x111d0, 0x112f0, 0x11450, 0x114d0, 0x11650, 0x116c0, 0x11730,
  0x118e0, 0x11950, 0x11c50, 0x11d50, 0x11da0, 0x16a60, 0x16ac0, 0x16b50, 0x1d7ce, 0x1d7d8, 0x1d7e2,
  0x1d7ec, 0x1d7f6, 0x1e140, 0x1e2f0, 0x1e950, 0x1fbf0]

/-- The digit that a character stands for, as the ASCII digit of the same value. -/
def asciiDigit? (c : Char) : Option Char :=
  if c.isDigit then some c
  else (scriptZeros.find? fun z => z ≤ c.toNat && c.toNat ≤ z + 9).map fun z =>
    Nat.digitChar (c.toNat - z)

/-- The value of a hexadecimal digit in either case. -/
def hexDigit? (c : Char) : Option Nat :=
  if '0' ≤ c && c ≤ '9' then some (c.toNat - 0x30)
  else if 'a' ≤ c && c ≤ 'f' then some (c.toNat - 0x57)
  else if 'A' ≤ c && c ≤ 'F' then some (c.toNat - 0x37)
  else none

theorem asciiDigit?_of_isDigit {c : Char} (h : c.isDigit = true) : asciiDigit? c = some c := by
  simp [asciiDigit?, h]

theorem isDigit_of_asciiDigit? {c d : Char} (h : asciiDigit? c = some d) : d.isDigit = true := by
  unfold asciiDigit? at h
  split at h
  · obtain rfl : c = d := by simpa using h
    assumption
  · obtain ⟨z, hz, rfl⟩ := Option.map_eq_some_iff.1 h
    have := List.find?_some hz
    simp only [Bool.and_eq_true, decide_eq_true_eq] at this
    have lt : c.toNat - z < 10 := by omega
    generalize c.toNat - z = k at lt
    match k, lt with
    | 0, _ | 1, _ | 2, _ | 3, _ | 4, _ | 5, _ | 6, _ | 7, _ | 8, _ | 9, _ => decide

end NfsVolume.Text
