import NfsVolume.Text.Integer
import NfsVolume.Proofs.Text.Split
import Mathlib.Data.List.Basic
import Mathlib.Data.List.TakeWhile
import Mathlib.Data.Nat.Digits.Defs

/-! Whole numbers in decimal: a number that can be written is read back from its text. -/
namespace NfsVolume.Text.Integer

theorem tooLong_iff (n : Int) : tooLong n = false ↔ n.natAbs < 10 ^ maxDigits := by
  unfold tooLong
  generalize maxDigits = d
  rw [decide_eq_false_iff_not, Nat.not_le]
  exact Iff.rfl

/-- A number of a few digits is not too long. -/
theorem tooLong_of_lt {n : Int} (h : n.natAbs < 10 ^ 10) : tooLong n = false := by
  have hfew : 10 ≤ maxDigits := by decide
  rw [tooLong_iff]
  -- with the limit itself in the goal, the power of ten would be computed
  generalize maxDigits = d at hfew
  exact h.trans_le (Nat.pow_le_pow_right (by decide) hfew)

theorem tooLong_of_le {m n : Nat} (h : m ≤ n) (hn : tooLong n = false) : tooLong m = false := by
  rw [tooLong_iff] at hn ⊢
  exact lt_of_le_of_lt h hn

theorem length_decimal_le {n : Nat} (h : tooLong n = false) : (decimal n).length ≤ maxDigits := by
  have hsome : 0 < maxDigits := by decide
  rw [tooLong_iff] at h
  generalize maxDigits = d at h hsome
  exact Nat.toDigits_length 10 n d hsome h

theorem joinedDigits?_decimal (n : Nat) : joinedDigits? (decimal n) = some (decimal n) := by
  have hjoint : '_' ∉ decimal n := fun h => absurd (isDigit_of_mem_decimal h) (by decide)
  have hdigits : (decimal n).filterMap asciiDigit? = decimal n := by
    have hsome : ∀ c ∈ decimal n, asciiDigit? c = some (id c) := fun c hc =>
      asciiDigit?_of_isDigit (isDigit_of_mem_decimal hc)
    rw [List.filterMap_eq_map_iff_forall_eq_some.mpr hsome, List.map_id]
  simp [joinedDigits?, splitOn_of_notMem hjoint, decimal_ne_nil, hdigits]

theorem isDigitOrJoint_of_isDigit {c : Char} (h : c.isDigit = true) : isDigitOrJoint c = true := by
  simp [isDigitOrJoint, asciiDigit?_of_isDigit h]

theorem not_isMargin_of_isDigit {c : Char} (h : c.isDigit = true) : isMargin c = false := by
  have hrange : 0x30 ≤ c.toNat ∧ c.toNat ≤ 0x39 := by
    simpa [Char.isDigit, UInt32.le_iff_toNat_le] using h
  have hascii : c.toNat < 0x80 := by omega
  have hblank : c ≠ ' ' := fun hc => absurd (hc ▸ h) (by decide)
  simp only [isMargin, hascii, if_true, hblank, decide_false, Bool.or_false, Bool.and_eq_false_iff,
    decide_eq_false_iff_not]
  omega

/-- The part of a number behind its sign. -/
theorem cutSign_decimal (n : Nat) : cutSign (decimal n) = (false, decimal n) := by
  cases hn : decimal n with
  | nil => rfl
  | cons c rest =>
    have hc : c.isDigit = true := isDigit_of_mem_decimal (hn ▸ List.mem_cons_self)
    unfold cutSign
    split
    · simp_all
    · simp_all
    · rfl

theorem dropWhile_isMargin_decimal (n : Nat) : (decimal n).dropWhile isMargin = decimal n := by
  cases hn : decimal n with
  | nil => rfl
  | cons c rest =>
    have hc : c.isDigit = true := isDigit_of_mem_decimal (hn ▸ List.mem_cons_self)
    exact List.dropWhile_cons_of_neg (by simp [not_isMargin_of_isDigit hc])

/-- A number that has a text is what its text says. -/
theorem read_integer {n : Int} (h : tooLong n = false) :
    read (RawText.ofText (integer n)) = .ok n := by
  have hread {sign : Text} {negative : Bool} {m : Nat}
      (hsign : cutSign ((sign ++ decimal m).dropWhile isMargin) = (negative, decimal m))
      (hm : tooLong m = false) :
      read (RawText.ofText (sign ++ decimal m)) = .ok (if negative then -(m : Int) else m) := by
    have hall : ∀ c ∈ decimal m, isDigitOrJoint c = true := fun c hc =>
      isDigitOrJoint_of_isDigit (isDigit_of_mem_decimal hc)
    have hlength : ¬ maxDigits < (decimal m).length := Nat.not_lt.mpr (length_decimal_le hm)
    simp only [read, RawText.shown_ofText, hsign, List.takeWhile_eq_self_iff.mpr hall,
      joinedDigits?_decimal, List.dropWhile_eq_nil_iff.mpr hall, hlength, if_false,
      List.all_nil, if_true, ofDigitChars_decimal]
  cases n with
  | ofNat m =>
    have hsign : cutSign (([] ++ decimal m).dropWhile isMargin) = (false, decimal m) := by
      rw [List.nil_append, dropWhile_isMargin_decimal, cutSign_decimal]
    exact hread hsign h
  | negSucc m =>
    have hsign : cutSign ((['-'] ++ decimal (m + 1)).dropWhile isMargin) =
        (true, decimal (m + 1)) := rfl
    exact hread hsign h

end NfsVolume.Text.Integer
