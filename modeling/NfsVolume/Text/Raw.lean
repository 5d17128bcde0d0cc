import NfsVolume.Text.Basic

/-!
Text as it comes from outside. It may hold a half of a pair of surrogates without the other half,
which is no character: such text can be compared, shown and escaped, but not sent.
-/
namespace NfsVolume

/-- Half of a pair of surrogates. -/
structure Surrogate where
  number : Nat
  isHalf : 0xd800 ≤ number ∧ number < 0xe000
  deriving DecidableEq, Repr

namespace Surrogate

def isHigh (s : Surrogate) : Bool := s.number < 0xdc00

def ofNat? (n : Nat) : Option Surrogate :=
  if h : 0xd800 ≤ n ∧ n < 0xe000 then some ⟨n, h⟩ else none

/-- The character that a high half and a low one make. -/
def join (high low : Surrogate) : Char :=
  Char.ofNat (0x10000 + (high.number - 0xd800) * 0x400 + (low.number - 0xdc00))

end Surrogate

inductive Point where
  | char (c : Char)
  | half (s : Surrogate)
  deriving DecidableEq, Repr

namespace Point

def ofNat (n : Nat) : Point :=
  match Surrogate.ofNat? n with
  | some s => .half s
  | none => .char (Char.ofNat n)

def number : Point → Nat
  | .char c => c.toNat
  | .half s => s.number

def isHalf : Point → Bool
  | .char _ => false
  | .half _ => true

/-- The character, or the one that stands for what cannot be shown. -/
def shown : Point → Char
  | .char c => c
  | .half _ => '\ufffd'

end Point

abbrev RawText := List Point

namespace RawText

def ofText (s : Text) : RawText := s.map .char

instance : Coe Text RawText := ⟨ofText⟩
instance : Coe String RawText := ⟨fun s => ofText s.toList⟩

def shown (s : RawText) : Text := s.map Point.shown

def hasHalf (s : RawText) : Bool := s.any Point.isHalf

/-- The text, if there is no lone half in it. -/
def toText? (s : RawText) : Option Text := if s.hasHalf then none else some s.shown

/-- As for `shown`, with one such character for each of the three octets of a half. -/
def shownByOctets (s : RawText) : Text :=
  s.flatMap fun p => List.replicate (if p.isHalf then 3 else 1) p.shown

/-- The characters in front that satisfy a test. -/
def leading (p : Char → Bool) : RawText → Text
  | .char c :: rest => if p c then c :: leading p rest else []
  | _ => []

@[simp]
theorem shown_ofText (s : Text) : (ofText s).shown = s := by
  simp [shown, ofText, Function.comp_def, Point.shown]

@[simp]
theorem hasHalf_ofText (s : Text) : (ofText s).hasHalf = false := by
  simp [hasHalf, ofText, Point.isHalf]

@[simp]
theorem toText?_ofText (s : Text) : (ofText s).toText? = some s := by simp [toText?]

theorem toText?_of_hasHalf {s : RawText} (h : s.hasHalf = true) : s.toText? = none := by
  rw [toText?, if_pos h]

theorem toText?_of_not_hasHalf {s : RawText} (h : s.hasHalf = false) : s.toText? = some s.shown := by
  rw [toText?, h]
  rfl

theorem ofText_of_toText? {s : RawText} {t : Text} (h : s.toText? = some t) : s = ofText t := by
  cases hhalf : s.hasHalf with
  | true =>
    rw [toText?_of_hasHalf hhalf] at h
    cases h
  | false =>
    rw [toText?_of_not_hasHalf hhalf] at h
    cases h
    have hchar : ∀ p ∈ s, Point.char p.shown = p := by
      intro p hp
      cases p with
      | char c => rfl
      | half half => exact absurd rfl (List.any_eq_false.mp hhalf _ hp)
    rw [ofText, shown, List.map_map]
    exact ((List.map_congr_left hchar).trans (List.map_id s)).symm

theorem shown_mem_of_hasHalf {s : RawText} (h : s.hasHalf = true) : '\ufffd' ∈ s.shown := by
  obtain ⟨p, hp, hhalf⟩ := List.any_eq_true.mp h
  cases p with
  | char c => cases hhalf
  | half half => exact List.mem_map.mpr ⟨_, hp, rfl⟩

theorem ofText_append (s t : Text) : ofText (s ++ t) = ofText s ++ ofText t := by simp [ofText]

end RawText
end NfsVolume
