import NfsVolume.Text.Raw

/-!
Blank characters and the removal of them at both ends of a text.
-/
namespace NfsVolume.Text

/-- White space and the separators of information, lines and paragraphs. -/
def isBlank (c : Char) : Bool :=
  (0x09 ≤ c.toNat && c.toNat ≤ 0x0d) || (0x1c ≤ c.toNat && c.toNat ≤ 0x20) ||
    c.toNat = 0x85 || c.toNat = 0xa0 || c.toNat = 0x1680 ||
    (0x2000 ≤ c.toNat && c.toNat ≤ 0x200a) || c.toNat = 0x2028 || c.toNat = 0x2029 ||
    c.toNat = 0x202f || c.toNat = 0x205f || c.toNat = 0x3000

def stripStart (s : Text) : Text := s.dropWhile isBlank

def stripEnd (s : Text) : Text := dropEndWhile isBlank s

def strip (s : Text) : Text := stripEnd (stripStart s)

theorem isBlank_of_isWhitespace {c : Char} (h : c.isWhitespace = true) : isBlank c = true := by
  simp only [Char.isWhitespace, Bool.or_eq_true, decide_eq_true_eq] at h
  rcases h with (((h | h) | h) | h) <;> subst h <;> decide

/-- A character that is seen, in ASCII, is not blank. -/
theorem not_isBlank_of_visible {c : Char} (h : 0x21 ≤ c.toNat ∧ c.toNat ≤ 0x7e) :
    isBlank c = false := by
  simp only [isBlank, Bool.or_eq_false_iff, Bool.and_eq_false_iff, decide_eq_false_iff_not]
  omega

theorem strip_eq_self {s : Text} (start : ∀ c ∈ s.head?, isBlank c = false)
    (stop : ∀ c ∈ s.getLast?, isBlank c = false) : strip s = s := by
  have h₁ : stripStart s = s := by
    cases s with
    | nil => rfl
    | cons c rest => simp [stripStart, List.dropWhile, start c (by simp)]
  have h₂ : s.reverse.dropWhile isBlank = s.reverse := by
    cases h : s.reverse with
    | nil => rfl
    | cons c rest =>
      have : s.getLast? = some c := by
        rw [← List.head?_reverse, h]; rfl
      simp [List.dropWhile, stop c (by simp [this])]
  simp [strip, h₁, stripEnd, dropEndWhile, h₂]

end NfsVolume.Text

namespace NfsVolume.RawText

/-- Blanks at both ends are removed; a lone half is none. -/
def strip (s : RawText) : RawText :=
  let isBlank (p : Point) : Bool := Text.isBlank p.shown
  Text.dropEndWhile isBlank (s.dropWhile isBlank)

end NfsVolume.RawText
