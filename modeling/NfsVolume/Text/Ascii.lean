import NfsVolume.Text.Quoted
import NfsVolume.Text.Integer

/-!
Text in ASCII alone.
-/
namespace NfsVolume.Text.Ascii

def isAscii (c : Char) : Bool := c.toNat < 0x80

/-- The first character that is not in ASCII, and how many stand in a row there. -/
structure WriteError where
  position : Nat
  first : Char
  count : Nat
  deriving DecidableEq, Repr

def checkFrom (position : Nat) : Text → Except WriteError Unit
  | [] => .ok ()
  | c :: rest =>
    if isAscii c then checkFrom (position + 1) rest
    else .error ⟨position, c, (rest.takeWhile fun d => !isAscii d).length + 1⟩

def check (s : Text) : Except WriteError Unit := checkFrom 0 s

def WriteError.place (e : WriteError) : Text :=
  if e.count = 1 then "character '" ++ escaped e.first ++ "' in position " ++ decimal e.position
  else "characters in position " ++ decimal e.position ++ "-" ++ decimal (e.position + e.count - 1)

def WriteError.message (e : WriteError) : Text :=
  "'ascii' codec can't encode " ++ e.place ++ ": ordinal not in range(128)"

theorem check_eq_ok {s : Text} (h : s.all isAscii = true) : check s = .ok () := by
  suffices ∀ position, checkFrom position s = .ok () from this 0
  induction s with
  | nil => intro _; rfl
  | cons c rest ih =>
    simp only [List.all_cons, Bool.and_eq_true] at h
    intro position
    simp [checkFrom, h.1, ih h.2]

end NfsVolume.Text.Ascii
