/-!
Text as a list of characters, with the cutting and joining operations that the other modules share.
All of them recurse on the list; a string literal is read as text where text is expected.
-/
namespace NfsVolume

abbrev Text := List Char

instance : Coe String Text := ⟨String.toList⟩

namespace Text

section
variable {α : Type} [DecidableEq α]

/-- The pieces between the occurrences of a separator; there is always at least one. -/
def splitOn (sep : α) : List α → List (List α)
  | [] => [[]]
  | c :: rest =>
    match splitOn sep rest with
    | [] => [[c]]
    | piece :: more => if c = sep then [] :: piece :: more else (c :: piece) :: more

/-- The parts before and after the first occurrence of a character. -/
def cut? (sep : α) : List α → Option (List α × List α)
  | [] => none
  | c :: rest => if c = sep then some ([], rest) else (cut? sep rest).map fun p => (c :: p.1, p.2)

/-- The rest after a given beginning. -/
def after? : List α → List α → Option (List α)
  | [], s => some s
  | _ :: _, [] => none
  | c :: cs, d :: ds => if c = d then after? cs ds else none

end

def dropEndWhile {α : Type} (p : α → Bool) (s : List α) : List α := (s.reverse.dropWhile p).reverse

/-- The parts before and after the first character that satisfies a test, which goes with neither. -/
def cutWhere? (p : Char → Bool) : Text → Option (Text × Char × Text)
  | [] => none
  | c :: rest =>
    if p c then some ([], c, rest) else (cutWhere? p rest).map fun q => (c :: q.1, q.2.1, q.2.2)

def join (sep : Text) : List Text → Text
  | [] => []
  | [piece] => piece
  | piece :: more => piece ++ sep ++ join sep more

def startsWith (s start : Text) : Bool := (after? start s).isSome

/-- The last line break of a text, if it ends in one, is removed. -/
def dropFinalBreak : Text → Text
  | [] => []
  | ['\n'] => []
  | c :: rest => c :: dropFinalBreak rest

/-- The lines of a text, each with its line break; the last one may lack it. -/
def lines : Text → List Text
  | [] => []
  | c :: rest =>
    if c = '\n' then [c] :: lines rest
    else
      match lines rest with
      | [] => [[c]]
      | line :: more => (c :: line) :: more

/-- Whether a character is in one of the ranges of code points, both ends included. -/
def isWithin (ranges : List (Nat × Nat)) (c : Char) : Bool :=
  ranges.any fun r => r.1 ≤ c.toNat && c.toNat ≤ r.2

theorem splitOn_ne_nil {α : Type} [DecidableEq α] (sep : α) (s : List α) : splitOn sep s ≠ [] := by
  cases s with
  | nil => simp [splitOn]
  | cons c rest =>
    simp only [splitOn]
    split
    · simp
    · split <;> simp

theorem after?_append {α : Type} [DecidableEq α] (start s : List α) :
    after? start (start ++ s) = some s := by
  induction start with
  | nil => rfl
  | cons c cs ih => simpa [after?] using ih

theorem eq_append_of_after? {α : Type} [DecidableEq α] {start s rest : List α}
    (h : after? start s = some rest) :
    s = start ++ rest := by
  induction start generalizing s with
  | nil => simpa [after?] using h
  | cons c cs ih =>
    cases s with
    | nil => simp [after?] at h
    | cons d ds =>
      by_cases hcd : c = d
      · subst hcd
        simp only [after?, if_true] at h
        simp [ih h]
      · simp [after?, hcd] at h

theorem flatten_lines (s : Text) : (lines s).flatten = s := by
  induction s with
  | nil => rfl
  | cons c rest ih =>
    simp only [lines]
    split
    · simp [ih]
    · split
      · rename_i h
        simp [h] at ih
        simp [ih]
      · rename_i h
        simp [h] at ih
        simp [ih]

end Text
end NfsVolume
