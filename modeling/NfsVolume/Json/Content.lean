import NfsVolume.Json.Basic

/-!
What a value holds, at any depth: numbers that cannot be written, texts that are no characters.
-/
namespace NfsVolume.Json

mutual

/-- Whether a value, or one inside it, satisfies a test. -/
def holds (p : Json → Bool) : Json → Bool
  | .array elements => p (.array elements) || holdsIn p elements
  | .object members => p (.object members) || holdsAt p members
  | v => p v

def holdsIn (p : Json → Bool) : List Json → Bool
  | [] => false
  | v :: rest => holds p v || holdsIn p rest

def holdsAt (p : Json → Bool) : List (RawText × Json) → Bool
  | [] => false
  | (_, v) :: rest => holds p v || holdsAt p rest

end

/-- Whether a value holds a number that is too long to be written. -/
def hasLongNumber : Json → Bool :=
  holds fun
    | .int n => Text.Integer.tooLong n
    | _ => false

/-- Whether a value holds a double that is no number of JSON. -/
def hasNonFinite : Json → Bool :=
  holds fun
    | .double x => !x.isFinite
    | _ => false

/-- Whether a text in a value, or a name, holds a lone half of a pair of surrogates. -/
def hasHalf : Json → Bool :=
  holds fun
    | .text s => s.hasHalf
    | .object members => members.any fun m => m.1.hasHalf
    | _ => false

mutual

/-- The number of values on the longest way into a value, itself included. -/
def depth : Json → Nat
  | .array elements => depthIn elements + 1
  | .object members => depthAt members + 1
  | _ => 1

def depthIn : List Json → Nat
  | [] => 0
  | v :: rest => max (depth v) (depthIn rest)

def depthAt : List (RawText × Json) → Nat
  | [] => 0
  | (_, v) :: rest => max (depth v) (depthAt rest)

end

mutual

/-- Null stands for every double that is no number of JSON. -/
def onlyFinite : Json → Json
  | .double x => if x.isFinite then .double x else .null
  | .array elements => .array (onlyFiniteIn elements)
  | .object members => .object (onlyFiniteAt members)
  | v => v

def onlyFiniteIn : List Json → List Json
  | [] => []
  | v :: rest => onlyFinite v :: onlyFiniteIn rest

def onlyFiniteAt : List (RawText × Json) → List (RawText × Json)
  | [] => []
  | (name, v) :: rest => (name, onlyFinite v) :: onlyFiniteAt rest

end

section
variable {α : Type} (key : α → RawText) (f : α → Json) (test : Json → Bool) (l : List α)

theorem holdsIn_map : holdsIn test (l.map f) = l.any fun a => holds test (f a) := by
  induction l with
  | nil => rfl
  | cons a rest ih => rw [List.map_cons, holdsIn, ih, List.any_cons]

theorem holdsAt_map :
    holdsAt test (l.map fun a => (key a, f a)) = l.any fun a => holds test (f a) := by
  induction l with
  | nil => rfl
  | cons a rest ih => rw [List.map_cons, holdsAt, ih, List.any_cons]

variable {f}

theorem depthIn_map_le {n : Nat} (h : ∀ a, (f a).depth ≤ n) : depthIn (l.map f) ≤ n := by
  induction l with
  | nil => exact Nat.zero_le n
  | cons a rest ih => exact Nat.max_le.mpr ⟨h a, ih⟩

theorem depthAt_map_le {n : Nat} (h : ∀ a, (f a).depth ≤ n) :
    depthAt (l.map fun a => (key a, f a)) ≤ n := by
  induction l with
  | nil => exact Nat.zero_le n
  | cons a rest ih => exact Nat.max_le.mpr ⟨h a, ih⟩

theorem onlyFiniteIn_map (h : ∀ a, onlyFinite (f a) = f a) :
    onlyFiniteIn (l.map f) = l.map f := by
  induction l with
  | nil => rfl
  | cons a rest ih => rw [List.map_cons, onlyFiniteIn, h, ih]

theorem onlyFiniteAt_map (h : ∀ a, onlyFinite (f a) = f a) :
    onlyFiniteAt (l.map fun a => (key a, f a)) = l.map fun a => (key a, f a) := by
  induction l with
  | nil => rfl
  | cons a rest ih => rw [List.map_cons, onlyFiniteAt, h, ih]

end

end NfsVolume.Json
