import NfsVolume.Failure.Settings
import NfsVolume.Text.Case

/-!
References between the values of a section. `%(name)s` in a value stands for the value of another
option, in which references are followed in turn, and `%%` for a percent sign.
-/
namespace NfsVolume.Ini

/-- The option whose value is looked for, for messages. -/
structure Wanted where
  heading : Text
  option : Text
  raw : Text

/-- The name in a reference, from behind its opening parenthesis on. -/
def referenceName? (inside : Text) : Option Text :=
  let name := inside.takeWhile (· ≠ ')')
  if !name.isEmpty && Text.startsWith (inside.drop name.length) ")s" then some name else none

/-- A value with its references replaced; the next `skip` characters belong to one already read,
and `follow` replaces those of the values referred to. -/
def expandWith (values : List (Text × Text)) (w : Wanted)
    (follow : Text → Except SettingsProblem Text) : Nat → Text → Except SettingsProblem Text
  | _, [] => .ok []
  | skip + 1, _ :: rest => expandWith values w follow skip rest
  | 0, c :: rest =>
    if c ≠ '%' then (expandWith values w follow 0 rest).map (c :: ·)
    else
      match rest with
      | '%' :: _ => (expandWith values w follow 1 rest).map ('%' :: ·)
      | '(' :: inside =>
        match referenceName? inside with
        | none => .error (.badReference w.option w.heading (c :: rest))
        | some name =>
          match values.lookup name.lower with
          | none => .error (.unknownReference w.option w.heading w.raw name.lower)
          | some value => do
            let text ← if '%' ∈ value then follow value else .ok value
            return text ++ (← expandWith values w follow (name.length + 3) rest)
      | _ => .error (.afterPercent w.option w.heading (c :: rest))

/-- A value with its references replaced along chains of at most the given number of links. -/
def expandTo (values : List (Text × Text)) (w : Wanted) : Nat → Text → Except SettingsProblem Text
  | 0, _ => .error (.tooDeep w.option w.heading w.raw)
  | links + 1, value => expandWith values w (expandTo values w links) 0 value

/-- The value of an option, if there is one, with its references replaced. -/
def value? (heading : Text) (values : List (Text × Text)) (option : Text) :
    Except SettingsProblem (Option Text) :=
  match values.lookup option with
  | none => .ok none
  | some raw =>
    (expandTo values ⟨heading, option, raw⟩ SettingsProblem.maxDepth raw).map some

theorem expandWith_plain (values : List (Text × Text)) (w : Wanted)
    (follow : Text → Except SettingsProblem Text) {s : Text} (h : '%' ∉ s) :
    expandWith values w follow 0 s = .ok s := by
  induction s with
  | nil => rfl
  | cons c rest ih =>
    have hc : c ≠ '%' := fun e => h (by simp [e])
    have hr : '%' ∉ rest := fun e => h (by simp [e])
    simp [expandWith, hc, ih hr, Except.map]

end NfsVolume.Ini
