import NfsVolume.Failure.Basic

/-!
Looking into values whose kind is not known beforehand. A member that is missing is null, and what
says nothing counts as an empty object where one is expected.
-/
namespace NfsVolume.Json

def member (name : Text) (v : Json) : Except Failure Json :=
  match v with
  | .object members => .ok ((lookup name members).getD .null)
  | _ => .error (.shape (.noOperation v.kind "get"))

def orObject (v : Json) : Json := if v.isEmpty then .object [] else v

/-- A member that is to be looked into further. -/
def inside (name : Text) (v : Json) : Except Failure Json := (member name v).map orObject

/-- What a value has one by one: an object its names, a text its characters. -/
def elements (v : Json) : Except Failure (List Json) :=
  match v with
  | .array items => .ok items
  | .object members => .ok (members.map fun m => .text m.1)
  | .text s => .ok (s.map fun p => .text [p])
  | _ => .error (.shape (.noElements v.kind))

/-- The only element of a value that has just one. An object has no element to begin with. -/
def only? (v : Json) : Except Failure (Option Json) :=
  match v with
  | .array [one] => .ok (some one)
  | .array _ => .ok none
  | .text [p] => .ok (some (.text [p]))
  | .text _ => .ok none
  | .object [_] => .error (.shape (.missing (Text.decimal 0)))
  | .object _ => .ok none
  | _ => .error (.shape (.noLength v.kind))

def orArray (v : Json) : Json := if v.isEmpty then .array [] else v

/-- The whole number that a number stands for, its fraction cut off; true and false are one and
zero. -/
def wholePart (v : Json) : Except Failure Int :=
  match v with
  | .int n => .ok n
  | .bool b => .ok (if b then 1 else 0)
  | .double .nan => .error (.value .notANumber)
  | .double (.infinite _) => .error (.overflow .infinite)
  | .double x => .ok (x.truncate?.getD 0)
  | _ => .error (.shape (.notNumber v.kind))

@[simp]
theorem member_object (name : Text) (members : List (RawText × Json)) :
    member name (.object members) = .ok ((lookup name members).getD .null) := rfl

end NfsVolume.Json
