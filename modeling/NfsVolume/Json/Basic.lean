import NfsVolume.Json.Binary64

/-!
JSON values. The members of an object keep the order in which their names first came; whole
numbers are exact, and all other numbers are doubles.
-/
namespace NfsVolume

inductive Json where
  | null
  | bool (b : Bool)
  | int (n : Int)
  | double (x : Binary64)
  | text (s : RawText)
  | array (elements : List Json)
  | object (members : List (RawText × Json))
  deriving BEq, Repr, Inhabited

namespace Json

inductive Kind where
  | null | bool | int | double | text | array | object
  deriving DecidableEq, Repr

def kind : Json → Kind
  | .null => .null
  | .bool _ => .bool
  | .int _ => .int
  | .double _ => .double
  | .text _ => .text
  | .array _ => .array
  | .object _ => .object

/-- The name of a kind of value in messages. -/
def Kind.name : Kind → Text
  | .null => "NoneType"
  | .bool => "bool"
  | .int => "int"
  | .double => "float"
  | .text => "str"
  | .array => "list"
  | .object => "dict"

/-- A value that says nothing: null, false, zero, and what is empty. -/
def isEmpty : Json → Bool
  | .null => true
  | .bool b => !b
  | .int n => n = 0
  | .double x => x.isZero
  | .text s => s.isEmpty
  | .array elements => elements.isEmpty
  | .object members => members.isEmpty

/-- The value of a member of an object. -/
def lookup (name : RawText) : List (RawText × Json) → Option Json
  | [] => none
  | (key, value) :: rest => if key = name then some value else lookup name rest

/-- A later value of a name takes the place of the earlier one. -/
def put (name : RawText) (value : Json) : List (RawText × Json) → List (RawText × Json)
  | [] => [(name, value)]
  | (key, old) :: rest =>
    if key = name then (key, value) :: rest else (key, old) :: put name value rest

theorem lookup_put (name : RawText) (value : Json) (members : List (RawText × Json)) :
    lookup name (put name value members) = some value := by
  induction members with
  | nil => simp [put, lookup]
  | cons m rest ih =>
    by_cases h : m.1 = name <;> simp [put, lookup, h, ih]

theorem lookup_put_of_ne {name other : RawText} (h : other ≠ name) (value : Json)
    (members : List (RawText × Json)) :
    lookup other (put name value members) = lookup other members := by
  induction members with
  | nil => simp [put, lookup, Ne.symm h]
  | cons m rest ih =>
    by_cases hm : m.1 = name
    · simp [put, lookup, hm, Ne.symm h]
    · simp [put, lookup, hm, ih]

end Json
end NfsVolume
