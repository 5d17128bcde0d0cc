import NfsVolume.Json.Writer
import NfsVolume.Service.Number
import NfsVolume.Volume.Request

/-!
The body of a request for a volume. Every field is checked, and all that is wrong is reported, in
the order of the fields. Numbers may also be written as text, as doubles without a fraction, or as
true and false for one and zero.
-/
namespace NfsVolume.Service

inductive BodyProblem where
  | unreadable
  | missing
  | notObject
  | notText
  | notCharacters
  | tooShort
  | tooLong
  | value (problem : ValueProblem)
  | notNumber
  | badNumber
  | longNumber
  | fraction
  | notFinite
  | notPositive
  | notList
  | notDictionary
  deriving DecidableEq, Repr

/-- A step on the way from the body to what is wrong: a name of a member, or a position. -/
inductive Step where
  | name (text : Text)
  | position (n : Nat)
  deriving DecidableEq, Repr

structure BodyError where
  location : List Step
  problem : BodyProblem
  /-- The value at fault. -/
  input : Json
  deriving BEq, Repr

namespace BodyProblem

def code : BodyProblem → Text
  | .unreadable => "json_invalid"
  | .missing => "missing"
  | .notObject => "model_attributes_type"
  | .notText => "string_type"
  | .notCharacters => "string_unicode"
  | .tooShort => "string_too_short"
  | .tooLong => "string_too_long"
  | .value _ => "value_error"
  | .notNumber => "int_type"
  | .badNumber => "int_parsing"
  | .longNumber => "int_parsing_size"
  | .fraction => "int_from_float"
  | .notFinite => "finite_number"
  | .notPositive => "greater_than"
  | .notList => "list_type"
  | .notDictionary => "dict_type"

def message : BodyProblem → Text
  | .unreadable => "JSON decode error"
  | .missing => "Field required"
  | .notObject => "Input should be a valid dictionary or object to extract fields from"
  | .notText => "Input should be a valid string"
  | .notCharacters => "Input should be a valid string, unable to parse raw data as a unicode string"
  | .tooShort => "String should have at least 1 character"
  | .tooLong => "String should have at most " ++ Text.decimal Volume.maxNameLength ++ " characters"
  | .value problem => "Value error, " ++ problem.message
  | .notNumber => "Input should be a valid integer"
  | .badNumber => "Input should be a valid integer, unable to parse string as an integer"
  | .longNumber => "Unable to parse input string as an integer, exceeded maximum size"
  | .fraction => "Input should be a valid integer, got a number with a fractional part"
  | .notFinite => "Input should be a finite number"
  | .notPositive => "Input should be greater than 0"
  | .notList => "Input should be a valid list"
  | .notDictionary => "Input should be a valid dictionary"

end BodyProblem

abbrev Checked (α : Type) := Except (List BodyError) α

def wrong {α : Type} (location : List Step) (problem : BodyProblem) (input : Json) : Checked α :=
  .error [⟨location, problem, input⟩]

def bodyStep : Step := .name "body"

/-- The location of a member of the body. -/
def fieldAt (name : Text) : List Step := [bodyStep, .name name]

def checkText (location : List Step) (v : Json) : Checked RawText :=
  match v with
  | .text s => .ok s
  | _ => wrong location .notText v

/-- A name has a length, so it must be text without lone halves of surrogates. -/
def checkName (location : List Step) (v : Json) : Checked Text := do
  match (← checkText location v).toText? with
  | none => wrong location .notCharacters v
  | some s =>
    if s.isEmpty then wrong location .tooShort v
    else if Volume.maxNameLength < s.length then wrong location .tooLong v
    else
      match Volume.validateName s with
      | .ok () => .ok s
      | .error problem => wrong location (.value problem) v

/-- Doubles are taken for whole numbers below this size. -/
def doubleLimit : Nat := Nat.pow 2 63

def wholeDouble (x : Binary64) : Except BodyProblem Int :=
  if !x.isFinite then .error .notFinite
  else
    match x.toInt? with
    | none => .error .fraction
    | some n => if n.natAbs < doubleLimit then .ok n else .error .longNumber

def wholeNumber (v : Json) : Except BodyProblem Int :=
  match v with
  | .int n => .ok n
  | .bool b => .ok (if b then 1 else 0)
  | .double x => wholeDouble x
  | .text s =>
    match readNumber s.shown with
    | .ok n => .ok n
    | .error .malformed => .error .badNumber
    | .error .tooLong => .error .longNumber
  | _ => .error .notNumber

def checkCapacity (location : List Step) (v : Json) : Checked Int :=
  match wholeNumber v with
  | .error problem => wrong location problem v
  | .ok n => if n ≤ 0 then wrong location .notPositive v else .ok n

/-- Both results, or all that is wrong with either. -/
def both {α β : Type} : Checked α → Checked β → Checked (α × β)
  | .ok a, .ok b => .ok (a, b)
  | .error e, .ok _ => .error e
  | .ok _, .error e => .error e
  | .error d, .error e => .error (d ++ e)

def checkTexts (location : List Step) : Nat → List Json → Checked (List RawText)
  | _, [] => .ok []
  | position, v :: rest =>
    (both (checkText (location ++ [.position position]) v)
      (checkTexts location (position + 1) rest)).map fun p => p.1 :: p.2

def checkList (location : List Step) (v : Json) : Checked (List RawText) :=
  match v with
  | .array items => checkTexts location 0 items
  | _ => wrong location .notList v

/-- The values of members, at the locations that their names show. -/
def checkMembersOf (check : List Step → Json → Checked Unit) (location : List Step) :
    List (RawText × Json) → Checked Unit
  | [] => .ok ()
  | (name, v) :: rest =>
    (both (check (location ++ [.name name.shownByOctets]) v)
      (checkMembersOf check location rest)).map fun _ => ()

/-- An object, or null for none. -/
def checkDictionary (check : List Step → Json → Checked Unit) (location : List Step) (v : Json) :
    Checked Json :=
  match v with
  | .null => .ok v
  | .object ms => (checkMembersOf check location ms).map fun _ => v
  | _ => wrong location .notDictionary v

def checkTextOnly (location : List Step) (v : Json) : Checked Unit :=
  (checkText location v).map fun _ => ()

def required {α : Type} (body : List (RawText × Json)) (name : Text)
    (check : List Step → Json → Checked α) : Checked α :=
  match Json.lookup name body with
  | some v => check (fieldAt name) v
  | none => wrong (fieldAt name) .missing (.object body)

def optional {α : Type} (body : List (RawText × Json)) (name : Text) (standard : α)
    (check : List Step → Json → Checked α) : Checked α :=
  match Json.lookup name body with
  | some v => check (fieldAt name) v
  | none => .ok standard

def checkMembers (body : List (RawText × Json)) : Checked VolumeRequest := do
  let found := both (required body "name" checkName)
    (both (required body "capacity_bytes" checkCapacity)
      (both (optional body "access_modes" VolumeRequest.defaultAccessModes checkList)
        (both (optional body "reclaim_policy" VolumeRequest.defaultReclaimPolicy checkText)
          (both (optional body "parameters" .null (checkDictionary checkTextOnly))
            (optional body "selector" .null (checkDictionary fun _ _ => .ok ()))))))
  let (name, capacity, accessModes, reclaimPolicy, parameters, selector) ← found
  return ⟨name, capacity, accessModes, reclaimPolicy, parameters, selector⟩

/-- The request that a body makes; null is no body. -/
def checkBody (body : Json) : Checked VolumeRequest :=
  match body with
  | .null => wrong [bodyStep] .missing .null
  | .object members => checkMembers members
  | _ => wrong [bodyStep] .notObject body

end NfsVolume.Service
