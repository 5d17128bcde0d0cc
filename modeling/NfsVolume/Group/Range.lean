import NfsVolume.World.Basic
import NfsVolume.Json.Access
import NfsVolume.Json.Writer

/-!
Ranges of group ids, and reading them from lists of objects with a least and a greatest id.
Entries that are no ranges are skipped with a warning.
-/
namespace NfsVolume

/-- The group ids from `min` up to `max`. -/
structure GroupRange where
  min : Int
  max : Int
  deriving DecidableEq, Repr

namespace GroupRange

/-- The ranges that hold where none are imposed. -/
def defaults : List GroupRange := [⟨0, 65533⟩]

def toText (r : GroupRange) : Text :=
  "GidRange(min=" ++ Text.integer r.min ++ ", max=" ++ Text.integer r.max ++ ")"

def listText (ranges : List GroupRange) : Text :=
  "[" ++ Text.join ", " (ranges.map toText) ++ "]"

end GroupRange

namespace Group

def integer (text : RawText) : Except Failure Int :=
  (Text.Integer.read text).mapError fun e => .value (.integer e)

/-- The whole number that a value stands for: text is read, and a fraction is cut off. -/
def wholeNumber (v : Json) : Except Failure Int :=
  match v with
  | .text s => integer s
  | _ => v.wholePart

def bound (name : Text) (entry : Json) : Except Failure Int :=
  match entry with
  | .object members =>
    match Json.lookup name members with
    | some v => wholeNumber v
    | none => .error (.shape (.missing (Text.quoted name)))
  | _ => .error (.shape (.noMembers entry.kind))

def rangeOfEntry (entry : Json) : Except Failure GroupRange := do
  let min ← bound "min" entry
  let max ← bound "max" entry
  return ⟨min, max⟩

def warn (text : Text) : Run Unit := Run.log .warning .groups text

/-- The range of an entry, if it is one. An infinite bound is more than a malformed entry. -/
def takeEntry (entry : Json) : Run (List GroupRange) :=
  match rangeOfEntry entry with
  | .ok r =>
    if r.max < r.min then do
      warn ("Ignoring id range with min > max: " ++ entry.inner)
      return []
    else return [r]
  | .error (.overflow problem) => throw (.overflow problem)
  | .error _ => do
    warn ("Ignoring malformed id range " ++ entry.inner)
    return []

def takeEntries : List Json → Run (List GroupRange)
  | [] => return []
  | entry :: rest => do
    let here ← takeEntry entry
    return here ++ (← takeEntries rest)

def parseRanges (raw : Json) : Run (List GroupRange) := do
  if raw.isEmpty then return []
  takeEntries (← Run.ofExcept raw.elements)

end Group
end NfsVolume
