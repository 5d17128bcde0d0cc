import NfsVolume.World.Files

/-!
Annotations of the running pod, from a file with a line `key="value"` for each of them.
-/
namespace NfsVolume.Group

/-- The value of an annotation at the beginning of a line, all up to the quote that ends it. -/
def valueHere? (key line : Text) : Option Text := do
  let rest ← Text.after? (key ++ ['=', '"']) line
  let shown := rest.takeWhile (· ≠ '\n')
  if shown.getLast? = some '"' then some shown.dropLast else none

/-- The value at the first line that has one, where the text given stands at the beginning of a
line or within one. -/
def findValue (key : Text) : Bool → Text → Option Text
  | atStart, [] => if atStart then valueHere? key [] else none
  | atStart, c :: rest =>
    match (if atStart then valueHere? key (c :: rest) else none) with
    | some value => some value
    | none => findValue key (c = '\n') rest

/-- The value of an annotation, empty if there is none. -/
def annotationIn (content key : Text) : Text := (findValue key true content).getD []

def annotationValue (file key : Text) : Run Text := do
  return annotationIn (← Files.readText file) key

end NfsVolume.Group
