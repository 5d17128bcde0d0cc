import NfsVolume.Failure.Basic

/-!
Names of volumes. A name becomes a directory under the export directory, so it holds no slash and
does not start with a dot. One line break at the end of a name is let through.
-/
namespace NfsVolume.Volume

def maxNameLength : Nat := 253

def isNameChar (c : Char) : Bool := c.isAlphanum || c = '.' || c = '_' || c = '-'

/-- A letter or digit, and then letters, digits, dots, underscores and hyphens, all in ASCII. -/
def isPlainName : Text → Bool
  | [] => false
  | c :: rest => c.isAlphanum && rest.all isNameChar

def validateName (name : Text) : Except ValueProblem Unit :=
  if name.isEmpty then .error .emptyName
  else if maxNameLength < name.length then .error .longName
  else if isPlainName name.dropFinalBreak then .ok ()
  else .error .malformedName

/-- A name that may be a value of any kind. What is empty is no name, and what has a length is
held to the longest name before it is found to be no text. -/
def validateNameValue (name : Json) : Except Failure Unit :=
  if name.isEmpty then .error (.value .emptyName)
  else
    let refuse (length : Nat) : Except Failure Unit :=
      if maxNameLength < length then .error (.value .longName)
      else .error (.shape (.notText name.kind))
    match name with
    | .text s => (validateName s.shown).mapError .value
    | .array elements => refuse elements.length
    | .object members => refuse members.length
    | _ => .error (.shape (.noLength name.kind))

theorem validateNameValue_text (s : Text) :
    validateNameValue (.text s) = (validateName s).mapError .value := by
  cases s with
  | nil => rfl
  | cons c rest =>
    simp [validateNameValue, Json.isEmpty, RawText.ofText, RawText.shown, Function.comp_def,
      Point.shown]

end NfsVolume.Volume
