import NfsVolume.Text.Basic

/-!
Replacing the occurrences of a text in another, in one pass from the left; occurrences that
overlap one already taken are left alone.
-/
namespace NfsVolume.Text

/-- One pass over the text, in which the next `skip` characters belong to an occurrence. -/
def replaceFrom (pattern substitute : Text) : Nat → Text → Text
  | _, [] => []
  | skip + 1, _ :: rest => replaceFrom pattern substitute skip rest
  | 0, c :: rest =>
    if startsWith (c :: rest) pattern then
      substitute ++ replaceFrom pattern substitute (pattern.length - 1) rest
    else c :: replaceFrom pattern substitute 0 rest

/-- Every occurrence of a nonempty pattern is replaced; the empty pattern occurs nowhere. -/
def replace (pattern substitute text : Text) : Text :=
  if pattern = [] then text else replaceFrom pattern substitute 0 text

def erase (pattern text : Text) : Text := replace pattern [] text

theorem erase_nil (text : Text) : erase [] text = text := rfl

end NfsVolume.Text
