import NfsVolume.Json.Basic
import NfsVolume.Text.Quoted

/-!
Values of a kind that their use does not admit.
-/
namespace NfsVolume

inductive ShapeProblem where
  /-- Only some kinds of values have the operation. -/
  | noOperation (kind : Json.Kind) (name : Text)
  | noElements (kind : Json.Kind)
  | noLength (kind : Json.Kind)
  | noHash (kind : Json.Kind)
  | noMembers (kind : Json.Kind)
  /-- The key, as it is shown. -/
  | missing (shown : Text)
  | notText (kind : Json.Kind)
  | notNumber (kind : Json.Kind)
  | notReal (kind : Json.Kind)
  | notCharacter
  | notWidth
  | noOrder (kind : Json.Kind)
  /-- A conversion asks for one value more than there is. -/
  | noArgument
  /-- Only a text can be filled in. -/
  | noTemplate (kind : Json.Kind)
  /-- A field bears a name that is taken. -/
  | repeatedName (name : Text)
  /-- The table of the styles of log lines is no log level. -/
  | notLevel
  deriving DecidableEq, Repr

namespace ShapeProblem

/-- A style of log lines as it is shown in the table of them: its mark, its name and its layout. -/
def shownStyle (mark name layout : Text) : Text :=
  Text.quoted mark ++ ": (<class 'logging." ++ name ++ "'>, " ++ Text.quoted layout ++ ")"

def shownStyles : Text :=
  "\x7b" ++ Text.join ", " [
    shownStyle "%" "PercentStyle" "%(levelname)s:%(name)s:%(message)s",
    shownStyle "\x7b" "StrFormatStyle" "\x7blevelname\x7d:\x7bname\x7d:\x7bmessage\x7d",
    shownStyle "$" "StringTemplateStyle" "$\x7blevelname\x7d:$\x7bname\x7d:$\x7bmessage\x7d"] ++ "\x7d"

def message : ShapeProblem → Text
  | .noOperation kind name => "'" ++ kind.name ++ "' object has no attribute " ++ Text.quoted name
  | .noElements kind => "'" ++ kind.name ++ "' object is not iterable"
  | .noLength kind => "object of type '" ++ kind.name ++ "' has no len()"
  | .noHash kind => "unhashable type: '" ++ kind.name ++ "'"
  | .noMembers kind => "'" ++ kind.name ++ "' object is not subscriptable"
  | .missing shown => shown
  | .notText kind => "expected string or bytes-like object, got '" ++ kind.name ++ "'"
  | .notNumber kind =>
    "int() argument must be a string, a bytes-like object or a real number, not '" ++ kind.name ++ "'"
  | .notReal kind => "must be real number, not " ++ kind.name
  | .notCharacter => "%c requires int or char"
  | .notWidth => "* wants int"
  | .noOrder kind => "'<=' not supported between instances of '" ++ kind.name ++ "' and 'int'"
  | .noArgument => "not enough arguments for format string"
  | .noTemplate kind => "unsupported operand type(s) for %: '" ++ kind.name ++ "' and 'dict'"
  | .repeatedName name => "got multiple values for argument " ++ Text.quoted name
  | .notLevel => "Level not an integer or a valid string: " ++ shownStyles

end ShapeProblem
end NfsVolume
