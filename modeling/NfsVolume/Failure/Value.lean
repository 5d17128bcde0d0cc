import NfsVolume.Text.Quoted
import NfsVolume.Text.Integer

/-!
Values that have the right kind and cannot be used all the same.
-/
namespace NfsVolume

inductive ValueProblem where
  | integer (e : Text.Integer.ReadError)
  /-- A number of too many digits cannot be written. -/
  | unwritable
  | emptyName
  | longName
  | malformedName
  | capacity (shown : Text)
  | emptyBlock (block : RawText)
  | reversedBlock (block : RawText)
  | unknownBlock (block : RawText)
  /-- There is no number from `first` up to `last` to draw. -/
  | emptyDraw (first last : Int)
  | logLevel (name : Text)
  /-- Neither a path nor a word of a command holds a null character. -/
  | nullInPath
  | notANumber
  | incompleteFormat
  | incompleteKey
  | largeWidth
  | largePrecision
  | conversion (c : Char) (position : Nat)
  deriving DecidableEq, Repr

namespace ValueProblem

def digitLimit : Text := Text.decimal Text.Integer.maxDigits

/-- A quoted text in a message about a number is cut to this many characters. -/
def literalWidth : Nat := 200

def integerMessage : Text.Integer.ReadError → Text
  | .malformed text =>
    "invalid literal for int() with base 10: " ++ text.quoted.take literalWidth
  | .tooManyDigits count =>
    "Exceeds the limit (" ++ digitLimit ++ " digits) for integer string conversion: value has " ++
      Text.decimal count ++ " digits; use sys.set_int_max_str_digits() to increase the limit"

/-- A letter outside ASCII is shown as a question mark. -/
def shownLetter (c : Char) : Char := if 31 ≤ c.toNat && c.toNat ≤ 126 then c else '?'

def message : ValueProblem → Text
  | .integer e => integerMessage e
  | .unwritable =>
    "Exceeds the limit (" ++ digitLimit ++ " digits) for integer string conversion; " ++
      "use sys.set_int_max_str_digits() to increase the limit"
  | .emptyName => "Name cannot be empty"
  | .longName => "Name must be between 1 and 253 characters"
  | .malformedName =>
    "Name must start with alphanumeric and contain only alphanumeric, dots, underscores, or hyphens"
  | .capacity shown => "Invalid capacity: " ++ shown
  | .emptyBlock block => "block " ++ block.quoted ++ " has no ids"
  | .reversedBlock block => "block " ++ block.quoted ++ " ends before it starts"
  | .unknownBlock block => "block " ++ block.quoted ++ " is neither start/size nor start-end"
  | .emptyDraw first last =>
    "empty range for randrange() (" ++ Text.integer first ++ ", " ++ Text.integer (last + 1) ++ ", " ++
      Text.integer (last + 1 - first) ++ ")"
  | .logLevel name => "Unknown level: " ++ Text.quoted name
  | .nullInPath => "embedded null byte"
  | .notANumber => "cannot convert float NaN to integer"
  | .incompleteFormat => "incomplete format"
  | .incompleteKey => "incomplete format key"
  | .largeWidth => "width too big"
  | .largePrecision => "precision too big"
  | .conversion c position =>
    "unsupported format character '" ++ [shownLetter c] ++ "' (0x" ++
      Text.hexadecimal 0 c.toNat ++ ") at index " ++ Text.decimal position

end ValueProblem
end NfsVolume
