import NfsVolume.Text.Quoted
import NfsVolume.Text.Integer

/-!
Faults of a settings file: in its lines, and in the references between its values.
-/
namespace NfsVolume

/-- A line of a file that could not be read, with its number. -/
structure BadLine where
  number : Nat
  text : Text
  deriving DecidableEq, Repr

inductive SettingsProblem where
  | noSection (file : Text) (line : BadLine)
  | badLines (file : Text) (lines : List BadLine)
  | repeatedSection (file : Text) (line : Nat) (heading : Text)
  | repeatedOption (file : Text) (line : Nat) (heading option : Text)
  | afterPercent (option heading rest : Text)
  | badReference (option heading rest : Text)
  | unknownReference (option heading raw reference : Text)
  | tooDeep (option heading raw : Text)
  deriving DecidableEq, Repr

namespace SettingsProblem

/-- A chain of references in values may have this many links. -/
def maxDepth : Nat := 10

def shownFile (file : Text) : Text := "PosixPath(" ++ Text.quoted file ++ ")"

/-- A line number of at least two places. -/
def shownLine (n : Nat) : Text :=
  let digits := Text.decimal n
  "[line " ++ List.replicate (2 - digits.length) ' ' ++ digits ++ "]"

def shownBadLine (l : BadLine) : Text :=
  "\n\t" ++ shownLine l.number ++ ": " ++ Text.quoted l.text

def message : SettingsProblem → Text
  | .noSection file line =>
    "File contains no section headers.\nfile: " ++ shownFile file ++ ", line: " ++
      Text.decimal line.number ++ "\n" ++ Text.quoted line.text
  | .badLines file lines =>
    "Source contains parsing errors: " ++ shownFile file ++ lines.flatMap shownBadLine
  | .repeatedSection file line heading =>
    "While reading from " ++ shownFile file ++ " " ++ shownLine line ++ ": section " ++
      Text.quoted heading ++ " already exists"
  | .repeatedOption file line heading option =>
    "While reading from " ++ shownFile file ++ " " ++ shownLine line ++ ": option " ++
      Text.quoted option ++ " in section " ++ Text.quoted heading ++ " already exists"
  | .afterPercent _ _ rest => "'%' must be followed by '%' or '(', found: " ++ Text.quoted rest
  | .badReference _ _ rest => "bad interpolation variable reference " ++ Text.quoted rest
  | .unknownReference option heading raw reference =>
    "Bad value substitution: option " ++ Text.quoted option ++ " in section " ++
      Text.quoted heading ++ " contains an interpolation key " ++ Text.quoted reference ++
      " which is not a valid option name. Raw value: " ++ Text.quoted raw
  | .tooDeep option heading raw =>
    "Recursion limit exceeded in value substitution: option " ++ Text.quoted option ++
      " in section " ++ Text.quoted heading ++
      " contains an interpolation key which cannot be substituted in " ++ Text.decimal maxDepth ++
      " steps. Raw value: " ++ Text.quoted raw

end SettingsProblem
end NfsVolume
