import NfsVolume.Domain.Composed
import NfsVolume.Domain.Context
import NfsVolume.Domain.Direction
import NfsVolume.Domain.Letter
import NfsVolume.Domain.Punycode

/-!
Labels of domain names, in the characters of any script or in ASCII, where a mark in front tells
that the characters are encoded. What is wrong with a label is reported with its first cause.
-/
namespace NfsVolume.Domain

inductive LabelProblem where
  | empty
  | notComposed
  | innerHyphens
  | endHyphen
  | markInFront
  | character (p : Point) (place : Nat) (label : RawText)
  | context (c : Char) (place : Nat) (label : RawText)
  | joiner (c : Char) (place : Nat) (label : RawText)
  /-- A joiner stands behind a character that nothing is known of. -/
  | unnamed
  | direction (problem : DirectionProblem)
  | noCode
  | endOfCode
  | code
  | long
  deriving DecidableEq, Repr

namespace LabelProblem

def shownCode (n : Nat) : Text := "U+" ++ (Text.hexadecimal 4 n).map Char.toUpper

def message : LabelProblem → Text
  | .empty => "Empty Label"
  | .notComposed => "Label must be in Normalization Form C"
  | .innerHyphens => "Label has disallowed hyphens in 3rd and 4th position"
  | .endHyphen => "Label must not start or end with a hyphen"
  | .markInFront => "Label begins with an illegal combining character"
  | .character p place label =>
    "Codepoint " ++ shownCode p.number ++ " at position " ++ Text.decimal place ++ " of " ++
      label.quoted ++ " not allowed"
  | .context c place label =>
    "Codepoint " ++ shownCode c.toNat ++ " not allowed at position " ++ Text.decimal place ++
      " in " ++ label.quoted
  | .joiner c place label =>
    "Joiner " ++ shownCode c.toNat ++ " not allowed at position " ++ Text.decimal place ++ " in " ++
      label.quoted
  | .unnamed => "no such name"
  | .direction problem => problem.message
  | .noCode => "Malformed A-label, no Punycode eligible content found"
  | .endOfCode => "A-label must not end with a hyphen"
  | .code => "Invalid A-label"
  | .long => "Label too long"

end LabelProblem

/-- The problem with a character that does not fit where it stands. -/
def problemAt (label : RawText) (place : Nat) (before : Text) (c : Char) : LabelProblem :=
  if isJoiner c then if before.head?.any isNewer then .unnamed else .joiner c place label
  else if isContextual c then .context c place label
  else .character (label[place - 1]?.getD (.char c)) place label

/-- Whether a character may stand in a label between what is before it, which is given from its
end, and what is behind it. -/
def fits (label before : Text) (c : Char) (behind : Text) : Bool :=
  isLetter c || isNewer c ||
    fitsBetween label before c behind && !(isJoiner c && before.head?.any isNewer)

/-- Goes through the characters of a label from a place on. -/
def checkFrom (label : RawText) (text : Text) (place : Nat) (before : Text) :
    Text → Except LabelProblem Unit
  | [] => .ok ()
  | c :: rest =>
    if fits text before c rest then checkFrom label text (place + 1) (c :: before) rest
    else .error (problemAt label place before c)

/-- Hyphens stand neither together in the third and fourth place of a label nor at an end of it. -/
def checkHyphens (label : Text) : Except LabelProblem Unit :=
  if (label.drop 2).take 2 = ['-', '-'] then .error .innerHyphens
  else if label.head? = some '-' || label.getLast? = some '-' then .error .endHyphen
  else .ok ()

/-- A half is taken for a character that no label holds. -/
def checkLabel (label : RawText) : Except LabelProblem Unit := do
  let text := label.shown
  if text.isEmpty then throw .empty
  if !isComposed text then throw .notComposed
  checkHyphens text
  if text.head?.any isMark then throw .markInFront
  checkFrom label text 1 [] text
  (checkDirections text).mapError .direction

def asciiMark : Text := "xn--"

/-- The label that one in ASCII stands for. -/
def decoded (label : Text) : Except LabelProblem RawText :=
  match Text.after? asciiMark label with
  | none => .ok label
  | some [] => .error .noCode
  | some code =>
    if code.getLast? = some '-' then .error .endOfCode
    else (Punycode.decode? code).elim (.error .code) .ok

/-- A label in ASCII is one if it stands for one. -/
def checkAscii (label : Text) : Except LabelProblem Unit := decoded label >>= checkLabel

def maxLabelLength : Nat := 63

/-- The label in ASCII. It does not become shorter by that. -/
def toAscii (label : Text) : Except LabelProblem Text := do
  if maxLabelLength < label.length then throw .long
  if label.all Text.Ascii.isAscii then
    checkAscii label
    return label
  checkLabel label
  let written := asciiMark ++ Punycode.encode label
  if maxLabelLength < written.length then throw .long
  return written

end NfsVolume.Domain
