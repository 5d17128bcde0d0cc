import NfsVolume.Text.Integer

/-!
Whole numbers written in the fields of a request. A plus sign, zeros in front, single underscores
between digits and zeros behind a point are cleaned away; what is left is a number as in JSON.
-/
namespace NfsVolume.Service

inductive NumberFault where
  | malformed
  | tooLong
  deriving DecidableEq, Repr

/-- The digits in front of a text that starts with no zero. -/
def leadingDigits (s : Text) : Text := if s.head? = some '0' then [] else s.takeWhile Char.isDigit

/-- A number without zeros in front, of either sign. One that has too many digits is refused before
it is known how it ends. -/
def plainNumber (s : Text) : Except NumberFault Int :=
  let negative := s.head? = some '-'
  let digits := if negative then s.drop 1 else s
  if Text.Integer.maxDigits < (leadingDigits digits).length then .error .tooLong
  else if digits.isEmpty || !digits.all Char.isDigit || (digits.head? = some '0' && digits ≠ ['0'])
  then .error .malformed
  else
    let n := Nat.ofDigitChars 10 digits 0
    .ok (if negative then -(n : Int) else n)

/-- What is left behind zeros, and underscores among them; a zero before a point stays. -/
def dropZerosFrom (last : Char) : Text → Option Text
  | [] => some [last]
  | c :: rest =>
    if c = '0' || c = '_' then dropZerosFrom c rest
    else if c = '.' then some (last :: c :: rest)
    else if c.isDigit || c = '-' then some (c :: rest)
    else none

def dropZeros : Text → Option Text
  | [] => none
  | c :: rest =>
    if c = '0' then dropZerosFrom '0' rest
    else if c.isDigit || c = '-' then some (c :: rest)
    else none

/-- A point with zeros and nothing else behind it is dropped with them. -/
def dropFraction (s : Text) : Text :=
  match Text.cut? '.' s with
  | some (whole, places) => if !places.isEmpty && places.all (· = '0') then whole else s
  | none => s

/-- Underscores are dropped if each of them stands between two other characters. -/
def dropUnderscores (s : Text) : Text :=
  let pieces := Text.splitOn '_' s
  if pieces.any List.isEmpty then s else pieces.flatten

def cleanDigits (s : Text) : Option Text :=
  (dropZeros s).map fun s => dropUnderscores (dropFraction s)

/-- A minus sign stays where it is; a plus sign is dropped, unless a minus sign follows. -/
def cleanNumber : Text → Option Text
  | '+' :: '-' :: _ => none
  | '+' :: rest => cleanDigits rest
  | '-' :: rest => (cleanDigits rest).map ('-' :: ·)
  | s => cleanDigits s

def trim (s : Text) : Text :=
  Text.dropEndWhile Text.Integer.isMargin (s.dropWhile Text.Integer.isMargin)

/-- Reads a number as it stands, or else cleaned; what was cleaned is never too long, only
malformed. -/
def readNumber (s : Text) : Except NumberFault Int :=
  match plainNumber (trim s) with
  | .error .malformed =>
    match (cleanNumber (trim s)).map plainNumber with
    | some (.ok n) => .ok n
    | _ => .error .malformed
  | r => r

end NfsVolume.Service
