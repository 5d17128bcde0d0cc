import NfsVolume.Json.Access
import NfsVolume.Json.Content
import NfsVolume.Json.Places
import NfsVolume.Json.Writer

/-!
Message templates. `%(name)s` stands for a field, `%s` for what is at hand, which at first are all
the fields together, and `%%` for a percent sign. A conversion may have flags, a width and a
precision, as numbers or as stars.
-/
namespace NfsVolume.Template

structure Flags where
  left : Bool := false
  plus : Bool := false
  space : Bool := false
  alternate : Bool := false
  zero : Bool := false

/-- A conversion as it is written behind the percent sign and the field's name. -/
structure Conversion where
  flags : Flags
  width : Nat
  precision : Option Nat
  letter : Char

/-- The rest of a template and how many characters stand before it. -/
structure Cursor where
  position : Nat
  rest : Text

def Cursor.advance (c : Cursor) (count : Nat) : Cursor := ⟨c.position + count, c.rest.drop count⟩

def Flags.add? (f : Flags) : Char → Option Flags
  | '-' => some { f with left := true }
  | '+' => some { f with plus := true }
  | ' ' => some { f with space := true }
  | '#' => some { f with alternate := true }
  | '0' => some { f with zero := true }
  | _ => none

def isFlag (c : Char) : Bool := ((Flags.add? {} c)).isSome

/-- How long a key is whose opening parentheses are closed, one of them before the key. -/
def keyLength : Nat → Text → Option Nat
  | _, [] => none
  | opened, c :: rest =>
    if c = ')' then if opened = 0 then some 0 else (keyLength (opened - 1) rest).map (· + 1)
    else if c = '(' then (keyLength (opened + 1) rest).map (· + 1)
    else (keyLength opened rest).map (· + 1)

def digitsOf (c : Cursor) : Text := c.rest.takeWhile Char.isDigit

/-- Widths and precisions are below these numbers. -/
def widthBound : Nat := Nat.pow 2 63
def precisionBound : Nat := Nat.pow 2 31

/-- A number that is written as a star is the value at hand, which is gone then; so a conversion
with a star never has a value left to convert, and only the value's fitness counts. -/
def starred (bound : Nat) (problem : OverflowProblem) : Option Json → Except Failure Unit
  | none => .error (.shape .noArgument)
  | some (.int n) => if -(bound : Int) ≤ n && n < bound then .ok () else .error (.overflow problem)
  | some (.bool _) => .ok ()
  | some _ => .error (.shape .notWidth)

/-- A number in digits, which is zero if there is none. -/
def written (bound : Nat) (problem : ValueProblem) (digits : Text) : Except Failure Nat :=
  let n := Nat.ofDigitChars 10 digits 0
  if n < bound then .ok n else .error (.value problem)

def widthOf (atHand : Option Json) (c : Cursor) : Except Failure (Nat × Option Json × Cursor) := do
  if c.rest.head? = some '*' then
    starred widthBound .noWord atHand
    return (0, none, c.advance 1)
  return (← written widthBound .largeWidth (digitsOf c), atHand, c.advance (digitsOf c).length)

def precisionOf (atHand : Option Json) (c : Cursor) :
    Except Failure (Option Nat × Option Json × Cursor) := do
  if c.rest.head? ≠ some '.' then return (none, atHand, c)
  let c := c.advance 1
  if c.rest.head? = some '*' then
    starred precisionBound .noHalfWord atHand
    return (none, none, c.advance 1)
  let n ← written precisionBound .largePrecision (digitsOf c)
  return (some n, atHand, c.advance (digitsOf c).length)

def skipSize (c : Cursor) : Cursor :=
  match c.rest with
  | d :: _ => if d = 'h' || d = 'l' || d = 'L' then c.advance 1 else c
  | [] => c

/-- A conversion, and what is still at hand behind it. -/
def conversion (atHand : Option Json) (c : Cursor) :
    Except Failure (Conversion × Option Json × Cursor) := do
  let flagText := c.rest.takeWhile isFlag
  let flags := flagText.foldl (fun f d => (f.add? d).getD f) {}
  let (width, atHand, c) ← widthOf atHand (c.advance flagText.length)
  let (precision, atHand, c) ← precisionOf atHand c
  let c := skipSize c
  match c.rest with
  | [] => .error (.value .incompleteFormat)
  | letter :: _ => return (⟨flags, width, precision, letter⟩, atHand, c.advance 1)

/-- A text in ASCII, all else escaped. -/
def ascii (s : Text) : Text :=
  s.flatMap fun c =>
    if c.toNat < 0x80 then [c]
    else if c.toNat < 0x100 then '\\' :: 'x' :: Text.hexadecimal 2 c.toNat
    else if c.toNat < 0x10000 then '\\' :: 'u' :: Text.hexadecimal 4 c.toNat
    else '\\' :: 'U' :: Text.hexadecimal 8 c.toNat

def writable (v : Json) (text : Text) : Except Failure Text :=
  if v.hasLongNumber then .error (.value .unwritable) else .ok text

def pad (f : Flags) (width : Nat) (fill : Char) (lead body : Text) : Text :=
  let missing := width - (lead ++ body).length
  if f.left then lead ++ body ++ List.replicate missing ' '
  else if fill = '0' then lead ++ List.replicate missing '0' ++ body
  else List.replicate missing ' ' ++ lead ++ body

def padText (k : Conversion) (text : Text) : Text :=
  pad k.flags k.width ' ' [] (match k.precision with
    | some count => text.take count
    | none => text)

def signOf (f : Flags) (negative : Bool) : Text :=
  if negative then "-" else if f.plus then "+" else if f.space then " " else []

def padSigned (k : Conversion) (negative : Bool) (mark digits : Text) : Text :=
  pad k.flags k.width (if k.flags.zero then '0' else ' ') (signOf k.flags negative ++ mark) digits

/-- A whole number may not have more digits than this for its precision. -/
def maxPrecision : Nat := precisionBound - 4

def padNumber (k : Conversion) (n : Int) (mark digits : Text) : Except Failure Text :=
  let count := k.precision.getD 0
  if maxPrecision < count then .error (.overflow .precision)
  else .ok (padSigned k (n < 0) (if k.flags.alternate then mark else [])
    (List.replicate (count - digits.length) '0' ++ digits))

def upperCase (s : Text) : Text := s.map Char.toUpper

def radixNumber (k : Conversion) (v : Json) (mark : Text) (digits : Nat → Text) : Except Failure Text :=
  match v with
  | .double _ => .error (.shape (.notNumber .double))
  | _ => do
    let n ← v.wholePart
    padNumber k n mark (digits n.natAbs)

def character (k : Conversion) (v : Json) : Except Failure Text :=
  let k := { k with precision := none }
  match v with
  | .text [p] => .ok (padText k [p.shown])
  | .bool b => .ok (padText k [Char.ofNat b.toNat])
  | .int n =>
    if 0 ≤ n && n < 0x110000 then .ok (padText k [Char.ofNat n.toNat])
    else .error (.overflow .noCharacter)
  | _ => .error (.shape .notCharacter)

/-- The double that a number is, or is nearest to. -/
def realNumber (v : Json) : Except Failure Binary64 :=
  let ofInt (n : Int) : Except Failure Binary64 :=
    if (Binary64.ofInt n).isFinite then .ok (.ofInt n) else .error (.overflow .noDouble)
  match v with
  | .double x => .ok x
  | .int n => ofInt n
  | .bool b => ofInt b.toNat
  | _ => .error (.shape (.notReal v.kind))

/-- Without a precision, doubles have six places, or six digits. -/
def standardPlaces : Nat := 6

def realDigits (k : Conversion) (m : Nat) (e : Int) : Text :=
  let places := k.precision.getD standardPlaces
  match k.letter with
  | 'f' | 'F' => Binary64.positional k.flags.alternate places m e
  | 'e' | 'E' => Binary64.withPower k.letter k.flags.alternate places m e
  | 'g' => Binary64.general 'e' k.flags.alternate places m e
  | _ => Binary64.general 'E' k.flags.alternate places m e

def real (k : Conversion) (v : Json) : Except Failure Text := do
  let shown (s : Text) := if k.letter.isUpper then upperCase s else s
  return match ← realNumber v with
    | .nan => padSigned k false [] (shown "nan")
    | .infinite negative => padSigned k negative [] (shown "inf")
    | .finite negative m e => padSigned k negative [] (realDigits k m e)

/-- The text of a value by the letter of a conversion, which stands at the given position. -/
def convert (k : Conversion) (position : Nat) (v : Json) : Except Failure Text :=
  match k.letter with
  | 's' => (writable v v.toText.shown).map (padText k)
  | 'r' => (writable v v.inner).map (padText k)
  | 'a' => (writable v (ascii v.inner)).map (padText k)
  | 'd' | 'i' | 'u' => do
    let n ← v.wholePart
    padNumber k n [] (← writeInteger n.natAbs)
  | 'o' => radixNumber k v "0o" (Nat.toDigits 8)
  | 'x' => radixNumber k v "0x" (Nat.toDigits 16)
  | 'X' => radixNumber k v "0X" fun n => upperCase (Nat.toDigits 16 n)
  | 'c' => character k v
  | 'e' | 'E' | 'f' | 'F' | 'g' | 'G' => real k v
  | c => .error (.value (.conversion c position))

/-- Fills what is left of a template. At hand is the value that a conversion without a name takes;
the fuel is more than the length of the rest. -/
def fillFrom (fields : List (RawText × Json)) : Nat → Option Json → Cursor → Except Failure Text
  | 0, _, _ => .ok []
  | fuel + 1, atHand, c =>
    match c.rest with
    | [] => .ok []
    | '%' :: '%' :: _ => return '%' :: (← fillFrom fields fuel atHand (c.advance 2))
    | '%' :: _ => do
      let afterPercent := c.advance 1
      let (atHand, afterKey) ←
        match afterPercent.rest with
        | '(' :: inside =>
          match keyLength 0 inside with
          | none => .error (.value .incompleteKey)
          | some count =>
            match Json.lookup (inside.take count) fields with
            | none => .error (.shape (.missing (Text.quoted (inside.take count))))
            | some v => .ok (some v, afterPercent.advance (count + 2))
        | _ => .ok (atHand, afterPercent)
      let (k, left, next) ← conversion atHand afterKey
      match left with
      | none => .error (.shape .noArgument)
      | some v =>
        let text ← convert k (next.position - 1) v
        return text ++ (← fillFrom fields fuel none next)
    | d :: _ => return d :: (← fillFrom fields fuel atHand (c.advance 1))

def fill (template : Text) (fields : List (RawText × Json)) : Except Failure Text :=
  fillFrom fields (template.length + 1) (some (.object fields)) ⟨0, template⟩

/-- Names that a field may not bear. -/
def taken : List RawText := ["self", "message"]

/-- The text of a failure with fields of its own: the wording that is given, or else the standard
one, filled with the fields. -/
def compose (standard : Text) (given : Json) (fields : List (RawText × Json)) : Except Failure Text :=
  match fields.find? fun f => taken.contains f.1 with
  | some f => .error (.shape (.repeatedName f.1.shown))
  | none =>
    if given.isEmpty then fill standard fields
    else
      match given with
      | .text template => fill template.shown fields
      | _ => .error (.shape (.noTemplate given.kind))

end NfsVolume.Template
