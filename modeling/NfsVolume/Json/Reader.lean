import NfsVolume.Json.Basic
import NfsVolume.Text.Units

/-!
Reading JSON text. Beside the standard's values the reader takes `NaN`, `Infinity` and
`-Infinity`; a fault is reported with the place where it shows. Arrays and objects are read down to
a fixed depth.
-/
namespace NfsVolume.Json

inductive Fault where
  | value | extraData | memberName | colon | comma
  | unterminated | controlCharacter | escape | unicodeEscape | byteOrderMark
  deriving DecidableEq, Repr

inductive ReadError where
  | malformed (fault : Fault) (line column position : Nat)
  | tooManyDigits (count : Nat)
  /-- An array or an object is inside too many others. -/
  | tooDeep (kind : Kind)
  deriving DecidableEq, Repr

namespace Reader

/-- So many arrays and objects can be inside each other. -/
def maxNesting : Nat := 975

/-- The rest of the text and how many characters stand before it. -/
structure Cursor where
  position : Nat
  rest : RawText

inductive Stop where
  | at (fault : Fault) (position : Nat)
  | digits (count : Nat)
  | deep (kind : Kind)

abbrev Step (α : Type) := Except Stop (α × Cursor)

def isSpace (p : Point) : Bool :=
  p = .char ' ' || p = .char '\t' || p = .char '\n' || p = .char '\r'

def Cursor.advance (c : Cursor) (count : Nat) : Cursor := ⟨c.position + count, c.rest.drop count⟩

def Cursor.skipSpace (c : Cursor) : Cursor := c.advance (c.rest.takeWhile isSpace).length

def Cursor.stop {α : Type} (c : Cursor) (fault : Fault) : Step α := .error (.at fault c.position)

/-- The point numbered by the first four characters, which at least one more must follow. -/
def hexPoint? : RawText → Option Point
  | .char a :: .char b :: .char c :: .char d :: _ :: _ => do
    let a ← Text.hexDigit? a
    let b ← Text.hexDigit? b
    let c ← Text.hexDigit? c
    let d ← Text.hexDigit? d
    some (.ofNat (((a * 16 + b) * 16 + c) * 16 + d))
  | _ => none

/-- Whether a second half may come behind a point. -/
def isFirstHalf : Point → Bool
  | .half s => s.isHigh
  | .char _ => false

/-- The point of an escape that begins with `\u`, and how many characters follow the `u`. -/
def unicodeEscape (afterU : Cursor) : Except Stop (Point × Nat) :=
  match hexPoint? afterU.rest with
  | none => .error (.at .unicodeEscape (afterU.position - 1))
  | some first =>
    match isFirstHalf first, afterU.rest.drop 4 with
    | true, .char '\\' :: .char 'u' :: more =>
      if more.length ≤ 4 then .ok (first, 4)
      else
        match hexPoint? more with
        | none => .error (.at .unicodeEscape (afterU.position + 5))
        | some second =>
          match RawText.pair? first second with
          | some c => .ok (.char c, 10)
          | none => .ok (first, 4)
    | _, _ => .ok (first, 4)

def simpleEscape? : Char → Option Char
  | '"' => some '"'
  | '\\' => some '\\'
  | '/' => some '/'
  | 'b' => some '\x08'
  | 'f' => some '\x0c'
  | 'n' => some '\n'
  | 'r' => some '\r'
  | 't' => some '\t'
  | _ => none

/-- The point of an escape from behind its backslash on, and how many points follow it. -/
def escape (opened position : Nat) : RawText → Except Stop (Point × Nat)
  | [] => .error (.at .unterminated opened)
  | .char 'u' :: more => (unicodeEscape ⟨position + 2, more⟩).map fun r => (r.1, r.2 + 1)
  | .char c :: _ =>
    match simpleEscape? c with
    | some d => .ok (.char d, 1)
    | none => .error (.at .escape position)
  | .half _ :: _ => .error (.at .escape position)

def isControl (p : Point) : Bool := p.shown.toNat < 0x20

/-- The points of a string up to its closing quote; the next `skip` belong to an escape. -/
def stringFrom (opened : Nat) : Nat → Nat → RawText → Step RawText
  | _, _, [] => .error (.at .unterminated opened)
  | position, skip + 1, _ :: rest => stringFrom opened (position + 1) skip rest
  | position, 0, p :: rest =>
    if p = .char '"' then .ok ([], ⟨position + 1, rest⟩)
    else if p = .char '\\' then
      match escape opened position rest with
      | .error stop => .error stop
      | .ok (q, count) => (stringFrom opened (position + 1) count rest).map fun r => (q :: r.1, r.2)
    else if isControl p then .error (.at .controlCharacter position)
    else (stringFrom opened (position + 1) 0 rest).map fun r => (p :: r.1, r.2)

def digitsOf (s : Text) : Text := s.takeWhile Char.isDigit

/-- The digits of a whole number without its sign: a zero, or digits that start with none. -/
def wholeDigits : Text → Text
  | '0' :: _ => ['0']
  | s => digitsOf s

/-- A point and the digits behind it, of which there must be one. -/
def fraction : Text → Text
  | '.' :: rest => if (digitsOf rest).isEmpty then [] else '.' :: digitsOf rest
  | _ => []

def exponentSign : Text → Text
  | '+' :: _ => ['+']
  | '-' :: _ => ['-']
  | _ => []

def exponentPart : Text → Text
  | c :: rest =>
    let sign := exponentSign rest
    let digits := digitsOf (rest.drop sign.length)
    if (c = 'e' || c = 'E') && !digits.isEmpty then c :: sign ++ digits else []
  | [] => []

/-- Whether a number can hold a character. -/
def isInNumber (c : Char) : Bool := c.isDigit || c = '-' || c = '+' || c = '.' || c = 'e' || c = 'E'

def number (c : Cursor) : Step Json :=
  let text := c.rest.leading isInNumber
  let sign : Text := if text.head? = some '-' then ['-'] else []
  let body := text.drop sign.length
  let whole := wholeDigits body
  let point := fraction (body.drop whole.length)
  let power := exponentPart (body.drop (whole.length + point.length))
  let next := c.advance (sign.length + whole.length + point.length + power.length)
  if whole.isEmpty then c.stop .value
  else if point.isEmpty && power.isEmpty then
    if Text.Integer.maxDigits < whole.length then .error (.digits whole.length)
    else .ok (.int (Binary64.signed (!sign.isEmpty) (Nat.ofDigitChars 10 whole 0)), next)
  else
    let places := point.drop 1
    let powerSign := exponentSign (power.drop 1)
    let powerValue := Nat.ofDigitChars 10 (power.drop (1 + powerSign.length)) 0
    .ok (.double (Binary64.ofDecimal (!sign.isEmpty) (Nat.ofDigitChars 10 (whole ++ places) 0)
      (Binary64.signed (powerSign = ['-']) powerValue - places.length)), next)

/-- The named values. -/
def words : List (RawText × Json) := [
  ("null", .null), ("true", .bool true), ("false", .bool false), ("NaN", .double .nan),
  ("Infinity", .double (.infinite false)), ("-Infinity", .double (.infinite true))]

def word? (c : Cursor) : Option (Json × Cursor) :=
  words.findSome? fun w =>
    (Text.after? w.1 c.rest).map fun rest => (w.2, ⟨c.position + w.1.length, rest⟩)

mutual

/-- A value in which there is room for so many levels; the fuel is more than the values and parts of
values that the text can hold. -/
def value : Nat → Nat → Cursor → Step Json
  | 0, _, c => c.stop .value
  | fuel + 1, room, c =>
    match c.rest with
    | [] => c.stop .value
    | .char '"' :: rest =>
      (stringFrom c.position (c.position + 1) 0 rest).map fun r => (.text r.1, r.2)
    | .char '[' :: rest =>
      let inside := Cursor.skipSpace ⟨c.position + 1, rest⟩
      if room = 0 then .error (.deep .array)
      else if inside.rest.head? = some (.char ']') then .ok (.array [], inside.advance 1)
      else (elements fuel (room - 1) inside).map fun r => (.array r.1, r.2)
    | .char '{' :: rest =>
      let inside := Cursor.skipSpace ⟨c.position + 1, rest⟩
      if room = 0 then .error (.deep .object)
      else if inside.rest.head? = some (.char '}') then .ok (.object [], inside.advance 1)
      else (members fuel (room - 1) [] inside).map fun r => (.object r.1, r.2)
    | _ =>
      match word? c with
      | some r => .ok r
      | none => number c

/-- The elements of an array from the first one on, and the bracket behind them. -/
def elements : Nat → Nat → Cursor → Step (List Json)
  | 0, _, c => c.stop .value
  | fuel + 1, room, c =>
    match value fuel room c with
    | .error stop => .error stop
    | .ok (v, next) =>
      let next := next.skipSpace
      match next.rest with
      | .char ']' :: _ => .ok ([v], next.advance 1)
      | .char ',' :: _ =>
        (elements fuel room (next.advance 1).skipSpace).map fun r => (v :: r.1, r.2)
      | _ => next.stop .comma

/-- The members of an object, added to those before them, and the brace behind them. -/
def members : Nat → Nat → List (RawText × Json) → Cursor → Step (List (RawText × Json))
  | 0, _, _, c => c.stop .memberName
  | fuel + 1, room, before, c =>
    match c.rest with
    | .char '"' :: rest =>
      match stringFrom c.position (c.position + 1) 0 rest with
      | .error stop => .error stop
      | .ok (name, next) =>
        let next := next.skipSpace
        match next.rest with
        | .char ':' :: _ =>
          match value fuel room (next.advance 1).skipSpace with
          | .error stop => .error stop
          | .ok (v, next) =>
            let next := next.skipSpace
            match next.rest with
            | .char '}' :: _ => .ok (put name v before, next.advance 1)
            | .char ',' :: _ => members fuel room (put name v before) (next.advance 1).skipSpace
            | _ => next.stop .comma
        | _ => next.stop .colon
    | _ => c.stop .memberName

end

def document (text : RawText) : Except Stop Json :=
  match text with
  | .char '\ufeff' :: _ => .error (.at .byteOrderMark 0)
  | _ =>
    match value (2 * text.length + 2) maxNesting (Cursor.skipSpace ⟨0, text⟩) with
    | .error stop => .error stop
    | .ok (v, next) =>
      let next := next.skipSpace
      if next.rest.isEmpty then .ok v else .error (.at .extraData next.position)

def Stop.place (text : RawText) : Stop → ReadError
  | .digits count => .tooManyDigits count
  | .deep kind => .tooDeep kind
  | .at fault position =>
    let before := text.take position
    .malformed fault (before.count (.char '\n') + 1)
      ((before.reverse.takeWhile (· ≠ .char '\n')).length + 1) position

end Reader

def read (text : RawText) : Except ReadError Json :=
  match Reader.document text with
  | .ok v => .ok v
  | .error stop => .error (stop.place text)

def Fault.message : Fault → Text
  | .value => "Expecting value"
  | .extraData => "Extra data"
  | .memberName => "Expecting property name enclosed in double quotes"
  | .colon => "Expecting ':' delimiter"
  | .comma => "Expecting ',' delimiter"
  | .unterminated => "Unterminated string starting at"
  | .controlCharacter => "Invalid control character at"
  | .escape => "Invalid \\escape"
  | .unicodeEscape => "Invalid \\uXXXX escape"
  | .byteOrderMark => "Unexpected UTF-8 BOM (decode using utf-8-sig)"

end NfsVolume.Json
