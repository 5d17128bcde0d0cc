import NfsVolume.Json.Basic
import NfsVolume.Text.Quoted
import NfsVolume.Text.Units

/-!
Writing JSON text in ASCII, on one line or indented, and the text of a value in messages.
-/
namespace NfsVolume.Json

def escapeChar (c : Char) : Text :=
  if c = '"' then "\\\"" else if c = '\\' then "\\\\" else if c = '\n' then "\\n"
  else if c = '\r' then "\\r" else if c = '\t' then "\\t" else if c = '\x08' then "\\b"
  else if c = '\x0c' then "\\f"
  else if 0x20 ≤ c.toNat && c.toNat < 0x7f then [c]
  else (RawText.unitsOf (.char c)).flatMap fun n => "\\u" ++ Text.hexadecimal 4 n

def escapePoint : Point → Text
  | .char c => escapeChar c
  | .half s => s.escaped

def textLiteral (s : RawText) : Text := '"' :: s.flatMap escapePoint ++ ['"']

def doubleLiteral : Binary64 → Text
  | .nan => "NaN"
  | .infinite negative => if negative then "-Infinity" else "Infinity"
  | x => x.toText

/-- What stands between the parts of a value: breaks and blanks, in a layout of lines. -/
structure Layout where
  /-- Blanks per level, or none for a single line. -/
  indent : Option Nat

def Layout.break (l : Layout) (depth : Nat) : Text :=
  match l.indent with
  | none => []
  | some width => '\n' :: List.replicate (width * depth) ' '

def Layout.comma (l : Layout) (depth : Nat) : Text :=
  match l.indent with
  | none => ", "
  | some _ => ',' :: l.break depth

mutual

def render (l : Layout) (depth : Nat) : Json → Text
  | .null => "null"
  | .bool b => if b then "true" else "false"
  | .int n => Text.integer n
  | .double x => doubleLiteral x
  | .text s => textLiteral s
  | .array [] => "[]"
  | .array elements =>
    "[" ++ l.break (depth + 1) ++ Text.join (l.comma (depth + 1)) (renderAll l (depth + 1) elements)
      ++ l.break depth ++ "]"
  | .object [] => "\x7b\x7d"
  | .object members =>
    "\x7b" ++ l.break (depth + 1)
      ++ Text.join (l.comma (depth + 1)) (renderMembers l (depth + 1) members)
      ++ l.break depth ++ "\x7d"

def renderAll (l : Layout) (depth : Nat) : List Json → List Text
  | [] => []
  | v :: rest => render l depth v :: renderAll l depth rest

def renderMembers (l : Layout) (depth : Nat) : List (RawText × Json) → List Text
  | [] => []
  | (name, v) :: rest => (textLiteral name ++ ": " ++ render l depth v) :: renderMembers l depth rest

end

/-- The value on one line. -/
def line (v : Json) : Text := render ⟨none⟩ 0 v

/-- The value on indented lines. -/
def lines (v : Json) : Text := render ⟨some 2⟩ 0 v

mutual

/-- The text of a value inside another one, where text is quoted. -/
def inner : Json → Text
  | .null => "None"
  | .bool b => if b then "True" else "False"
  | .int n => Text.integer n
  | .double x => x.toText
  | .text s => s.quoted
  | .array elements => "[" ++ Text.join ", " (innerAll elements) ++ "]"
  | .object members => "\x7b" ++ Text.join ", " (innerMembers members) ++ "\x7d"

def innerAll : List Json → List Text
  | [] => []
  | v :: rest => inner v :: innerAll rest

def innerMembers : List (RawText × Json) → List Text
  | [] => []
  | (name, v) :: rest => (name.quoted ++ ": " ++ inner v) :: innerMembers rest

end

/-- The text of a value in a message. -/
def toText : Json → RawText
  | .text s => s
  | v => inner v

end NfsVolume.Json
