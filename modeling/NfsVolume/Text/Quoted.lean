import NfsVolume.Text.Printable
import NfsVolume.Text.Raw

/-!
Quoted text. Single quotes stand around it, or double quotes if it holds a single quote and no
double one; what is not printable is escaped.
-/
namespace NfsVolume.Text

/-- A number in hexadecimal with at least the given count of digits. -/
def hexadecimal (width n : Nat) : Text :=
  let digits := Nat.toDigits 16 n
  List.replicate (width - digits.length) '0' ++ digits

def quoteFor (s : Text) : Char := if '\'' ∈ s && '"' ∉ s then '"' else '\''

/-- A character written by its number. -/
def escaped (c : Char) : Text :=
  let n := c.toNat
  if n < 0x100 then '\\' :: 'x' :: hexadecimal 2 n
  else if n < 0x10000 then '\\' :: 'u' :: hexadecimal 4 n
  else '\\' :: 'U' :: hexadecimal 8 n

def escapeIn (quote c : Char) : Text :=
  if c = quote || c = '\\' then ['\\', c]
  else if c = '\n' then ['\\', 'n']
  else if c = '\r' then ['\\', 'r']
  else if c = '\t' then ['\\', 't']
  else if isPrintable c then [c]
  else escaped c

def quoted (s : Text) : Text :=
  let quote := quoteFor s
  quote :: s.flatMap (escapeIn quote) ++ [quote]

end NfsVolume.Text

namespace NfsVolume

def Surrogate.escaped (s : Surrogate) : Text := '\\' :: 'u' :: Text.hexadecimal 4 s.number

namespace RawText

def escapeIn (quote : Char) : Point → Text
  | .char c => Text.escapeIn quote c
  | .half s => s.escaped

def quoted (s : RawText) : Text :=
  let quote := Text.quoteFor s.shown
  quote :: s.flatMap (escapeIn quote) ++ [quote]

/-- Lone halves alone are escaped. -/
def escapeHalves (s : RawText) : Text :=
  s.flatMap fun
    | .char c => [c]
    | .half s => s.escaped

theorem quoted_ofText (s : Text) : (ofText s).quoted = Text.quoted s := by
  simp [quoted, Text.quoted, ofText, escapeIn, List.flatMap_map, shown, Function.comp_def,
    Point.shown]

end RawText
end NfsVolume
