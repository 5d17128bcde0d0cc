import NfsVolume.Text.Newline
import NfsVolume.Text.Utf8

/-!
Reading a text file line by line. The file comes page by page, each decoded as a whole before its
lines are used, so the lines of the pages before a fault are read and the others are not.
-/
namespace NfsVolume.Text

def pageSize : Nat := 8192

def pagesFrom : Nat → List UInt8 → List (List UInt8)
  | 0, _ => []
  | fuel + 1, octets =>
    if octets.isEmpty then [] else octets.take pageSize :: pagesFrom fuel (octets.drop pageSize)

def pages (octets : List UInt8) : List (List UInt8) := pagesFrom octets.length octets

/-- Octets at the end of a page that may begin a character: those of one that is not complete, and
the first two of a surrogate, which is found to be none when the third one is there. -/
def isUnfinished (e : Utf8.ReadError) (left : List UInt8) : Bool :=
  match left with
  | [a, b] => e.fault = .endOfData || (a = 0xed && 0xa0 ≤ b && b < 0xc0)
  | _ => e.fault = .endOfData

/-- The text of the pages that can be read. Octets of a character that may go on in the next page
are carried over to it. -/
def decodePages (carried : List UInt8) : List (List UInt8) → Text × Option Utf8.ReadError
  | [] =>
    match Utf8.decode carried with
    | .ok text => (text, none)
    | .error e => ([], some e)
  | page :: rest =>
    let octets := carried ++ page
    match Utf8.decode octets with
    | .ok text =>
      let r := decodePages [] rest
      (text ++ r.1, r.2)
    | .error e =>
      if isUnfinished e (octets.drop e.position) then
        let r := decodePages (octets.drop e.position) rest
        ((Utf8.decode (octets.take e.position)).toOption.getD [] ++ r.1, r.2)
      else ([], some e)

/-- A carriage return at the end of a text that breaks off may belong to a line feed to come. -/
def dropFinalReturn (s : Text) : Text := if s.getLast? = some '\r' then s.dropLast else s

/-- The complete lines of a file, and what stops it from being read to its end. -/
def fileLines (octets : List UInt8) : List Text × Option Utf8.ReadError :=
  match decodePages [] (pages octets) with
  | (text, none) => (lines text.unifyNewlines, none)
  | (text, some e) =>
    ((lines (dropFinalReturn text).unifyNewlines).filter fun l => l.getLast? = some '\n', some e)

end NfsVolume.Text
