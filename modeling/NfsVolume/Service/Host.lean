import NfsVolume.Domain.Name
import NfsVolume.Failure.Target
import NfsVolume.Text.Case
import NfsVolume.Text.Percent

/-!
The host of a URL: an address of four numbers, an address in brackets, a domain name in any script,
or any other name in ASCII.
-/
namespace NfsVolume.Service.Host

/-- How many digits stand in a row before each other character, and at the end. -/
def digitRuns : Text → List Nat
  | [] => [0]
  | c :: rest =>
    match digitRuns rest with
    | [] => [0]
    | count :: more => if c.isDigit then (count + 1) :: more else 0 :: count :: more

/-- Whether a text looks like four numbers with any one character between two of them, which may be
a digit itself: a run of digits then makes as many numbers as half of its digits, rounded up. -/
def isNumbers (host : Text) : Bool :=
  let runs := digitRuns host
  runs.all (0 < ·) && runs.length ≤ 4 &&
    4 ≤ runs.foldl (fun numbers count => numbers + (count + 1) / 2) 0

/-- A number below 256 without zeros in front. -/
def isOctet (text : Text) : Bool :=
  !text.isEmpty && text.all Char.isDigit && text.length ≤ 3 &&
    (text = ['0'] || text.head? ≠ some '0') && Nat.ofDigitChars 10 text 0 < 256

def isAddress4 (text : Text) : Bool :=
  let parts := Text.splitOn '.' text
  parts.length = 4 && parts.all isOctet

/-- A group of an address in brackets: up to four hexadecimal digits. -/
def isGroup (text : Text) : Bool :=
  !text.isEmpty && text.length ≤ 4 && text.all fun c => (Text.hexDigit? c).isSome

/-- An address in brackets has so many groups. -/
def groupCount : Nat := 8

/-- The groups of an address. One of four numbers at its end takes the room of two. -/
def groups? (text : Text) : Option (List Text) :=
  let parts := Text.splitOn ':' text
  let last := parts.getLast?.getD []
  if parts.length < 3 then none
  else if '.' ∉ last then some parts
  else if isAddress4 last then some (parts.dropLast ++ [['0'], ['0']])
  else none

/-- Whether groups are those of an address, where two colons in a row stand for the groups that are
missing. -/
def areGroups (groups : List Text) : Bool :=
  let inner := (groups.drop 1).dropLast
  match inner.count [] with
  | 0 => groups.length = groupCount && groups.all isGroup
  | 1 =>
    let front := groups.take 1 ++ inner.takeWhile (· ≠ [])
    let back := (inner.dropWhile (· ≠ [])).drop 1 ++ groups.drop (groups.length - 1)
    let front := if front = [[]] then [] else front
    let back := if back = [[]] then [] else back
    front.length + back.length < groupCount && (front ++ back).all isGroup
  | _ => false

/-- An address without the zone that may be named behind a percent sign. -/
def isAddress6 (text : Text) : Bool :=
  let isUsed (address : Text) : Bool := (groups? address).any areGroups
  match Text.cut? '%' text with
  | none => isUsed text
  | some (address, zone) => !zone.isEmpty && '%' ∉ zone && isUsed address

def isInBrackets (host : Text) : Bool := host.head? = some '[' && host.getLast? = some ']'

/-- Characters of a name in ASCII that are escaped. -/
def escapes : List Char := [' ', '<', '>', '[', ']', '^']

/-- A name in characters of other scripts is written in ASCII, if it is a domain name. -/
def readName (host : Text) : Except TargetProblem Text :=
  match Domain.nameInAscii host.lower with
  | .ok name => .ok name
  | .error (.label .unnamed) => .error (.label .unnamed)
  | .error _ => .error (.domainName host)

/-- The host of a URL as it is written there. -/
def read (host : Text) : Except TargetProblem Text :=
  if isNumbers host then if isAddress4 host then .ok host else .error (.address4 host)
  else if isInBrackets host then
    if isAddress6 ((host.drop 1).dropLast) then .ok host else .error (.address6 host)
  else if host.all Text.Ascii.isAscii then .ok (Text.Percent.escape escapes host.lower)
  else readName host

/-- A host that is asked must stand for a name if it is encoded, and a zone must be in ASCII. -/
def check (host : Text) : Except TargetProblem Unit := do
  (Domain.checkName (host.map Char.toLower)).mapError .label
  (Text.Ascii.check host).mapError .zone

end NfsVolume.Service.Host
