import NfsVolume.Text.Quoted
import NfsVolume.Text.Integer

/-!
Text as UTF-8 octets. Only the shortest form of a character is read, and no surrogates; what
cannot be read is reported with its place and its octets.
-/
namespace NfsVolume.Text.Utf8

def encodeChar (c : Char) : List UInt8 :=
  let n := c.toNat
  if n < 0x80 then [n.toUInt8]
  else if n < 0x800 then [(0xc0 + n / 64).toUInt8, (0x80 + n % 64).toUInt8]
  else if n < 0x10000 then
    [(0xe0 + n / 4096).toUInt8, (0x80 + n / 64 % 64).toUInt8, (0x80 + n % 64).toUInt8]
  else
    [(0xf0 + n / 262144).toUInt8, (0x80 + n / 4096 % 64).toUInt8, (0x80 + n / 64 % 64).toUInt8,
      (0x80 + n % 64).toUInt8]

def encode (s : Text) : List UInt8 := s.flatMap encodeChar

inductive Fault where
  | startOctet
  | continuation
  | endOfData
  deriving DecidableEq, Repr

structure ReadError where
  fault : Fault
  /-- How many octets stand before those at fault. -/
  position : Nat
  octets : List UInt8
  deriving DecidableEq, Repr

def isContinuation (b : UInt8) : Bool := 0x80 ≤ b && b < 0xc0

/-- The second octet rules out the longer forms of a character, surrogates, and what is too large. -/
def isSecond (first second : UInt8) : Bool :=
  isContinuation second &&
    if first = 0xe0 then 0xa0 ≤ second
    else if first = 0xed then second < 0xa0
    else if first = 0xf0 then 0x90 ≤ second
    else if first = 0xf4 then second < 0x90
    else true

def low (b : UInt8) : Nat := b.toNat % 64

/-- The first character and how many octets it takes, or how many octets are at fault. -/
def readChar : List UInt8 → Except (Fault × Nat) (Char × Nat)
  | [] => .error (.endOfData, 0)
  | a :: rest =>
    if a < 0x80 then .ok (Char.ofNat a.toNat, 1)
    else if a < 0xc2 || 0xf5 ≤ a then .error (.startOctet, 1)
    else
      match rest with
      | [] => .error (.endOfData, 1)
      | b :: rest =>
        if !isSecond a b then .error (.continuation, 1)
        else if a < 0xe0 then .ok (Char.ofNat ((a.toNat - 0xc0) * 64 + low b), 2)
        else
          match rest with
          | [] => .error (.endOfData, 2)
          | c :: rest =>
            if !isContinuation c then .error (.continuation, 2)
            else if a < 0xf0 then
              .ok (Char.ofNat ((a.toNat - 0xe0) * 4096 + low b * 64 + low c), 3)
            else
              match rest with
              | [] => .error (.endOfData, 3)
              | d :: _ =>
                if !isContinuation d then .error (.continuation, 3)
                else
                  .ok (Char.ofNat ((a.toNat - 0xf0) * 262144 + low b * 4096 + low c * 64 + low d), 4)

/-- Reads from a position, where the next `skip` octets belong to a character already read. -/
def decodeFrom : Nat → Nat → List UInt8 → Except ReadError Text
  | _, _, [] => .ok []
  | position, skip + 1, _ :: rest => decodeFrom (position + 1) skip rest
  | position, 0, a :: rest =>
    match readChar (a :: rest) with
    | .error (fault, count) => .error ⟨fault, position, (a :: rest).take count⟩
    | .ok (c, count) => (decodeFrom (position + 1) (count - 1) rest).map (c :: ·)

def decode (octets : List UInt8) : Except ReadError Text := decodeFrom 0 0 octets

/-- As for `decodeFrom`, with one character in place of the octets of each fault. -/
def showFrom : Nat → List UInt8 → Text
  | _, [] => []
  | skip + 1, _ :: rest => showFrom skip rest
  | 0, a :: rest =>
    match readChar (a :: rest) with
    | .error (_, count) => '\ufffd' :: showFrom (count - 1) rest
    | .ok (c, count) => c :: showFrom (count - 1) rest

def decodeShowing (octets : List UInt8) : Text := showFrom 0 octets

def Fault.message : Fault → Text
  | .startOctet => "invalid start byte"
  | .continuation => "invalid continuation byte"
  | .endOfData => "unexpected end of data"

def ReadError.place (e : ReadError) : Text :=
  match e.octets with
  | [b] => "byte 0x" ++ hexadecimal 2 b.toNat ++ " in position " ++ decimal e.position
  | _ =>
    "bytes in position " ++ decimal e.position ++ "-" ++ decimal (e.position + e.octets.length - 1)

def ReadError.message (e : ReadError) : Text :=
  "'utf-8' codec can't decode " ++ e.place ++ ": " ++ e.fault.message

/-- A text with lone halves of surrogates cannot be written: the first of them, and how many stand
in a row there. -/
structure WriteError where
  position : Nat
  first : Surrogate
  count : Nat
  deriving DecidableEq, Repr

def checkFrom (position : Nat) : RawText → Except WriteError Text
  | [] => .ok []
  | .char c :: rest => (checkFrom (position + 1) rest).map (c :: ·)
  | .half s :: rest => .error ⟨position, s, (rest.takeWhile Point.isHalf).length + 1⟩

/-- The text, if it can be written. -/
def check (s : RawText) : Except WriteError Text := checkFrom 0 s

def WriteError.place (e : WriteError) : Text :=
  if e.count = 1 then "character '" ++ e.first.escaped ++ "' in position " ++ decimal e.position
  else "characters in position " ++ decimal e.position ++ "-" ++ decimal (e.position + e.count - 1)

def WriteError.message (e : WriteError) : Text :=
  "'utf-8' codec can't encode " ++ e.place ++ ": surrogates not allowed"

theorem checkFrom_ofText (position : Nat) (s : Text) :
    checkFrom position (RawText.ofText s) = .ok s := by
  induction s generalizing position with
  | nil => rfl
  | cons c rest ih =>
    simp only [RawText.ofText, List.map_cons, checkFrom]
    rw [← RawText.ofText, ih]
    rfl

theorem check_ofText (s : Text) : check s = .ok s := checkFrom_ofText 0 s

theorem decodeFrom_skip (position : Nat) (head rest : List UInt8) :
    decodeFrom position head.length (head ++ rest) = decodeFrom (position + head.length) 0 rest := by
  induction head generalizing position with
  | nil => rfl
  | cons b head ih =>
    simp only [List.length_cons, List.cons_append, decodeFrom, ih]
    congr 1
    omega

end NfsVolume.Text.Utf8
