import NfsVolume.Text.Ascii

/-!
Labels in ASCII letters alone. The characters outside ASCII are taken out of a label, and for each
of them, from the lowest on, it is written how many places and characters to go on from the last
one. The numbers have digits of thirty-six values, the lowest first, and each digit tells by its
size whether it is the last one.
-/
namespace NfsVolume.Domain.Punycode

def base : Nat := 36

/-- A digit below this is the last one of its number. -/
def threshold (bias place : Nat) : Nat := max 1 (min 26 (base * (place + 1) - bias))

theorem one_le_threshold (bias place : Nat) : 1 ≤ threshold bias place := Nat.le_max_left ..

def digitChar (n : Nat) : Char := Char.ofNat (if n < 26 then 0x61 + n else 0x30 + (n - 26))

def digit? (c : Char) : Option Nat :=
  if 'a' ≤ c && c ≤ 'z' then some (c.toNat - 0x61)
  else if '0' ≤ c && c ≤ '9' then some (c.toNat - 0x30 + 26)
  else none

theorem digit?_digitChar {n : Nat} (h : n < base) : digit? (digitChar n) = some n := by
  have all : ∀ k ∈ List.range 36, digit? (digitChar k) = some k := by decide
  exact all n (List.mem_range.2 h)

/-- The digits of a number from a place on. -/
def digits (bias place n : Nat) : Text :=
  let t := threshold bias place
  if n < t then [digitChar n]
  else digitChar (t + (n - t) % (base - t)) :: digits bias (place + 1) ((n - t) / (base - t))
termination_by n
decreasing_by
  have := one_le_threshold bias place
  exact Nat.lt_of_le_of_lt (Nat.div_le_self _ _) (by omega)

/-- Divides a step down to where it makes a difference. -/
def scale (step divisions : Nat) : Nat × Nat :=
  if 455 < step then scale (step / 35) (divisions + 1) else (step, divisions)
termination_by step
decreasing_by exact Nat.div_lt_self (by omega) (by omega)

/-- The bias behind a step, with so many characters in the text by then. -/
def adapt (isFirst : Bool) (step count : Nat) : Nat :=
  let step := step / (if isFirst then 700 else 2)
  let (step, divisions) := scale (step + step / count) 0
  base * divisions + base * step / (step + 38)

structure Encoding where
  written : Text
  step : Nat
  bias : Nat
  /-- How many characters of the text are there by now, and how many of them from the start. -/
  count : Nat
  first : Nat

/-- Goes past a character of the text, or writes the step to it if it is the one that is due. -/
def Encoding.pass (due : Nat) (e : Encoding) (c : Char) : Encoding :=
  if c.toNat < due then { e with step := e.step + 1 }
  else if c.toNat = due then
    { e with
      written := e.written ++ digits e.bias 0 e.step
      step := 0
      bias := adapt (e.count = e.first) e.step (e.count + 1)
      count := e.count + 1 }
  else e

/-- Writes all characters that are due, from the lowest one on that was not looked for yet. -/
def Encoding.run (text : Text) : Nat → List Nat → Encoding → Encoding
  | _, [], e => e
  | lowest, due :: rest, e =>
    let e := { e with step := e.step + (due - lowest) * (e.count + 1) }
    let e := text.foldl (Encoding.pass due) e
    run text (due + 1) rest { e with step := e.step + 1 }

def encode (text : Text) : Text :=
  let kept := text.filter Text.Ascii.isAscii
  let others := ((text.filter fun c => !Text.Ascii.isAscii c).map Char.toNat).mergeSort.eraseDups
  let start := if kept.isEmpty then [] else kept ++ ['-']
  (Encoding.run text 0x80 others ⟨start, 0, 72, kept.length, kept.length⟩).written

/-- The largest number of a character. -/
def maxCode : Nat := 0x10ffff

structure Decoding where
  text : RawText
  /-- The last character put in, and the place behind it. -/
  last : Nat
  place : Nat
  bias : Nat
  isFirst : Bool
  /-- The number that is being read, with how many digits it has and what the next one counts. -/
  number : Nat
  digits : Nat
  weight : Nat

/-- Puts in the character, or the half of one, that a number leads to. -/
def Decoding.insert (d : Decoding) : Option Decoding :=
  let room := d.text.length + 1
  let place := d.place + d.number
  let code := d.last + place / room
  if code ≤ maxCode then
    some {
      text := d.text.insertIdx (place % room) (Point.ofNat code)
      last := code
      place := place % room + 1
      bias := adapt d.isFirst d.number room
      isFirst := false
      number := 0
      digits := 0
      weight := 1 }
  else none

def Decoding.take (d : Decoding) (c : Char) : Option Decoding := do
  let n ← digit? c
  let t := threshold d.bias d.digits
  let d := { d with number := d.number + n * d.weight }
  if n < t then d.insert
  else some { d with digits := d.digits + 1, weight := d.weight * (base - t) }

/-- The text of a label in lower case, if its last number is complete. -/
def decode? (label : Text) : Option RawText := do
  let behind := (label.reverse.takeWhile (· ≠ '-')).reverse
  let kept := label.take (label.length - behind.length - 1)
  let d ← behind.foldlM Decoding.take ⟨RawText.ofText kept, 0x80, 0, 72, true, 0, 0, 1⟩
  if d.digits = 0 then some d.text else none

end NfsVolume.Domain.Punycode
