import NfsVolume.Text.Ascii
import NfsVolume.Text.Utf8

/-!
Text with octets written as a percent sign and two hexadecimal digits. A percent sign that no such
digits follow stands for itself.
-/
namespace NfsVolume.Text.Percent

def octets : Text → List UInt8
  | '%' :: a :: b :: rest =>
    match hexDigit? a, hexDigit? b with
    | some high, some low => (high * 16 + low).toUInt8 :: octets rest
    | _, _ => 0x25 :: octets (a :: b :: rest)
  | c :: rest => Utf8.encodeChar c ++ octets rest
  | [] => []

/-- The text that the octets are, if they are one. -/
def decode? (s : Text) : Option Text := (Utf8.decode (octets s)).toOption

/-- The text that the octets are, with what cannot be read shown as such. -/
def decodeShowing (s : Text) : Text := Utf8.decodeShowing (octets s)

def escapeOctet (b : UInt8) : Text := '%' :: (Text.hexadecimal 2 b.toNat).map Char.toUpper

/-- Escapes some characters of ASCII and all others, octet by octet. Percent signs are kept. -/
def escape (escapes : List Char) (s : Text) : Text :=
  s.flatMap fun c =>
    if Ascii.isAscii c && !escapes.contains c then [c] else (Utf8.encodeChar c).flatMap escapeOctet

theorem octets_of_not_mem {s : Text} (h : '%' ∉ s) : octets s = Utf8.encode s := by
  induction s with
  | nil => rfl
  | cons c rest ih =>
    simp only [List.mem_cons, not_or] at h
    rw [octets.eq_2 _ _ fun _ _ _ hc _ => h.1 hc.symm]
    simp [ih h.2, Utf8.encode]

end NfsVolume.Text.Percent
