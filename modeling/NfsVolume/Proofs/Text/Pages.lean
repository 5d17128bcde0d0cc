import NfsVolume.Proofs.Text.Utf8
import NfsVolume.Settings.Pages

/-! Reading a file page by page: the text is the same wherever its octets are cut into pages. -/
namespace NfsVolume.Text

namespace Utf8

/-- Some of the octets of a character, but not all of them. -/
def IsPart (c : Char) (part : List UInt8) : Prop :=
  part ≠ [] ∧ ∃ rest, rest ≠ [] ∧ encodeChar c = part ++ rest

variable {c : Char} {part octets more : List UInt8}

theorem length_encodeChar_le (c : Char) : (encodeChar c).length ≤ 4 := by
  simp only [encodeChar]
  split_ifs <;> simp

/-- What a character lacks is missed at the end of the data. -/
theorem readChar_of_isPart (h : IsPart c part) : readChar part = .error (.endOfData, part.length) := by
  obtain ⟨hpart, rest, hrest, hchar⟩ := h
  obtain ⟨next, rest, rfl⟩ := List.exists_cons_of_ne_nil hrest
  have hread := readChar_encodeChar c []
  have hlength := length_encodeChar_le c
  rw [List.append_nil, hchar] at hread
  rw [hchar] at hlength
  -- a character has at most four octets, so that a part of it has at most three
  rcases part with _ | ⟨first, _ | ⟨second, _ | ⟨third, _ | ⟨fourth, part⟩⟩⟩⟩
  · exact absurd rfl hpart
  · simp only [List.cons_append, List.nil_append, List.length_cons, List.length_nil] at hread ⊢
    unfold readChar at hread ⊢
    grind
  · simp only [List.cons_append, List.nil_append, List.length_cons, List.length_nil] at hread ⊢
    unfold readChar at hread ⊢
    grind
  · simp only [List.cons_append, List.nil_append, List.length_cons, List.length_nil] at hread ⊢
    unfold readChar at hread ⊢
    grind
  · simp only [List.length_append, List.length_cons] at hlength
    omega

/-- The beginning of a written text is that of whole characters, and maybe of a part of one. -/
theorem exists_of_append_eq_encode {text : Text} (h : octets ++ more = encode text) :
    ∃ read left part, text = read ++ left ∧ octets = encode read ++ part ∧
      part ++ more = encode left ∧ (part = [] ∨ ∃ c rest, left = c :: rest ∧ IsPart c part) := by
  induction text generalizing octets with
  | nil =>
    rw [encode_nil, List.append_eq_nil_iff] at h
    exact ⟨[], [], [], rfl, by simp [h.1], by simp [h.2], .inl rfl⟩
  | cons c text ih =>
    rw [encode_cons, List.append_eq_append_iff] at h
    rcases h with ⟨rest, hchar, hmore⟩ | ⟨further, rfl, hmore⟩
    · by_cases hrest : rest = []
      · rw [hrest, List.append_nil] at hchar
        rw [hrest, List.nil_append] at hmore
        exact ⟨[c], text, [], rfl, by simp [hchar], by simp [hmore], .inl rfl⟩
      · refine ⟨[], c :: text, octets, rfl, rfl, by rw [hmore, encode_cons, hchar,
          List.append_assoc], ?_⟩
        by_cases hoctets : octets = []
        · exact .inl hoctets
        · exact .inr ⟨c, text, rfl, hoctets, rest, hrest, hchar⟩
    · obtain ⟨read, left, part, rfl, rfl, hleft, hpart⟩ := ih hmore.symm
      exact ⟨c :: read, left, part, rfl, by simp, hleft, hpart⟩

/-- Behind whole characters, a part of one is reported with its place. -/
theorem decode_append_part (s : Text) (h : IsPart c part) :
    decode (encode s ++ part) = .error ⟨.endOfData, (encode s).length, part⟩ := by
  rw [decode, decodeFrom_encode_append, Nat.zero_add]
  have hread := readChar_of_isPart h
  obtain ⟨first, rest, rfl⟩ := List.exists_cons_of_ne_nil h.1
  rw [decodeFrom, hread]
  dsimp only
  rw [List.take_length]
  rfl

end Utf8

open Utf8

theorem flatten_pagesFrom {fuel : Nat} {octets : List UInt8} (h : octets.length ≤ fuel) :
    (pagesFrom fuel octets).flatten = octets := by
  induction fuel generalizing octets with
  | zero => rw [List.eq_nil_of_length_eq_zero (Nat.le_zero.mp h), pagesFrom, List.flatten_nil]
  | succ fuel ih =>
    cases octets with
    | nil => rfl
    | cons first rest =>
      have hsize : 0 < pageSize := by decide
      have hrest : ((first :: rest).drop pageSize).length ≤ fuel := by
        rw [List.length_drop]
        omega
      rw [pagesFrom, if_neg (by simp), List.flatten_cons, ih hrest, List.take_append_drop]

theorem flatten_pages (octets : List UInt8) : (pages octets).flatten = octets :=
  flatten_pagesFrom (Nat.le_refl _)

/-- Pages, with what is carried over to the first of them, are read as the text of their octets. -/
theorem decodePages_of_encode {carried : List UInt8} {pages : List (List UInt8)} {text : Text}
    (h : carried ++ pages.flatten = encode text) : decodePages carried pages = (text, none) := by
  induction pages generalizing carried text with
  | nil =>
    rw [List.flatten_nil, List.append_nil] at h
    rw [decodePages, h, decode_encode]
  | cons page rest ih =>
    rw [List.flatten_cons, ← List.append_assoc] at h
    obtain ⟨read, left, part, rfl, hoctets, hleft, hpart⟩ := exists_of_append_eq_encode h
    rw [decodePages, hoctets]
    rcases hpart with rfl | ⟨c, more, rfl, hpart⟩
    · rw [List.append_nil, decode_encode]
      dsimp only
      rw [ih hleft]
    · have hunfinished : isUnfinished ⟨.endOfData, (encode read).length, part⟩ part = true := by
        unfold isUnfinished
        split <;> simp
      rw [decode_append_part read hpart]
      dsimp only
      rw [List.drop_left, List.take_left, hunfinished, if_pos rfl, decode_encode, ih hleft]
      rfl

/-- A file with a text in it has the lines of the text. -/
theorem fileLines_encode (text : Text) :
    fileLines (encode text) = (lines text.unifyNewlines, none) := by
  have hpages : decodePages [] (pages (encode text)) = (text, none) :=
    decodePages_of_encode (by rw [List.nil_append, flatten_pages])
  rw [fileLines, hpages]

end NfsVolume.Text
