import NfsVolume.Text.Utf8
import Mathlib.Data.Bool.Basic
import Mathlib.Tactic.SplitIfs

/-! Writing text as octets and reading it back: each undoes the other. -/
namespace NfsVolume.Text.Utf8

@[simp]
theorem encode_nil : encode [] = [] := rfl

@[simp]
theorem encode_cons (c : Char) (s : Text) : encode (c :: s) = encodeChar c ++ encode s := rfl

@[simp]
theorem encode_append (s t : Text) : encode (s ++ t) = encode s ++ encode t := by
  simp [encode, List.flatMap_append]

theorem encodeChar_ne_nil (c : Char) : encodeChar c ≠ [] := by
  simp only [encodeChar]
  split_ifs <;> simp

private theorem toNat_toUInt8 {n : Nat} (h : n < 256) : n.toUInt8.toNat = n := by
  simp [Nat.mod_eq_of_lt h]

/-- A written character is read again, whatever follows it. -/
theorem readChar_encodeChar (c : Char) (rest : List UInt8) :
    readChar (encodeChar c ++ rest) = .ok (c, (encodeChar c).length) := by
  have hc : c.toNat < 0xd800 ∨ 0xdfff < c.toNat ∧ c.toNat < 0x110000 := c.valid
  have hself : Char.ofNat c.toNat = c := Char.ofNat_toNat c
  simp only [encodeChar]
  generalize c.toNat = n at hc hself
  -- the comparisons of octets in `readChar` become ones of their numbers, one case per length
  split_ifs with h₁ h₂ h₃
  · have ha := toNat_toUInt8 (n := n) (by omega)
    simp only [List.cons_append, List.nil_append, readChar, UInt8.lt_iff_toNat_lt, ha]
    simp [h₁, hself]
  · have ha := toNat_toUInt8 (n := 0xc0 + n / 64) (by omega)
    have hb := toNat_toUInt8 (n := 0x80 + n % 64) (by omega)
    generalize (0xc0 + n / 64).toUInt8 = a at ha
    generalize (0x80 + n % 64).toUInt8 = b at hb
    simp only [List.cons_append, List.nil_append, readChar, isSecond, isContinuation, low,
      ← UInt8.toNat_inj, UInt8.lt_iff_toNat_lt, UInt8.le_iff_toNat_le, ha, hb, UInt8.reduceToNat]
    grind
  · have ha := toNat_toUInt8 (n := 0xe0 + n / 4096) (by omega)
    have hb := toNat_toUInt8 (n := 0x80 + n / 64 % 64) (by omega)
    have hd := toNat_toUInt8 (n := 0x80 + n % 64) (by omega)
    generalize (0xe0 + n / 4096).toUInt8 = a at ha
    generalize (0x80 + n / 64 % 64).toUInt8 = b at hb
    generalize (0x80 + n % 64).toUInt8 = d at hd
    simp only [List.cons_append, List.nil_append, readChar, isSecond, isContinuation, low,
      ← UInt8.toNat_inj, UInt8.lt_iff_toNat_lt, UInt8.le_iff_toNat_le, ha, hb, hd,
      UInt8.reduceToNat]
    have hn : (0xe0 + n / 4096 - 0xe0) * 4096 + (0x80 + n / 64 % 64) % 64 * 64 +
        (0x80 + n % 64) % 64 = n := by omega
    grind
  · have ha := toNat_toUInt8 (n := 0xf0 + n / 262144) (by omega)
    have hb := toNat_toUInt8 (n := 0x80 + n / 4096 % 64) (by omega)
    have hd := toNat_toUInt8 (n := 0x80 + n / 64 % 64) (by omega)
    have he := toNat_toUInt8 (n := 0x80 + n % 64) (by omega)
    generalize (0xf0 + n / 262144).toUInt8 = a at ha
    generalize (0x80 + n / 4096 % 64).toUInt8 = b at hb
    generalize (0x80 + n / 64 % 64).toUInt8 = d at hd
    generalize (0x80 + n % 64).toUInt8 = e at he
    simp only [List.cons_append, List.nil_append, readChar, isSecond, isContinuation, low,
      ← UInt8.toNat_inj, UInt8.lt_iff_toNat_lt, UInt8.le_iff_toNat_le, ha, hb, hd, he,
      UInt8.reduceToNat]
    have hn : (0xf0 + n / 262144 - 0xf0) * 262144 + (0x80 + n / 4096 % 64) % 64 * 4096 +
        (0x80 + n / 64 % 64) % 64 * 64 + (0x80 + n % 64) % 64 = n := by omega
    grind

theorem toNat_ofNat {n : Nat} (h : n < 0xd800 ∨ 0xdfff < n ∧ n < 0x110000) :
    (Char.ofNat n).toNat = n := by
  have hv : n.isValidChar := h
  rw [Char.ofNat, dif_pos hv]
  rfl

private theorem toUInt8_eq {n : Nat} {a : UInt8} (h : n = a.toNat) : n.toUInt8 = a := by
  subst h
  exact UInt8.ofNat_toNat

private theorem encodeChar_one {a : UInt8} (ha : a.toNat < 0x80) :
    encodeChar (Char.ofNat a.toNat) = [a] := by
  simp only [encodeChar]
  rw [toNat_ofNat (by omega), if_pos ha, toUInt8_eq rfl]

private theorem encodeChar_two {a b : UInt8} (ha : 0xc2 ≤ a.toNat ∧ a.toNat < 0xe0)
    (hb : 0x80 ≤ b.toNat ∧ b.toNat < 0xc0) :
    encodeChar (Char.ofNat ((a.toNat - 0xc0) * 64 + b.toNat % 64)) = [a, b] := by
  simp only [encodeChar]
  rw [toNat_ofNat (by omega), if_neg (by omega), if_pos (by omega),
    toUInt8_eq (a := a) (by omega), toUInt8_eq (a := b) (by omega)]

private theorem encodeChar_three {a b d : UInt8} (ha : 0xe0 ≤ a.toNat ∧ a.toNat < 0xf0)
    (hb : 0x80 ≤ b.toNat ∧ b.toNat < 0xc0) (hd : 0x80 ≤ d.toNat ∧ d.toNat < 0xc0)
    (hlong : a.toNat = 0xe0 → 0xa0 ≤ b.toNat) (hhalf : a.toNat = 0xed → b.toNat < 0xa0) :
    encodeChar (Char.ofNat ((a.toNat - 0xe0) * 4096 + b.toNat % 64 * 64 + d.toNat % 64)) =
      [a, b, d] := by
  simp only [encodeChar]
  rw [toNat_ofNat (by omega), if_neg (by omega), if_neg (by omega), if_pos (by omega),
    toUInt8_eq (a := a) (by omega), toUInt8_eq (a := b) (by omega), toUInt8_eq (a := d) (by omega)]

private theorem encodeChar_four {a b d e : UInt8} (ha : 0xf0 ≤ a.toNat ∧ a.toNat < 0xf5)
    (hb : 0x80 ≤ b.toNat ∧ b.toNat < 0xc0) (hd : 0x80 ≤ d.toNat ∧ d.toNat < 0xc0)
    (he : 0x80 ≤ e.toNat ∧ e.toNat < 0xc0) (hlong : a.toNat = 0xf0 → 0x90 ≤ b.toNat)
    (hlarge : a.toNat = 0xf4 → b.toNat < 0x90) :
    encodeChar (Char.ofNat ((a.toNat - 0xf0) * 262144 + b.toNat % 64 * 4096 + d.toNat % 64 * 64 +
      e.toNat % 64)) = [a, b, d, e] := by
  simp only [encodeChar]
  rw [toNat_ofNat (by omega), if_neg (by omega), if_neg (by omega), if_neg (by omega),
    toUInt8_eq (a := a) (by omega), toUInt8_eq (a := b) (by omega), toUInt8_eq (a := d) (by omega),
    toUInt8_eq (a := e) (by omega)]

/-- What is read as a character is what is written for it. -/
theorem of_readChar {octets : List UInt8} {c : Char} {k : Nat} (h : readChar octets = .ok (c, k)) :
    k = (encodeChar c).length ∧ ∃ rest, octets = encodeChar c ++ rest := by
  revert h
  fun_cases readChar octets
  all_goals intro h
  all_goals cases h
  all_goals
    simp only [isSecond, isContinuation, low, ← UInt8.toNat_inj, UInt8.lt_iff_toNat_lt,
      UInt8.le_iff_toNat_le, UInt8.reduceToNat] at *
  case case2.refl a rest ha =>
    rw [encodeChar_one ha]
    exact ⟨rfl, rest, rfl⟩
  case case6.refl a b rest ha hs hb hlt =>
    rw [encodeChar_two (by grind) (by grind)]
    exact ⟨rfl, rest, rfl⟩
  case case9.refl a b d rest ha hs hb hlt hd hlt' =>
    rw [encodeChar_three (by grind) (by grind) (by grind) (by grind) (by grind)]
    exact ⟨rfl, rest, rfl⟩
  case case12.refl a b d e rest ha hs hb hlt hd hlt' he =>
    rw [encodeChar_four (by grind) (by grind) (by grind) (by grind) (by grind) (by grind)]
    exact ⟨rfl, rest, rfl⟩

/-- Text is read back from its octets, and then what stands behind them. -/
theorem decodeFrom_encode_append (position : Nat) (s : Text) (octets : List UInt8) :
    decodeFrom position 0 (encode s ++ octets) =
      (decodeFrom (position + (encode s).length) 0 octets).map (s ++ ·) := by
  induction s generalizing position with
  | nil => cases h : decodeFrom position 0 octets <;> simp [h, Except.map]
  | cons c rest ih =>
    have hread := readChar_encodeChar c (encode rest ++ octets)
    rw [encode_cons, List.append_assoc]
    cases hc : encodeChar c with
    | nil => exact absurd hc (encodeChar_ne_nil c)
    | cons a more =>
      rw [hc] at hread
      simp only [List.cons_append, decodeFrom] at hread ⊢
      rw [hread]
      have hposition : position + 1 + more.length + (encode rest).length =
          position + (more.length + (encode rest).length + 1) := by omega
      simp only [List.length_cons, Nat.add_sub_cancel, List.length_append]
      rw [decodeFrom_skip, ih, hposition]
      cases decodeFrom (position + (more.length + (encode rest).length + 1)) 0 octets <;> rfl

theorem decode_encode (s : Text) : decode (encode s) = .ok s := by
  have hall := decodeFrom_encode_append 0 s []
  rw [List.append_nil] at hall
  rw [decode, hall, decodeFrom]
  simp [Except.map]

/-- Octets that are read as text are what is written for it. -/
theorem encode_of_decodeFrom {position skip : Nat} {octets : List UInt8} {s : Text}
    (h : decodeFrom position skip octets = .ok s) : octets.drop skip = encode s := by
  fun_induction decodeFrom position skip octets generalizing s with
  | case1 =>
    cases h
    simp
  | case2 position skip b rest ih => exact ih h
  | case3 => cases h
  | case4 position a rest c count hread ih =>
    cases hr : decodeFrom (position + 1) (count - 1) rest with
    | error e =>
      rw [hr] at h
      cases h
    | ok tail =>
      rw [hr] at h
      cases h
      obtain ⟨rfl, more, hmore⟩ := of_readChar hread
      have hrest := ih hr
      cases hc : encodeChar c with
      | nil => exact absurd hc (encodeChar_ne_nil c)
      | cons d ds =>
        rw [hc, List.cons_append, List.cons.injEq] at hmore
        obtain ⟨rfl, rfl⟩ := hmore
        rw [hc, List.length_cons, Nat.add_sub_cancel, List.drop_left] at hrest
        rw [List.drop_zero, encode_cons, hc, ← hrest, List.cons_append]

theorem encode_of_decode {octets : List UInt8} {s : Text} (h : decode octets = .ok s) :
    octets = encode s := encode_of_decodeFrom h

theorem encode_injective {s t : Text} (h : encode s = encode t) : s = t := by
  have hs := decode_encode s
  rw [h, decode_encode] at hs
  exact (Except.ok.inj hs).symm

theorem prefix_of_encode_prefix {s t : Text} (h : encode s <+: encode t) : s <+: t := by
  induction s generalizing t with
  | nil => exact List.nil_prefix
  | cons c s ih =>
    obtain ⟨rest, hrest⟩ := h
    rw [encode_cons, List.append_assoc] at hrest
    cases t with
    | nil => exact absurd (List.append_eq_nil_iff.mp hrest).1 (encodeChar_ne_nil c)
    | cons d t =>
      have hc := readChar_encodeChar c (encode s ++ rest)
      rw [hrest, encode_cons, readChar_encodeChar] at hc
      obtain ⟨rfl, -⟩ := Prod.mk.inj (Except.ok.inj hc)
      rw [encode_cons, List.append_cancel_left_eq] at hrest
      exact List.cons_prefix_cons.mpr ⟨rfl, ih ⟨rest, hrest⟩⟩

theorem encodeChar_of_ascii {c : Char} (h : c.toNat < 0x80) :
    encodeChar c = [c.toNat.toUInt8] := by
  simp only [encodeChar]
  rw [if_pos h]

/-- Only the characters of ASCII have octets below those of the longer forms. -/
theorem encodeChar_eq_singleton {c : Char} {b : UInt8} (hb : b.toNat < 0x80)
    (h : b ∈ encodeChar c) :
    encodeChar c = [b] := by
  have hc : c.toNat < 0x110000 := by
    have : c.toNat < 0xd800 ∨ 0xdfff < c.toNat ∧ c.toNat < 0x110000 := c.valid
    omega
  simp only [encodeChar] at h ⊢
  split_ifs at h ⊢ with h₁ h₂ h₃
  · rw [List.mem_singleton.mp h]
  -- each octet of the longer forms is a number of at least 0x80
  all_goals
    exfalso
    simp only [List.mem_cons, List.not_mem_nil, or_false] at h
  · rcases h with rfl | rfl
    all_goals
      rw [toNat_toUInt8 (by omega)] at hb
      omega
  · rcases h with rfl | rfl | rfl
    all_goals
      rw [toNat_toUInt8 (by omega)] at hb
      omega
  · rcases h with rfl | rfl | rfl | rfl
    all_goals
      rw [toNat_toUInt8 (by omega)] at hb
      omega

/-- An octet of ASCII stands for a character of its own. -/
theorem encode_eq_append_cons {t : Text} {before behind : List UInt8} {b : UInt8}
    (hb : b.toNat < 0x80) (h : encode t = before ++ b :: behind) :
    ∃ t₁ c t₂, t = t₁ ++ c :: t₂ ∧ encodeChar c = [b] ∧ encode t₂ = behind := by
  induction t generalizing before with
  | nil => simp at h
  | cons c t ih =>
    rw [encode_cons] at h
    rcases List.append_eq_append_iff.mp h with ⟨as, rfl, has⟩ | ⟨bs, hbs, hrest⟩
    · obtain ⟨t₁, d, t₂, rfl, hd, ht₂⟩ := ih has
      exact ⟨c :: t₁, d, t₂, rfl, hd, ht₂⟩
    · cases bs with
      | nil =>
        have hstart : encode t = [] ++ b :: behind := hrest.symm
        obtain ⟨t₁, d, t₂, rfl, hd, ht₂⟩ := ih hstart
        exact ⟨c :: t₁, d, t₂, rfl, hd, ht₂⟩
      | cons b' bs =>
        obtain ⟨rfl, rfl⟩ := List.cons.inj hrest
        have hmem : b ∈ encodeChar c := hbs ▸ List.mem_append_right before List.mem_cons_self
        have hone := encodeChar_eq_singleton hb hmem
        rw [hone] at hbs
        have hlen := congrArg List.length hbs
        simp only [List.length_append, List.length_cons, List.length_nil] at hlen
        have hnil : bs = [] := List.length_eq_zero_iff.mp (by omega)
        rw [hnil]
        exact ⟨[], c, t, rfl, hone, rfl⟩

/-- Text that begins with a character of ASCII is found as text where its octets are found. -/
theorem infix_of_encode_infix {c : Char} {s t : Text} (hc : c.toNat < 0x80)
    (h : encode (c :: s) <:+: encode t) : c :: s <:+: t := by
  obtain ⟨before, behind, heq⟩ := h
  rw [encode_cons, encodeChar_of_ascii hc, List.append_assoc, List.append_assoc,
    List.singleton_append] at heq
  have hb : c.toNat.toUInt8.toNat < 0x80 := by
    rw [toNat_toUInt8 (by omega)]
    exact hc
  obtain ⟨t₁, d, t₂, rfl, hd, ht₂⟩ := encode_eq_append_cons hb heq.symm
  have hcd : c = d := by
    have hread := readChar_encodeChar d []
    rw [hd, ← encodeChar_of_ascii hc, readChar_encodeChar] at hread
    exact (Prod.mk.inj (Except.ok.inj hread)).1
  subst hcd
  have hprefix : c :: s <+: c :: t₂ :=
    List.cons_prefix_cons.mpr ⟨rfl, prefix_of_encode_prefix ⟨behind, ht₂.symm⟩⟩
  exact hprefix.isInfix.trans (List.suffix_append t₁ _).isInfix

/-- Octets in front of text that begins with a character of ASCII are text if the whole is. -/
theorem exists_encode_append_iff {c : Char} {octets : List UInt8} {s : Text} (hc : c.toNat < 0x80) :
    (∃ t, octets ++ encode (c :: s) = encode t) ↔ ∃ t, octets = encode t := by
  constructor
  · rintro ⟨t, ht⟩
    have hb : c.toNat.toUInt8.toNat < 0x80 := by
      rw [toNat_toUInt8 (by omega)]
      exact hc
    rw [encode_cons, encodeChar_of_ascii hc, List.singleton_append] at ht
    obtain ⟨t₁, d, t₂, rfl, hd, ht₂⟩ := encode_eq_append_cons hb ht.symm
    refine ⟨t₁, ?_⟩
    rw [encode_append, encode_cons, hd, ht₂, List.singleton_append] at ht
    exact List.append_cancel_right ht
  · rintro ⟨t, rfl⟩
    exact ⟨t ++ c :: s, (encode_append t (c :: s)).symm⟩

end NfsVolume.Text.Utf8
