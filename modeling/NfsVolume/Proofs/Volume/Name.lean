import NfsVolume.Export.Entry
import NfsVolume.Volume.Name
import NfsVolume.Proofs.World.Path

/-! Which texts pass the check of names: names of letters, digits, dots, underscores and hyphens, and
the same names with a line break behind them. -/
namespace NfsVolume.Volume

theorem dropFinalBreak_cases (s : Text) :
    Text.dropFinalBreak s = s ∨ s = Text.dropFinalBreak s ++ ['\n'] := by
  fun_induction Text.dropFinalBreak s with
  | case1 => exact .inl rfl
  | case2 => exact .inr rfl
  | case3 c rest _ ih =>
    rcases ih with ih | ih
    · exact .inl (by rw [ih])
    · refine .inr ?_
      rw [List.cons_append, ← ih]

theorem dropFinalBreak_append (s : Text) : Text.dropFinalBreak (s ++ ['\n']) = s := by
  induction s with
  | nil => rfl
  | cons c rest ih =>
    rw [List.cons_append, Text.dropFinalBreak, ih]
    -- the line break is not the only character that is left
    simp

theorem dropFinalBreak_of_notMem {s : Text} (h : '\n' ∉ s) : Text.dropFinalBreak s = s := by
  rcases dropFinalBreak_cases s with hs | hs
  · exact hs
  · rw [hs] at h
    simp at h

theorem isPlainName_iff {s : Text} :
    isPlainName s = true ↔
      (∃ c rest, s = c :: rest ∧ c.isAlphanum = true) ∧ ∀ c ∈ s, isNameChar c = true := by
  cases s with
  | nil => simp [isPlainName]
  | cons c rest =>
    have hfirst : c.isAlphanum = true → isNameChar c = true := fun h => by simp [isNameChar, h]
    simp only [isPlainName, Bool.and_eq_true, List.all_eq_true, List.forall_mem_cons]
    constructor
    · rintro ⟨hc, hrest⟩
      exact ⟨⟨c, rest, rfl, hc⟩, hfirst hc, hrest⟩
    · rintro ⟨⟨d, more, hcons, hd⟩, -, hrest⟩
      cases hcons
      exact ⟨hd, hrest⟩

theorem validateName_ok_iff {name : Text} :
    validateName name = .ok () ↔
      name.length ≤ maxNameLength ∧ isPlainName name.dropFinalBreak = true := by
  unfold validateName
  constructor
  · intro h
    split at h
    · cases h
    · split at h
      · cases h
      · split at h
        · exact ⟨by omega, ‹_›⟩
        · cases h
  · rintro ⟨hlength, hplain⟩
    have hne : name ≠ [] := by
      rintro rfl
      cases hplain
    rw [if_neg (by simpa using hne), if_neg (by omega), if_pos hplain]

/-- The names that pass the check: a letter or digit first, and no character but those of names and
line breaks. -/
structure IsVolumeName (name : Text) : Prop where
  head : ∃ c rest, name = c :: rest ∧ c.isAlphanum = true
  chars : ∀ c ∈ name, isNameChar c = true ∨ c = '\n'

theorem IsVolumeName.of_validateName {name : Text} (h : validateName name = .ok ()) :
    IsVolumeName name := by
  obtain ⟨⟨c, rest, hc, halphanum⟩, hchars⟩ := isPlainName_iff.mp (validateName_ok_iff.mp h).2
  rcases dropFinalBreak_cases name with hs | hs
  · rw [hs] at hc hchars
    exact ⟨⟨c, rest, hc, halphanum⟩, fun d hd => .inl (hchars d hd)⟩
  · refine ⟨⟨c, rest ++ ['\n'], by rw [hs, hc, List.cons_append], halphanum⟩, fun d hd => ?_⟩
    rw [hs] at hd
    rcases List.mem_append.mp hd with hd | hd
    · exact .inl (hchars d hd)
    · exact .inr (List.mem_singleton.mp hd)

variable {name : Text}

namespace IsVolumeName

theorem notMem (h : IsVolumeName name) {c : Char} (hc : isNameChar c = false) (hn : c ≠ '\n') :
    c ∉ name := by
  intro hm
  rcases h.chars c hm with h' | h'
  · rw [h'] at hc
    cases hc
  · exact hn h'

theorem isPart (h : IsVolumeName name) : Path.IsPart name := by
  refine ⟨?_, h.notMem (by decide) (by decide)⟩
  obtain ⟨c, rest, rfl, -⟩ := h.head
  exact List.cons_ne_nil c rest

theorem head_ne_dot (h : IsVolumeName name) (rest : Text) : name ≠ '.' :: rest := by
  obtain ⟨c, more, rfl, hc⟩ := h.head
  rintro ⟨rfl, -⟩
  exact absurd hc (by decide)

end IsVolumeName

/-- A name in which something cannot be shown is no name. -/
theorem validateName_of_hasHalf {name : RawText} (h : name.hasHalf = true) :
    ∃ problem, validateName name.shown = .error problem := by
  cases hvalid : validateName name.shown with
  | error problem => exact ⟨problem, rfl⟩
  | ok _ =>
    have hname := IsVolumeName.of_validateName hvalid
    exact absurd (RawText.shown_mem_of_hasHalf h) (hname.notMem (by decide) (by decide))

theorem validateNameValue_raw (name : RawText) :
    validateNameValue (.text name) = (validateName name.shown).mapError .value := by
  cases name with
  | nil => rfl
  | cons p rest => rfl

/-- What a name is meant to be: 1 to 253 letters, digits, dots, underscores and hyphens of ASCII,
with a letter or digit first. -/
structure IsIntended (name : RawText) : Prop where
  nonempty : 1 ≤ name.length
  short : name.length ≤ 253
  head : ∃ c : Char, name.head? = some (.char c) ∧ c.isAlphanum = true
  chars : ∀ p ∈ name, ∃ c : Char, p = .char c ∧
    (c.isAlphanum = true ∨ c = '.' ∨ c = '_' ∨ c = '-')

theorem isNameChar_shown {p : Point} :
    isNameChar p.shown = true ↔
      ∃ c : Char, p = .char c ∧ (c.isAlphanum = true ∨ c = '.' ∨ c = '_' ∨ c = '-') := by
  cases p with
  | char c =>
    have hc : isNameChar c = true ↔ c.isAlphanum = true ∨ c = '.' ∨ c = '_' ∨ c = '-' := by
      simp only [isNameChar, Bool.or_eq_true, decide_eq_true_eq, or_assoc]
    constructor
    · exact fun h => ⟨c, rfl, hc.mp h⟩
    · rintro ⟨d, hd, h⟩
      cases hd
      exact hc.mpr h
  | half s => simp [Point.shown, show isNameChar '\ufffd' = false by decide]

theorem isIntended_iff {name : RawText} :
    IsIntended name ↔ name.length ≤ maxNameLength ∧ isPlainName name.shown = true := by
  rw [isPlainName_iff]
  constructor
  · rintro ⟨-, hshort, ⟨c, hhead, hc⟩, hchars⟩
    obtain ⟨rest, rfl⟩ := List.head?_eq_some_iff.mp hhead
    refine ⟨hshort, ⟨c, RawText.shown rest, rfl, hc⟩, fun d hd => ?_⟩
    obtain ⟨p, hp, rfl⟩ := List.mem_map.mp hd
    exact isNameChar_shown.mpr (hchars p hp)
  · rintro ⟨hshort, ⟨c, rest, hcons, hc⟩, hchars⟩
    have hpoints : ∀ p ∈ name, _ := fun p hp =>
      isNameChar_shown.mp (hchars p.shown (List.mem_map_of_mem hp))
    obtain ⟨p, more, rfl, hp, -⟩ := List.map_eq_cons_iff.mp hcons
    obtain ⟨d, rfl, -⟩ := hpoints p List.mem_cons_self
    cases hp
    exact ⟨by simp, hshort, ⟨d, rfl, hc⟩, hpoints⟩

theorem IsIntended.break_notMem {name : RawText} (h : IsIntended name) : '\n' ∉ name.shown := by
  intro hbreak
  have hchar := (isPlainName_iff.mp (isIntended_iff.mp h).2).2 _ hbreak
  exact absurd hchar (by decide)

theorem IsIntended.not_isBlank {name : RawText} (h : IsIntended name) :
    ∀ p ∈ name, Text.isBlank p.shown = false := by
  intro p hp
  obtain ⟨c, rfl, hc⟩ := h.chars p hp
  apply Text.not_isBlank_of_visible
  change 0x21 ≤ c.toNat ∧ c.toNat ≤ 0x7e
  rcases hc with halphanum | rfl | rfl | rfl
  · change (decide (c.val ≥ 'A'.val ∧ c.val ≤ 'Z'.val) ||
        decide (c.val ≥ 'a'.val) && decide (c.val ≤ 'z'.val) ||
      decide (c.val ≥ '0'.val) && decide (c.val ≤ '9'.val)) = true at halphanum
    simp only [Bool.or_eq_true, Bool.and_eq_true, decide_eq_true_eq, ge_iff_le,
      UInt32.le_iff_toNat_le] at halphanum
    change ((65 ≤ c.toNat ∧ c.toNat ≤ 90) ∨ 97 ≤ c.toNat ∧ c.toNat ≤ 122) ∨
      48 ≤ c.toNat ∧ c.toNat ≤ 57 at halphanum
    omega
  · decide
  · decide
  · decide

theorem eq_break_of_shown {p : Point} (h : p.shown = '\n') : p = .char '\n' := by
  cases p with
  | char c => exact congrArg Point.char h
  | half s => exact absurd h (by decide : '\ufffd' ≠ '\n')

theorem validateNameValue_ok_iff {name : RawText} :
    validateNameValue (.text name) = .ok () ↔
      IsIntended name ∨
        ∃ plain, IsIntended plain ∧ plain.length < 253 ∧ name = plain ++ [.char '\n'] := by
  have hok : validateNameValue (.text name) = .ok () ↔ validateName name.shown = .ok () := by
    rw [validateNameValue_raw]
    cases validateName name.shown <;> simp [Except.mapError]
  have hlength (s : RawText) : s.shown.length = s.length := List.length_map _
  rw [hok, validateName_ok_iff, hlength]
  constructor
  · rintro ⟨hshort, hplain⟩
    rcases dropFinalBreak_cases name.shown with hs | hs
    · rw [hs] at hplain
      exact .inl (isIntended_iff.mpr ⟨hshort, hplain⟩)
    · obtain ⟨plain, last, rfl, hshown, hlast⟩ := List.map_eq_append_iff.mp hs
      obtain ⟨p, rfl, hp⟩ := List.map_eq_singleton_iff.mp hlast
      rw [List.length_append, List.length_singleton] at hshort
      rw [← hshown] at hplain
      refine .inr ⟨plain, isIntended_iff.mpr ⟨by omega, hplain⟩, ?_, by rw [eq_break_of_shown hp]⟩
      exact hshort
  · rintro (hname | ⟨plain, hname, hshort, rfl⟩)
    · rw [dropFinalBreak_of_notMem hname.break_notMem]
      exact isIntended_iff.mp hname
    · have hshown : RawText.shown (plain ++ [.char '\n']) = plain.shown ++ ['\n'] :=
        List.map_append
      rw [hshown, dropFinalBreak_append, List.length_append, List.length_singleton]
      exact ⟨hshort, (isIntended_iff.mp hname).2⟩

/-- A name passes the check exactly if it is what a name is meant to be, or that with a line break
behind it, of 253 characters at most in all. Any other name is refused. The line break apart, no
name that passes has a blank in it. -/
theorem validateNameValue_accepts (name : RawText) :
    (validateNameValue (.text name) = .ok () ↔
      IsIntended name ∨
        ∃ plain, IsIntended plain ∧ plain.length < 253 ∧ name = plain ++ [.char '\n']) ∧
    (validateNameValue (.text name) = .ok () ∨
      ∃ problem, validateNameValue (.text name) = .error (.value problem)) ∧
    (validateNameValue (.text name) = .ok () →
      ∀ p ∈ name, Text.isBlank p.shown = true → p = .char '\n' ∧ p ∉ name.dropLast) := by
  refine ⟨validateNameValue_ok_iff, ?_, fun hok p hp hblank => ?_⟩
  · rw [validateNameValue_raw]
    cases validateName name.shown with
    | ok _ => exact .inl rfl
    | error problem => exact .inr ⟨problem, rfl⟩
  · rcases validateNameValue_ok_iff.mp hok with hname | ⟨plain, hname, -, rfl⟩
    · rw [hname.not_isBlank p hp] at hblank
      cases hblank
    · have hplain : p ∉ plain := by
        intro hmem
        rw [hname.not_isBlank p hmem] at hblank
        cases hblank
      have hlast := (List.mem_append.mp hp).resolve_left hplain
      refine ⟨List.mem_singleton.mp hlast, ?_⟩
      rwa [List.dropLast_concat]

/-- A name with a line break behind it passes the check, though it is not what a name is meant to
be, and cuts the line of its volume in the exports file in two. -/
theorem validateNameValue_accepts_break :
    validateNameValue (.text [.char 'a', .char '\n']) = .ok () ∧
      ¬ IsIntended [.char 'a', .char '\n'] ∧
      Export.kernelLine ['a', '\n'] = "\na\n *(rw,insecure,root_squash)\n" := by
  refine ⟨rfl, fun h => ?_, rfl⟩
  have hblank := h.not_isBlank (.char '\n') (by simp)
  exact absurd hblank (by decide)

end NfsVolume.Volume
