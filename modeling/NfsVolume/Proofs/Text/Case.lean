import NfsVolume.Proofs.Text.Utf8
import NfsVolume.Text.Case

/-! Lower case of words: a letter of ASCII other than `i` and `k` has it from itself and its own
capital only. -/
namespace NfsVolume.Text

variable {c d : Char} {r : CaseRun} {t : Text}

/-- A run of small letters stays out of ASCII, unless it begins there or is the sign for kelvin. -/
theorem lowerRuns_outside : ∀ r ∈ lowerRuns,
    r.last < 0x80 ∨ (r.first = 0x212a ∧ r.last = 0x212a ∧ r.shift = -8383) ∨
      (0x80 ≤ r.first + r.shift ∧ (r.last + r.shift < 0xd800 ∨
        0xdfff < r.first + r.shift ∧ r.last + r.shift < 0x110000)) := by
  decide +kernel

theorem lowerRun_outside (hr : r ∈ lowerRuns) (hc : 0x80 ≤ c.toNat) (h : r.map? c.toNat = some d) :
    0x80 ≤ d.toNat ∨ d = 'k' := by
  unfold CaseRun.map? at h
  split at h
  · rename_i hwithin
    cases h
    simp only [Bool.and_eq_true, decide_eq_true_eq] at hwithin
    obtain ⟨⟨hfirst, hlast⟩, -⟩ := hwithin
    rcases lowerRuns_outside r hr with hascii | ⟨hf, hl, hshift⟩ | ⟨hlow, hvalid⟩
    · omega
    · have hkelvin : c.toNat = 0x212a := by omega
      rw [hkelvin, hshift]
      exact .inr rfl
    · left
      rw [Utf8.toNat_ofNat (by omega)]
      omega
  · cases h

/-- A character outside ASCII does not become a letter of ASCII, other than `i` and `k`. -/
theorem lowerChar_outside (hc : 0x80 ≤ c.toNat) :
    ∃ d rest, lowerChar c = d :: rest ∧ (0x80 ≤ d.toNat ∨ d = 'k' ∨ d = 'i') := by
  have hcapital : ¬ (('A' ≤ c && c ≤ 'Z') = true) := by
    simp only [Bool.and_eq_true, decide_eq_true_eq, Char.le_def, UInt32.le_iff_toNat_le]
    rintro ⟨-, hz⟩
    have : c.toNat ≤ 0x5a := hz
    omega
  rw [lowerChar, if_neg hcapital, if_neg (by omega), mapCase]
  by_cases hdotted : c.toNat = 0x130
  · rw [hdotted]
    exact ⟨'i', _, rfl, .inr (.inr rfl)⟩
  · have hexpansion : lowerExpansions.lookup c.toNat = none := by
      rw [lowerExpansions, List.lookup_cons, beq_false_of_ne hdotted]
      rfl
    rw [hexpansion]
    dsimp only
    cases hrun : lowerRuns.findSome? (·.map? c.toNat) with
    | none => exact ⟨c, [], rfl, .inl hc⟩
    | some d =>
      obtain ⟨r, hr, hd⟩ := List.exists_of_findSome?_eq_some hrun
      exact ⟨d, [], rfl, (lowerRun_outside hr hc hd).imp_right .inl⟩

theorem lowerChar_ascii (hc : c.toNat < 0x80) : lowerChar c = [c.toLower] := by
  have hall : ∀ n < 0x80, lowerChar (Char.ofNat n) = [(Char.ofNat n).toLower] := by decide
  have hself := hall c.toNat hc
  rwa [Char.ofNat_toNat] at hself

theorem toLower_outside (hc : 0x80 ≤ c.toNat) : c.toLower = c := by
  unfold Char.toLower
  split
  · rename_i hcapital
    have hz : c.toNat ≤ 0x5a := UInt32.le_iff_toNat_le.mp hcapital.2
    omega
  · rfl

/-- A word is in lower case if its letters are, for each of which there is one capital. -/
theorem lowerAfter_eq_iff (ht : ∀ d ∈ t, d.toNat < 0x80 ∧ d ≠ 'k' ∧ d ≠ 'i') (before s : Text) :
    lowerAfter before s = t ↔ s.map Char.toLower = t := by
  induction s generalizing t before with
  | nil => simp [lowerAfter]
  | cons c rest ih =>
    by_cases hc : c.toNat < 0x80
    · have hsigma : c ≠ 'Σ' := by
        rintro rfl
        exact absurd hc (by decide)
      rw [lowerAfter, if_neg hsigma, lowerChar_ascii hc, List.map_cons]
      cases t with
      | nil => simp
      | cons d more =>
        simp only [List.singleton_append, List.cons.injEq]
        exact and_congr_right fun _ => ih (fun d hd => ht d (List.mem_cons_of_mem _ hd)) _
    · have hc := Nat.not_lt.mp hc
      obtain ⟨d, more, hchar, hd⟩ : ∃ d more, lowerAfter before (c :: rest) = d :: more ∧
          (0x80 ≤ d.toNat ∨ d = 'k' ∨ d = 'i') := by
        rw [lowerAfter]
        split
        · -- either small sigma
          split
          · exact ⟨'ς', _, rfl, .inl (by decide)⟩
          · exact ⟨'σ', _, rfl, .inl (by decide)⟩
        · obtain ⟨d, more, hchar, hd⟩ := lowerChar_outside hc
          exact ⟨d, _, by rw [hchar, List.cons_append], hd⟩
      constructor
      · intro h
        rw [hchar] at h
        obtain ⟨hascii, hk, hi⟩ := ht d (h ▸ List.mem_cons_self)
        rcases hd with hd | hd | hd
        · omega
        · exact absurd hd hk
        · exact absurd hd hi
      · intro h
        rw [List.map_cons, toLower_outside hc] at h
        have hmem := ht c (h ▸ List.mem_cons_self)
        omega

theorem lower_eq_iff (ht : ∀ d ∈ t, d.toNat < 0x80 ∧ d ≠ 'k' ∧ d ≠ 'i') (s : Text) :
    lower s = t ↔ s.map Char.toLower = t := lowerAfter_eq_iff ht [] s

theorem lower_mem_iff {words : List Text}
    (h : ∀ t ∈ words, ∀ d ∈ t, d.toNat < 0x80 ∧ d ≠ 'k' ∧ d ≠ 'i') (s : Text) :
    lower s ∈ words ↔ s.map Char.toLower ∈ words := by
  constructor
  · intro hmem
    exact (lower_eq_iff (h _ hmem) s).mp rfl ▸ hmem
  · intro hmem
    exact (lower_eq_iff (h _ hmem) s).mpr rfl ▸ hmem

end NfsVolume.Text
