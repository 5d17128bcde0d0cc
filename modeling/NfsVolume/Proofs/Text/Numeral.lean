import NfsVolume.Proofs.Text.Integer
import NfsVolume.Proofs.Text.Strip

/-! Which texts are read as whole numbers: digits of any script in groups, with single underscores
between the groups, a sign before them and blanks around. -/
namespace NfsVolume.Text.Integer

/-- A sign, which may be missing, and whether it makes a number negative. -/
inductive IsSign : Bool → Text → Prop
  | none : IsSign false []
  | plus : IsSign false ['+']
  | minus : IsSign true ['-']

/-- The digits of a number in their groups. -/
structure AreDigits (groups : List Text) : Prop where
  ne_nil : groups ≠ []
  filled : ∀ group ∈ groups, group ≠ []
  digit : ∀ group ∈ groups, ∀ c ∈ group, (asciiDigit? c).isSome
  few : groups.flatten.length ≤ maxDigits

/-- The number that the digits make in decimal. -/
def magnitude (groups : List Text) : Nat :=
  Nat.ofDigitChars 10 (groups.flatten.filterMap asciiDigit?) 0

inductive IsNumeral : Text → Int → Prop
  | mk (before behind sign : Text) (negative : Bool) (groups : List Text)
      (hbefore : ∀ c ∈ before, isMargin c = true) (hbehind : ∀ c ∈ behind, isMargin c = true)
      (hsign : IsSign negative sign) (hgroups : AreDigits groups) :
      IsNumeral (before ++ (sign ++ (join ['_'] groups ++ behind)))
        (if negative then -(magnitude groups : Int) else magnitude groups)

variable {c : Char} {s run digits body : Text} {groups : List Text} {negative : Bool} {n : Int}

theorem asciiDigit?_of_isMargin (h : isMargin c = true) : asciiDigit? c = none := by
  have hnot : c.isDigit = false := by
    by_contra hdigit
    simp_all [not_isMargin_of_isDigit]
  -- there are few blanks, and none of them is among the ten characters of a script
  have hmargins : ∀ n ∈ [0x09, 0x0a, 0x0b, 0x0c, 0x0d, 0x20, 0x85, 0xa0, 0x1680, 0x2000, 0x2001,
      0x2002, 0x2003, 0x2004, 0x2005, 0x2006, 0x2007, 0x2008, 0x2009, 0x200a, 0x2028, 0x2029,
      0x202f, 0x205f, 0x3000], scriptZeros.find? (fun z => z ≤ n && n ≤ z + 9) = none := by
    decide
  have hmem := hmargins c.toNat (by
    simp only [List.mem_cons, List.not_mem_nil, or_false]
    simp only [isMargin, isBlank] at h
    split at h
    · rcases (Bool.or_eq_true _ _).mp h with h | h
      · simp at h
        omega
      · rw [of_decide_eq_true h]
        decide
    · simp at h
      omega)
  simp [asciiDigit?, hnot, hmem]

theorem not_isDigitOrJoint_of_isMargin (h : isMargin c = true) : isDigitOrJoint c = false := by
  have hjoint : c ≠ '_' := by
    rintro rfl
    exact absurd h (by decide)
  simp [isDigitOrJoint, asciiDigit?_of_isMargin h, hjoint]

theorem isDigitOrJoint_of_digit (h : (asciiDigit? c).isSome) : isDigitOrJoint c = true := by
  simp [isDigitOrJoint, h]

theorem of_cutSign (h : cutSign s = (negative, body)) :
    ∃ sign, IsSign negative sign ∧ s = sign ++ body := by
  unfold cutSign at h
  split at h
  · cases h
    exact ⟨['+'], .plus, rfl⟩
  · cases h
    exact ⟨['-'], .minus, rfl⟩
  · cases h
    exact ⟨[], .none, rfl⟩

theorem cutSign_append {sign : Text} (hsign : IsSign negative sign)
    (hbody : ∀ c ∈ body.head?, c ≠ '+' ∧ c ≠ '-') : cutSign (sign ++ body) = (negative, body) := by
  cases hsign with
  | none =>
    cases body with
    | nil => rfl
    | cons c rest =>
      have hc := hbody c rfl
      unfold cutSign
      split <;> simp_all
  | plus => rfl
  | minus => rfl

theorem AreDigits.joint_notMem (h : AreDigits groups) : ∀ group ∈ groups, '_' ∉ group := by
  intro group hgroup hjoint
  have hdigit := h.digit group hgroup '_' hjoint
  revert hdigit
  decide

theorem AreDigits.length_digits (h : AreDigits groups) :
    (groups.flatten.filterMap asciiDigit?).length = groups.flatten.length := by
  rw [List.filterMap_length_eq_length]
  intro c hc
  obtain ⟨group, hgroup, hc⟩ := List.mem_flatten.mp hc
  exact h.digit group hgroup c hc

theorem joinedDigits?_join (h : AreDigits groups) :
    joinedDigits? (join ['_'] groups) = some (groups.flatten.filterMap asciiDigit?) := by
  have hfilled : groups.any List.isEmpty = false := by
    simpa [List.any_eq_false] using h.filled
  simp [joinedDigits?, splitOn_join h.ne_nil h.joint_notMem, hfilled]

/-- What is read as digits stands in groups. -/
theorem of_joinedDigits? (h : joinedDigits? run = some digits) (hlength : digits.length ≤ maxDigits)
    (hrun : ∀ c ∈ run, isDigitOrJoint c = true) :
    ∃ groups, AreDigits groups ∧ run = join ['_'] groups ∧
      digits = groups.flatten.filterMap asciiDigit? := by
  have hjoin := join_splitOn '_' run
  have hmem : ∀ group ∈ splitOn '_' run, ∀ c ∈ group, (asciiDigit? c).isSome := by
    intro group hgroup c hc
    have hjoint : c ≠ '_' := fun hjoint => notMem_of_mem_splitOn hgroup (hjoint ▸ hc)
    have hdigit := hrun c (mem_of_mem_splitOn hgroup hc)
    simpa [isDigitOrJoint, hjoint] using hdigit
  unfold joinedDigits? at h
  dsimp only at h
  split at h
  · cases h
  · rename_i hfilled
    cases h
    have hsome : ∀ c ∈ (splitOn '_' run).flatten, (asciiDigit? c).isSome := by
      intro c hc
      obtain ⟨group, hgroup, hc⟩ := List.mem_flatten.mp hc
      exact hmem group hgroup c hc
    rw [List.filterMap_length_eq_length.mpr hsome] at hlength
    refine ⟨_, ⟨splitOn_ne_nil '_' run, ?_, hmem, hlength⟩, hjoin.symm, rfl⟩
    rintro group hgroup rfl
    exact hfilled (List.any_eq_true.mpr ⟨[], hgroup, rfl⟩)

theorem join_isDigitOrJoint (h : AreDigits groups) :
    ∀ c ∈ join ['_'] groups, isDigitOrJoint c = true := by
  have hdigit := h.digit
  clear h
  induction groups with
  | nil => simp [join]
  | cons group rest ih =>
    have hgroup : ∀ c ∈ group, isDigitOrJoint c = true := fun c hc =>
      isDigitOrJoint_of_digit (hdigit group List.mem_cons_self c hc)
    have hrest := ih fun group hgroup => hdigit group (List.mem_cons_of_mem _ hgroup)
    cases rest with
    | nil => exact hgroup
    | cons next more =>
      rw [join_cons_cons]
      intro c hc
      rcases List.mem_append.mp hc with hc | hc
      · rcases List.mem_append.mp hc with hc | hc
        · exact hgroup c hc
        · rw [List.mem_singleton.mp hc]
          decide
      · exact hrest c hc

/-- The digits begin with one. -/
theorem AreDigits.head (h : AreDigits groups) :
    ∃ c rest, join ['_'] groups = c :: rest ∧ (asciiDigit? c).isSome := by
  cases groups with
  | nil => exact absurd rfl h.ne_nil
  | cons group more =>
    cases group with
    | nil => exact absurd rfl (h.filled [] List.mem_cons_self)
    | cons c rest =>
      have hc := h.digit _ List.mem_cons_self c List.mem_cons_self
      cases more with
      | nil => exact ⟨c, rest, rfl, hc⟩
      | cons next more => exact ⟨c, _, rfl, hc⟩

theorem of_read {text : RawText} (h : read text = .ok n) : IsNumeral text.shown n := by
  unfold read at h
  rcases hsign : cutSign (text.shown.dropWhile isMargin) with ⟨negative, body⟩
  rw [hsign] at h
  dsimp only at h
  obtain ⟨sign, hsign, hbody⟩ := of_cutSign hsign
  split at h
  · cases h
  · rename_i digits hdigits
    split at h
    · cases h
    · rename_i hlength
      split at h
      · rename_i hbehind
        cases h
        obtain ⟨groups, hgroups, hrun, rfl⟩ := of_joinedDigits? hdigits (Nat.not_lt.mp hlength)
          fun c hc => List.mem_takeWhile_imp hc
        have hshown : text.shown = text.shown.takeWhile isMargin ++
            (sign ++ (join ['_'] groups ++ body.dropWhile isDigitOrJoint)) := by
          rw [← hrun, List.takeWhile_append_dropWhile, ← hbody, List.takeWhile_append_dropWhile]
        rw [hshown]
        exact .mk _ _ _ _ _ (fun c hc => List.mem_takeWhile_imp hc)
          (List.all_eq_true.mp hbehind) hsign hgroups
      · cases h

theorem read_of_isNumeral {text : RawText} (h : IsNumeral text.shown n) : read text = .ok n := by
  generalize hshown : text.shown = shown at h
  cases h with
  | mk before behind sign negative groups hbefore hbehind hsign hgroups =>
    obtain ⟨first, more, hjoin, hfirst⟩ := hgroups.head
    have hplain : isMargin first = false ∧ first ≠ '+' ∧ first ≠ '-' := by
      refine ⟨?_, ?_, ?_⟩
      · by_contra hmargin
        simp_all [asciiDigit?_of_isMargin]
      · rintro rfl
        exact absurd hfirst (by decide)
      · rintro rfl
        exact absurd hfirst (by decide)
    have hdrop : (before ++ (sign ++ (join ['_'] groups ++ behind))).dropWhile isMargin =
        sign ++ (join ['_'] groups ++ behind) := by
      rw [List.dropWhile_append_of_pos hbefore, hjoin]
      cases hsign with
      | none => simp [hplain.1]
      | plus => rfl
      | minus => rfl
    have hcut : cutSign (sign ++ (join ['_'] groups ++ behind)) =
        (negative, join ['_'] groups ++ behind) := by
      apply cutSign_append hsign
      simp [hjoin, hplain.2]
    have hall := join_isDigitOrJoint hgroups
    have hnone : ∀ c ∈ behind, isDigitOrJoint c = false := fun c hc =>
      not_isDigitOrJoint_of_isMargin (hbehind c hc)
    have htake : (join ['_'] groups ++ behind).takeWhile isDigitOrJoint = join ['_'] groups := by
      rw [List.takeWhile_append_of_pos hall]
      cases behind <;> simp_all
    have hrest : (join ['_'] groups ++ behind).dropWhile isDigitOrJoint = behind := by
      rw [List.dropWhile_append_of_pos hall]
      cases behind <;> simp_all
    have hfew : ¬ maxDigits < (groups.flatten.filterMap asciiDigit?).length := by
      rw [hgroups.length_digits]
      exact Nat.not_lt.mpr hgroups.few
    unfold read
    rw [hshown, hdrop, hcut]
    dsimp only
    rw [htake, hrest, joinedDigits?_join hgroups]
    dsimp only
    rw [if_neg hfew, if_pos (List.all_eq_true.mpr hbehind)]
    rfl

/-- A text is read as a number exactly if it is a numeral of that number. -/
theorem read_eq_ok {text : RawText} : read text = .ok n ↔ IsNumeral text.shown n :=
  ⟨of_read, read_of_isNumeral⟩

/-- A number that can be written is a numeral. -/
theorem isNumeral_integer (h : tooLong n = false) : IsNumeral (integer n) n := by
  have hread := of_read (read_integer h)
  rwa [RawText.shown_ofText] at hread

theorem IsNumeral.pad {before behind : Text} (h : IsNumeral s n)
    (hbefore : ∀ c ∈ before, isMargin c = true) (hbehind : ∀ c ∈ behind, isMargin c = true) :
    IsNumeral (before ++ s ++ behind) n := by
  cases h with
  | mk start stop sign negative groups hstart hstop hsign hgroups =>
    have hboth := IsNumeral.mk (before ++ start) (stop ++ behind) sign negative groups
      (fun c hc => (List.mem_append.mp hc).elim (hbefore c) (hstart c))
      (fun c hc => (List.mem_append.mp hc).elim (hstop c) (hbehind c)) hsign hgroups
    simpa only [List.append_assoc] using hboth

theorem IsNumeral.nonneg (h : IsNumeral s n) (hminus : '-' ∉ s) : 0 ≤ n := by
  cases h with
  | mk before behind sign negative groups hbefore hbehind hsign hgroups =>
    cases hsign with
    | minus => simp at hminus
    | none => simp
    | plus => simp

/-- The characters of a numeral. -/
theorem IsNumeral.mem (h : IsNumeral s n) (c : Char) (hc : c ∈ s) :
    isMargin c = true ∨ c = '+' ∨ c = '-' ∨ isDigitOrJoint c = true := by
  cases h with
  | mk before behind sign negative groups hbefore hbehind hsign hgroups =>
    simp only [List.mem_append] at hc
    rcases hc with hc | hc | hc | hc
    · exact .inl (hbefore c hc)
    · cases hsign with
      | none => simp at hc
      | plus => exact .inr (.inl (List.mem_singleton.mp hc))
      | minus => exact .inr (.inr (.inl (List.mem_singleton.mp hc)))
    · exact .inr (.inr (.inr (join_isDigitOrJoint hgroups c hc)))
    · exact .inl (hbehind c hc)

/-- What is read of a word, or not, tells which numerals it is. -/
theorem read_toOption {word : Text} {value : Option Int} :
    (read (RawText.ofText word)).toOption = value ↔ ∀ m, IsNumeral word m ↔ value = some m := by
  have hnumeral (m : Int) : IsNumeral word m ↔ read (RawText.ofText word) = .ok m := by
    rw [read_eq_ok, RawText.shown_ofText]
  simp only [hnumeral]
  constructor
  · rintro rfl m
    cases read (RawText.ofText word) <;> simp [Except.toOption]
  · intro h
    cases hread : read (RawText.ofText word) with
    | ok m => exact ((h m).mp hread).symm
    | error problem =>
      cases value with
      | none => rfl
      | some m => cases hread.symm.trans ((h m).mpr rfl)

theorem mem_integer (hc : c ∈ integer n) : c = '-' ∨ c.isDigit = true := by
  cases n with
  | ofNat k => exact .inr (isDigit_of_mem_decimal hc)
  | negSucc k => exact (List.mem_cons.mp hc).imp_right isDigit_of_mem_decimal

theorem integer_ne_nil (n : Int) : integer n ≠ [] := by
  cases n with
  | ofNat k => exact decimal_ne_nil k
  | negSucc k => exact List.cons_ne_nil _ _

theorem integer_visible (n : Int) : ∀ c ∈ integer n, isBlank c = false := by
  intro c hc
  rcases mem_integer hc with rfl | hdigit
  · decide
  · exact not_isBlank_of_isDigit hdigit

theorem isTrim_integer (n : Int) : IsTrim (integer n) := isTrim_of_visible (integer_visible n)

end NfsVolume.Text.Integer
