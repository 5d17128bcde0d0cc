import Mathlib.Data.List.Nodup
import NfsVolume.Volume.Capacity
import NfsVolume.Proofs.Text.Numeral
import NfsVolume.Proofs.Volume.Manifest

/-! Which values are capacities: those whose text is digits with a unit behind them. Nothing is
rounded, and every other value is refused. -/
namespace NfsVolume

/-- A text in which nothing is shown by what stands for a lone half has no such half. -/
theorem RawText.eq_ofText {s : RawText} (h : '\ufffd' ∉ s.shown) : s = ofText s.shown := by
  have hhalf : s.hasHalf = false := by
    by_contra hhalf
    exact h (shown_mem_of_hasHalf (by simpa using hhalf))
  exact ofText_of_toText? (toText?_of_not_hasHalf hhalf)

theorem RawText.shown_strip (s : RawText) : s.strip.shown = s.shown.strip := by
  have htest : Text.isBlank ∘ Point.shown = fun p => Text.isBlank p.shown := rfl
  simp only [strip, shown, Text.strip, Text.stripStart, Text.stripEnd, Text.dropEndWhile,
    List.dropWhile_map, ← List.map_reverse, htest]

namespace Volume

open Text.Integer (maxDigits tooLong)

/-- What may stand behind the digits of a quantity, and what it multiplies them by. -/
inductive IsUnit : Text → Nat → Prop
  | octets : IsUnit [] 1
  | decimal (letter : Char) (k : Nat) (h : ("KMGTPE" : Text)[k]? = some letter) :
      IsUnit [letter] (1000 ^ (k + 1))
  | binary (letter : Char) (k : Nat) (h : ("KMGTPE" : Text)[k]? = some letter) :
      IsUnit [letter, 'i'] (1024 ^ (k + 1))

/-- Digits with a unit behind them, and the octets that they denote. -/
inductive IsQuantity : Text → Nat → Prop
  | mk (digits unit : Text) (factor : Nat) (hne : digits ≠ [])
      (hdigits : ∀ c ∈ digits, c.isDigit = true) (hfew : digits.length ≤ 4300)
      (hunit : IsUnit unit factor) :
      IsQuantity (digits ++ unit) (Nat.ofDigitChars 10 digits 0 * factor)

variable {s unit : Text} {letter : Char} {factor n k : Nat} {value : Json}

theorem power?_eq_some :
    power? letter = some k ↔ ∃ j, ("KMGTPE" : Text)[j]? = some letter ∧ j + 1 = k := by
  have hnodup : powerLetters.Nodup := by decide
  have hplace (j : Nat) : powerLetters.idxOf? letter = some j ↔ powerLetters[j]? = some letter := by
    rw [List.idxOf?_eq_some_iff, List.getElem?_eq_some_iff]
    refine exists_congr fun hj => and_iff_left_of_imp fun hletter i hi hother => ?_
    -- no letter stands in two places
    have hsame := hnodup.getElem_inj_iff.mp (hother.trans hletter.symm)
    omega
  rw [power?, Option.map_eq_some_iff]
  exact exists_congr fun j => and_congr_left fun _ => hplace j

theorem multiplier?_eq_some : multiplier? unit = some factor ↔ IsUnit unit factor := by
  constructor
  · intro h
    unfold multiplier? at h
    split at h
    · cases h
      exact .octets
    · obtain ⟨k, hk, rfl⟩ := Option.map_eq_some_iff.mp h
      obtain ⟨j, hj, rfl⟩ := power?_eq_some.mp hk
      exact .decimal _ j hj
    · obtain ⟨k, hk, rfl⟩ := Option.map_eq_some_iff.mp h
      obtain ⟨j, hj, rfl⟩ := power?_eq_some.mp hk
      exact .binary _ j hj
    · cases h
  · intro h
    cases h with
    | octets => rfl
    | decimal letter j hj =>
      exact Option.map_eq_some_iff.mpr ⟨_, power?_eq_some.mpr ⟨j, hj, rfl⟩, rfl⟩
    | binary letter j hj =>
      exact Option.map_eq_some_iff.mpr ⟨_, power?_eq_some.mpr ⟨j, hj, rfl⟩, rfl⟩

theorem IsUnit.mem (h : IsUnit unit factor) : ∀ c ∈ unit, c ∈ ("KMGTPEi" : Text) := by
  have hsubset : ("KMGTPE" : Text) ⊆ ("KMGTPEi" : Text) := by decide
  have hi : 'i' ∈ ("KMGTPEi" : Text) := by decide
  cases h with
  | octets => simp
  | decimal letter j hj =>
    exact List.forall_mem_singleton.mpr (hsubset (List.mem_of_getElem? hj))
  | binary letter j hj =>
    refine List.forall_mem_cons.mpr ⟨hsubset (List.mem_of_getElem? hj), ?_⟩
    exact List.forall_mem_singleton.mpr hi

theorem IsUnit.not_isDigit (h : IsUnit unit factor) : ∀ c ∈ unit, c.isDigit = false := by
  have hletters : ∀ c ∈ ("KMGTPEi" : Text), c.isDigit = false := by simp
  exact fun c hc => hletters c (h.mem c hc)

/-- A quantity is cut where its unit begins. -/
theorem IsUnit.cut {digits : Text} (h : IsUnit unit factor)
    (hdigits : ∀ c ∈ digits, c.isDigit = true) :
    (digits ++ unit).takeWhile Char.isDigit = digits ∧
      (digits ++ unit).dropWhile Char.isDigit = unit := by
  have hunit := h.not_isDigit
  rw [List.takeWhile_append_of_pos hdigits, List.dropWhile_append_of_pos hdigits]
  cases unit with
  | nil => simp
  | cons c rest => simp [hunit c List.mem_cons_self]

theorem quantity?_ok : quantity? s = some (.ok n) ↔ IsQuantity s n := by
  constructor
  · intro h
    unfold quantity? at h
    dsimp only at h
    split at h
    · rename_i factor hsome hunit
      split at h
      · cases h
      · rename_i hfew
        obtain rfl := Except.ok.inj (Option.some.inj h)
        have hquantity := IsQuantity.mk _ _ factor (by simpa using hsome)
          (fun c hc => List.mem_takeWhile_imp hc) (Nat.not_lt.mp hfew)
          (multiplier?_eq_some.mp hunit)
        rwa [List.takeWhile_append_dropWhile] at hquantity
    · cases h
  · intro h
    cases h with
    | mk digits unit factor hne hdigits hfew hunit =>
      obtain ⟨htake, hdrop⟩ := hunit.cut hdigits
      have hsome : digits.isEmpty = false := by simpa using hne
      have hshort : ¬ maxDigits < digits.length := Nat.not_lt.mpr hfew
      simp only [quantity?, htake, hdrop, hsome, multiplier?_eq_some.mpr hunit, hshort, if_false]

theorem IsQuantity.mem (h : IsQuantity s n) :
    ∀ c ∈ s, c.isDigit = true ∨ c ∈ ("KMGTPEi" : Text) := by
  cases h with
  | mk digits unit factor hne hdigits hfew hunit =>
    exact fun c hc => (List.mem_append.mp hc).imp (hdigits c) (hunit.mem c)

/-- A quantity begins with a digit. -/
theorem IsQuantity.head (h : IsQuantity s n) : ∃ c rest, s = c :: rest ∧ c.isDigit = true := by
  cases h with
  | mk digits unit factor hne hdigits hfew hunit =>
    obtain ⟨c, rest, rfl⟩ := List.exists_cons_of_ne_nil hne
    exact ⟨c, rest ++ unit, rfl, hdigits c List.mem_cons_self⟩

/-- Digits alone denote as many octets as they say. -/
theorem isQuantity_decimal (h : (Text.decimal n).length ≤ maxDigits) :
    IsQuantity (Text.decimal n) n := by
  have hquantity := IsQuantity.mk (Text.decimal n) [] 1 (Text.decimal_ne_nil n)
    (fun c => Text.isDigit_of_mem_decimal) h .octets
  rwa [List.append_nil, Nat.mul_one, Text.ofDigitChars_decimal] at hquantity

theorem IsQuantity.of_decimal (h : IsQuantity (Text.decimal k) n) : tooLong k = false := by
  have hall : ∀ c ∈ Text.decimal k, c.isDigit = true := fun c => Text.isDigit_of_mem_decimal
  have hshort : (Text.decimal k).length ≤ maxDigits := by
    generalize Text.decimal k = s at h hall
    cases h with
    | mk digits unit factor hne hdigits hfew hunit =>
      have hnone : unit = [] := by
        rw [List.eq_nil_iff_forall_not_mem]
        intro c hc
        have hdigit := hall c (List.mem_append_right _ hc)
        rw [hunit.not_isDigit c hc] at hdigit
        cases hdigit
      rwa [hnone, List.append_nil]
  rw [Text.Integer.tooLong_iff]
  have hsome : 0 < maxDigits := by decide
  generalize maxDigits = d at hshort hsome
  exact (Nat.length_toDigits_le_iff (by decide) hsome).mp hshort

/-- What begins with a character that is neither blank nor a digit is no quantity. -/
theorem not_isQuantity_strip {c : Char} (hblank : Text.isBlank c = false)
    (hdigit : c.isDigit = false) (rest : Text) : ¬ IsQuantity (Text.strip (c :: rest)) n := by
  have hstrip : Text.strip ([c] ++ rest) = [c] ++ Text.stripEnd rest :=
    Text.strip_append (Text.isTrim_of_visible (by simpa using hblank)) (by simp) rest
  intro h
  rw [← List.singleton_append, hstrip] at h
  obtain ⟨d, more, hcons, hd⟩ := h.head
  obtain ⟨rfl, -⟩ := List.cons.inj hcons
  rw [hdigit] at hd
  cases hd

/-- A value with a number in it that is too long to be written is no quantity. -/
theorem not_isQuantity_of_hasLongNumber (h : value.hasLongNumber = true) :
    ¬ IsQuantity value.toText.shown.strip n := by
  cases value with
  | int m =>
    have hlong : tooLong m = true := by simpa only [Json.hasLongNumber, Json.holds] using h
    simp only [Json.toText, Json.inner, RawText.shown_ofText]
    cases m with
    | ofNat k =>
      rw [(Text.Integer.isTrim_integer _).strip_eq]
      intro hquantity
      have hshort := IsQuantity.of_decimal hquantity
      rw [Int.ofNat_eq_natCast, hshort] at hlong
      cases hlong
    | negSucc k => exact not_isQuantity_strip (by decide) (by decide) _
  | array elements =>
    simp only [Json.toText, Json.inner, RawText.shown_ofText]
    exact not_isQuantity_strip (c := '[') (by decide) (by decide) _
  | object members =>
    simp only [Json.toText, Json.inner, RawText.shown_ofText]
    exact not_isQuantity_strip (c := '\x7b') (by decide) (by decide) _
  | _ => cases h

theorem parseCapacity_ok : parseCapacity value = .ok n ↔ IsQuantity value.toText.shown.strip n := by
  rw [← quantity?_ok]
  unfold parseCapacity
  split
  · rename_i hlong
    have hno := not_isQuantity_of_hasLongNumber (n := n) hlong
    rw [← quantity?_ok] at hno
    exact iff_of_false nofun hno
  · split <;> simp_all

theorem parseCapacity_error {e : Failure} (h : parseCapacity value = .error e) :
    ∃ problem, e = .value problem := by
  unfold parseCapacity at h
  split at h
  · cases h
    exact ⟨_, rfl⟩
  · split at h
    · cases h
    · cases h
      exact ⟨_, rfl⟩
    · cases h
      exact ⟨_, rfl⟩

/-- Digits alone are a quantity of octets. -/
theorem parseCapacity_of_length (h : (Text.decimal n).length ≤ maxDigits) :
    parseCapacity (.text (Text.decimal n : Text)) = .ok n := by
  have hstrip : (Text.decimal n).strip = Text.decimal n := (Text.Integer.isTrim_integer n).strip_eq
  rw [parseCapacity_ok, Json.toText, RawText.shown_ofText, hstrip]
  exact isQuantity_decimal h

theorem parseCapacity_decimal (h : tooLong n = false) :
    parseCapacity (.text (Text.decimal n : Text)) = .ok n :=
  parseCapacity_of_length (Text.Integer.length_decimal_le h)

/-- A number that has a text is read from it, unless it is below zero. -/
theorem parseCapacity_integer {m : Int} (h : tooLong m = false) :
    parseCapacity (.text (Text.integer m : Text)) = .ok n ↔ m = n := by
  cases m with
  | ofNat k =>
    have hread : parseCapacity (.text (Text.integer (Int.ofNat k) : Text)) = .ok k :=
      parseCapacity_decimal h
    rw [hread, Except.ok.injEq, Int.ofNat_eq_natCast, Int.natCast_inj]
  | negSucc k =>
    rw [parseCapacity_ok, Json.toText, RawText.shown_ofText]
    exact iff_of_false (not_isQuantity_strip (by decide) (by decide) _) (by omega)

end Volume

/-- The storage in the object of a volume is the capacity of the request, in decimal. -/
theorem ProvisionedVolume.storage_of_manifest {v : ProvisionedVolume} {request : VolumeRequest}
    {object : Json} (h : v.manifest request = .ok object) :
    Text.Integer.tooLong request.capacity = false ∧
      rawTextAt? ["spec", "capacity", "storage"] object =
        some (RawText.ofText (Text.integer request.capacity)) := by
  cases hnotes : v.annotations with
  | error e =>
    unfold manifest at h
    rw [hnotes] at h
    cases h
  | ok notes =>
    cases hlong : Text.Integer.tooLong request.capacity with
    | false =>
      rw [manifest_eq hnotes hlong] at h
      cases h
      exact ⟨rfl, rfl⟩
    | true =>
      unfold manifest at h
      rw [hnotes, writeInteger, if_pos hlong] at h
      cases h

namespace Volume

/-- A value is taken for a number of octets exactly if its text, without the blanks around it, is a
quantity of that number, and refused with a value error otherwise. In particular a number in decimal
is taken for itself, and so is the storage in the object of any volume for what was requested. -/
theorem parseCapacity_reads (value : Json) :
    (∀ n, parseCapacity value = .ok n ↔
        ∃ s, value.toText.strip = RawText.ofText s ∧ IsQuantity s n) ∧
      ((∃ n, parseCapacity value = .ok n) ∨
        ∃ problem, parseCapacity value = .error (.value problem)) ∧
      (∀ n, (Text.decimal n).length ≤ 4300 →
        parseCapacity (.text (Text.decimal n : Text)) = .ok n) ∧
      ∀ (volume : ProvisionedVolume) (request : VolumeRequest) (object : Json),
        volume.manifest request = .ok object →
          ∃ storage, ProvisionedVolume.rawTextAt? ["spec", "capacity", "storage"] object =
              some storage ∧
            (∀ n : Nat, parseCapacity (.text storage) = .ok n ↔ request.capacity = n) ∧
            (request.validate = .ok () →
              parseCapacity (.text storage) = .ok request.capacity.toNat) := by
  refine ⟨fun n => ?_, ?_, fun n => parseCapacity_of_length, fun volume request object h => ?_⟩
  · rw [parseCapacity_ok, ← RawText.shown_strip]
    generalize value.toText.strip = text
    constructor
    · intro h
      refine ⟨text.shown, RawText.eq_ofText fun hmem => ?_, h⟩
      rcases h.mem _ hmem with hdigit | hletter
      · exact absurd hdigit (by decide)
      · exact absurd hletter (by decide)
    · rintro ⟨s, rfl, h⟩
      rwa [RawText.shown_ofText]
  · cases hvalue : parseCapacity value with
    | ok n => exact .inl ⟨n, rfl⟩
    | error e =>
      obtain ⟨problem, rfl⟩ := parseCapacity_error hvalue
      exact .inr ⟨problem, rfl⟩
  · obtain ⟨hshort, hstorage⟩ := ProvisionedVolume.storage_of_manifest h
    refine ⟨_, hstorage, fun n => parseCapacity_integer hshort, fun hvalid => ?_⟩
    have hpos := (VolumeRequest.of_validate_ok hvalid).2
    exact (parseCapacity_integer hshort).mpr (by omega)

/-- Blanks around a quantity do not count, and what a small volume was requested with is read from
its object. -/
theorem parseCapacity_reads_padded :
    let volume : ProvisionedVolume :=
      ⟨.text "h", ['v', '/', 'a'], 5, ⟨.kernel, Export.kernelLine ['v', '/', 'a'], 0⟩⟩
    let request : VolumeRequest := ⟨['a'], 1048576, ["ReadWriteMany"], "Delete", .null, .null⟩
    parseCapacity (.text "\t8Gi\n") = .ok 8589934592 ∧
      parseCapacity (.text (Text.decimal 8 : Text)) = .ok 8 ∧
      ∃ object storage, volume.manifest request = .ok object ∧
        ProvisionedVolume.rawTextAt? ["spec", "capacity", "storage"] object = some storage ∧
        parseCapacity (.text storage) = .ok 1048576 := by
  intro volume request
  obtain ⟨hread, -, hdecimal, hstorage⟩ := parseCapacity_reads (.text "\t8Gi\n")
  have hquantity : IsQuantity (['8'] ++ ['G', 'i']) 8589934592 :=
    .mk ['8'] ['G', 'i'] (1024 ^ 3) (by decide) (by simp) (by decide) (.binary 'G' 2 rfl)
  have hcapacity : Text.Integer.tooLong request.capacity = false :=
    Text.Integer.tooLong_of_lt (by decide)
  obtain ⟨object, hobject, -⟩ := ProvisionedVolume.manifest_described (v := volume)
    (Text.Integer.tooLong_of_lt (by decide)) (Text.Integer.tooLong_of_lt (by decide)) hcapacity
    fun _ => rfl
  obtain ⟨storage, hfound, -, hvalid⟩ := hstorage volume request object hobject
  exact ⟨(hread _).mpr ⟨_, by decide, hquantity⟩, hdecimal 8 (by decide), object, storage, hobject,
    hfound, hvalid (by decide)⟩

end Volume
end NfsVolume
