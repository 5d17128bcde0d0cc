import Mathlib.Algebra.Order.Floor.Semifield
import Mathlib.Data.Rat.Floor
import NfsVolume.Proofs.Group.Imposed
import NfsVolume.Proofs.Text.Numeral
import NfsVolume.Proofs.World.Circumstances

/-! The ranges of a list of entries: those that are no ranges are passed over one by one, and only an
infinite bound stops the list. -/
namespace NfsVolume.Group

open Run

/-- A value stands for a whole number: a fraction is cut off, a text is read as a numeral. -/
inductive Converts : Json → Int → Prop
  | int (n : Int) : Converts (.int n) n
  | bool (b : Bool) : Converts (.bool b) (if b then 1 else 0)
  | double (negative : Bool) (mantissa : Nat) (exponent : Int) :
      Converts (.double (.finite negative mantissa exponent))
        (Binary64.signed negative ⌊(mantissa : ℚ) * 2 ^ exponent⌋₊)
  | text (s : RawText) (n : Int) (h : Text.Integer.IsNumeral s.shown n) : Converts (.text s) n

variable {v entry : Json} {name : Text} {n : Int} {range : GroupRange}

theorem truncate?_finite (negative : Bool) (mantissa : Nat) (exponent : Int) :
    Binary64.truncate? (.finite negative mantissa exponent) =
      some (Binary64.signed negative ⌊(mantissa : ℚ) * 2 ^ exponent⌋₊) := by
  unfold Binary64.truncate? Binary64.twoTo
  rcases exponent with k | k
  · have hfloor : ⌊(mantissa : ℚ) * 2 ^ (Int.ofNat k)⌋₊ = mantissa * 2 ^ k := by
      have hwhole : (mantissa : ℚ) * 2 ^ (Int.ofNat k) = ((mantissa * 2 ^ k : ℕ) : ℚ) := by
        push_cast
        simp
      rw [hwhole, Nat.floor_natCast]
    rw [hfloor]
    rfl
  · have hfloor : ⌊(mantissa : ℚ) * 2 ^ (Int.negSucc k)⌋₊ = mantissa / 2 ^ (k + 1) := by
      have hquotient : (mantissa : ℚ) * 2 ^ (Int.negSucc k) = mantissa / ((2 ^ (k + 1) : ℕ) : ℚ) := by
        push_cast
        rw [zpow_negSucc, div_eq_mul_inv]
      rw [hquotient, Nat.floor_div_eq_div]
    rw [hfloor]
    rfl

theorem integer_ok {s : RawText} : integer s = .ok n ↔ Text.Integer.IsNumeral s.shown n := by
  rw [← Text.Integer.read_eq_ok, integer]
  cases Text.Integer.read s <;> simp [Except.mapError]

theorem wholeNumber_ok : wholeNumber v = .ok n ↔ Converts v n := by
  constructor
  · intro h
    cases v with
    | text s => exact .text s n (integer_ok.mp h)
    | int m =>
      cases h
      exact .int n
    | bool b =>
      cases h
      exact .bool b
    | double x =>
      cases x with
      | finite negative mantissa exponent =>
        simp only [wholeNumber, Json.wholePart, truncate?_finite, Option.getD_some,
          Except.ok.injEq] at h
        exact h ▸ .double negative mantissa exponent
      | _ => cases h
    | _ => cases h
  · intro h
    cases h with
    | int | bool => rfl
    | double negative mantissa exponent =>
      simp only [wholeNumber, Json.wholePart, truncate?_finite, Option.getD_some]
    | text s _ h => exact integer_ok.mpr h

theorem wholeNumber_overflow {problem : OverflowProblem}
    (h : wholeNumber v = .error (.overflow problem)) :
    problem = .infinite ∧ ∃ negative, v = .double (.infinite negative) := by
  cases v with
  | text s =>
    obtain ⟨other, hother⟩ : IsValue (.overflow problem) := by
      have hmeets := integer_meets s
      simp only [wholeNumber] at h
      rwa [h] at hmeets
    cases hother
  | double x =>
    cases x with
    | infinite negative =>
      cases h
      exact ⟨rfl, negative, rfl⟩
    | _ => cases h
  | _ => cases h

/-- An entry has a member of a name. -/
def HasMember (name : Text) (entry v : Json) : Prop :=
  ∃ members, entry = .object members ∧ Json.lookup name members = some v

/-- A member of an entry stands for a whole number. -/
def HasBound (name : Text) (entry : Json) (n : Int) : Prop :=
  ∃ v, HasMember name entry v ∧ Converts v n

/-- An entry is an object with two bounds in their order. -/
structure Gives (entry : Json) (range : GroupRange) : Prop where
  least : HasBound "min" entry range.min
  greatest : HasBound "max" entry range.max
  ordered : range.min ≤ range.max

/-- The first bound of an entry that is no whole number is infinite. -/
inductive Unbounded (entry : Json) : Prop
  | least (negative : Bool) (h : HasMember "min" entry (.double (.infinite negative)))
  | greatest (min : Int) (hmin : HasBound "min" entry min) (negative : Bool)
      (h : HasMember "max" entry (.double (.infinite negative)))

def warning (text : Text) : LogLine := ⟨.warning, .groups, text⟩

/-- Entries with the ranges that they give, in their order, and with a warning for each of them that
gives none. -/
inductive Sifted : List Json → List GroupRange → List LogLine → Prop
  | nil : Sifted [] [] []
  | kept (entry : Json) (range : GroupRange) (rest : List Json) (ranges : List GroupRange)
      (lines : List LogLine) (h : Gives entry range) (hrest : Sifted rest ranges lines) :
      Sifted (entry :: rest) (range :: ranges) lines
  | reversed (entry : Json) (min max : Int) (rest : List Json) (ranges : List GroupRange)
      (lines : List LogLine) (hmin : HasBound "min" entry min) (hmax : HasBound "max" entry max)
      (h : max < min) (hrest : Sifted rest ranges lines) :
      Sifted (entry :: rest) ranges
        (warning ("Ignoring id range with min > max: " ++ entry.inner) :: lines)
  | malformed (entry : Json) (rest : List Json) (ranges : List GroupRange) (lines : List LogLine)
      (h : ∀ min max, HasBound "min" entry min → ¬ HasBound "max" entry max)
      (hbounded : ¬ Unbounded entry) (hrest : Sifted rest ranges lines) :
      Sifted (entry :: rest) ranges
        (warning ("Ignoring malformed id range " ++ entry.inner) :: lines)

theorem bound_of_hasMember (h : HasMember name entry v) : bound name entry = wholeNumber v := by
  obtain ⟨members, rfl, hv⟩ := h
  simp only [bound, hv]

theorem bound_ok : bound name entry = .ok n ↔ HasBound name entry n := by
  constructor
  · intro h
    cases entry with
    | object members =>
      unfold bound at h
      dsimp only at h
      split at h
      · rename_i v hv
        exact ⟨v, ⟨members, rfl, hv⟩, wholeNumber_ok.mp h⟩
      · cases h
    | _ => cases h
  · rintro ⟨v, hmember, hv⟩
    rw [bound_of_hasMember hmember, wholeNumber_ok.mpr hv]

theorem bound_overflow {problem : OverflowProblem}
    (h : bound name entry = .error (.overflow problem)) :
    problem = .infinite ∧ ∃ negative, HasMember name entry (.double (.infinite negative)) := by
  cases entry with
  | object members =>
    unfold bound at h
    dsimp only at h
    split at h
    · rename_i v hv
      obtain ⟨rfl, negative, rfl⟩ := wholeNumber_overflow h
      exact ⟨rfl, negative, members, rfl, hv⟩
    · cases h
  | _ => cases h

theorem bound_of_infinite {negative : Bool}
    (h : HasMember name entry (.double (.infinite negative))) :
    bound name entry = .error (.overflow .infinite) :=
  bound_of_hasMember h

theorem Unbounded.rangeOfEntry (h : Unbounded entry) :
    rangeOfEntry entry = .error (.overflow .infinite) := by
  unfold Group.rangeOfEntry
  cases h with
  | least negative h =>
    rw [bound_of_infinite h]
    rfl
  | greatest min hmin negative h =>
    rw [bound_ok.mpr hmin, bound_of_infinite h]
    rfl

theorem exists_of_bind_ok {α β : Type} {x : Except Failure α} {f : α → Except Failure β} {b : β}
    (h : x >>= f = .ok b) : ∃ a, x = .ok a ∧ f a = .ok b := by
  cases x with
  | error e => cases h
  | ok a => exact ⟨a, rfl, h⟩

theorem of_rangeOfEntry_ok (h : rangeOfEntry entry = .ok range) :
    HasBound "min" entry range.min ∧ HasBound "max" entry range.max := by
  obtain ⟨min, hmin, h⟩ := exists_of_bind_ok h
  obtain ⟨max, hmax, h⟩ := exists_of_bind_ok h
  cases h
  exact ⟨bound_ok.mp hmin, bound_ok.mp hmax⟩

theorem rangeOfEntry_of_bounds {min max : Int} (hmin : HasBound "min" entry min)
    (hmax : HasBound "max" entry max) : rangeOfEntry entry = .ok ⟨min, max⟩ := by
  unfold rangeOfEntry
  rw [bound_ok.mpr hmin, bound_ok.mpr hmax]
  rfl

/-- Only an infinite bound fails in another way than a malformed one. -/
theorem of_rangeOfEntry_overflow {problem : OverflowProblem}
    (h : rangeOfEntry entry = .error (.overflow problem)) :
    problem = .infinite ∧ Unbounded entry := by
  unfold rangeOfEntry at h
  cases hmin : bound "min" entry with
  | error e =>
    rw [hmin] at h
    cases h
    obtain ⟨rfl, negative, hmember⟩ := bound_overflow hmin
    exact ⟨rfl, .least negative hmember⟩
  | ok min =>
    cases hmax : bound "max" entry with
    | error e =>
      rw [hmin, hmax] at h
      cases h
      obtain ⟨rfl, negative, hmember⟩ := bound_overflow hmax
      exact ⟨rfl, .greatest min (bound_ok.mp hmin) negative hmember⟩
    | ok max =>
      rw [hmin, hmax] at h
      cases h

/-- What a list comes to, with what is logged about it: an unbounded entry hides the ranges before
it, and nothing is said of what stands behind. -/
inductive Outcome (entries : List Json) (w : World) :
    Except Failure (List GroupRange) × World → Prop
  | all (ranges : List GroupRange) (lines : List LogLine) (h : Sifted entries ranges lines) :
      Outcome entries w (.ok ranges, { w with log := w.log ++ lines })
  | stopped (before : List Json) (entry : Json) (behind : List Json) (ranges : List GroupRange)
      (lines : List LogLine) (hsplit : entries = before ++ entry :: behind)
      (h : Sifted before ranges lines) (hentry : Unbounded entry) :
      Outcome entries w (.error (.overflow .infinite), { w with log := w.log ++ lines })

/-- An entry is kept, passed over with a warning, or unbounded. -/
theorem takeEntry_cases (entry : Json) (w : World) :
    (∃ ranges lines, Sifted [entry] ranges lines ∧
        takeEntry entry w = (.ok ranges, { w with log := w.log ++ lines })) ∨
      Unbounded entry ∧ takeEntry entry w = (.error (.overflow .infinite), w) := by
  unfold takeEntry
  cases hr : rangeOfEntry entry with
  | ok range =>
    obtain ⟨hmin, hmax⟩ := of_rangeOfEntry_ok hr
    left
    by_cases horder : range.max < range.min
    · exact ⟨[], _, .reversed entry _ _ [] [] [] hmin hmax horder .nil, by simp [horder]; rfl⟩
    · refine ⟨[range], [], .kept entry range [] [] [] ⟨hmin, hmax, by omega⟩ .nil, ?_⟩
      simp [horder]
  | error problem =>
    by_cases hoverflow : ∃ overflow, problem = .overflow overflow
    · obtain ⟨overflow, rfl⟩ := hoverflow
      obtain ⟨rfl, hentry⟩ := of_rangeOfEntry_overflow hr
      exact .inr ⟨hentry, rfl⟩
    · left
      have hno : ∀ min max, HasBound "min" entry min → ¬ HasBound "max" entry max := by
        intro min max hmin hmax
        cases hr.symm.trans (rangeOfEntry_of_bounds hmin hmax)
      have hbounded : ¬ Unbounded entry := fun hentry =>
        hoverflow ⟨.infinite, Except.error.inj (hr.symm.trans hentry.rangeOfEntry)⟩
      refine ⟨[], _, .malformed entry [] [] [] hno hbounded .nil, ?_⟩
      cases problem with
      | overflow problem => exact absurd ⟨problem, rfl⟩ hoverflow
      | _ => rfl

theorem Sifted.append {entries more : List Json} {ranges others : List GroupRange}
    {lines further : List LogLine} (h : Sifted entries ranges lines)
    (hmore : Sifted more others further) :
    Sifted (entries ++ more) (ranges ++ others) (lines ++ further) := by
  induction h with
  | nil => exact hmore
  | kept entry range rest ranges lines h _ ih => exact .kept entry range _ _ _ h ih
  | reversed entry min max rest ranges lines hmin hmax h _ ih =>
    exact .reversed entry min max _ _ _ hmin hmax h ih
  | malformed entry rest ranges lines h hbounded _ ih => exact .malformed entry _ _ _ h hbounded ih

theorem takeEntries_outcome (entries : List Json) (w : World) :
    Outcome entries w (takeEntries entries w) := by
  induction entries generalizing w with
  | nil =>
    have hnil := Outcome.all (w := w) [] [] .nil
    rwa [List.append_nil] at hnil
  | cons entry rest ih =>
    unfold takeEntries
    rcases takeEntry_cases entry w with ⟨ranges, lines, hsifted, hentry⟩ | ⟨hunbounded, hentry⟩
    · rw [bind_ok hentry]
      generalize hrest : takeEntries rest { w with log := w.log ++ lines } = outcome
      have houtcome := ih { w with log := w.log ++ lines }
      rw [hrest] at houtcome
      cases houtcome with
      | all others further h =>
        rw [bind_ok hrest, pure_apply, List.append_assoc]
        exact .all _ _ (hsifted.append h)
      | stopped before stop behind others further hsplit h hstop =>
        rw [bind_error hrest, List.append_assoc]
        exact .stopped (entry :: before) stop behind _ _ (by rw [hsplit]; rfl) (hsifted.append h)
          hstop
    · rw [bind_error hentry]
      have hstopped := Outcome.stopped (w := w) [] entry rest [] [] rfl .nil hunbounded
      rwa [List.append_nil] at hstopped

theorem takeEntries_append (entries more : List Json) :
    takeEntries (entries ++ more) = takeEntries entries >>= fun ranges =>
      takeEntries more >>= fun others => pure (ranges ++ others) := by
  induction entries with
  | nil => simp [takeEntries]
  | cons entry rest ih =>
    simp only [List.cons_append, takeEntries, ih, bind_assoc, pure_bind, List.append_assoc]

theorem parseRanges_array (entries : List Json) :
    parseRanges (.array entries) = takeEntries entries := by
  cases entries with
  | nil => rfl
  | cons entry rest => rfl

/-- A list gives the ranges of its entries in order, with a warning for each entry that gives none,
unless an unbounded entry stops it; and the entries of two lists are taken one list after the
other. -/
theorem parseRanges_sifts (entries more : List Json) (w : World) :
    Outcome entries w (parseRanges (.array entries) w) ∧
      parseRanges (.array (entries ++ more)) = parseRanges (.array entries) >>= fun ranges =>
        parseRanges (.array more) >>= fun others => pure (ranges ++ others) := by
  simp only [parseRanges_array]
  exact ⟨takeEntries_outcome entries w, takeEntries_append entries more⟩

/-- Two entries that are ranges, with one between them that is unbounded. -/
def interruptedText : Text :=
  "[\x7b\"min\": 1, \"max\": 2\x7d, \x7b\"min\": 0, \"max\": 1e400\x7d, \x7b\"min\": 3, \"max\": 4\x7d]"

/-- What the entries of a list come to, one by one. -/
def entryRanges? : Json → Option (List (Except Failure GroupRange))
  | .array entries => some (entries.map rangeOfEntry)
  | _ => none

/-- A number too large for a double costs the ranges on both sides of it. -/
theorem parseRanges_loses :
    ∃ first infinite second, (Json.read interruptedText).toOption =
        some (.array [first, infinite, second]) ∧
      Gives first ⟨1, 2⟩ ∧ Gives second ⟨3, 4⟩ ∧
      parseRanges (.array [first, infinite, second]) (World.ofFiles ⟨[]⟩) =
        (.error (.overflow .infinite), World.ofFiles ⟨[]⟩) := by
  have hseen : (Json.read interruptedText).toOption.bind entryRanges? =
      some [.ok ⟨1, 2⟩, .error (.overflow .infinite), .ok ⟨3, 4⟩] := by
    decide +kernel
  obtain ⟨value, hvalue, hranges⟩ := Option.bind_eq_some_iff.mp hseen
  cases value with
  | array entries =>
    obtain ⟨first, infinite, second, rfl, hfirst, hinfinite, hsecond⟩ :
        ∃ first infinite second, entries = [first, infinite, second] ∧
          rangeOfEntry first = .ok ⟨1, 2⟩ ∧
          rangeOfEntry infinite = .error (.overflow .infinite) ∧
          rangeOfEntry second = .ok ⟨3, 4⟩ := by
      simpa [entryRanges?, List.map_eq_cons_iff] using hranges
    refine ⟨first, infinite, second, hvalue, ⟨(of_rangeOfEntry_ok hfirst).1,
      (of_rangeOfEntry_ok hfirst).2, by decide⟩, ⟨(of_rangeOfEntry_ok hsecond).1,
      (of_rangeOfEntry_ok hsecond).2, by decide⟩, ?_⟩
    generalize World.ofFiles ⟨[]⟩ = w
    have htaken : takeEntry first w = (.ok [⟨1, 2⟩], w) := by
      unfold takeEntry
      rw [hfirst]
      rfl
    have hstopped : takeEntry infinite w = (.error (.overflow .infinite), w) := by
      unfold takeEntry
      rw [hinfinite]
      rfl
    rw [parseRanges_array, takeEntries, bind_ok htaken]
    exact bind_error (bind_error hstopped)
  | _ => cases hranges

end NfsVolume.Group
