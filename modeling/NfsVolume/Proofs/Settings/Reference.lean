import NfsVolume.Proofs.Text.Lines
import NfsVolume.Proofs.Text.Strip
import NfsVolume.Settings.Reference

/-! Values that refer to no other value: with every percent sign written twice, a value stands for
itself. -/
namespace NfsVolume.Ini

open Text

def doubled (s : Text) : Text := s.flatMap fun c => if c = '%' then ['%', '%'] else [c]

variable {s : Text} {c : Char}

@[simp]
theorem doubled_nil : doubled [] = [] := rfl

theorem doubled_cons (c : Char) (s : Text) :
    doubled (c :: s) = (if c = '%' then ['%', '%'] else [c]) ++ doubled s := rfl

theorem doubled_append (s t : Text) : doubled (s ++ t) = doubled s ++ doubled t :=
  List.flatMap_append

theorem mem_doubled (h : c ∈ doubled s) : c ∈ s := by
  obtain ⟨d, hd, hc⟩ := List.mem_flatMap.mp h
  split at hc
  · rename_i hpercent
    simp only [List.mem_cons, List.not_mem_nil, or_false, or_self] at hc
    rwa [hc, ← hpercent]
  · rwa [List.mem_singleton.mp hc]

theorem doubled_isSingle (h : IsSingle s) : IsSingle (doubled s) :=
  ⟨fun hmem => h.feed (mem_doubled hmem), fun hmem => h.carriage (mem_doubled hmem)⟩

theorem head?_doubled (s : Text) : (doubled s).head? = s.head? := by
  cases s with
  | nil => rfl
  | cons c rest =>
    rw [doubled_cons]
    split
    · simp_all
    · rfl

theorem getLast?_doubled (s : Text) : (doubled s).getLast? = s.getLast? := by
  rcases List.eq_nil_or_concat s with rfl | ⟨before, c, rfl⟩
  · rfl
  · rw [List.concat_eq_append, doubled_append, doubled_cons]
    split
    · simp_all
    · simp

theorem doubled_isTrim (h : IsTrim s) : IsTrim (doubled s) :=
  ⟨by rw [head?_doubled]; exact h.head, by rw [getLast?_doubled]; exact h.last⟩

theorem expandWith_doubled (values : List (Text × Text)) (w : Wanted)
    (follow : Text → Except SettingsProblem Text) (s : Text) :
    expandWith values w follow 0 (doubled s) = .ok s := by
  induction s with
  | nil => rfl
  | cons c rest ih =>
    rw [doubled_cons]
    by_cases hc : c = '%'
    · simp [hc, expandWith, ih, Except.map]
    · simp [hc, expandWith, ih, Except.map]

/-- A value with its percent signs doubled is read as the value. -/
theorem value?_of_lookup {heading option word : Text} {values : List (Text × Text)}
    (h : values.lookup option = some (doubled word)) :
    value? heading values option = .ok (some word) := by
  have hdepth : SettingsProblem.maxDepth = 9 + 1 := rfl
  rw [value?, h, hdepth]
  dsimp only
  rw [expandTo, expandWith_doubled]
  rfl

end NfsVolume.Ini
