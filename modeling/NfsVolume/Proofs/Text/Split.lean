import Mathlib.Data.List.Basic
import Mathlib.Data.List.TakeWhile
import NfsVolume.Text.Basic

/-! Cutting a text at a separator, and joining its pieces again. -/
namespace NfsVolume.Text

section
variable {α : Type} [DecidableEq α] {sep : α} {s piece : List α}

theorem splitOn_eq_cons (sep : α) (s : List α) :
    ∃ more, splitOn sep s = s.takeWhile (· ≠ sep) :: more := by
  induction s with
  | nil => exact ⟨[], rfl⟩
  | cons c rest ih =>
    obtain ⟨more, hrest⟩ := ih
    by_cases hc : c = sep
    · exact ⟨rest.takeWhile (· ≠ sep) :: more, by simp [splitOn, hrest, hc]⟩
    · exact ⟨more, by simp [splitOn, hrest, hc]⟩

theorem notMem_of_mem_splitOn (h : piece ∈ splitOn sep s) : sep ∉ piece := by
  induction s generalizing piece with
  | nil => simp_all [splitOn]
  | cons c rest ih =>
    obtain ⟨more, hrest⟩ := splitOn_eq_cons sep rest
    rw [splitOn, hrest] at h
    rw [hrest] at ih
    dsimp only at h
    split at h
    · rcases List.mem_cons.mp h with rfl | h
      · simp
      · exact ih h
    · rename_i hc
      rcases List.mem_cons.mp h with rfl | h
      · rw [List.mem_cons, not_or]
        exact ⟨Ne.symm hc, ih List.mem_cons_self⟩
      · exact ih (List.mem_cons_of_mem _ h)

theorem mem_of_mem_splitOn {c : α} (h : piece ∈ splitOn sep s) (hc : c ∈ piece) : c ∈ s := by
  induction s generalizing piece with
  | nil => simp_all [splitOn]
  | cons d rest ih =>
    obtain ⟨more, hrest⟩ := splitOn_eq_cons sep rest
    rw [splitOn, hrest] at h
    rw [hrest] at ih
    dsimp only at h
    split at h
    · rcases List.mem_cons.mp h with rfl | h
      · simp at hc
      · exact List.mem_cons_of_mem _ (ih h hc)
    · rcases List.mem_cons.mp h with rfl | h
      · rcases List.mem_cons.mp hc with rfl | hc
        · exact List.mem_cons_self
        · exact List.mem_cons_of_mem _ (ih List.mem_cons_self hc)
      · exact List.mem_cons_of_mem _ (ih (List.mem_cons_of_mem _ h) hc)

theorem splitOn_append_cons (sep : α) (a b : List α) :
    splitOn sep (a ++ sep :: b) = splitOn sep a ++ splitOn sep b := by
  induction a with
  | nil =>
    obtain ⟨more, hb⟩ := splitOn_eq_cons sep b
    simp [splitOn, hb]
  | cons c rest ih =>
    obtain ⟨more, hrest⟩ := splitOn_eq_cons sep rest
    by_cases hc : c = sep <;> simp [splitOn, ih, hrest, hc]

theorem splitOn_of_notMem (h : sep ∉ s) : splitOn sep s = [s] := by
  induction s with
  | nil => rfl
  | cons c rest ih =>
    simp only [List.mem_cons, not_or] at h
    simp [splitOn, ih h.2, Ne.symm h.1]

theorem cut?_append_cons (a b : List α) (h : sep ∉ a) : cut? sep (a ++ sep :: b) = some (a, b) := by
  induction a with
  | nil => simp [cut?]
  | cons c rest ih =>
    simp only [List.mem_cons, not_or] at h
    simp [cut?, ih h.2, Ne.symm h.1]

theorem cut?_eq_none : cut? sep s = none ↔ sep ∉ s := by
  induction s with
  | nil => simp [cut?]
  | cons c rest ih =>
    by_cases hc : c = sep
    · simp [cut?, hc]
    · simp [cut?, hc, ih, Ne.symm hc]

/-- A text is cut at the first separator in it. -/
theorem cut?_eq_some {a b : List α} :
    cut? sep s = some (a, b) ↔ s = a ++ sep :: b ∧ sep ∉ a := by
  constructor
  · intro h
    induction s generalizing a with
    | nil => simp [cut?] at h
    | cons c rest ih =>
      by_cases hc : c = sep
      · simp only [cut?, hc, if_true, Option.some.injEq, Prod.mk.injEq] at h
        obtain ⟨rfl, rfl⟩ := h
        simp [hc]
      · simp only [cut?, hc, if_false] at h
        obtain ⟨⟨a', b'⟩, hrest, h⟩ := Option.map_eq_some_iff.mp h
        obtain ⟨rfl, rfl⟩ := Prod.mk.inj h
        obtain ⟨rfl, hnot⟩ := ih hrest
        simp [hnot, Ne.symm hc]
  · rintro ⟨rfl, h⟩
    exact cut?_append_cons a b h

end

theorem join_cons_cons (sep first second : Text) (more : List Text) :
    join sep (first :: second :: more) = first ++ sep ++ join sep (second :: more) := rfl

/-- The pieces of a text make the text again. -/
theorem join_splitOn (sep : Char) (s : Text) : join [sep] (splitOn sep s) = s := by
  induction s with
  | nil => rfl
  | cons c rest ih =>
    cases hrest : splitOn sep rest with
    | nil => exact absurd hrest (splitOn_ne_nil sep rest)
    | cons first more =>
      rw [hrest] at ih
      by_cases hc : c = sep
      · simp [splitOn, hrest, hc, join_cons_cons, ih]
      · cases more with
        | nil => simpa [splitOn, hrest, hc, join] using ih
        | cons next more => simpa [splitOn, hrest, hc, join_cons_cons] using ih

/-- Pieces without the separator are found again. -/
theorem splitOn_join {sep : Char} {pieces : List Text} (hne : pieces ≠ [])
    (h : ∀ piece ∈ pieces, sep ∉ piece) : splitOn sep (join [sep] pieces) = pieces := by
  induction pieces with
  | nil => exact absurd rfl hne
  | cons first rest ih =>
    have hfirst := splitOn_of_notMem (h first List.mem_cons_self)
    cases rest with
    | nil => exact hfirst
    | cons second more =>
      have hrest := ih (by simp) fun piece hpiece => h piece (List.mem_cons_of_mem _ hpiece)
      simp only [join_cons_cons, List.append_assoc, List.singleton_append]
      rw [splitOn_append_cons, hfirst, hrest, List.singleton_append]

end NfsVolume.Text
