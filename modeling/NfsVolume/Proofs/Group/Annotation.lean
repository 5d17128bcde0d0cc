import Mathlib.Data.List.Basic
import Mathlib.Data.List.TakeWhile
import NfsVolume.Group.Annotation
import NfsVolume.Proofs.Text.Split

/-! The value of an annotation is that of the first line which has one. -/
namespace NfsVolume

namespace Text

theorem after?_takeWhile {start : Text} {p : Char → Bool} (h : ∀ c ∈ start, p c = true)
    (s : Text) : (after? start s).map (List.takeWhile p) = after? start (s.takeWhile p) := by
  induction start generalizing s with
  | nil => rfl
  | cons c rest ih =>
    cases s with
    | nil => rfl
    | cons d s =>
      by_cases hcd : c = d
      · subst hcd
        rw [List.takeWhile_cons, if_pos (h c List.mem_cons_self), after?, after?, if_pos rfl,
          if_pos rfl]
        exact ih (fun c hc => h c (List.mem_cons_of_mem _ hc)) s
      · rw [after?, if_neg hcd, List.takeWhile_cons]
        split
        · rw [after?, if_neg hcd]
          rfl
        · rfl

end Text

namespace Group

open Text

variable {key line value : Text} {lines : List Text}

/-- A line that gives an annotation a value. -/
def annotationLine (key value : Text) : Text := key ++ ['=', '"'] ++ value ++ ['"']

/-- The value that lines give to an annotation: that of the first line with one, and an empty one
without such a line. -/
inductive Names (key : Text) : List Text → Text → Prop
  | none : Names key [] []
  | here (value : Text) (rest : List Text) : Names key (annotationLine key value :: rest) value
  | later (line : Text) (rest : List Text) (value : Text)
      (hline : ∀ other, line ≠ annotationLine key other) (h : Names key rest value) :
      Names key (line :: rest) value

theorem valueHere?_takeWhile (hkey : '\n' ∉ key) (s : Text) :
    valueHere? key (s.takeWhile (· ≠ '\n')) = valueHere? key s := by
  have hstart : ∀ c ∈ key ++ ['=', '"'], (decide (c ≠ '\n')) = true := by
    intro c hc
    apply decide_eq_true
    rintro rfl
    rcases List.mem_append.mp hc with hc | hc
    · exact hkey hc
    · exact absurd hc (by decide)
  unfold valueHere?
  rw [← after?_takeWhile hstart]
  cases after? (key ++ ['=', '"']) s with
  | none => rfl
  | some rest =>
    dsimp only [Option.map_some, bind, Option.bind]
    rw [List.takeWhile_idem]

theorem valueHere?_eq_some (hline : '\n' ∉ line) :
    valueHere? key line = some value ↔ line = annotationLine key value := by
  have hshort (rest : Text) (h : '\n' ∉ rest) : rest.takeWhile (· ≠ '\n') = rest := by
    rw [List.takeWhile_eq_self_iff]
    intro c hc
    exact decide_eq_true fun hbreak => h (hbreak ▸ hc)
  unfold valueHere? annotationLine
  constructor
  · intro h
    obtain ⟨rest, hrest, h⟩ := Option.bind_eq_some_iff.mp h
    have hrest := eq_append_of_after? hrest
    rw [hshort rest fun hmem => hline (hrest ▸ List.mem_append_right _ hmem)] at h
    dsimp only at h
    split at h
    · rename_i hlast
      cases h
      rw [hrest, List.append_assoc _ rest.dropLast, List.dropLast_append_getLast? _ hlast]
    · cases h
  · rintro rfl
    rw [List.append_assoc, after?_append]
    have hmem : '\n' ∉ value ++ ['"'] := fun hmem => hline (by
      rw [List.append_assoc]
      exact List.mem_append_right _ hmem)
    dsimp only [bind, Option.bind]
    rw [hshort _ hmem]
    simp

theorem findValue_eq (hkey : '\n' ∉ key) (s : Text) :
    findValue key true s = (splitOn '\n' s).findSome? (valueHere? key) ∧
      findValue key false s = (splitOn '\n' s).tail.findSome? (valueHere? key) := by
  -- within a line the search is for a value in the lines behind it, so both go by one induction
  induction s with
  | nil =>
    constructor
    · simp [findValue, splitOn]
    · rfl
  | cons c rest ih =>
    have hhere := valueHere?_takeWhile hkey (c :: rest)
    obtain ⟨more, hrest⟩ := splitOn_eq_cons '\n' rest
    rw [hrest] at ih
    rw [splitOn, hrest]
    dsimp only
    by_cases hc : c = '\n'
    · -- the line that ends here is empty
      rw [hc, List.takeWhile_cons, if_neg (by decide)] at hhere
      rw [if_pos hc, findValue, findValue, hc]
      refine ⟨?_, ih.1⟩
      rw [List.findSome?_cons, hhere, ← ih.1]
      cases valueHere? key ('\n' :: rest) <;> rfl
    · rw [List.takeWhile_cons, if_pos (decide_eq_true hc)] at hhere
      rw [if_neg hc, findValue, findValue, decide_eq_false hc]
      refine ⟨?_, ih.2⟩
      rw [List.findSome?_cons, hhere, ih.2]
      cases valueHere? key (c :: rest) <;> rfl

theorem names_findSome? (hlines : ∀ line ∈ lines, '\n' ∉ line) :
    Names key lines ((lines.findSome? (valueHere? key)).getD []) := by
  induction lines with
  | nil => exact .none
  | cons line rest ih =>
    have hline := hlines line List.mem_cons_self
    rw [List.findSome?_cons]
    cases hvalue : valueHere? key line with
    | some value =>
      rw [(valueHere?_eq_some hline).mp hvalue]
      exact .here value rest
    | none =>
      refine .later line rest _ (fun other hother => ?_) ?_
      · cases hvalue.symm.trans ((valueHere?_eq_some hline).mpr hother)
      · exact ih fun line hline => hlines line (List.mem_cons_of_mem _ hline)

/-- An annotation that is looked for in a text has the value that the lines of the text give it. -/
theorem names_annotationIn (hkey : '\n' ∉ key) (content : Text) :
    Names key (splitOn '\n' content) (annotationIn content key) := by
  unfold annotationIn
  rw [(findValue_eq hkey content).1]
  exact names_findSome? fun line hline => notMem_of_mem_splitOn hline

theorem Names.unique {other : Text} (h : Names key lines value) (h' : Names key lines other) :
    value = other := by
  induction h with
  | none =>
    cases h'
    rfl
  | here value rest =>
    generalize hline : annotationLine key value = line at h'
    cases h' with
    | here =>
      exact List.append_cancel_left (List.append_cancel_right hline)
    | later _ _ _ hno => exact absurd hline.symm (hno value)
  | later line rest value hno _ ih =>
    cases h' with
    | here => exact absurd rfl (hno other)
    | later _ _ _ _ h' => exact ih h'

end Group
end NfsVolume
