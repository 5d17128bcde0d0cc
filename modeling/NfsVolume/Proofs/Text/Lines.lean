import NfsVolume.Proofs.Text.Split
import NfsVolume.Text.Blank
import NfsVolume.Text.Newline

/-! Texts of lines, with one of the two line ends behind each of them, and the lines that are read
from them. -/
namespace NfsVolume.Text

inductive IsLineEnd : Text → Prop
  | feed : IsLineEnd ['\n']
  | returnFeed : IsLineEnd ['\r', '\n']

/-- Lines with an end behind each of them, which the last one may lack. -/
inductive Lined : List Text → Text → Prop
  | nil : Lined [] []
  | last (line : Text) (h : line ≠ []) : Lined [line] line
  | line (line stop : Text) (lines : List Text) (text : Text) (hstop : IsLineEnd stop)
      (h : Lined lines text) : Lined (line :: lines) (line ++ (stop ++ text))

/-- A text on one line. -/
structure IsSingle (s : Text) : Prop where
  feed : '\n' ∉ s
  carriage : '\r' ∉ s

variable {line stop text s t : Text} {ls : List Text}

theorem IsSingle.append (hs : IsSingle s) (ht : IsSingle t) : IsSingle (s ++ t) :=
  ⟨by simp [hs.feed, ht.feed], by simp [hs.carriage, ht.carriage]⟩

/-- Both line ends are blanks. -/
theorem isSingle_of_visible (h : ∀ c ∈ s, isBlank c = false) : IsSingle s :=
  ⟨fun hmem => absurd (h _ hmem) (by decide), fun hmem => absurd (h _ hmem) (by decide)⟩

theorem unifyNewlines_append (h : '\r' ∉ line) (s : Text) :
    unifyNewlines (line ++ s) = line ++ unifyNewlines s := by
  induction line with
  | nil => rfl
  | cons c rest ih =>
    simp only [List.mem_cons, not_or] at h
    have hc : c ≠ '\r' := Ne.symm h.1
    rw [List.cons_append, List.cons_append, ← ih h.2]
    rw [unifyNewlines, if_neg hc]
    intro _ hreturn
    exact absurd hreturn hc

theorem IsLineEnd.unifyNewlines (h : IsLineEnd stop) (s : Text) :
    Text.unifyNewlines (stop ++ s) = '\n' :: Text.unifyNewlines s := by
  cases h with
  | feed => simp [Text.unifyNewlines]
  | returnFeed => rfl

theorem unifyNewlines_line (hline : IsSingle line) (hstop : IsLineEnd stop) (s : Text) :
    unifyNewlines (line ++ (stop ++ s)) = line ++ '\n' :: unifyNewlines s := by
  rw [unifyNewlines_append hline.carriage, hstop.unifyNewlines]

/-- The pieces between line feeds are the lines, up to empty ones. -/
theorem splitOn_of_lined (h : Lined ls text) (hls : ∀ line ∈ ls, IsSingle line) :
    (splitOn '\n' text.unifyNewlines).filter (fun line => !line.isEmpty) =
      ls.filter fun line => !line.isEmpty := by
  induction h with
  | nil => rfl
  | last line hne =>
    have hline := hls line List.mem_cons_self
    rw [unifyNewlines_of_notMem hline.carriage, splitOn_of_notMem hline.feed]
  | line line stop ls text hstop _ ih =>
    have hline := hls line List.mem_cons_self
    rw [unifyNewlines_line hline hstop, splitOn_append_cons, splitOn_of_notMem hline.feed,
      List.filter_append, ih fun other hother => hls other (List.mem_cons_of_mem _ hother),
      ← List.filter_append]
    rfl

theorem lines_append_cons (h : '\n' ∉ line) (s : Text) :
    lines (line ++ '\n' :: s) = (line ++ ['\n']) :: lines s := by
  induction line with
  | nil => simp [lines]
  | cons c rest ih =>
    simp only [List.mem_cons, not_or] at h
    simp [lines, ih h.2, Ne.symm h.1]

theorem lines_of_notMem (h : '\n' ∉ line) (hne : line ≠ []) : lines line = [line] := by
  induction line with
  | nil => exact absurd rfl hne
  | cons c rest ih =>
    simp only [List.mem_cons, not_or] at h
    cases rest with
    | nil => simp [lines, Ne.symm h.1]
    | cons d more => rw [lines, if_neg (Ne.symm h.1), ih h.2 (List.cons_ne_nil _ _)]

/-- A line as it is read, with or without a line feed behind it. -/
def IsRead (line read : Text) : Prop := read = line ∨ read = line ++ ['\n']

theorem lines_of_lined (h : Lined ls text) (hls : ∀ line ∈ ls, IsSingle line) :
    List.Forall₂ IsRead ls (lines text.unifyNewlines) := by
  induction h with
  | nil => exact .nil
  | last line hne =>
    have hline := hls line List.mem_cons_self
    rw [unifyNewlines_of_notMem hline.carriage, lines_of_notMem hline.feed hne]
    exact .cons (.inl rfl) .nil
  | line line stop ls text hstop _ ih =>
    have hline := hls line List.mem_cons_self
    rw [unifyNewlines_line hline hstop, lines_append_cons hline.feed]
    exact .cons (.inr rfl) (ih fun other hother => hls other (List.mem_cons_of_mem _ hother))

end NfsVolume.Text
