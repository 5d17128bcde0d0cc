import Mathlib.Data.List.Basic
import Mathlib.Data.List.TakeWhile
import NfsVolume.Text.Blank

/-! What is left of a text when the blanks at its ends are removed. -/
namespace NfsVolume

namespace Text

/-- A text with no blank at its ends. -/
structure IsTrim (s : Text) : Prop where
  head : ∀ c ∈ s.head?, isBlank c = false
  last : ∀ c ∈ s.getLast?, isBlank c = false

variable {s before behind first last : Text}

theorem dropEndWhile_spec (p : Char → Bool) (s : Text) :
    ∃ dropped, s = dropEndWhile p s ++ dropped ∧ dropped.all p = true ∧
      ∀ c, (dropEndWhile p s).getLast? = some c → p c = false := by
  refine ⟨(s.reverse.takeWhile p).reverse, ?_, ?_, ?_⟩
  · rw [dropEndWhile, ← List.reverse_append, List.takeWhile_append_dropWhile, List.reverse_reverse]
  · rw [List.all_reverse]
    exact List.all_takeWhile
  · intro c hc
    rw [dropEndWhile, List.getLast?_reverse] at hc
    have := List.head?_dropWhile_not p s.reverse
    rw [hc] at this
    simpa using this

theorem dropEndWhile_append {p : Char → Bool} (h : ∀ c ∈ behind, p c = true) (s : Text) :
    dropEndWhile p (s ++ behind) = dropEndWhile p s := by
  have hreverse : ∀ c ∈ behind.reverse, p c = true := fun c hc => h c (List.mem_reverse.mp hc)
  rw [dropEndWhile, List.reverse_append, List.dropWhile_append_of_pos hreverse]
  rfl

/-- Nothing is removed behind a character that is kept. -/
theorem dropEndWhile_append_of_last {p : Char → Bool} (hne : s ≠ [])
    (hlast : ∀ c ∈ s.getLast?, p c = false) (t : Text) :
    dropEndWhile p (s ++ t) = s ++ dropEndWhile p t := by
  have hs : s.reverse.dropWhile p = s.reverse := by
    obtain ⟨c, rest, hs⟩ := List.exists_cons_of_ne_nil (List.reverse_ne_nil_iff.mpr hne)
    have hc : p c = false := hlast c (by rw [← List.head?_reverse, hs]; rfl)
    rw [hs, List.dropWhile_cons_of_neg (by simp [hc])]
  rw [dropEndWhile, dropEndWhile, List.reverse_append, List.dropWhile_append, hs]
  cases ht : t.reverse.dropWhile p with
  | nil => simp
  | cons c rest => simp

theorem isTrim_strip (s : Text) : IsTrim (strip s) := by
  obtain ⟨dropped, hdropped, -, hlast⟩ := dropEndWhile_spec isBlank (stripStart s)
  refine ⟨fun c hc => ?_, hlast⟩
  -- what is removed at the end leaves the beginning as it is
  have hhead := List.head?_dropWhile_not isBlank s
  have hstart : (s.dropWhile isBlank).head? = some c := by
    rw [← stripStart, hdropped, List.head?_append, ← stripEnd, ← strip, hc]
    rfl
  rw [hstart] at hhead
  simpa using hhead

theorem IsTrim.strip_eq (h : IsTrim s) : strip s = s := strip_eq_self h.head h.last

theorem IsTrim.stripEnd_eq (h : IsTrim s) : stripEnd s = s := by
  by_cases hs : s = []
  · rw [hs]
    rfl
  · have hstop := dropEndWhile_append_of_last hs h.last []
    have hnothing : dropEndWhile isBlank [] = [] := rfl
    rwa [hnothing, List.append_nil] at hstop

theorem isTrim_of_strip_eq (h : strip s = s) : IsTrim s := h ▸ isTrim_strip s

theorem not_isBlank_of_isDigit {c : Char} (h : c.isDigit = true) : isBlank c = false := by
  have hrange : 0x30 ≤ c.toNat ∧ c.toNat ≤ 0x39 := by
    simpa [Char.isDigit, UInt32.le_iff_toNat_le] using h
  exact not_isBlank_of_visible ⟨by omega, by omega⟩

theorem isTrim_of_visible (h : ∀ c ∈ s, isBlank c = false) : IsTrim s :=
  ⟨fun c hc => h c (List.mem_of_mem_head? hc), fun c hc => h c (List.mem_of_mem_getLast? hc)⟩

/-- Anything may stand between two texts without blanks at their ends. -/
theorem IsTrim.append (hfirst : IsTrim first) (hlast : IsTrim last) (hne : first ≠ [])
    (hne' : last ≠ []) (between : Text) : IsTrim (first ++ (between ++ last)) := by
  constructor
  · intro c hc
    rw [List.head?_append_of_ne_nil _ hne] at hc
    exact hfirst.head c hc
  · intro c hc
    rw [← List.append_assoc, List.getLast?_append_of_ne_nil _ hne'] at hc
    exact hlast.last c hc

/-- Only blanks are removed. -/
theorem exists_strip (s : Text) : ∃ before behind, s = before ++ (strip s ++ behind) ∧
    (∀ c ∈ before, isBlank c = true) ∧ ∀ c ∈ behind, isBlank c = true := by
  obtain ⟨behind, hbehind, hblank, -⟩ := dropEndWhile_spec isBlank (stripStart s)
  refine ⟨s.takeWhile isBlank, behind, ?_, fun c hc => List.mem_takeWhile_imp hc,
    List.all_eq_true.mp hblank⟩
  have hstart := List.takeWhile_append_dropWhile (p := isBlank) (l := s)
  rwa [← stripStart, hbehind, eq_comm] at hstart

/-- Blanks around a text do not count. -/
theorem strip_pad (h : IsTrim s) (hbefore : ∀ c ∈ before, isBlank c = true)
    (hbehind : ∀ c ∈ behind, isBlank c = true) : strip (before ++ (s ++ behind)) = s := by
  have hnothing : stripEnd behind = [] := dropEndWhile_append hbehind []
  rw [strip, stripStart, List.dropWhile_append_of_pos hbefore]
  cases s with
  | nil =>
    rw [List.nil_append, List.dropWhile_eq_nil_iff.mpr hbehind]
    rfl
  | cons c rest =>
    rw [List.cons_append, List.dropWhile_cons_of_neg (by simp [h.head c rfl]), ← List.cons_append,
      stripEnd, dropEndWhile_append_of_last (List.cons_ne_nil c rest) h.last, ← stripEnd, hnothing,
      List.append_nil]

theorem strip_blank_append (h : ∀ c ∈ before, isBlank c = true) (s : Text) :
    strip (before ++ s) = strip s := by
  rw [strip, stripStart, List.dropWhile_append_of_pos h]
  rfl

theorem strip_append_blank (h : ∀ c ∈ behind, isBlank c = true) (s : Text) :
    strip (s ++ behind) = strip s := by
  obtain ⟨before, rest, hs, hbefore, hrest⟩ := exists_strip s
  have hboth : ∀ c ∈ rest ++ behind, isBlank c = true := fun c hc =>
    (List.mem_append.mp hc).elim (hrest c) (h c)
  have hpad := strip_pad (isTrim_strip s) hbefore hboth
  rwa [← List.append_assoc (strip s), ← List.append_assoc before, ← hs] at hpad

theorem strip_stripEnd (s : Text) : strip (stripEnd s) = strip s := by
  obtain ⟨dropped, hs, hdropped, -⟩ := dropEndWhile_spec isBlank s
  have hstrip := strip_append_blank (List.all_eq_true.mp hdropped) (stripEnd s)
  rw [stripEnd, ← hs] at hstrip
  exact hstrip.symm

theorem strip_append (h : IsTrim s) (hne : s ≠ []) (t : Text) :
    strip (s ++ t) = s ++ stripEnd t := by
  obtain ⟨c, rest, rfl⟩ := List.exists_cons_of_ne_nil hne
  have hstart : stripStart (c :: rest ++ t) = c :: rest ++ t :=
    List.dropWhile_cons_of_neg (by simp [h.head c rfl])
  rw [strip, hstart]
  exact dropEndWhile_append_of_last hne h.last t

theorem strip_of_blank (h : ∀ c ∈ s, isBlank c = true) : strip s = [] := by
  have hnil : IsTrim [] := ⟨by simp, by simp⟩
  have hnone : ∀ c ∈ ([] : Text), isBlank c = true := by simp
  have hpad := strip_pad hnil h hnone
  rwa [List.nil_append, List.append_nil] at hpad

end Text

theorem RawText.strip_ofText (s : Text) : (ofText s).strip = ofText s.strip := by
  have htest : (fun p => Text.isBlank (Point.shown p)) ∘ Point.char = Text.isBlank := rfl
  simp only [strip, ofText, Text.strip, Text.stripStart, Text.stripEnd, Text.dropEndWhile,
    List.dropWhile_map, ← List.map_reverse, htest]

end NfsVolume
