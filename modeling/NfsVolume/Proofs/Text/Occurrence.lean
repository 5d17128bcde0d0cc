import NfsVolume.Text.Replace
import Mathlib.Data.List.Infix

/-! Where a text occurs in another: occurrences that cannot run across a separator, and the erasure
of a text that occurs only at the end. -/
namespace NfsVolume.Text

theorem startsWith_iff {s start : Text} : startsWith s start = true ↔ start <+: s := by
  constructor
  · intro h
    obtain ⟨rest, hrest⟩ := Option.isSome_iff_exists.mp h
    exact ⟨rest, (eq_append_of_after? hrest).symm⟩
  · rintro ⟨rest, rfl⟩
    simp [startsWith, after?_append]

section separators
variable {m u a b : Text} {x : Char}

/-- A text without the separator lies on one side of it. -/
theorem infix_of_infix_append_cons (hx : x ∉ m) (h : m <:+: a ++ x :: b) : m <:+: a ∨ m <:+: b := by
  rcases List.infix_append_iff.mp h with h | h | ⟨l₁, l₂, rfl, h₁, h₂⟩
  · exact .inl h
  · rcases List.infix_cons_iff.mp h with h | h
    · cases m with
      | nil => exact .inr List.nil_infix
      | cons c rest =>
        obtain rfl := (List.cons_prefix_cons.mp h).1
        exact absurd List.mem_cons_self hx
    · exact .inr h
  · cases l₂ with
    | nil =>
      rw [List.append_nil]
      exact .inl h₁.isInfix
    | cons c rest =>
      obtain rfl := (List.cons_prefix_cons.mp h₂).1
      exact absurd (List.mem_append_right l₁ List.mem_cons_self) hx

/-- A text that begins with a separator and has no other lies on one side of it, or begins there. -/
theorem infix_of_cons_infix_append_cons (hx : x ∉ u) (h : x :: u <:+: a ++ x :: b) :
    x :: u <:+: a ∨ u <+: b ∨ x :: u <:+: b := by
  rcases List.infix_append_iff.mp h with h | h | ⟨l₁, l₂, hl, h₁, h₂⟩
  · exact .inl h
  · rcases List.infix_cons_iff.mp h with h | h
    · exact .inr (.inl (List.cons_prefix_cons.mp h).2)
    · exact .inr (.inr h)
  · cases l₁ with
    | nil =>
      rw [List.nil_append] at hl
      rw [← hl] at h₂
      exact .inr (.inl (List.cons_prefix_cons.mp h₂).2)
    | cons c rest =>
      rw [List.cons_append] at hl
      obtain ⟨rfl, rfl⟩ := List.cons.inj hl
      cases l₂ with
      | nil =>
        rw [List.append_nil]
        exact .inl h₁.isInfix
      | cons d more =>
        obtain rfl := (List.cons_prefix_cons.mp h₂).1
        exact absurd (List.mem_append_right rest List.mem_cons_self) hx

/-- A text that begins and ends with the separator, and has no other, may share its last one with
what follows. -/
theorem infix_of_enclosed_infix_append_cons (hx : x ∉ u)
    (h : x :: (u ++ [x]) <:+: a ++ x :: b) :
    x :: (u ++ [x]) <:+: a ++ [x] ∨ u ++ [x] <+: b ∨ x :: (u ++ [x]) <:+: b := by
  rcases List.infix_append_iff.mp h with h | h | ⟨l₁, l₂, hl, h₁, h₂⟩
  · exact .inl (h.trans (List.prefix_append a [x]).isInfix)
  · rcases List.infix_cons_iff.mp h with h | h
    · exact .inr (.inl (List.cons_prefix_cons.mp h).2)
    · exact .inr (.inr h)
  · cases l₁ with
    | nil =>
      rw [List.nil_append] at hl
      rw [← hl] at h₂
      exact .inr (.inl (List.cons_prefix_cons.mp h₂).2)
    | cons c rest =>
      rw [List.cons_append] at hl
      obtain ⟨rfl, hrest⟩ := List.cons.inj hl
      cases l₂ with
      | nil =>
        rw [hl, List.append_nil]
        exact .inl (h₁.isInfix.trans (List.prefix_append a [x]).isInfix)
      | cons d more =>
        obtain rfl := (List.cons_prefix_cons.mp h₂).1
        -- the separator in the text is the one at its end
        rcases List.append_eq_append_iff.mp hrest with ⟨as, hr, hm⟩ | ⟨bs, hu, hm⟩
        · have hnil : more = [] := by
            have := congrArg List.length hm
            simp only [List.length_cons, List.length_append, List.length_nil] at this
            exact List.length_eq_zero_iff.mp (by omega)
          rw [hl, hnil]
          obtain ⟨t, rfl⟩ := h₁
          exact .inl ⟨t, [], by simp⟩
        · cases bs with
          | nil =>
            rw [List.append_nil] at hu
            obtain ⟨t, rfl⟩ := h₁
            exact .inl ⟨t, [], by simp [hu]⟩
          | cons e bs =>
            obtain ⟨rfl, -⟩ := List.cons.inj hm
            exact absurd (hu ▸ List.mem_append_right rest List.mem_cons_self) hx

end separators

/-- A text occurs in what it is appended to only at the very end. -/
def OnlyAtEnd (entry text : Text) : Prop :=
  ∀ before behind, text ++ entry = before ++ entry ++ behind → behind = []

/-- A text that is appended to another one does not begin any earlier, whatever follows it. -/
def NotBefore (entry text : Text) : Prop :=
  ∀ behind before' behind', text ++ (entry ++ behind) = before' ++ (entry ++ behind') →
    text.length ≤ before'.length

/-- It is enough that the first part of the text does not occur any earlier. -/
theorem notBefore_of_head {head rest text : Text} {x : Char}
    (h : ¬ head ++ [x] <:+: text ++ head) : NotBefore (head ++ x :: rest) text := by
  intro behind before' behind' heq
  by_contra hlt
  -- the first part of an earlier occurrence ends before the last one does
  have hshort : before' ++ (head ++ [x]) <+: text ++ head := by
    have hearly : before' ++ (head ++ [x]) <+: text ++ ((head ++ x :: rest) ++ behind) := by
      rw [heq]
      exact ⟨rest ++ behind', by simp⟩
    have hlate : text ++ head <+: text ++ ((head ++ x :: rest) ++ behind) :=
      ⟨x :: rest ++ behind, by simp⟩
    refine List.prefix_of_prefix_length_le hearly hlate ?_
    simp only [List.length_append, List.length_cons, List.length_nil]
    omega
  exact h ((List.suffix_append before' _).isInfix.trans hshort.isInfix)

theorem NotBefore.onlyAtEnd {entry text : Text} (h : NotBefore entry text) :
    OnlyAtEnd entry text := by
  intro before behind heq
  have hle := h [] before behind (by simpa using heq)
  have hlen := congrArg List.length heq
  simp only [List.length_append] at hlen
  exact List.length_eq_zero_iff.mp (by omega)

variable {pattern substitute s entry text : Text}

theorem replaceFrom_skip (head rest : Text) :
    replaceFrom pattern substitute head.length (head ++ rest) =
      replaceFrom pattern substitute 0 rest := by
  induction head with
  | nil => rfl
  | cons c head ih => exact ih

theorem replaceFrom_self (hp : pattern ≠ []) :
    replaceFrom pattern substitute 0 pattern = substitute := by
  cases pattern with
  | nil => exact absurd rfl hp
  | cons c rest =>
    have hs : startsWith (c :: rest) (c :: rest) = true := startsWith_iff.mpr (List.prefix_refl _)
    have hskip : replaceFrom (c :: rest) substitute rest.length (rest ++ []) = [] :=
      replaceFrom_skip rest []
    rw [List.append_nil] at hskip
    simp only [replaceFrom, hs, if_true, List.length_cons, Nat.add_sub_cancel, hskip,
      List.append_nil]

/-- What occurs only at the end is erased there, and all before it stays. -/
theorem erase_append {entry text : Text} (hne : entry ≠ []) (h : OnlyAtEnd entry text) :
    erase entry (text ++ entry) = text := by
  rw [erase, replace, if_neg hne]
  induction text with
  | nil => simpa using replaceFrom_self hne
  | cons c rest ih =>
    have hs : startsWith (c :: (rest ++ entry)) entry = false := by
      cases hcase : startsWith (c :: (rest ++ entry)) entry with
      | false => rfl
      | true =>
        obtain ⟨behind, hb⟩ := startsWith_iff.mp hcase
        have hnil := h [] behind (by simpa using hb.symm)
        have hlen := congrArg List.length hb
        simp only [hnil, List.length_append, List.length_cons, List.length_nil] at hlen
        omega
    have htail : OnlyAtEnd entry rest := fun before behind hb =>
      h (c :: before) behind (by simp [hb])
    simp only [List.cons_append, replaceFrom, hs, Bool.false_eq_true, if_false, ih htail]

theorem erase_cons_of_startsWith {c : Char} {rest : Text} (h : pattern <+: c :: rest) :
    ∃ behind, c :: rest = pattern ++ behind ∧ erase pattern (c :: rest) = erase pattern behind := by
  obtain ⟨behind, hbehind⟩ := h
  refine ⟨behind, hbehind.symm, ?_⟩
  cases pattern with
  | nil => rw [← hbehind]; rfl
  | cons d more =>
    obtain ⟨rfl, rfl⟩ := List.cons.inj hbehind
    have hs : startsWith (d :: (more ++ behind)) (d :: more) = true :=
      startsWith_iff.mpr (List.prefix_append (d :: more) behind)
    simp only [List.append_eq, erase, replace, reduceCtorEq, if_false, replaceFrom, hs, if_true,
      List.length_cons, Nat.add_sub_cancel, replaceFrom_skip, List.nil_append]

theorem erase_cons_of_not_startsWith {c : Char} {rest : Text} (hne : pattern ≠ [])
    (h : ¬ pattern <+: c :: rest) : erase pattern (c :: rest) = c :: erase pattern rest := by
  have hs : startsWith (c :: rest) pattern = false := by
    rwa [← Bool.not_eq_true, startsWith_iff]
  simp only [erase, replace, hne, if_false, replaceFrom, hs, Bool.false_eq_true]

/-- What does not occur cannot be erased. -/
theorem erase_of_absent (h : ¬ pattern <:+: s) : erase pattern s = s := by
  have hne : pattern ≠ [] := fun he => h (he ▸ List.nil_infix)
  induction s with
  | nil => simp [erase, replace, hne, replaceFrom]
  | cons c rest ih =>
    rw [List.infix_cons_iff, not_or] at h
    rw [erase_cons_of_not_startsWith hne h.1, ih h.2]

/-- Erasing takes the first occurrence away and goes on behind it. -/
theorem erase_of_occurs (hne : pattern ≠ []) (h : pattern <:+: s) :
    ∃ before behind, s = before ++ (pattern ++ behind) ∧
      (∀ before' behind', s = before' ++ (pattern ++ behind') → before.length ≤ before'.length) ∧
      erase pattern s = before ++ erase pattern behind := by
  induction s with
  | nil => exact absurd (List.eq_nil_of_infix_nil h) hne
  | cons c rest ih =>
    by_cases hstart : pattern <+: c :: rest
    · obtain ⟨behind, hsplit, herase⟩ := erase_cons_of_startsWith hstart
      exact ⟨[], behind, hsplit, fun _ _ _ => Nat.zero_le _, herase⟩
    · have hrest : pattern <:+: rest := (List.infix_cons_iff.mp h).resolve_left hstart
      obtain ⟨before, behind, hsplit, hfirst, herase⟩ := ih hrest
      refine ⟨c :: before, behind, by rw [hsplit]; rfl, ?_, ?_⟩
      · intro before' behind' heq
        cases before' with
        | nil => exact absurd ⟨behind', heq.symm⟩ hstart
        | cons d before' =>
          have := hfirst before' behind' (List.cons.inj heq).2
          simpa using this
      · rw [erase_cons_of_not_startsWith hne hstart, herase]
        rfl

/-- A text that does not begin earlier, and does not occur behind, is erased where it stands. -/
theorem NotBefore.erase {entry before behind : Text} (h : NotBefore entry before)
    (hne : entry ≠ []) (habsent : ¬ entry <:+: behind) :
    Text.erase entry (before ++ (entry ++ behind)) = before ++ behind := by
  obtain ⟨before', behind', hsplit, hfirst, herase⟩ :=
    erase_of_occurs hne ⟨before, behind, List.append_assoc before entry behind⟩
  have hlength := le_antisymm (h behind before' behind' hsplit) (hfirst before behind rfl)
  obtain ⟨rfl, hrest⟩ := List.append_inj hsplit hlength
  obtain rfl := List.append_cancel_left hrest
  rw [herase, erase_of_absent habsent]

theorem length_erase_le (pattern s : Text) : (erase pattern s).length ≤ s.length := by
  by_cases hne : pattern = []
  · rw [hne, erase_nil]
  induction hn : s.length using Nat.strong_induction_on generalizing s with
  | h n ih =>
    by_cases h : pattern <:+: s
    · obtain ⟨before, behind, rfl, -, herase⟩ := erase_of_occurs hne h
      have hpos := List.length_pos_iff.mpr hne
      simp only [List.length_append] at hn
      have := ih behind.length (by omega) behind rfl
      rw [herase, List.length_append]
      omega
    · rw [erase_of_absent h, hn]

theorem length_erase_lt (hne : pattern ≠ []) (h : pattern <:+: s) :
    (erase pattern s).length < s.length := by
  obtain ⟨before, behind, rfl, -, herase⟩ := erase_of_occurs hne h
  have hpos := List.length_pos_iff.mpr hne
  have hle := length_erase_le pattern behind
  simp only [herase, List.length_append]
  omega

/-- Taking a text out of another one from the left: its first occurrence goes, and what stands
behind that is treated in the same way, until it occurs no more. -/
inductive Erases (pattern : Text) : Text → Text → Prop
  | absent {s : Text} (h : pattern = [] ∨ ¬ pattern <:+: s) : Erases pattern s s
  | first {before behind rest : Text} (hne : pattern ≠ [])
      (hfirst : ∀ before' behind',
        before ++ (pattern ++ behind) = before' ++ (pattern ++ behind') →
          before.length ≤ before'.length)
      (hrest : Erases pattern behind rest) :
      Erases pattern (before ++ (pattern ++ behind)) (before ++ rest)

theorem erases_erase (pattern s : Text) : Erases pattern s (erase pattern s) := by
  by_cases hne : pattern = []
  · rw [hne, erase_nil]
    exact .absent (.inl rfl)
  induction hn : s.length using Nat.strong_induction_on generalizing s with
  | h n ih =>
    by_cases h : pattern <:+: s
    · obtain ⟨before, behind, rfl, hfirst, herase⟩ := erase_of_occurs hne h
      have hpos := List.length_pos_iff.mpr hne
      simp only [List.length_append] at hn
      rw [herase]
      exact .first hne hfirst (ih behind.length (by omega) behind rfl)
    · rw [erase_of_absent h]
      exact .absent (.inr h)

/-- Erasing is the one way of taking a text out from the left. -/
theorem Erases.eq_erase {s t : Text} (h : Erases pattern s t) : t = erase pattern s := by
  induction h with
  | absent h =>
    rcases h with rfl | h
    · rfl
    · exact (erase_of_absent h).symm
  | @first before behind rest hne hfirst hrest ih =>
    obtain ⟨before', behind', hsplit, hfirst', herase⟩ :=
      erase_of_occurs hne ⟨before, behind, List.append_assoc before pattern behind⟩
    have hlength := le_antisymm (hfirst _ _ hsplit) (hfirst' _ _ rfl)
    obtain ⟨rfl, htail⟩ := List.append_inj hsplit hlength
    obtain rfl := List.append_cancel_left htail
    rw [herase, ih]

/-- The text before an erased entry is as it was, and then the entry occurs only once: it does not
occur where it is erased, nor before. -/
theorem append_comm_of_erase_append (hne : entry ≠ []) (h : erase entry (text ++ entry) = text) :
    ∃ before behind, text = before ++ behind ∧ behind ++ entry = entry ++ behind ∧
      ¬ entry <:+: behind ∧ ∀ before' behind', text ++ entry = before' ++ (entry ++ behind') →
        before.length ≤ before'.length := by
  obtain ⟨before, behind, hsplit, hfirst, herase⟩ :=
    erase_of_occurs hne (List.suffix_append text entry).isInfix
  rw [h] at herase
  have hlength := congrArg List.length hsplit
  have hlength' := congrArg List.length herase
  simp only [List.length_append] at hlength hlength'
  have honce : ¬ entry <:+: behind := by
    intro hin
    have := length_erase_lt hne hin
    omega
  rw [erase_of_absent honce] at herase
  refine ⟨before, behind, herase, ?_, honce, hfirst⟩
  rw [herase, List.append_assoc, List.append_cancel_left_eq] at hsplit
  exact hsplit

end NfsVolume.Text
