import NfsVolume.Export.Backend
import NfsVolume.Proofs.Export.Entry
import NfsVolume.Proofs.Text.Integer
import NfsVolume.Proofs.Text.Split

/-! What an entry of an export file tells of its volume. The path stands in it as it is, with no
quotes and nothing escaped, and still no two volumes have the same entry. -/
namespace NfsVolume.Export

open Text

variable {i j : Nat} {p q label before rest : Text} {c : Char}

/-- The path is written twice, so entries of one length have paths of one length. -/
theorem blockRest_injective (h : blockRest i p = blockRest i q) : p = q := by
  rw [blockRest_eq, blockRest_eq] at h
  have hlines := List.append_cancel_left h
  have hlength : (p ++ [idEnd]).length = (q ++ [idEnd]).length := by
    have htotal := congrArg List.length hlines
    simp only [List.length_append, List.length_cons] at htotal ⊢
    omega
  exact List.append_cancel_right (List.append_inj_left hlines hlength)

theorem ganeshaBlock_injective (h : ganeshaBlock i p = ganeshaBlock j q) : i = j ∧ p = q := by
  simp only [ganeshaBlock_eq, List.cons.injEq, List.append_cancel_left_eq, true_and, idMark,
    List.cons_append] at h
  -- an id ends in a character that is no digit, so none is the beginning of another
  have hshown : labelled (decimal j) <+: labelled (decimal i) ++ blockRest i p :=
    h ▸ List.prefix_append _ _
  obtain rfl := labelled_prefix_injective (List.prefix_append _ _) hshown
  exact ⟨rfl, blockRest_injective (List.append_cancel_left h)⟩

theorem kernelLine_injective (h : kernelLine p = kernelLine q) : p = q := by
  rw [kernelLine_eq, kernelLine_eq] at h
  have htext := List.append_cancel_right (List.cons.inj h).2
  exact List.append_cancel_right htext

/-- A line ends in a parenthesis and a block in a brace, whatever their paths are. -/
theorem kernelLine_ne_ganeshaBlock (p q : Text) (j : Nat) : kernelLine p ≠ ganeshaBlock j q := by
  intro h
  have hline : (")\n" : Text) <:+ kernelLine p :=
    ⟨'\n' :: (p ++ (" *(rw,insecure,root_squash" : Text)), by unfold kernelLine; simp⟩
  have hblock : ("\x7d\n" : Text) <:+ ganeshaBlock j q := by
    unfold ganeshaBlock
    exact List.suffix_append _ _
  rw [h] at hline
  exact absurd (List.suffix_of_suffix_length_le hline hblock (by decide)) (by decide)

theorem head?_idsIn_ganeshaBlock (i : Nat) (p : Text) :
    (idsIn (ganeshaBlock i p)).head? = some (decimal i) := by
  rw [← List.nil_append (ganeshaBlock i p), idsIn_append_block]
  rfl

theorem idsIn_ganeshaBlock (hp : ¬ idLabel <:+: p) (i : Nat) :
    idsIn (ganeshaBlock i p) = [decimal i] := by
  rw [← List.nil_append (ganeshaBlock i p), idsIn_append_ganeshaBlock hp]
  rfl

theorem idValue_decimal (hi : Integer.tooLong i = false) : idValue (decimal i) = .ok i := by
  rw [idValue, if_neg (Nat.not_lt.mpr (Integer.length_decimal_le hi)), ofDigitChars_decimal]

theorem lastId_ganeshaBlock (hi : Integer.tooLong i = false) (hp : ¬ idLabel <:+: p) :
    lastId (ganeshaBlock i p) = .ok i := by
  rw [lastId, idsIn_ganeshaBlock hp, greatest, idValue_decimal hi]
  exact congrArg Except.ok (Nat.zero_max i)

/-- What stands behind the first occurrence of a label. -/
def behind? (label : Text) : Text → Option Text
  | [] => after? label []
  | c :: rest => (after? label (c :: rest)).or (behind? label rest)

/-- The text between the first occurrence of a label and the next end. -/
def between? (label : Text) (stop : Char) (text : Text) : Option Text :=
  (behind? label text).bind fun rest => (cut? stop rest).map Prod.fst

/-- A label does not begin where its first character is not. -/
theorem behind?_append_of_notMem (h : c ∉ before) (rest : Text) :
    behind? (c :: label) (before ++ rest) = behind? (c :: label) rest := by
  induction before with
  | nil => rfl
  | cons d before ih =>
    simp only [List.mem_cons, not_or] at h
    simp [behind?, after?, h.1, ih h.2]

theorem behind?_cons_of_after?_eq_none (h : after? label rest = none) :
    behind? (c :: label) (c :: rest) = behind? (c :: label) rest := by
  simp [behind?, after?, h]

theorem behind?_cons_append (c : Char) (label rest : Text) :
    behind? (c :: label) (c :: (label ++ rest)) = some rest := by
  simp [behind?, after?, after?_append]

/-- A block cut at its first two capital letters P: that of its first line and that of its path. -/
theorem exists_ganeshaBlock_eq (i : Nat) (p : Text) : ∃ rest, ganeshaBlock i p =
    ("\nEX" : Text) ++ 'P' :: ((("ORT\n\x7b" : Text) ++ (idMark i ++ ['\n', '\t'])) ++
      'P' :: (("ath = " : Text) ++ (p ++ ';' :: rest))) := by
  refine ⟨'\n' :: (("\tPseudo = " : Text) ++ ((p ++ [idEnd]) ++ '\n' :: blockOptions i)), ?_⟩
  rw [ganeshaBlock_eq, blockRest_eq]
  simp [idEnd]

/-- The path of a block is what stands up to the end of its line, if that is not in the path. -/
theorem between?_ganeshaBlock (i : Nat) (hp : ';' ∉ p) :
    between? "Path = " ';' (ganeshaBlock i p) = some p := by
  obtain ⟨rest, hblock⟩ := exists_ganeshaBlock_eq i p
  have hbehind : behind? "Path = " (ganeshaBlock i p) = some (p ++ ';' :: rest) := by
    have hlabel : ("Path = " : Text) = 'P' :: ("ath = " : Text) := by decide
    have hfront : 'P' ∉ ("\nEX" : Text) := by decide
    have hline : 'P' ∉ ("ORT\n\x7b" : Text) ++ (idMark i ++ ['\n', '\t']) := by
      have hopen : 'P' ∉ ("ORT\n\x7b" : Text) := by decide
      have hid : 'P' ∉ idMark i := by
        have hshown : 'P' ∉ labelled (decimal i) :=
          notMem_labelled (by decide) (by decide) (by decide) (digit_of_mem_decimal i)
        simpa [idMark] using hshown
      have hbreak : 'P' ∉ ['\n', '\t'] := by decide
      simp only [List.mem_append, not_or]
      exact ⟨hopen, hid, hbreak⟩
    rw [hblock, hlabel, behind?_append_of_notMem hfront, behind?_cons_of_after?_eq_none rfl,
      behind?_append_of_notMem hline, behind?_cons_append]
  rw [between?, hbehind, Option.bind_some, cut?_append_cons p rest hp]
  rfl

/-- Every id that can be written is written. No two volumes have the same block or the same line,
and no line is a block. A block shows its id first, and it is the last id in it if its path does
not show the label of ids; its path is read back if it does not hold the end of a line. -/
theorem entries_identify (hi : Integer.tooLong i = false) (j : Nat) (p q : Text) :
    ExportBackend.entryFor p i = .ok (ganeshaBlock i p) ∧
      (ganeshaBlock i p = ganeshaBlock j q → i = j ∧ p = q) ∧
      (kernelLine p = kernelLine q → p = q) ∧ kernelLine p ≠ ganeshaBlock j q ∧
      (idsIn (ganeshaBlock i p)).head?.map idValue = some (.ok i) ∧
      (¬ idLabel <:+: p → lastId (ganeshaBlock i p) = .ok i) ∧
      (';' ∉ p → between? "Path = " ';' (ganeshaBlock i p) = some p) := by
  refine ⟨?_, ganeshaBlock_injective, kernelLine_injective, kernelLine_ne_ganeshaBlock p q j, ?_,
    lastId_ganeshaBlock hi, between?_ganeshaBlock i⟩
  · rw [ExportBackend.entryFor, hi]
    rfl
  · rw [head?_idsIn_ganeshaBlock, Option.map_some, idValue_decimal hi]

/-- A path that reads like a template and like the end of a block. -/
theorem entries_identify_nested :
    let path : Text := "v/\x7b\x7b path \x7d\x7d\n\x7d"
    lastId (ganeshaBlock 7 path) = .ok 7 ∧
      between? "Path = " ';' (ganeshaBlock 7 path) = some path := by
  have hall := entries_identify (Integer.tooLong_of_lt (n := 7) (by decide)) 8
    "v/\x7b\x7b path \x7d\x7d\n\x7d" []
  exact ⟨hall.2.2.2.2.2.1 (by decide), hall.2.2.2.2.2.2 (by decide)⟩

end NfsVolume.Export
