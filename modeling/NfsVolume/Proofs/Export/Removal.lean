import NfsVolume.Proofs.Export.History
import Mathlib.Data.List.Nodup

/-! Entries of an export file that can be told from each other and from the text before them. Each
of them can be removed, wherever it stands, and the others stay as they are. -/
namespace NfsVolume.ExportBackend

variable {kind : ExportKind} {path text : Text} {entries before behind : List (Nat × Text)}
  {entry : Nat × Text}

/-- The entries of ids with paths, as they stand in a file. -/
def entriesText (kind : ExportKind) (entries : List (Nat × Text)) : Text :=
  (entries.map fun entry => entryOf kind entry.2 entry.1).flatten

theorem entriesText_append (kind : ExportKind) (entries more : List (Nat × Text)) :
    entriesText kind (entries ++ more) = entriesText kind entries ++ entriesText kind more := by
  simp [entriesText]

theorem entriesText_cons (kind : ExportKind) (entry : Nat × Text) (entries : List (Nat × Text)) :
    entriesText kind (entry :: entries) =
      entryOf kind entry.2 entry.1 ++ entriesText kind entries := rfl

/-- Entries behind a text that differ from it and from each other: a path has one line in the
kernel's file, and ids in ganesha's file increase. -/
def Distinct (kind : ExportKind) (text : Text) (entries : List (Nat × Text)) : Prop :=
  match kind with
  | .kernel => (entries.map Prod.snd).Nodup ∧ ∀ entry ∈ entries, '\n' ∉ entry.2 ∧
      ¬ Export.kernelLine entry.2 <:+: text ++ ['\n']
  | .ganesha => (entries.map Prod.fst).Pairwise (· < ·) ∧ ∀ entry ∈ entries,
      ¬ Export.idLabel <:+: entry.2 ∧ ∀ id ∈ Export.ids text, id < entry.1

theorem Distinct.nil (kind : ExportKind) (text : Text) : Distinct kind text [] := by
  cases kind with
  | kernel => exact ⟨List.nodup_nil, by simp⟩
  | ganesha => exact ⟨List.Pairwise.nil, by simp⟩

/-- What is left when entries are taken away is still distinct. -/
theorem Distinct.sublist {fewer : List (Nat × Text)} (h : Distinct kind text entries)
    (hsub : fewer.Sublist entries) : Distinct kind text fewer := by
  cases kind with
  | kernel =>
    exact ⟨h.1.sublist (hsub.map _), fun entry hentry => h.2 entry (hsub.subset hentry)⟩
  | ganesha =>
    exact ⟨h.1.sublist (hsub.map _), fun entry hentry => h.2 entry (hsub.subset hentry)⟩

theorem Distinct.append_kernelLine {id : Nat} (h : Distinct .kernel text entries)
    (hpath : '\n' ∉ path) (hline : ¬ Export.kernelLine path <:+: text ++ ['\n'])
    (hnew : path ∉ entries.map Prod.snd) : Distinct .kernel text (entries ++ [(id, path)]) := by
  refine ⟨?_, ?_⟩
  · rw [List.map_append, List.map_singleton]
    exact List.Nodup.append h.1 (List.nodup_singleton path)
      (List.disjoint_singleton.mpr hnew)
  · intro entry hentry
    rcases List.mem_append.mp hentry with hentry | hentry
    · exact h.2 entry hentry
    · rw [List.mem_singleton.mp hentry]
      exact ⟨hpath, hline⟩

theorem ids_append_entriesText (h : Distinct .ganesha text entries) (other : Text) :
    Export.ids (other ++ entriesText .ganesha entries) =
      Export.ids other ++ entries.map Prod.fst :=
  ids_append_blocksText other fun entry hentry => (h.2 entry hentry).1

/-- An id that is above all in the file is distinct from the others. -/
theorem Distinct.append_ganeshaBlock {id : Nat} (h : Distinct .ganesha text entries)
    (hpath : ¬ Export.idLabel <:+: path)
    (habove : ∀ other ∈ Export.ids (text ++ entriesText .ganesha entries), other < id) :
    Distinct .ganesha text (entries ++ [(id, path)]) := by
  rw [ids_append_entriesText h] at habove
  refine ⟨?_, ?_⟩
  · refine increasing_append h.1 (fun entry hentry => ?_) (.inr rfl)
    exact habove _ (List.mem_append_right _ (List.mem_map_of_mem hentry))
  · intro entry hentry
    rcases List.mem_append.mp hentry with hentry | hentry
    · exact h.2 entry hentry
    · rw [List.mem_singleton.mp hentry]
      exact ⟨hpath, fun other hother => habove other (List.mem_append_left _ hother)⟩

/-- The lines of a file are those of the text at its beginning and those of the entries. -/
theorem kernelLine_infix_entriesText {other : Text} (hpath : '\n' ∉ path)
    (hentries : ∀ entry ∈ entries, '\n' ∉ entry.2)
    (h : Export.kernelLine path <:+: other ++ entriesText .kernel entries ++ ['\n']) :
    Export.kernelLine path <:+: other ++ ['\n'] ∨ path ∈ entries.map Prod.snd := by
  induction entries using List.reverseRecOn with
  | nil =>
    rw [show entriesText .kernel [] = [] from rfl, List.append_nil] at h
    exact .inl h
  | append_singleton entries entry ih =>
    rw [entriesText_append, ← List.append_assoc] at h
    have hlast : entriesText .kernel [entry] = Export.kernelLine entry.2 :=
      List.append_nil (Export.kernelLine entry.2)
    rw [hlast] at h
    rcases Export.kernelLine_infix_append hpath (hentries entry (by simp)) h with h | rfl
    · refine (ih (fun entry hentry => hentries entry (List.mem_append_left _ hentry)) h).imp_right
        fun hmem => ?_
      rw [List.map_append]
      exact List.mem_append_left _ hmem
    · exact .inr (by simp)

/-- The line of a path stands neither in the text before it nor among the lines behind it. -/
theorem Distinct.kernelLine_once (h : Distinct .kernel text (before ++ entry :: behind)) :
    Text.NotBefore (Export.kernelLine entry.2) (text ++ entriesText .kernel before) ∧
      ¬ Export.kernelLine entry.2 <:+: entriesText .kernel behind := by
  obtain ⟨hnodup, hentries⟩ := h
  obtain ⟨hpath, hline⟩ := hentries entry (by simp)
  rw [List.map_append, List.map_cons, List.nodup_append] at hnodup
  obtain ⟨-, hbehind, hbefore⟩ := hnodup
  constructor
  · refine Export.notBefore_kernelLine hpath fun hin => ?_
    rcases kernelLine_infix_entriesText hpath (fun other hother =>
      (hentries other (by simp [hother])).1) hin with hin | hmem
    · exact hline hin
    · exact hbefore _ hmem _ List.mem_cons_self rfl
  · intro hin
    have hin : Export.kernelLine entry.2 <:+: [] ++ entriesText .kernel behind ++ ['\n'] :=
      hin.trans (List.prefix_append _ _).isInfix
    rcases kernelLine_infix_entriesText hpath (fun other hother =>
      (hentries other (by simp [hother])).1) hin with hin | hmem
    · have hlength := hin.length_le
      simp only [Export.kernelLine_eq, List.length_cons, List.length_append, List.length_nil]
        at hlength
      omega
    · exact (List.nodup_cons.mp hbehind).1 hmem

/-- The id of a block is neither in the text before it nor in the blocks behind it. -/
theorem Distinct.ganeshaBlock_once (h : Distinct .ganesha text (before ++ entry :: behind)) :
    Text.NotBefore (Export.ganeshaBlock entry.1 entry.2) (text ++ entriesText .ganesha before) ∧
      ¬ Export.ganeshaBlock entry.1 entry.2 <:+: entriesText .ganesha behind := by
  have hbefore : Distinct .ganesha text before := h.sublist (List.sublist_append_left _ _)
  have hbehind : Distinct .ganesha text behind :=
    h.sublist ((List.sublist_cons_self _ _).trans (List.sublist_append_right _ _))
  obtain ⟨hincreasing, hentries⟩ := h
  rw [List.map_append, List.map_cons, List.pairwise_append, List.pairwise_cons] at hincreasing
  obtain ⟨-, ⟨hbelow, -⟩, habove⟩ := hincreasing
  constructor
  · refine Export.notBefore_ganeshaBlock (fun hmark => ?_) entry.2
    have hmem := Export.mem_ids_of_idMark hmark
    rw [ids_append_entriesText hbefore] at hmem
    rcases List.mem_append.mp hmem with hmem | hmem
    · exact lt_irrefl _ ((hentries entry (by simp)).2 _ hmem)
    · exact lt_irrefl _ (habove _ hmem _ List.mem_cons_self)
  · intro hin
    have hmem := Export.mem_ids_of_idMark ((Export.idMark_infix_ganeshaBlock _ _).trans hin)
    have hids : Export.ids (entriesText .ganesha behind) = behind.map Prod.fst :=
      ids_append_entriesText hbehind []
    rw [hids] at hmem
    exact lt_irrefl _ (hbelow _ hmem)

/-- Of distinct entries, each can be removed from between the others. -/
theorem Distinct.erase (h : Distinct kind text (before ++ entry :: behind)) :
    Text.erase (entryOf kind entry.2 entry.1)
        (text ++ entriesText kind (before ++ entry :: behind)) =
      text ++ entriesText kind (before ++ behind) := by
  obtain ⟨hfirst, habsent⟩ : Text.NotBefore (entryOf kind entry.2 entry.1)
      (text ++ entriesText kind before) ∧
      ¬ entryOf kind entry.2 entry.1 <:+: entriesText kind behind := by
    cases kind with
    | kernel => exact h.kernelLine_once
    | ganesha => exact h.ganeshaBlock_once
  have herase := hfirst.erase (entryOf_ne_nil kind entry.2 entry.1) habsent
  rw [List.append_assoc, List.append_assoc] at herase
  rw [entriesText_append, entriesText_cons, entriesText_append, herase]

end NfsVolume.ExportBackend
