import NfsVolume.Proofs.Export.Backend

/-! Texts of export files from whose end an entry can be taken back, however many entries have been
appended before it. -/
namespace NfsVolume.ExportBackend

open Run Ledger

variable {b : ExportBackend} {count : Nat} {initial path text entry : Text} {paths : List Text}
  {w v : World} {place : Place} {mode : Nat}

/-- A text that can be told from later entries: every line of the kernel's server is one of the
initial text or of a path that has been exported, and no block of ganesha's has an id above the
count. -/
def Clear (b : ExportBackend) (count : Nat) (initial : Text) (paths : List Text) (text : Text) :
    Prop :=
  match b.kind with
  | .kernel => ∀ path, '\n' ∉ path → Export.kernelLine path <:+: text ++ ['\n'] →
      Export.kernelLine path <:+: initial ++ ['\n'] ∨ path ∈ paths
  | .ganesha => Ahead count text

theorem Clear.start (b : ExportBackend) (initial : Text) : Clear b 0 initial [] initial := by
  unfold Clear
  cases b.kind with
  | kernel => exact fun path _ h => .inl h
  | ganesha => exact .inl rfl

theorem Clear.append_kernelLine (hb : b.kind = .kernel) (h : Clear b count initial paths text)
    (hp : '\n' ∉ path) :
    Clear b count initial (paths ++ [path]) (text ++ Export.kernelLine path) := by
  unfold Clear at h ⊢
  rw [hb] at h ⊢
  intro other ho hline
  rcases Export.kernelLine_infix_append ho hp hline with hline | rfl
  · exact (h other ho hline).imp_right fun hm => List.mem_append_left _ hm
  · exact .inr (List.mem_append_right _ (List.mem_singleton.mpr rfl))

theorem clear_append_ganeshaBlock {id : Nat} (hb : b.kind = .ganesha) (hp : '\n' ∉ path)
    (h : ∀ later, id ≤ later → ¬ Export.idMark later <:+: text) :
    Clear b id initial paths (text ++ Export.ganeshaBlock id path) := by
  unfold Clear
  rw [hb]
  refine .inr fun later hlater hmark => ?_
  have hfree : ¬ Export.markLabel <:+: path := fun hlabel => hp (hlabel.subset (by decide))
  rcases Export.idMark_infix_append_ganeshaBlock hfree hmark with hmark | rfl
  · exact h later hlater.le hmark
  · exact lt_irrefl _ hlater

/-- Adding a path to a clear text leaves a clear text, with the entry or without it. -/
theorem of_add_clear {r : Except Failure ExportRecord}
    (hclear : Clear b w.lastExportId initial paths text) (hp : '\n' ∉ path) (hnew : path ∉ paths)
    (hline : b.kind = .kernel → ¬ Export.kernelLine path <:+: initial ++ ['\n'])
    (hfile : w.files.resolve b.file = .ok (place, .file mode (Text.Utf8.encode text)))
    (h : b.add path w = (r, v)) :
    ((∃ e, r = .error e) ∧ v.files = w.files ∧ Clear b v.lastExportId initial paths text) ∨
      ∃ record, Outcome b path w place mode text record.content record r v.files ∧
        Clear b v.lastExportId initial paths text ∧
        Clear b v.lastExportId initial (paths ++ [path]) (text ++ record.content) := by
  cases hb : b.kind with
  | kernel =>
    have hunclear : ¬ Export.kernelLine path <:+: text ++ ['\n'] := by
      unfold Clear at hclear
      rw [hb] at hclear
      intro hold
      exact (hclear path hp hold).elim (hline hb) hnew
    have hany (later : Nat) : Clear b later initial paths text := by
      unfold Clear at hclear ⊢
      rw [hb] at hclear ⊢
      exact hclear
    have hout := of_add_kernel hb (Export.onlyAtEnd_kernelLine hp hunclear) hfile h
    exact .inr ⟨⟨.kernel, Export.kernelLine path, 0⟩, hout, hany _,
      (hany _).append_kernelLine hb hp⟩
  | ganesha =>
    have hahead : Ahead w.lastExportId text := by
      unfold Clear at hclear
      rwa [hb] at hclear
    rcases hallocate : Ledger.allocateId b.file w with ⟨e | id, u⟩
    · obtain ⟨he, hv, hcount⟩ := of_add_unallocated hb (congrArg Prod.fst hallocate) h
      exact .inl ⟨he, hv, hcount ▸ hclear⟩
    · rcases Ledger.of_allocateId hallocate with ⟨-, e, hr⟩ | ⟨last, hlast, hr, -⟩
      · cases hr
      · cases hr
        obtain ⟨hcount, hout⟩ :=
          of_add_allocated hb (congrArg Prod.fst hallocate) hahead hfile h
        have habove (later : Nat) (hlater : last + 1 ≤ later) : ¬ Export.idMark later <:+: text :=
          hlast.not_idMark hfile hahead hlater
        refine .inr ⟨⟨.ganesha, Export.ganeshaBlock (last + 1 : Nat) path, (last + 1 : Nat)⟩, hout,
          ?_, ?_⟩
        · unfold Clear
          rw [hb, hcount]
          exact .inr fun later hlater => habove later hlater.le
        · rw [hcount]
          exact clear_append_ganeshaBlock hb hp habove

end NfsVolume.ExportBackend
