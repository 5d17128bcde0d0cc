import NfsVolume.Proofs.Export.Ledger
import NfsVolume.Proofs.World.Circumstances

/-! What an addition to an export file leaves there when it fails: nothing at all, or all of its
text, if the file could be written and only syncing it has failed. -/
namespace NfsVolume

/-- The octets of the file that a path leads to. -/
def FileTree.octets? (t : FileTree) (path : Text) : Option (List UInt8) :=
  match t.resolve path with
  | .ok (_, .file _ octets) => some octets
  | _ => none

theorem FileTree.octets?_eq {t : FileTree} {path : Text} {place : Place} {mode : Nat}
    {octets : List UInt8} (h : t.resolve path = .ok (place, .file mode octets)) :
    t.octets? path = some octets := by rw [octets?, h]

namespace Ledger

open Run Files

variable {path content : Text} {w v : World} {e : Failure}

/-- A path to a file that may be written. -/
def Writable (path : Text) (t : FileTree) : Prop :=
  '\x00' ∉ path ∧ ∃ place mode old,
    t.resolve path = .ok (place, .file mode old) ∧ (Node.file mode old).mayWrite = true

/-- Some text can be written to a file now, but not synced. -/
structure Unsynced (path content : Text) (w : World) : Prop where
  writable : Writable path w.files
  nonempty : content ≠ []
  due : Fault.due? .fsync w.faults ≠ none

theorem Unsynced.congr (h : Unsynced path content v) (hfiles : v.files = w.files)
    (hdue : Fault.due? .fsync v.faults = Fault.due? .fsync w.faults) :
    Unsynced path content w where
  writable := hfiles ▸ h.writable
  nonempty := h.nonempty
  due := hdue ▸ h.due

/-- What a failed addition of some text leaves of a file: all of its octets, unless the text is
written but not synced, and then the whole text stays behind them. -/
structure Left (path : Text) (content : Option Text) (w v : World) : Prop where
  same_iff : v.files.octets? path = w.files.octets? path ↔
    ¬ ∃ text ∈ content, Unsynced path text w
  kept : (¬ ∃ text ∈ content, Unsynced path text w) → v.files = w.files
  added : ∀ text ∈ content, Unsynced path text w →
    v.files.octets? path = (w.files.octets? path).map (· ++ Text.Utf8.encode text)

theorem left_of_kept (content : Option Text) (hfiles : v.files = w.files)
    (hno : ¬ ∃ text ∈ content, Unsynced path text w) : Left path content w v where
  same_iff := iff_of_true (by rw [hfiles]) hno
  kept _ := hfiles
  added text hm h := absurd ⟨text, hm, h⟩ hno

theorem left_of_added {octets : List UInt8} (h : Unsynced path content w)
    (hold : w.files.octets? path = some octets)
    (hnew : v.files.octets? path = some (octets ++ Text.Utf8.encode content)) :
    Left path (some content) w v where
  same_iff := by
    have hencoded : Text.Utf8.encode content ≠ [] := by
      obtain ⟨c, rest, hcontent⟩ := List.exists_cons_of_ne_nil h.nonempty
      simp [hcontent, Text.Utf8.encodeChar_ne_nil]
    refine iff_of_false ?_ (not_not_intro ⟨content, rfl, h⟩)
    rw [hold, hnew]
    simpa using hencoded
  kept hno := absurd ⟨content, rfl, h⟩ hno
  added text hm _ := by
    cases hm
    rw [hold, hnew]
    rfl

/-- The text of a failed addition depends on the files and the faults before it only. -/
theorem Left.of_frame {u : World} {content : Option Text} (h : Left path content u v)
    (hfiles : u.files = w.files) (hdue : Fault.due? .fsync u.faults = Fault.due? .fsync w.faults) :
    Left path content w v := by
  have hsame (text : Text) : Unsynced path text u ↔ Unsynced path text w :=
    ⟨fun h => h.congr hfiles hdue, fun h => h.congr hfiles.symm hdue.symm⟩
  obtain ⟨hiff, hkept, hadded⟩ := h
  simp only [hsame, hfiles] at hiff hkept hadded
  exact ⟨hiff, hkept, hadded⟩

theorem error_of_guarded {α : Type} {x : Run α} (h : guarded path x w = (.error e, v)) :
    ∃ cause, x w = (.error cause, v) := by
  rcases of_onOsError h with ⟨hx, -⟩ | ⟨cause, u, hx, hr⟩
  · exact ⟨e, hx⟩
  · cases hr
    exact ⟨_, hx⟩

theorem append_nil_files (path : Text) (w : World) : (Files.append path [] w).2.files = w.files := by
  rcases hresolve : resolve path w with ⟨e | ⟨place, node⟩, u⟩
  · obtain ⟨rfl, -⟩ := of_resolve hresolve
    rw [Files.append, bind_error hresolve]
  · obtain ⟨rfl, ⟨found, hr, -, hl⟩ | ⟨-, errno, hr, -⟩ | hr⟩ := of_resolve hresolve
    · cases hr
      rw [Files.append, bind_ok hresolve]
      cases node with
      | directory mode => rfl
      | file mode old =>
        dsimp only
        split
        · rfl
        · obtain ⟨-, hget, -⟩ := FileTree.resolve_eq_ok.mp hl
          have hput : u.files.put place (.file mode (old ++ [])) = u.files := by
            rw [List.append_nil]
            exact FileTree.put_self (FileTree.not_isFixed_of_file hget) hget
          have hsync (z : World) : (meet .fsync z).2.files = z.files :=
            (meet_within (List.mem_singleton.mpr rfl) z).files (by simp)
          rw [bind_ok (get_apply u), bind_ok (setFiles_apply _ u)]
          exact (hsync _).trans hput
    · cases hr
    · cases hr

/-- An addition that fails writes only what it cannot sync. -/
theorem append_kept (h : Files.append path content w = (.error e, v))
    (hno : ¬ Unsynced path content w) : v.files = w.files := by
  by_cases hc : content = []
  · have hfiles := append_nil_files path w
    rw [← hc, h] at hfiles
    exact hfiles
  · rcases Files.of_append hc h with ⟨rfl, -⟩ | ⟨place, mode, old, hp, hl, hw, hmeet⟩
    · rfl
    · obtain ⟨-, ⟨-, hr⟩ | ⟨errno, hdue, -⟩⟩ := of_meet hmeet
      · cases hr
      · refine absurd ⟨⟨hp, place, mode, old, hl, hw⟩, hc, ?_⟩ hno
        rw [show Fault.due? .fsync w.faults = some errno from hdue]
        exact Option.some_ne_none errno

theorem left_of_append (h : append path content w = (.error e, v)) :
    Left path (some content) w v := by
  obtain ⟨cause, happend⟩ := error_of_guarded h
  by_cases hun : Unsynced path content w
  · obtain ⟨hp, place, mode, old, hl, hw⟩ := hun.writable
    rw [append_apply hp hun.nonempty hl hw] at happend
    obtain ⟨rfl, -⟩ := of_meet happend
    exact left_of_added hun (FileTree.octets?_eq hl)
      (FileTree.octets?_eq (FileTree.resolve_put_file hl _))
  · refine left_of_kept _ (append_kept happend hun) ?_
    rintro ⟨text, hm, h⟩
    cases hm
    exact hun h

/-- The text that an addition under the next id is to write, if there is such an id and a text for
it. -/
def entryToAdd (path : Text) (entry : Nat → Except Failure Text) (w : World) : Option Text :=
  ((allocateId path w).1 >>= entry).toOption

theorem entryToAdd_eq {entry : Nat → Except Failure Text} {id : Nat} {u : World}
    (h : allocateId path w = (.ok id, u)) : entryToAdd path entry w = (entry id).toOption := by
  rw [entryToAdd, h]
  rfl

theorem left_of_appendWithId {entry : Nat → Except Failure Text}
    (h : appendWithId path entry w = (.error e, v)) : Left path (entryToAdd path entry w) w v := by
  have hkeep := allocateId_within (List.mem_singleton.mpr rfl) path w
  rcases of_bind h with ⟨id, u, hid, hrest⟩ | ⟨e', hid, -⟩
  · rw [hid] at hkeep
    have hfiles : u.files = w.files := hkeep.files (by simp)
    rw [entryToAdd_eq hid]
    cases hentry : entry id with
    | error problem =>
      rw [hentry] at hrest
      cases hrest
      exact left_of_kept none hfiles (by simp)
    | ok text =>
      rw [hentry, bind_ok (ofExcept_apply _ u)] at hrest
      rcases of_bind hrest with ⟨_, u', -, hr⟩ | ⟨e', happend, -⟩
      · cases hr
      · exact (left_of_append happend).of_frame hfiles (hkeep.due? (by simp))
  · rw [hid] at hkeep
    have hnone : entryToAdd path entry w = none := by
      rw [entryToAdd, hid]
      rfl
    rw [hnone]
    exact left_of_kept none (hkeep.files (by simp)) (by simp)

/-- When an addition to an export file fails, with an id of its own or without, the file has the
octets that it had, unless it may be written and a fault is due when the text is synced: then all of
the text stays in it. The faults are those of a `SystemCall`: opening the file and writing to it
fail only for its path and its mode, and then as a whole. -/
theorem failed_addition (path content : Text) (entry : Nat → Except Failure Text) (w v : World)
    (e : Failure) :
    (append path content w = (.error e, v) → Left path (some content) w v) ∧
      (appendWithId path entry w = (.error e, v) → Left path (entryToAdd path entry w) w v) :=
  ⟨left_of_append, left_of_appendWithId⟩

/-- A world with the export file `x` in which syncing fails once. -/
def unsyncedWorld (mode : Nat) : World :=
  { World.ofFiles ⟨[([['x']], .file mode (Text.Utf8.encode ['#']))]⟩ with
    faults := [⟨.fsync, 5, 0, 1⟩] }

/-- A file that may not be written is as it was. -/
theorem failed_addition_refused :
    ((append ['x'] ['a'] (unsyncedWorld 0o444)).1 =
        .error (.provisioning (.exportFile ['x'] ⟨Errno.accessDenied, some ['x']⟩)) ∧
      (append ['x'] ['a'] (unsyncedWorld 0o444)).2.files = (unsyncedWorld 0o444).files) ∧
    ((appendWithId ['x'] (fun id => .ok (Text.decimal id)) (unsyncedWorld 0o444)).1 =
        .error (.provisioning (.exportFile ['x'] ⟨Errno.accessDenied, some ['x']⟩)) ∧
      (appendWithId ['x'] (fun id => .ok (Text.decimal id)) (unsyncedWorld 0o444)).2.files =
        (unsyncedWorld 0o444).files) := by
  have hno (text : Text) : ¬ Unsynced ['x'] text (unsyncedWorld 0o444) := by
    rintro ⟨⟨-, place, mode, old, hl, hw⟩, -, -⟩
    cases hl
    cases hw
  refine ⟨⟨rfl, ?_⟩, rfl, ?_⟩
  · exact ((failed_addition ['x'] ['a'] (fun id => .ok (Text.decimal id)) (unsyncedWorld 0o444) _
      _).1 rfl).kept fun ⟨text, _, h⟩ => hno text h
  · exact ((failed_addition ['x'] ['a'] (fun id => .ok (Text.decimal id)) (unsyncedWorld 0o444) _
      _).2 rfl).kept fun ⟨text, _, h⟩ => hno text h

/-- Text that cannot be synced stays in the file, although its addition is reported as failed. -/
theorem failed_addition_stays :
    (append ['x'] ['a'] (unsyncedWorld 0o644)).1 =
        .error (.provisioning (.exportFile ['x'] ⟨5, none⟩)) ∧
      (unsyncedWorld 0o644).files.octets? ['x'] = some (Text.Utf8.encode ['#']) ∧
      (append ['x'] ['a'] (unsyncedWorld 0o644)).2.files.octets? ['x'] =
        some (Text.Utf8.encode ['#', 'a']) ∧
      (appendWithId ['x'] (fun id => .ok (Text.decimal id)) (unsyncedWorld 0o644)).1 =
        .error (.provisioning (.exportFile ['x'] ⟨5, none⟩)) ∧
      (appendWithId ['x'] (fun id => .ok (Text.decimal id)) (unsyncedWorld 0o644)).2.files.octets?
        ['x'] = some (Text.Utf8.encode ['#', '1']) := by
  exact ⟨rfl, rfl, rfl, rfl, rfl⟩

end Ledger
end NfsVolume
