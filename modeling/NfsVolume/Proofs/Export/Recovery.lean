import NfsVolume.Proofs.Export.Ledger
import NfsVolume.Proofs.World.Circumstances

/-! How the count of ids is taken up from an export file: no id in its text is missed, wherever it
stands, and a count that cannot be taken up is sought again at the next call. -/
namespace NfsVolume.Export

open Text

variable {text digits : Text}

/-- Digits that a text shows as an id: between its label and its end, wherever that is. -/
structure ShownIn (text digits : Text) : Prop where
  nonempty : digits ≠ []
  numeral : ∀ c ∈ digits, c.isDigit = true
  shown : labelled digits <:+: text

theorem mem_idsIn_iff_shownIn : digits ∈ idsIn text ↔ ShownIn text digits :=
  mem_idsIn.trans ⟨fun ⟨hne, hd, h⟩ => ⟨hne, hd, h⟩, fun ⟨hne, hd, h⟩ => ⟨hne, hd, h⟩⟩

/-- A number that a text shows as an id, with any number of zeros in front. -/
def StandsIn (id : Nat) (text : Text) : Prop :=
  ∃ digits, ShownIn text digits ∧ Nat.ofDigitChars 10 digits 0 = id

theorem mem_ids_iff_standsIn {id : Nat} : id ∈ ids text ↔ StandsIn id text := by
  simp only [ids, List.mem_map, mem_idsIn_iff_shownIn, StandsIn]

/-- Every id in a text can be read as a number. -/
def Measured (text : Text) : Prop := ∀ digits, ShownIn text digits → digits.length ≤ Integer.maxDigits

theorem measured_iff :
    Measured text ↔ ∀ digits ∈ idsIn text, digits.length ≤ Integer.maxDigits := by
  simp only [Measured, mem_idsIn_iff_shownIn]

/-- The greatest number that stands in a text as an id, and zero if there is none. -/
structure IsLast (text : Text) (last : Nat) : Prop where
  above : ∀ id, StandsIn id text → id ≤ last
  stands : (∃ id, StandsIn id text) → StandsIn last text
  none : (¬ ∃ id, StandsIn id text) → last = 0

theorem isLast_of_lastId {last : Nat} (h : lastId text.unifyNewlines = .ok last) :
    IsLast text last := by
  rw [lastId_unifyNewlines] at h
  obtain ⟨habove, hlast⟩ := lastId_ok h
  have hle : ∀ id, StandsIn id text → id ≤ last := fun id hid =>
    habove id (mem_ids_iff_standsIn.mpr hid)
  refine ⟨hle, ?_, fun hno => ?_⟩
  · rintro ⟨id, hid⟩
    rcases hlast with rfl | hmem
    · -- then every id in the text is zero
      obtain rfl := Nat.le_zero.mp (hle id hid)
      exact hid
    · exact mem_ids_iff_standsIn.mp hmem
  · exact hlast.resolve_right fun hmem => hno ⟨last, mem_ids_iff_standsIn.mp hmem⟩

theorem greatest_isOk_iff {best : Nat} {all : List Text} :
    (∃ n, greatest best all = .ok n) ↔ ∀ digits ∈ all, digits.length ≤ Integer.maxDigits := by
  refine ⟨?_, fun h => ⟨_, greatest_of_short h⟩⟩
  induction all generalizing best with
  | nil => simp
  | cons digits rest ih =>
    rintro ⟨n, h⟩
    unfold greatest idValue at h
    split at h
    · cases h
    · rename_i hshort
      exact List.forall_mem_cons.mpr ⟨Nat.not_lt.mp hshort, ih ⟨n, h⟩⟩

/-- The last id of a text is found exactly if each of its ids can be read. -/
theorem lastId_isOk_iff : (∃ last, lastId text.unifyNewlines = .ok last) ↔ Measured text := by
  rw [lastId_unifyNewlines, measured_iff]
  exact greatest_isOk_iff

/-- The digits of the ids in a text as a pass finds them that goes on behind each id: the next `skip`
characters belong to one that is found already. -/
def idsFrom : Nat → Text → List Text
  | _, [] => []
  | skip + 1, _ :: rest => idsFrom skip rest
  | 0, c :: rest =>
    match idHere? (c :: rest) with
    | some digits => digits :: idsFrom ((labelled digits).length - 1) rest
    | none => idsFrom 0 rest

/-- No id is hidden by one that stands before it: none begins inside another one, so the pass finds
what a look at every place does. -/
theorem idsFrom_eq (skip : Nat) (text : Text) : idsFrom skip text = idsIn (text.drop skip) := by
  induction text generalizing skip with
  | nil => simp [idsFrom, idsIn]
  | cons c rest ih =>
    cases skip with
    | succ skip => exact ih skip
    | zero =>
      rw [idsFrom, List.drop_zero, idsIn]
      cases hhere : idHere? (c :: rest) with
      | none => exact ih 0
      | some digits =>
        obtain ⟨-, hd, ⟨behind, hbehind⟩⟩ := idHere?_eq_some.mp hhere
        obtain ⟨inner, hcons, hinner⟩ := labelled_eq_cons hd
        rw [hcons] at hbehind
        obtain ⟨-, rfl⟩ := List.cons.inj hbehind
        dsimp only
        rw [ih, hcons, List.length_cons, Nat.add_sub_cancel, List.append_eq, List.drop_left,
          idsIn_append_of_notMem hinner]

end NfsVolume.Export

namespace NfsVolume.Ledger

open Run Files

variable {path : Text} {w v : World} {place : Place} {mode : Nat} {text : Text}

/-- The first id of a fresh ledger is allocated only where the file may be read. -/
theorem readable_of_allocateId {id : Nat} (hfresh : w.lastExportId = 0)
    (hfile : w.files.resolve path = .ok (place, .file mode (Text.Utf8.encode text)))
    (h : allocateId path w = (.ok id, v)) : (Node.directory mode).mayRead = true := by
  unfold allocateId at h
  rw [bind_ok (get_apply w)] at h
  dsimp only at h
  rw [if_pos hfresh] at h
  obtain ⟨_, u, hrecover, -⟩ := of_bind_ok h
  rcases of_recover hrecover with ⟨-, e, hr⟩ | ⟨-, place', mode', text', hfile', hmay, -⟩
  · cases hr
  · obtain ⟨-, hnode⟩ := Prod.mk.inj (Except.ok.inj (hfile.symm.trans hfile'))
    obtain ⟨rfl, -⟩ := Node.file.inj hnode
    exact hmay

/-- The next id is allocated from a text file exactly if that may be read and each id in it too; it
is then one above the last id in the text, which is also the greatest that one pass over the text
finds once the line ends are unified. -/
def Recovers (path : Text) (w : World) : Prop :=
  ∀ place mode text, '\x00' ∉ path →
    w.files.resolve path = .ok (place, .file mode (Text.Utf8.encode text)) →
      ((∃ id, (allocateId path w).1 = .ok id) ↔
        (Node.directory mode).mayRead = true ∧ Export.Measured text) ∧
      ∀ id, (allocateId path w).1 = .ok id → ∃ last, Export.IsLast text last ∧
        Export.greatest 0 (Export.idsFrom 0 text.unifyNewlines) = .ok last ∧
        id = last + 1 ∧ (allocateId path w).2.lastExportId = last + 1

theorem recovers_of_fresh (path : Text) (hfresh : w.lastExportId = 0) : Recovers path w := by
  intro place mode text hp hfile
  have hfollows {id : Nat} (hid : (allocateId path w).1 = .ok id) :
      ∃ last, Export.lastId text.unifyNewlines = .ok last ∧ id = last + 1 ∧
        (allocateId path w).2.lastExportId = last + 1 := by
    rcases of_allocateId (r := .ok id) (Prod.ext hid rfl) with ⟨-, e, hr⟩ | ⟨last, hlast, hr, hcount⟩
    · cases hr
    · rcases hlast with ⟨hne, -⟩ | ⟨-, place', mode', text', hfile', hlast⟩
      · exact absurd hfresh hne
      · obtain rfl := text_unique hfile hfile'
        exact ⟨last, hlast, Except.ok.inj hr, hcount⟩
  refine ⟨⟨?only, ?found⟩, fun id hid => ?last⟩
  case only =>
    rintro ⟨id, hid⟩
    obtain ⟨last, hlast, -⟩ := hfollows hid
    exact ⟨readable_of_allocateId hfresh hfile (Prod.ext hid rfl),
      Export.lastId_isOk_iff.mp ⟨last, hlast⟩⟩
  case found =>
    rintro ⟨hread, hmeasured⟩
    obtain ⟨last, hlast⟩ := Export.lastId_isOk_iff.mpr hmeasured
    obtain ⟨log, hid⟩ := allocateId_ok hp hfile hread
      (.inr ⟨hfresh, place, mode, text, hfile, hlast⟩)
    exact ⟨last + 1, congrArg Prod.fst hid⟩
  case last =>
    obtain ⟨last, hlast, hid, hcount⟩ := hfollows hid
    refine ⟨last, Export.isLast_of_lastId hlast, ?_, hid, hcount⟩
    rw [Export.idsFrom_eq, List.drop_zero]
    exact hlast

/-- A fresh ledger misses no id of an export file: its first id is one above the last id in the text,
wherever that stands. If the count cannot be taken up, nothing is different, and the next call looks
through its file in the same way, whatever the files are by then. -/
theorem allocateId_recovers (path : Text) (w : World) (hfresh : w.lastExportId = 0) :
    Recovers path w ∧ ∀ e v, allocateId path w = (.error e, v) →
      v = w ∧ ∀ other files, Recovers other (v.withFiles files) := by
  refine ⟨recovers_of_fresh path hfresh, fun e v h => ?_⟩
  rcases of_allocateId h with ⟨rfl, -⟩ | ⟨last, -, hr, -⟩
  · exact ⟨rfl, fun other files => recovers_of_fresh other hfresh⟩
  · cases hr

/-- An id in a comment, behind a label that is cut short, is not missed; and where there is no file
the count is sought again. -/
theorem allocateId_recovers_hidden :
    let text : Text := "#Export_Id = Export_Id = 07;\rExport_Id = 3;"
    let w := World.ofFiles ⟨[([['x']], .file 0o644 (Text.Utf8.encode text))]⟩
    (allocateId ['x'] w).1 = .ok 8 ∧ Export.IsLast text 7 ∧
      (allocateId ['y'] w).2.lastExportId = 0 ∧ Recovers ['x'] (allocateId ['y'] w).2 := by
  intro text w
  have height : (allocateId ['x'] w).1 = .ok 8 := by decide +kernel
  obtain ⟨last, hlast, -, hid, -⟩ :=
    ((allocateId_recovers ['x'] w rfl).1 [['x']] 0o644 text (by decide) rfl).2 8 height
  obtain rfl : last = 7 := by omega
  refine ⟨height, hlast, ?_⟩
  rcases hmissing : allocateId ['y'] w with ⟨e | id, v⟩
  · obtain ⟨rfl, hagain⟩ := (allocateId_recovers ['y'] w rfl).2 e v hmissing
    exact ⟨rfl, hagain ['x'] w.files⟩
  · have hno : ∀ id, (allocateId ['y'] w).1 ≠ .ok id := fun id h => by cases h
    rw [hmissing] at hno
    exact absurd rfl (hno id)

end NfsVolume.Ledger
