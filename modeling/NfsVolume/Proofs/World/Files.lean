import NfsVolume.World.Files
import NfsVolume.Proofs.Text.Utf8
import NfsVolume.Proofs.World.FileTree
import NfsVolume.Proofs.World.Frame

/-! What each operation on files leaves of the tree: the operation takes effect, or the tree is as
it was, exactly. -/
namespace NfsVolume.Files

open Run

variable {α : Type} {path content : Text} {w v : World} {place : Place} {node : Node}
  {mode : Nat} {old : List UInt8}

@[simp]
theorem refuse_apply (errno : Errno) (path : Text) (w : World) :
    (refuse errno path : Run α) w = (.error (.os ⟨errno, some path⟩), w) := rfl

@[simp]
theorem setFiles_apply (files : FileTree) (w : World) :
    setFiles files w = (.ok (), w.withFiles files) := rfl

theorem checkPath_ok (h : '\x00' ∉ path) (w : World) : checkPath path w = (.ok (), w) := by
  simp [checkPath, h]

theorem of_checkPath {r : Except Failure Unit} (h : checkPath path w = (r, v)) :
    v = w ∧ ('\x00' ∉ path ∧ r = .ok () ∨ r = .error (.value .nullInPath)) := by
  unfold checkPath at h
  split at h
  · obtain ⟨rfl, rfl⟩ := Prod.mk.inj h
    exact ⟨rfl, .inr rfl⟩
  · rename_i hp
    obtain ⟨rfl, rfl⟩ := Prod.mk.inj h
    exact ⟨rfl, .inl ⟨hp, rfl⟩⟩

theorem checkPath_reads (path : Text) : (checkPath path).Reads := by
  intro w
  unfold checkPath
  split <;> rfl

theorem resolve_reads (path : Text) : (resolve path).Reads := by
  apply (checkPath_reads path).bind
  intro _ w
  rw [bind_ok (get_apply w)]
  cases w.files.resolve path <;> rfl

theorem resolve_ok {found : Place × Node} (hp : '\x00' ∉ path)
    (h : w.files.resolve path = .ok found) : resolve path w = (.ok found, w) := by
  rw [resolve, bind_ok (checkPath_ok hp w), bind_ok (get_apply w), h]
  rfl

theorem resolve_error {errno : Errno} (hp : '\x00' ∉ path)
    (h : w.files.resolve path = .error errno) :
    resolve path w = (.error (.os ⟨errno, some path⟩), w) := by
  rw [resolve, bind_ok (checkPath_ok hp w), bind_ok (get_apply w), h]
  rfl

theorem of_resolve {r : Except Failure (Place × Node)} (h : resolve path w = (r, v)) :
    v = w ∧ ((∃ found, r = .ok found ∧ '\x00' ∉ path ∧ w.files.resolve path = .ok found) ∨
      ('\x00' ∉ path ∧ ∃ errno, r = .error (.os ⟨errno, some path⟩) ∧
        w.files.resolve path = .error errno) ∨
      r = .error (.value .nullInPath)) := by
  rcases of_bind h with ⟨_, u, hc, hlook⟩ | ⟨e, hc, rfl⟩
  · obtain ⟨rfl, ⟨hp, -⟩ | hr⟩ := of_checkPath hc
    · rw [bind_ok (get_apply u)] at hlook
      cases hl : u.files.resolve path with
      | error errno =>
        rw [hl] at hlook
        obtain ⟨rfl, rfl⟩ := Prod.mk.inj hlook
        exact ⟨rfl, .inr (.inl ⟨hp, errno, rfl, rfl⟩)⟩
      | ok found =>
        rw [hl] at hlook
        obtain ⟨rfl, rfl⟩ := Prod.mk.inj hlook
        exact ⟨rfl, .inl ⟨found, rfl, hp, rfl⟩⟩
    · cases hr
  · obtain ⟨rfl, ⟨-, hr⟩ | hr⟩ := of_checkPath hc
    · cases hr
    · cases hr
      exact ⟨rfl, .inr (.inr rfl)⟩

theorem isPresent_reads (path : Text) : (isPresent path).Reads := fun _ => rfl

theorem isPresent_apply (path : Text) (w : World) :
    isPresent path w = (.ok ('\x00' ∉ path && ((w.files.resolve path).toOption).isSome), w) := rfl

theorem isPresentOrRefused_reads (path : Text) : (isPresentOrRefused path).Reads := by
  intro w
  unfold isPresentOrRefused
  split
  · rfl
  · rw [bind_ok (get_apply w)]
    cases w.files.resolve path with
    | ok found => rfl
    | error errno =>
      dsimp only
      split <;> rfl

theorem readOctets_reads (path : Text) : (readOctets path).Reads := by
  apply (resolve_reads path).bind
  intro found w
  dsimp only
  split
  · rfl
  · cases found.2 <;> rfl

theorem resolve_looks (path : Text) : (resolve path).Looks := by
  refine Looks.bind (checkPath_reads path) (fun w v _ _ _ => ?_) fun _ w v hfiles _ _ => ?_
  · unfold checkPath
    split <;> rfl
  · rw [bind_ok (get_apply v), bind_ok (get_apply w), hfiles]
    cases w.files.resolve path <;> rfl

theorem isPresentOrRefused_looks (path : Text) : (isPresentOrRefused path).Looks := by
  intro w v hfiles _ _
  unfold isPresentOrRefused
  split
  · rfl
  · rw [bind_ok (get_apply v), bind_ok (get_apply w), hfiles]
    cases w.files.resolve path with
    | ok found => rfl
    | error errno =>
      dsimp only
      split <;> rfl

theorem readOctets_looks (path : Text) : (readOctets path).Looks := by
  apply Looks.bind (resolve_reads path) (resolve_looks path)
  intro found
  dsimp only
  refine Looks.ite (throw_looks _) ?_
  cases found.2 with
  | directory mode => exact throw_looks _
  | file mode content => exact pure_looks _

theorem decode_reads (octets : List UInt8) : (decode octets).Reads := by
  intro w
  unfold decode
  cases Text.Utf8.decode octets <;> rfl

theorem readExact_reads (path : Text) : (readExact path).Reads :=
  (readOctets_reads path).bind decode_reads

theorem readText_reads (path : Text) : (readText path).Reads :=
  (readExact_reads path).bind fun _ _ => rfl

theorem isPresentOrRefused_ok {found : Place × Node} (hp : '\x00' ∉ path)
    (h : w.files.resolve path = .ok found) : isPresentOrRefused path w = (.ok true, w) := by
  rw [isPresentOrRefused, if_neg hp, bind_ok (get_apply w), h]
  rfl

theorem readOctets_ok (hp : '\x00' ∉ path) (h : w.files.resolve path = .ok (place, .file mode old))
    (hr : (Node.file mode old).mayRead = true) : readOctets path w = (.ok old, w) := by
  rw [readOctets, bind_ok (resolve_ok hp h)]
  simp [hr]

theorem readExact_ok {text : Text} (hp : '\x00' ∉ path)
    (h : w.files.resolve path = .ok (place, .file mode (Text.Utf8.encode text)))
    (hr : (Node.file mode (Text.Utf8.encode text)).mayRead = true) :
    readExact path w = (.ok text, w) := by
  rw [readExact, bind_ok (readOctets_ok hp h hr), decode, Text.Utf8.decode_encode]
  rfl

theorem readText_ok {text : Text} (hp : '\x00' ∉ path)
    (h : w.files.resolve path = .ok (place, .file mode (Text.Utf8.encode text)))
    (hr : (Node.file mode (Text.Utf8.encode text)).mayRead = true) :
    readText path w = (.ok text.unifyNewlines, w) := by
  rw [readText, bind_ok (readExact_ok hp h hr)]
  rfl

theorem readText_error {errno : Errno} (hp : '\x00' ∉ path)
    (h : w.files.resolve path = .error errno) :
    readText path w = (.error (.os ⟨errno, some path⟩), w) :=
  bind_error (bind_error (bind_error (resolve_error hp h)))

/-- Octets of a file are read only as they stand in the tree. -/
theorem of_readOctets {octets : List UInt8} (h : readOctets path w = (.ok octets, v)) :
    '\x00' ∉ path ∧ ∃ place mode, w.files.resolve path = .ok (place, .file mode octets) ∧
      (Node.file mode octets).mayRead = true := by
  obtain ⟨⟨place, node⟩, u, hres, hread⟩ := of_bind_ok h
  obtain ⟨rfl, ⟨found, hf, hp, hl⟩ | ⟨-, errno, hr, -⟩ | hr⟩ := of_resolve hres
  · cases hf
    cases hmay : node.mayRead with
    | false =>
      simp only [hmay, Bool.not_false, if_true] at hread
      cases hread
    | true =>
      simp only [hmay, Bool.not_true, Bool.false_eq_true, if_false] at hread
      cases node with
      | directory mode => cases hread
      | file mode content =>
        cases hread
        exact ⟨hp, place, mode, hl, hmay⟩
  · cases hr
  · cases hr

theorem of_readExact {text : Text} (h : readExact path w = (.ok text, v)) :
    '\x00' ∉ path ∧ ∃ place mode,
      w.files.resolve path = .ok (place, .file mode (Text.Utf8.encode text)) ∧
        (Node.directory mode).mayRead = true := by
  obtain ⟨octets, u, hread, hdecode⟩ := of_bind_ok h
  obtain ⟨hp, place, mode, hl, hmay⟩ := of_readOctets hread
  cases hd : Text.Utf8.decode octets with
  | error e =>
    rw [decode, hd] at hdecode
    cases hdecode
  | ok s =>
    rw [decode, hd] at hdecode
    cases hdecode
    rw [Text.Utf8.encode_of_decode hd] at hl
    exact ⟨hp, place, mode, hl, hmay⟩

/-- A file holds one text. -/
theorem text_unique {t : FileTree} {elsewhere : Place} {other : Nat} {text text' : Text}
    (h : t.resolve path = .ok (place, .file mode (Text.Utf8.encode text)))
    (h' : t.resolve path = .ok (elsewhere, .file other (Text.Utf8.encode text'))) : text = text' := by
  rw [h] at h'
  injection h' with h'
  injection h' with _ hnode
  injection hnode with _ hcontent
  exact Text.Utf8.encode_injective hcontent

/-- The octets of a file can be read as text, as far as the file may be read at all. -/
def Legible (file : Text) (t : FileTree) : Prop :=
  ∀ place mode octets, t.resolve file = .ok (place, .file mode octets) →
    (Node.file mode octets).mayRead = true → ∃ text, octets = Text.Utf8.encode text

theorem not_legible {octets : List UInt8} {e : Text.Utf8.ReadError}
    (hfile : w.files.resolve path = .ok (place, .file mode octets))
    (hread : (Node.file mode octets).mayRead = true) (he : Text.Utf8.decode octets = .error e) :
    ¬ Legible path w.files := by
  intro hlegible
  obtain ⟨text, rfl⟩ := hlegible _ _ _ hfile hread
  rw [Text.Utf8.decode_encode] at he
  cases he

/-- The octets of a file that may be read are no text, and where they go wrong. -/
def Undecodable (path : Text) (t : FileTree) (problem : Text.Utf8.ReadError) : Prop :=
  '\x00' ∉ path ∧ ∃ place mode octets, t.resolve path = .ok (place, .file mode octets) ∧
    (Node.file mode octets).mayRead = true ∧ Text.Utf8.decode octets = .error problem

theorem Undecodable.not_legible {problem : Text.Utf8.ReadError}
    (h : Undecodable path w.files problem) : ¬ Legible path w.files := by
  obtain ⟨-, place, mode, octets, hfile, hread, hdecode⟩ := h
  exact Files.not_legible hfile hread hdecode

theorem readText_undecodable {problem : Text.Utf8.ReadError}
    (h : Undecodable path w.files problem) :
    (readText path w).1 = .error (.undecodable problem) := by
  obtain ⟨hp, place, mode, octets, hfile, hread, hdecode⟩ := h
  have hexact : readExact path w = (.error (.undecodable problem), w) := by
    rw [readExact, bind_ok (readOctets_ok hp hfile hread), decode, hdecode]
    rfl
  rw [readText, bind_error hexact]

theorem readText_null (h : '\x00' ∈ path) : (readText path w).1 = .error (.value .nullInPath) := by
  have hcheck : checkPath path w = (.error (.value .nullInPath), w) := by
    rw [checkPath, if_pos h]
    rfl
  have hexact : readExact path w = (.error (.value .nullInPath), w) :=
    bind_error (bind_error (bind_error hcheck))
  rw [readText, bind_error hexact]

theorem readExact_looks (path : Text) : (readExact path).Looks := by
  refine Looks.bind (readOctets_reads path) (readOctets_looks path) fun octets w v _ _ _ => ?_
  unfold decode
  cases Text.Utf8.decode octets <;> rfl

theorem readText_looks (path : Text) : (readText path).Looks :=
  Looks.bind (readExact_reads path) (readExact_looks path) fun _ => pure_looks _

/-- The world after text has been written at the end of a file, before it is synced. -/
def written (path content : Text) (place : Place) (mode : Nat) (old : List UInt8) (w : World) :
    World :=
  { w with
    files := w.files.put place (.file (Node.writtenMode mode) (old ++ Text.Utf8.encode content))
    events := w.events ++ [.appended path content] }

theorem append_apply (hp : '\x00' ∉ path) (hc : content ≠ [])
    (h : w.files.resolve path = .ok (place, .file mode old))
    (hw : (Node.file mode old).mayWrite = true) :
    append path content w = meet .fsync (written path content place mode old w) := by
  have hne : content.isEmpty = false := by simpa using hc
  rw [append, bind_ok (resolve_ok hp h)]
  simp only [hw, hne, Bool.not_true, Bool.false_eq_true, if_false]
  rw [bind_ok (get_apply w), bind_ok (setFiles_apply _ w)]
  rfl

/-- Either nothing is written, and that is an error, or all is, and syncing it may fail. -/
theorem of_append {r : Except Failure Unit} (hc : content ≠ [])
    (h : append path content w = (r, v)) :
    (v = w ∧ ∃ e, r = .error e) ∨
      ∃ place mode old, '\x00' ∉ path ∧ w.files.resolve path = .ok (place, .file mode old) ∧
        (Node.file mode old).mayWrite = true ∧
        meet .fsync (written path content place mode old w) = (r, v) := by
  obtain ⟨hp, hl⟩ | hbad : ('\x00' ∉ path ∧ ∃ found, w.files.resolve path = .ok found) ∨
      ∃ e, resolve path w = (.error e, w) := by
    obtain ⟨hv, ⟨found, -, hp, hl⟩ | ⟨-, errno, hr, -⟩ | hr⟩ :=
      of_resolve (r := (resolve path w).1) (v := (resolve path w).2) rfl
    · exact .inl ⟨hp, found, hl⟩
    · exact .inr ⟨_, Prod.ext hr hv⟩
    · exact .inr ⟨_, Prod.ext hr hv⟩
  · obtain ⟨⟨place, node⟩, hl⟩ := hl
    cases node with
    | directory mode =>
      rw [append, bind_ok (resolve_ok hp hl)] at h
      cases h
      exact .inl ⟨rfl, _, rfl⟩
    | file mode old =>
      cases hw : (Node.file mode old).mayWrite with
      | false =>
        rw [append, bind_ok (resolve_ok hp hl)] at h
        simp only [hw, Bool.not_false, if_true] at h
        cases h
        exact .inl ⟨rfl, _, rfl⟩
      | true =>
        rw [append_apply hp hc hl hw] at h
        exact .inr ⟨place, mode, old, hp, hl, hw, h⟩
  · obtain ⟨e, he⟩ := hbad
    rw [append, bind_error he] at h
    cases h
    exact .inl ⟨rfl, e, rfl⟩

theorem of_freePlace? {t : FileTree} {temporary : Place} (h : freePlace? t place = some temporary) :
    FileTree.isFixed temporary = false ∧ t.get? temporary = none ∧
      ∃ k, temporary = place.dropLast ++ [temporaryName (place.getLastD []) k] := by
  have hfree := List.find?_some h
  have hmem := List.mem_of_find?_eq_some h
  simp only [Bool.and_eq_true, Bool.not_eq_true', Option.isNone_iff_eq_none] at hfree
  obtain ⟨k, -, rfl⟩ := List.mem_map.mp hmem
  exact ⟨hfree.1, hfree.2, k, rfl⟩

/-- The file that is filled beside a place is gone once it is removed, and only if it took the
place did anything change. -/
theorem of_fillAndRename {temporary : Place} {r : Except Failure Unit} {found : Node}
    (htemp : w.files.get? temporary = none) (hplace : w.files.get? place = some found)
    (hfixed : FileTree.isFixed place = false)
    (h : fillAndRename temporary place mode content w = (r, v)) :
    ((∃ e, r = .error (.os e)) ∧ v.files.remove temporary = w.files) ∨
      (r = .ok () ∧
        v.files.remove temporary = w.files.put place (.file mode (Text.Utf8.encode content))) := by
  have hne : temporary ≠ place := by
    rintro rfl
    rw [htemp] at hplace
    cases hplace
  have hgone (n : Node) : (w.files.put temporary n).remove temporary = w.files :=
    FileTree.remove_put htemp n
  unfold fillAndRename at h
  rw [bind_ok (get_apply w), bind_ok (setFiles_apply _ w)] at h
  rcases of_bind h with ⟨_, u₁, hsync, h₁⟩ | ⟨e, hsync, rfl⟩
  · obtain ⟨rfl, -⟩ := of_meet hsync
    rcases of_bind h₁ with ⟨_, u₂, hchmod, h₂⟩ | ⟨e, hchmod, rfl⟩
    · obtain ⟨rfl, -⟩ := of_meet hchmod
      rw [bind_ok (get_apply _), bind_ok (setFiles_apply _ _)] at h₂
      rcases of_bind h₂ with ⟨_, u₃, hreplace, h₃⟩ | ⟨e, hreplace, rfl⟩
      · obtain ⟨rfl, -⟩ := of_meet hreplace
        rw [bind_ok (get_apply _)] at h₃
        cases h₃
        refine .inr ⟨rfl, ?_⟩
        simp only [struck_files, World.withFiles_files]
        rw [FileTree.put_put, hgone, FileTree.remove_eq_self]
        rw [FileTree.get?_put _ hfixed, if_neg hne, htemp]
      · obtain ⟨rfl, ⟨-, hr⟩ | ⟨errno, -, hr⟩⟩ := of_meet hreplace
        · cases hr
        · cases hr
          refine .inl ⟨⟨_, rfl⟩, ?_⟩
          simp only [struck_files, World.withFiles_files]
          rw [FileTree.put_put, hgone]
    · obtain ⟨rfl, ⟨-, hr⟩ | ⟨errno, -, hr⟩⟩ := of_meet hchmod
      · cases hr
      · cases hr
        exact .inl ⟨⟨_, rfl⟩, hgone _⟩
  · obtain ⟨rfl, ⟨-, hr⟩ | ⟨errno, -, hr⟩⟩ := of_meet hsync
    · cases hr
    · cases hr
      exact .inl ⟨⟨_, rfl⟩, hgone _⟩

/-- A file is rewritten as a whole, or nothing changes and that is an error of the system. -/
theorem of_rewrite {r : Except Failure Unit} (hp : '\x00' ∉ path)
    (hfile : w.files.resolve path = .ok (place, .file mode old))
    (h : rewrite path content w = (r, v)) :
    ((∃ e, r = .error (.os e)) ∧ v.files = w.files) ∨
      (r = .ok () ∧ v.files = w.files.put place (.file mode (Text.Utf8.encode content))) := by
  have hplace := (FileTree.resolve_eq_ok.mp hfile).2.1
  have hfixed := FileTree.not_isFixed_of_file hplace
  rw [rewrite, bind_ok (resolve_ok hp hfile)] at h
  dsimp only at h
  rcases of_bind h with ⟨_, u, hmk, hrest⟩ | ⟨e, hmk, rfl⟩
  · have hfiles : u.files = w.files := by rw [(of_meet hmk).1, struck_files]
    rw [bind_ok (get_apply _), hfiles] at hrest
    cases hfree : freePlace? w.files place with
    | none =>
      rw [hfree] at hrest
      cases hrest
      exact .inl ⟨⟨_, rfl⟩, hfiles⟩
    | some temporary =>
      rw [hfree] at hrest
      dsimp only at hrest
      by_cases hlong : Path.maxNameLength < Path.size (temporary.getLastD [])
      · rw [if_pos hlong] at hrest
        cases hrest
        exact .inl ⟨⟨_, rfl⟩, hfiles⟩
      · rw [if_neg hlong] at hrest
        cases hchange : w.files.mayChange place.dropLast with
        | false =>
          simp only [hchange, Bool.not_false, if_true] at hrest
          cases hrest
          exact .inl ⟨⟨_, rfl⟩, hfiles⟩
        | true =>
          simp only [hchange, Bool.not_true, Bool.false_eq_true, if_false] at hrest
          rw [bind_ok (outcome_apply _ _), bind_ok (get_apply _), bind_ok (setFiles_apply _ _),
            ofExcept_apply] at hrest
          cases hrest
          rw [← hfiles] at hplace ⊢
          refine of_fillAndRename ?_ hplace hfixed rfl
          rw [hfiles]
          exact (of_freePlace? hfree).2.1
  · obtain ⟨rfl, ⟨-, hr⟩ | ⟨errno, -, hr⟩⟩ := of_meet hmk
    · cases hr
    · cases hr
      exact .inl ⟨⟨_, rfl⟩, rfl⟩

/-- Whether a file can be made beside a place, and renamed to it. -/
def roomBeside (t : FileTree) (place : Place) : Bool :=
  match freePlace? t place with
  | none => false
  | some temporary =>
    Path.size (temporary.getLastD []) ≤ Path.maxNameLength && t.mayChange place.dropLast

/-- There is still room beside a file when only names that are not temporary have been taken. -/
theorem roomBeside_mono {t s : FileTree} (hlen : t.entries.length ≤ s.entries.length)
    (hfree : ∀ k, (s.get? (place.dropLast ++ [temporaryName (place.getLastD []) k])).isNone =
      (t.get? (place.dropLast ++ [temporaryName (place.getLastD []) k])).isNone)
    (hchange : s.mayChange place.dropLast = t.mayChange place.dropLast)
    (h : roomBeside t place = true) : roomBeside s place = true := by
  unfold roomBeside at h ⊢
  have hplace (temporary : Place) (ht : freePlace? t place = some temporary) :
      freePlace? s place = some temporary := by
    obtain ⟨more, hmore⟩ := Nat.exists_eq_add_of_le (Nat.succ_le_succ hlen)
    have hsame : ((fun q => !FileTree.isFixed q && (s.get? q).isNone) ∘ fun k =>
          place.dropLast ++ [temporaryName (place.getLastD []) k]) =
        ((fun q => !FileTree.isFixed q && (t.get? q).isNone) ∘ fun k =>
          place.dropLast ++ [temporaryName (place.getLastD []) k]) := by
      funext k
      simp only [Function.comp_apply, hfree k]
    unfold freePlace? at ht ⊢
    rw [List.find?_map] at ht ⊢
    rw [hsame, ← Nat.succ_eq_add_one, hmore, List.range_add, List.find?_append]
    obtain ⟨k, hk, rfl⟩ := Option.map_eq_some_iff.mp ht
    rw [hk]
    rfl
  cases hfound : freePlace? t place with
  | none =>
    rw [hfound] at h
    cases h
  | some temporary =>
    rw [hfound] at h
    rw [hplace temporary hfound, hchange]
    exact h

theorem fillAndRename_ok {temporary : Place} (hfsync : Fault.due? .fsync w.faults = none)
    (hchmod : Fault.due? .chmod w.faults = none) (hreplace : Fault.due? .replace w.faults = none) :
    (fillAndRename temporary place mode content w).1 = .ok () := by
  unfold fillAndRename
  rw [bind_ok (get_apply _), bind_ok (setFiles_apply _ _)]
  generalize hu : w.withFiles _ = u
  have hfaults : u.faults = w.faults := by rw [← hu, World.withFiles_faults]
  have hchmod' : Fault.due? .chmod (struck .fsync u).faults = none := by
    rw [due?_struck (by decide), hfaults, hchmod]
  have hreplace' : Fault.due? .replace (struck .chmod (struck .fsync u)).faults = none := by
    rw [due?_struck (by decide), due?_struck (by decide), hfaults, hreplace]
  rw [bind_ok (meet_ok (hfaults ▸ hfsync)), bind_ok (meet_ok hchmod'), bind_ok (get_apply _),
    bind_ok (setFiles_apply _ _)]
  rw [bind_ok (meet_ok (w := World.withFiles _ _) hreplace')]
  rfl

/-- Without faults, and with room beside the file, it is rewritten. -/
theorem rewrite_ok (hp : '\x00' ∉ path)
    (hfile : w.files.resolve path = .ok (place, .file mode old))
    (hroom : roomBeside w.files place = true) (hmkstemp : Fault.due? .mkstemp w.faults = none)
    (hfsync : Fault.due? .fsync w.faults = none) (hchmod : Fault.due? .chmod w.faults = none)
    (hreplace : Fault.due? .replace w.faults = none) :
    (rewrite path content w).1 = .ok () := by
  rw [rewrite, bind_ok (resolve_ok hp hfile)]
  dsimp only
  rw [bind_ok (meet_ok hmkstemp), bind_ok (get_apply _)]
  have hfsync' : Fault.due? .fsync (struck .mkstemp w).faults = none :=
    (due?_struck (by decide) w).trans hfsync
  have hchmod' : Fault.due? .chmod (struck .mkstemp w).faults = none :=
    (due?_struck (by decide) w).trans hchmod
  have hreplace' : Fault.due? .replace (struck .mkstemp w).faults = none :=
    (due?_struck (by decide) w).trans hreplace
  have hfiles := struck_files .mkstemp w
  generalize struck .mkstemp w = u at hfsync' hchmod' hreplace' hfiles
  rw [hfiles]
  unfold roomBeside at hroom
  cases hfree : freePlace? w.files place with
  | none =>
    rw [hfree] at hroom
    cases hroom
  | some temporary =>
    rw [hfree] at hroom
    simp only [Bool.and_eq_true, decide_eq_true_eq] at hroom
    have hsize : ¬ Path.maxNameLength < Path.size (temporary.getLastD []) := by omega
    simp only [hsize, hroom.2, Bool.not_true, Bool.false_eq_true, if_false]
    rw [bind_ok (outcome_apply _ _), bind_ok (get_apply _), bind_ok (setFiles_apply _ _),
      ofExcept_apply]
    exact fillAndRename_ok hfsync' hchmod' hreplace'

/-- Without room beside it, a file is not rewritten. -/
theorem rewrite_refused (hp : '\x00' ∉ path)
    (hfile : w.files.resolve path = .ok (place, .file mode old))
    (hroom : roomBeside w.files place = false) : ∃ e, (rewrite path content w).1 = .error e := by
  rw [rewrite, bind_ok (resolve_ok hp hfile)]
  dsimp only
  rcases hmkstemp : meet .mkstemp w with ⟨e | _, u⟩
  · exact ⟨e, by rw [bind_error hmkstemp]⟩
  · have hfiles : u.files = w.files := by rw [(of_meet hmkstemp).1, struck_files]
    rw [bind_ok hmkstemp, bind_ok (get_apply u), hfiles]
    unfold roomBeside at hroom
    cases hfree : freePlace? w.files place with
    | none => exact ⟨_, rfl⟩
    | some temporary =>
      rw [hfree] at hroom
      dsimp only at hroom ⊢
      by_cases hlong : Path.maxNameLength < Path.size (temporary.getLastD [])
      · rw [if_pos hlong]
        exact ⟨_, rfl⟩
      · have hfits : Path.size (temporary.getLastD []) ≤ Path.maxNameLength := by omega
        simp only [hfits, decide_true, Bool.true_and] at hroom
        simp only [hlong, hroom, if_false, Bool.not_false, if_true]
        exact ⟨_, rfl⟩

theorem due_of_fillAndRename {temporary : Place}
    (h : fillAndRename temporary place mode content w = (.ok (), v)) :
    Fault.due? .fsync w.faults = none ∧ Fault.due? .chmod w.faults = none ∧
      Fault.due? .replace w.faults = none := by
  unfold fillAndRename at h
  rw [bind_ok (get_apply w), bind_ok (setFiles_apply _ w)] at h
  obtain ⟨_, u₁, hsync, h₁⟩ := of_bind_ok h
  obtain ⟨rfl, hfsync⟩ := of_meet_ok hsync
  obtain ⟨_, u₂, hmode, h₂⟩ := of_bind_ok h₁
  obtain ⟨rfl, hchmod⟩ := of_meet_ok hmode
  rw [bind_ok (get_apply _), bind_ok (setFiles_apply _ _)] at h₂
  obtain ⟨_, u₃, hrename, -⟩ := of_bind_ok h₂
  obtain ⟨-, hreplace⟩ := of_meet_ok hrename
  rw [due?_struck (by decide)] at hchmod
  rw [World.withFiles_faults, due?_struck (by decide), due?_struck (by decide)] at hreplace
  exact ⟨hfsync, hchmod, hreplace⟩

/-- A file is rewritten only where there is room beside it, and if none of the calls fails. -/
theorem of_rewrite_ok (hp : '\x00' ∉ path)
    (hfile : w.files.resolve path = .ok (place, .file mode old))
    (h : rewrite path content w = (.ok (), v)) :
    roomBeside w.files place = true ∧ Fault.due? .mkstemp w.faults = none ∧
      Fault.due? .fsync w.faults = none ∧ Fault.due? .chmod w.faults = none ∧
      Fault.due? .replace w.faults = none := by
  have hroom : roomBeside w.files place = true := by
    cases hroom : roomBeside w.files place with
    | true => rfl
    | false =>
      obtain ⟨e, he⟩ : ∃ e, (rewrite path content w).1 = .error e := rewrite_refused hp hfile hroom
      rw [h] at he
      cases he
  rw [rewrite, bind_ok (resolve_ok hp hfile)] at h
  dsimp only at h
  obtain ⟨_, u, hmake, hrest⟩ := of_bind_ok h
  obtain ⟨rfl, hmkstemp⟩ := of_meet_ok hmake
  have hdue {call : SystemCall} (hne : call ≠ .mkstemp)
      (hcalm : Fault.due? call (struck .mkstemp w).faults = none) :
      Fault.due? call w.faults = none := (due?_struck hne w).symm.trans hcalm
  rw [bind_ok (get_apply _), struck_files] at hrest
  cases hfree : freePlace? w.files place with
  | none =>
    rw [hfree] at hrest
    cases hrest
  | some temporary =>
    rw [hfree] at hrest
    dsimp only at hrest
    split at hrest
    · cases hrest
    · split at hrest
      · cases hrest
      · rcases hfill : fillAndRename temporary place (Node.file mode old).mode content
            (struck .mkstemp w) with ⟨e | _, u⟩
        · rw [bind_ok (outcome_apply _ _), hfill] at hrest
          cases hrest
        · obtain ⟨hfsync, hchmod, hreplace⟩ := due_of_fillAndRename hfill
          exact ⟨hroom, hmkstemp, hdue (by decide) hfsync, hdue (by decide) hchmod,
            hdue (by decide) hreplace⟩

/-- Writing to a file neither makes nor takes room beside it. -/
theorem roomBeside_put_file (hfile : w.files.get? place = some (.file mode old)) (later : Nat)
    (more : List UInt8) :
    roomBeside (w.files.put place (.file later more)) place = roomBeside w.files place := by
  have hfixed := FileTree.not_isFixed_of_file hfile
  have hlength := FileTree.length_put hfile (.file later more)
  have hnone (q : Place) : ((w.files.put place (.file later more)).get? q).isNone =
      (w.files.get? q).isNone := by
    rw [FileTree.get?_put _ hfixed]
    by_cases hq : q = place
    · simp [hq, hfile]
    · simp [hq]
  have hfree : freePlace? (w.files.put place (.file later more)) place =
      freePlace? w.files place := by
    simp only [freePlace?, hlength, hnone]
  have habove : place.dropLast ≠ place := by
    intro he
    have hlast := congrArg List.length he
    have hnil : place = [] := by
      rw [List.length_dropLast] at hlast
      exact List.length_eq_zero_iff.mp (by omega)
    rw [hnil] at hfixed
    cases hfixed
  have hchange : (w.files.put place (.file later more)).mayChange place.dropLast =
      w.files.mayChange place.dropLast := by
    simp only [FileTree.mayChange, FileTree.get?_put _ hfixed, if_neg habove]
  simp only [roomBeside, hfree, hchange]

/-- A directory is made where there was nothing, or nothing changes. -/
theorem of_makeDirectory {r : Except Failure Unit} (h : makeDirectory path mode w = (r, v)) :
    (v = w ∧ ∃ e, r = .error e) ∨
      ∃ place parent, r = .ok () ∧ '\x00' ∉ path ∧ w.files.locate path = .ok place ∧
        w.files.get? place = none ∧ w.files.get? place.dropLast = some (.directory parent) ∧
        w.files.mayChange place.dropLast = true ∧
        v = w.withFiles (w.files.put place
          (.directory (withoutMask mode ||| (Node.directory parent).groupBit))) := by
  unfold makeDirectory at h
  rcases of_bind h with ⟨_, u, hc, hrest⟩ | ⟨e, hc, rfl⟩
  · obtain ⟨rfl, ⟨hp, -⟩ | hr⟩ := of_checkPath hc
    · rw [bind_ok (get_apply u)] at hrest
      dsimp only at hrest
      cases hl : u.files.locate path with
      | error errno =>
        rw [hl] at hrest
        cases hrest
        exact .inl ⟨rfl, _, rfl⟩
      | ok place =>
        rw [hl] at hrest
        dsimp only at hrest
        rw [ite_apply] at hrest
        split at hrest
        · cases hrest
          exact .inl ⟨rfl, _, rfl⟩
        · rename_i htaken
          simp only [Bool.or_eq_true, not_or, Bool.not_eq_true, Option.isSome_eq_false_iff,
            Option.isNone_iff_eq_none] at htaken
          cases hd : u.files.get? place.dropLast with
          | none =>
            rw [hd] at hrest
            cases hrest
            exact .inl ⟨rfl, _, rfl⟩
          | some parent =>
            rw [hd] at hrest
            dsimp only at hrest
            cases parent with
            | file mode content =>
              cases hrest
              exact .inl ⟨rfl, _, rfl⟩
            | directory parent =>
              cases hchange : u.files.mayChange place.dropLast with
              | false =>
                simp only [hchange] at hrest
                cases hrest
                exact .inl ⟨rfl, _, rfl⟩
              | true =>
                simp only [hchange] at hrest
                cases hrest
                exact .inr ⟨place, parent, rfl, hp, rfl, htaken.2, hd, hchange, rfl⟩
    · cases hr
  · obtain ⟨rfl, -⟩ := of_checkPath hc
    exact .inl ⟨rfl, e, rfl⟩

/-- A directory is made at a place that is free, below one that entries can be made in. -/
theorem makeDirectory_ok {parent : Nat} {name : Text} (hp : '\x00' ∉ path)
    (hl : w.files.locate path = .ok place) (hname : (Path.parts path).getLast? = some name)
    (hdot : name ≠ ['.']) (hdots : name ≠ ['.', '.']) (hfree : w.files.get? place = none)
    (hparent : w.files.get? place.dropLast = some (.directory parent))
    (hchange : w.files.mayChange place.dropLast = true) :
    makeDirectory path mode w = (.ok (), w.withFiles (w.files.put place
      (.directory (withoutMask mode ||| (Node.directory parent).groupBit)))) := by
  unfold makeDirectory
  rw [bind_ok (checkPath_ok hp w), bind_ok (get_apply w)]
  dsimp only
  rw [hl]
  dsimp only
  have hnew : (decide ((Path.parts path).getLast? = none) ||
      decide ((Path.parts path).getLast? = some ['.']) ||
      decide ((Path.parts path).getLast? = some ['.', '.']) ||
      (w.files.get? place).isSome) = false := by
    simp [hname, hdot, hdots, hfree]
  rw [hnew, hparent]
  simp [Node.isDirectory, hchange]

theorem changeMode_ok (hp : '\x00' ∉ path) (hl : w.files.resolve path = .ok (place, node))
    (hdue : Fault.due? .chmod w.faults = none) :
    changeMode path mode w =
      (.ok (), (struck .chmod w).withFiles (w.files.put place (node.withMode mode))) := by
  unfold changeMode
  rw [bind_ok (meet_ok hdue), bind_ok (resolve_ok (w := struck .chmod w) hp hl)]
  rfl

/-- An empty directory is removed, if nothing is due. -/
theorem removeDirectory_ok {found : Node} {name : Text} (hp : '\x00' ∉ path)
    (hl : w.files.locate path = .ok place) (hname : (Path.parts path).getLast? = some name)
    (hdot : name ≠ ['.']) (hdots : name ≠ ['.', '.']) (hfound : w.files.get? place = some found)
    (hchange : w.files.mayChange place.dropLast = true) (hdir : found.isDirectory = true)
    (hempty : w.files.children place = []) (hdue : Fault.due? .rmdir w.faults = none) :
    removeDirectory path w = (.ok (), (struck .rmdir w).withFiles (w.files.remove place)) := by
  unfold removeDirectory
  rw [bind_ok (meet_ok hdue), bind_ok (checkPath_ok hp _), bind_ok (get_apply _)]
  have hfiles := struck_files .rmdir w
  generalize struck .rmdir w = u at hfiles
  rw [hfiles, hl]
  dsimp only
  rw [hname]
  dsimp only
  rw [if_neg hdot, if_neg hdots]
  unfold removeEmpty
  rw [bind_ok (get_apply _), hfiles, hfound]
  simp [hchange, hdir, hempty]

theorem removeDirectory_due {errno : Errno} (hdue : Fault.due? .rmdir w.faults = some errno) :
    removeDirectory path w = (.error (.os ⟨errno, none⟩), struck .rmdir w) := by
  unfold removeDirectory
  rw [bind_error (meet_error hdue)]

/-- A directory that may not be read is not removed with what is in it. -/
theorem removeTree_unreadable {found : Node} (hp : '\x00' ∉ path)
    (hl : w.files.resolve path = .ok (place, found)) (hread : found.mayRead = false) :
    ∃ e, removeTree path w = (.error (.os e), struck .rmtree w) := by
  have hget := (FileTree.resolve_eq_ok.mp hl).2.1
  unfold removeTree
  cases hdue : Fault.due? .rmtree w.faults with
  | some errno => exact ⟨⟨errno, none⟩, bind_error (meet_error hdue)⟩
  | none =>
    refine ⟨⟨Errno.accessDenied, some path⟩, ?_⟩
    rw [bind_ok (meet_ok hdue), bind_ok (resolve_ok (w := struck .rmtree w) hp hl)]
    dsimp only
    rw [bind_ok (get_apply _)]
    refine bind_error ?_
    unfold removeContents
    rw [bind_ok (get_apply _), struck_files, hget]
    simp [hread]

section within
variable {parts : List Part}

theorem refuse_within (errno : Errno) (path : Text) : Within parts (refuse errno path : Run α) :=
  throw_within _

theorem setFiles_within (h : Part.files ∈ parts) (files : FileTree) :
    Within parts (setFiles files) := fun _ =>
  ⟨fun hn => absurd h hn, fun _ => rfl, fun _ _ => rfl, fun _ _ => rfl, fun _ h => h,
    List.prefix_refl _, rfl, rfl⟩

theorem append_within (hf : Part.files ∈ parts) (hc : Part.call .fsync ∈ parts)
    (path content : Text) : Within parts (append path content) := by
  apply (resolve_reads path).within.bind
  intro found
  obtain ⟨place, node⟩ := found
  cases node with
  | directory mode => exact refuse_within _ _
  | file mode old =>
    refine Within.ite (refuse_within _ _) ?_
    apply get_within.bind
    intro u
    apply (setFiles_within hf _).bind
    intro _
    exact (record_within _).bind fun _ => meet_within hc

theorem fillAndRename_within (hf : Part.files ∈ parts) (hfsync : Part.call .fsync ∈ parts)
    (hchmod : Part.call .chmod ∈ parts) (hreplace : Part.call .replace ∈ parts)
    (temporary place : Place) (mode : Nat) (content : Text) :
    Within parts (fillAndRename temporary place mode content) := by
  apply get_within.bind
  intro _
  apply (setFiles_within hf _).bind
  intro _
  apply (meet_within hfsync).bind
  intro _
  apply (meet_within hchmod).bind
  intro _
  apply get_within.bind
  intro _
  apply (setFiles_within hf _).bind
  intro _
  exact (meet_within hreplace).bind fun _ => get_within.bind fun _ => setFiles_within hf _

theorem rewrite_within (hf : Part.files ∈ parts) (hmkstemp : Part.call .mkstemp ∈ parts)
    (hfsync : Part.call .fsync ∈ parts) (hchmod : Part.call .chmod ∈ parts)
    (hreplace : Part.call .replace ∈ parts) (path content : Text) :
    Within parts (rewrite path content) := by
  apply (resolve_reads path).within.bind
  intro found
  apply (meet_within hmkstemp).bind
  intro _
  apply get_within.bind
  intro u
  dsimp only
  cases freePlace? u.files found.1 with
  | none => exact refuse_within _ _
  | some temporary =>
    refine Within.ite (refuse_within _ _) (Within.ite (refuse_within _ _) ?_)
    apply (fillAndRename_within hf hfsync hchmod hreplace _ _ _ _).outcome.bind
    intro _
    exact get_within.bind fun _ => (setFiles_within hf _).bind fun _ => ofExcept_within _

theorem changeMode_within (hf : Part.files ∈ parts) (hc : Part.call .chmod ∈ parts) (path : Text)
    (mode : Nat) : Within parts (changeMode path mode) := by
  apply (meet_within hc).bind
  intro _
  apply (resolve_reads path).within.bind
  intro found
  exact get_within.bind fun _ => setFiles_within hf _

theorem changeGroup_within (hc : Part.call .chown ∈ parts) (path : Text) (gid : Int) :
    Within parts (changeGroup path gid) := by
  apply (record_within _).bind
  intro _
  apply (meet_within hc).bind
  intro _
  exact Within.ite (throw_within _) (Within.ite (throw_within _) (pure_within _))

theorem freeOctets_within (hc : Part.call .statvfs ∈ parts) (path : Text) :
    Within parts (freeOctets path) :=
  (meet_within hc).bind fun _ => (resolve_reads path).within.bind fun _ =>
    get_within.bind fun _ => pure_within _

theorem makeDirectory_within (hf : Part.files ∈ parts) (path : Text) (mode : Nat) :
    Within parts (makeDirectory path mode) := by
  intro w
  rcases of_makeDirectory (r := (makeDirectory path mode w).1) (v := (makeDirectory path mode w).2)
    rfl with ⟨hv, -⟩ | ⟨place, parent, -, -, -, -, -, -, hv⟩
  · rw [hv]
    exact World.Frame.refl parts w
  · rw [hv]
    exact ⟨fun hn => absurd hf hn, fun _ => rfl, fun _ _ => rfl, fun _ _ => rfl, fun _ h => h,
      List.prefix_refl _, rfl, rfl⟩

theorem makeDirectoriesUpTo_within (hf : Part.files ∈ parts) (hc : Part.call .makedirs ∈ parts)
    (fuel : Nat) (path : Text) (mode : Nat) :
    Within parts (makeDirectoriesUpTo fuel path mode) := by
  induction fuel generalizing path mode with
  | zero => exact (meet_within hc).bind fun _ => makeDirectory_within hf path mode
  | succ fuel ih =>
    unfold makeDirectoriesUpTo
    apply (meet_within hc).bind
    intro _
    dsimp only
    apply (isPresent_reads _).within.bind
    intro _
    refine Within.ite ?_ (makeDirectory_within hf path mode)
    refine Within.bind ((ih _ _).onOsError fun e => ?_) fun _ => ?_
    · exact Within.ite (pure_within _) (throw_within _)
    · exact Within.ite (pure_within _) (makeDirectory_within hf path mode)

theorem makeDirectories_within (hf : Part.files ∈ parts) (hc : Part.call .makedirs ∈ parts)
    (path : Text) (mode : Nat) : Within parts (makeDirectories path mode) :=
  (makeDirectoriesUpTo_within hf hc _ _ _).bind fun _ => record_within _

theorem removeEmpty_within (hf : Part.files ∈ parts) (place : Place) (shown : Text) :
    Within parts (removeEmpty place shown) := by
  apply get_within.bind
  intro u
  dsimp only
  cases u.files.get? place with
  | none => exact refuse_within _ _
  | some node =>
    refine Within.ite (refuse_within _ _) (Within.ite (refuse_within _ _) ?_)
    exact Within.ite (refuse_within _ _) (setFiles_within hf _)

theorem removeDirectory_within (hf : Part.files ∈ parts) (hc : Part.call .rmdir ∈ parts)
    (path : Text) : Within parts (removeDirectory path) := by
  apply (meet_within hc).bind
  intro _
  apply (checkPath_reads path).within.bind
  intro _
  apply get_within.bind
  intro u
  cases u.files.locate path with
  | error errno => exact refuse_within _ _
  | ok place =>
    dsimp only
    cases (Path.parts path).getLast? with
    | none => exact refuse_within _ _
    | some last =>
      refine Within.ite (refuse_within _ _) (Within.ite (refuse_within _ _) ?_)
      exact removeEmpty_within hf place path

mutual

theorem removeContents_within (hf : Part.files ∈ parts) (hc : Part.call .rmdir ∈ parts) :
    ∀ (depth : Nat) (place : Place) (shown : Text), Within parts (removeContents depth place shown)
  | 0, _, _ => by
    unfold removeContents
    exact pure_within _
  | depth + 1, place, shown => by
    unfold removeContents
    apply get_within.bind
    intro u
    dsimp only
    cases u.files.get? place with
    | none => exact refuse_within _ _
    | some node =>
      refine Within.ite (refuse_within _ _) (Within.ite (refuse_within _ _) ?_)
      exact removeEach_within hf hc depth place (u.files.children place)

theorem removeEach_within (hf : Part.files ∈ parts) (hc : Part.call .rmdir ∈ parts) :
    ∀ (depth : Nat) (place : Place) (children : List (Text × Node)),
      Within parts (removeEach depth place children)
  | _, _, [] => by
    unfold removeEach
    exact pure_within _
  | depth, place, (name, node) :: rest => by
    have hrest := removeEach_within hf hc depth place rest
    unfold removeEach
    dsimp only
    refine Within.ite ?_ (get_within.bind fun u => Within.ite ?_ ?_)
    · apply (removeContents_within hf hc depth _ _).bind
      intro _
      apply (meet_within hc).bind
      intro _
      exact (removeEmpty_within hf _ _).bind fun _ => hrest
    · exact (refuse_within _ _).bind fun _ => hrest
    · exact get_within.bind fun _ => (setFiles_within hf _).bind fun _ => hrest

end

theorem removeTree_within (hf : Part.files ∈ parts) (hrmdir : Part.call .rmdir ∈ parts)
    (hrmtree : Part.call .rmtree ∈ parts) (path : Text) : Within parts (removeTree path) := by
  apply (meet_within hrmtree).bind
  intro _
  apply (resolve_reads path).within.bind
  intro found
  apply get_within.bind
  intro u
  apply (removeContents_within hf hrmdir _ _ _).bind
  intro _
  exact removeDirectory_within hf hrmdir path

end within

end NfsVolume.Files
