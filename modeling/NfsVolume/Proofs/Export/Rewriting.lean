import NfsVolume.Proofs.Export.Ledger
import NfsVolume.Proofs.World.Circumstances

/-! What removing an entry from an export file leaves: the file with its entry taken out and nothing
else changed, or all as it was. An entry that has just been appended leaves no trace. -/
namespace NfsVolume

/-- One file of a tree has another text under its old mode, and the tree is the same otherwise. -/
structure FileTree.Rewritten (path : Text) (place : Place) (mode : Nat) (text later : Text)
    (before after : FileTree) : Prop where
  found : before.resolve path = .ok (place, .file mode (Text.Utf8.encode text))
  rewritten : after.resolve path = .ok (place, .file mode (Text.Utf8.encode later))
  others : ∀ q, q ≠ place → after.get? q = before.get? q
  names : ∀ q, (after.children q).map Prod.fst = (before.children q).map Prod.fst

theorem FileTree.rewritten_put {t : FileTree} {path text : Text} {place : Place} {mode : Nat}
    (h : t.resolve path = .ok (place, .file mode (Text.Utf8.encode text))) (later : Text) :
    Rewritten path place mode text later t
      (t.put place (.file mode (Text.Utf8.encode later))) := by
  have hfile := (resolve_eq_ok.mp h).2.1
  refine ⟨h, resolve_put_file h _, fun q hq => ?_, fun q => children_put_file hfile _ q⟩
  rw [get?_put t (not_isFixed_of_file hfile), if_neg hq]

namespace Ledger

open Run Files

variable {path content text : Text} {w v : World} {place : Place} {mode : Nat}

/-- A text file that can be rewritten is, without the entry; or removing it fails and every file is
as it was. -/
theorem remove_cases {r : Except Failure Unit} (h : remove path content w = (r, v)) :
    (r = .ok () ∧ ∃ place mode text,
        w.files.resolve path = .ok (place, .file mode (Text.Utf8.encode text)) ∧
        Rewritable w place mode ∧
        v.files = w.files.put place (.file mode (Text.Utf8.encode (Text.erase content text)))) ∨
      ((∃ e, r = .error e) ∧ v.files = w.files) := by
  obtain ⟨result, hbody, hr⟩ := of_guarded h
  have hfails (e : Failure) (he : result = .error e) : ∃ e, r = .error e := by
    rcases hr with rfl | ⟨o, -, hr⟩
    · exact ⟨e, he⟩
    · exact ⟨_, hr⟩
  rcases of_bind hbody with ⟨text, u, hread, hrewrite⟩ | ⟨e, hread, he⟩
  · obtain rfl := (readExact_reads path).eq_of_run hread
    obtain ⟨hp, place, mode, hfile, hmay⟩ := of_readExact hread
    rcases of_rewrite hp hfile hrewrite with ⟨⟨e, he⟩, hv⟩ | ⟨rfl, hv⟩
    · exact .inr ⟨hfails _ he, hv⟩
    · obtain ⟨hroom, hmkstemp, hfsync, hchmod, hreplace⟩ := of_rewrite_ok hp hfile hrewrite
      rcases hr with rfl | ⟨o, ho, -⟩
      · exact .inl ⟨rfl, place, mode, text, hfile,
          ⟨hmay, hroom, hmkstemp, hfsync, hchmod, hreplace⟩, hv⟩
      · cases ho
  · exact .inr ⟨hfails e he, congrArg World.files ((readExact_reads path).eq_of_run hread)⟩

/-- Removing an entry takes it out of a file in one pass and keeps the mode, or fails and leaves
every file as it was. In both cases no other file is touched, no temporary one stays, and the count
of ids is the same. A file of text is rewritten exactly if it may be read, there is room beside it
and no fault is due; otherwise the failure is reported for that file. -/
theorem remove_all_or_nothing (path content : Text) (w v : World) (r : Except Failure Unit)
    (h : remove path content w = (r, v)) :
    ((r = .ok () ∧ ∃ place mode text later, Text.Erases content text later ∧
        FileTree.Rewritten path place mode text later w.files v.files) ∨
      ((∃ e, r = .error e) ∧ v.files = w.files)) ∧
    v.lastExportId = w.lastExportId ∧
    ∀ place mode text, '\x00' ∉ path →
      w.files.resolve path = .ok (place, .file mode (Text.Utf8.encode text)) →
        (r = .ok () ↔ Rewritable w place mode) ∧
        ∀ e, r = .error e → ∃ cause, e = .provisioning (.exportFile path cause) := by
  refine ⟨?outcome, ?count, fun place mode text hp hfile => ⟨⟨?only, fun hrw => ?writes⟩, ?kind⟩⟩
  case outcome =>
    refine (remove_cases h).imp_left ?_
    rintro ⟨rfl, place, mode, text, hfile, -, hv⟩
    refine ⟨rfl, place, mode, text, _, Text.erases_erase content text, ?_⟩
    rw [hv]
    exact FileTree.rewritten_put hfile _
  case count =>
    have hframe : World.Frame [.files, .call .mkstemp, .call .fsync, .call .chmod, .call .replace]
        w v := (remove_within (by simp) (by simp) (by simp) (by simp) (by simp) path content).frame h
    exact hframe.count (by simp)
  case only =>
    rintro rfl
    rcases remove_cases h with ⟨-, place', mode', text', hfile', hrw, -⟩ | ⟨⟨e, he⟩, -⟩
    · obtain ⟨rfl, hnode⟩ := Prod.mk.inj (Except.ok.inj (hfile.symm.trans hfile'))
      obtain ⟨rfl, -⟩ := Node.file.inj hnode
      exact hrw
    · cases he
  case writes =>
    rcases of_remove hp hfile h with ⟨hr, -⟩ | ⟨-, -, hno⟩
    · exact hr
    · exact absurd hrw hno
  case kind =>
    rintro e rfl
    rcases of_remove hp hfile h with ⟨hr, -⟩ | ⟨⟨cause, he⟩, -⟩
    · cases hr
    · exact ⟨cause, Except.error.inj he⟩

/-- A world with one export file `x` and some faults. -/
def faultyWorld (mode : Nat) (text : Text) (faults : List Fault) : World :=
  { World.ofFiles ⟨[([['x']], .file mode (Text.Utf8.encode text))]⟩ with faults := faults }

/-- Two entries go out of a file that has line ends of two characters; where the copy cannot be
renamed, they stay. -/
theorem remove_all_or_nothing_twice :
    let w := faultyWorld 0o600 "a\r\nb\r\na\r\n"
    ((remove ['x'] ['a'] (w [])).1 = .ok () ∧
      ∃ place mode text later, Text.Erases ['a'] text later ∧
        FileTree.Rewritten ['x'] place mode text later (w []).files
          (remove ['x'] ['a'] (w [])).2.files) ∧
    (remove ['x'] ['a'] (w [⟨.replace, 5, 0, 1⟩])).2.files = (w [⟨.replace, 5, 0, 1⟩]).files := by
  intro w
  have hall (faults : List Fault) :=
    remove_all_or_nothing ['x'] ['a'] (w faults) _ _ (Prod.eta _).symm
  have hiff (faults : List Fault) : (remove ['x'] ['a'] (w faults)).1 = .ok () ↔
      Rewritable (w faults) [['x']] 0o600 :=
    ((hall faults).2.2 [['x']] 0o600 "a\r\nb\r\na\r\n" (by decide) rfl).1
  constructor
  · have hdone := (hiff []).mpr ⟨rfl, by decide +kernel, rfl, rfl, rfl, rfl⟩
    refine (hall []).1.resolve_right ?_
    rintro ⟨⟨e, he⟩, -⟩
    cases he.symm.trans hdone
  · rcases (hall [⟨.replace, 5, 0, 1⟩]).1 with ⟨hr, -⟩ | ⟨-, hkept⟩
    · cases ((hiff _).mp hr).replace
    · exact hkept

/-- The system does not keep a file from being rewritten: it may be read, another one can be made
beside it, and no call fails. -/
structure Unhindered (w : World) (place : Place) (mode : Nat) : Prop where
  readable : (Node.directory mode).mayRead = true
  room : roomBeside w.files place = true
  calm : ∀ call, Fault.Calm call w.faults

/-- Text that has been appended to such a file does not keep it from being rewritten. -/
theorem Unhindered.rewritable {old : List UInt8} (h : Unhindered w place mode)
    (hfile : w.files.get? place = some (.file mode old)) (path content : Text) :
    Rewritable (struck .fsync (written path content place mode old w)) place
      (Node.writtenMode mode) where
  readable := (Node.mayRead_writtenMode mode).trans h.readable
  room := (roomBeside_put_file hfile _ _).trans h.room
  mkstemp := ((h.calm .mkstemp).strike .fsync).due?
  fsync := ((h.calm .fsync).strike .fsync).due?
  chmod := ((h.calm .chmod).strike .fsync).due?
  replace := ((h.calm .replace).strike .fsync).due?

/-- Text is appended to a file, and then removed from it. -/
def appendThenRemove (path content : Text) : Run Unit := do
  append path content
  remove path content

/-- What is appended at the end of a file and occurs nowhere else can be removed again. -/
theorem appendThenRemove_ok (hp : '\x00' ∉ path)
    (hfile : w.files.resolve path = .ok (place, .file mode (Text.Utf8.encode text)))
    (hwrite : (Node.directory mode).mayWrite = true) (hfree : Unhindered w place mode)
    (hne : content ≠ []) (hend : Text.OnlyAtEnd content text) :
    (appendThenRemove path content w).1 = .ok () ∧ (appendThenRemove path content w).2.files =
      w.files.put place (.file (Node.writtenMode mode) (Text.Utf8.encode text)) := by
  have hget := (FileTree.resolve_eq_ok.mp hfile).2.1
  have happend := append_ok hp hne hfile hwrite (hfree.calm .fsync).due?
  have hrewritable := hfree.rewritable hget path content
  have hafter : (struck .fsync (written path content place mode (Text.Utf8.encode text) w)).files =
      w.files.put place (.file (Node.writtenMode mode) (Text.Utf8.encode (text ++ content))) := by
    rw [Text.Utf8.encode_append]
    rfl
  generalize hu : struck .fsync _ = u at happend hrewritable hafter
  have hlater : u.files.resolve path =
      .ok (place, .file (Node.writtenMode mode) (Text.Utf8.encode (text ++ content))) :=
    hafter ▸ FileTree.resolve_put_file hfile _
  rw [appendThenRemove, bind_ok happend]
  rcases hremove : remove path content u with ⟨r, v⟩
  rcases of_remove hp hlater hremove with ⟨rfl, -, hv⟩ | ⟨-, -, hno⟩
  · exact ⟨rfl, by rw [hv, hafter, FileTree.put_put, Text.erase_append hne hend]⟩
  · exact absurd hrewritable hno

/-- Text that is appended to a file and removed again leaves the octets that were there, if it does
not occur before its end: the tree is the same up to what a write takes away from the mode of the
file, and the same altogether if the file may not be written. A ganesha block does not occur any
earlier if its id is not shown in the file, and a line of the kernel's file if it was not there
yet. -/
theorem append_remove_restores (path : Text) (w : World) (place : Place) (mode : Nat) (text : Text)
    (hp : '\x00' ∉ path)
    (hfile : w.files.resolve path = .ok (place, .file mode (Text.Utf8.encode text)))
    (hfree : Unhindered w place mode) :
    (∀ content, content ≠ [] → Text.OnlyAtEnd content text →
      ((Node.directory mode).mayWrite = true →
        (appendThenRemove path content w).1 = .ok () ∧
        (appendThenRemove path content w).2.files =
          w.files.put place (.file (Node.writtenMode mode) (Text.Utf8.encode text)) ∧
        (Node.writtenMode mode = mode →
          (appendThenRemove path content w).2.files = w.files)) ∧
      ((Node.directory mode).mayWrite = false →
        (∃ e, (appendThenRemove path content w).1 = .error e) ∧
        (appendThenRemove path content w).2.files = w.files)) ∧
    (∀ (id : Int) (shared : Text), ¬ Export.labelled (Text.integer id) <:+: text →
      Text.OnlyAtEnd (Export.ganeshaBlock id shared) text) ∧
    ∀ shared : Text, '\n' ∉ shared → ¬ Export.kernelLine shared <:+: text ++ ['\n'] →
      Text.OnlyAtEnd (Export.kernelLine shared) text := by
  refine ⟨fun content hne hend => ⟨fun hwrite => ?_, fun hwrite => ?_⟩,
    fun id shared h => Export.onlyAtEnd_block h shared, fun shared => Export.onlyAtEnd_kernelLine⟩
  · obtain ⟨hdone, hfiles⟩ := appendThenRemove_ok hp hfile hwrite hfree hne hend
    refine ⟨hdone, hfiles, fun hmode => ?_⟩
    have hget := (FileTree.resolve_eq_ok.mp hfile).2.1
    rw [hfiles, hmode, FileTree.put_self (FileTree.not_isFixed_of_file hget) hget]
  · have happend : append path content w = _ := append_unwritable hp hfile hwrite
    rw [appendThenRemove, bind_error happend]
    exact ⟨⟨_, rfl⟩, rfl⟩

/-- A line comes and goes in a file that has line ends of two characters, and a block with a new id
would do so too. -/
theorem append_remove_restores_line :
    let w := faultyWorld 0o644 "#\r\n" []
    ((appendThenRemove ['x'] (Export.kernelLine ['v']) w).1 = .ok () ∧
      (appendThenRemove ['x'] (Export.kernelLine ['v']) w).2.files = w.files) ∧
      Text.OnlyAtEnd (Export.ganeshaBlock 7 ['v']) "#\r\n" := by
  intro w
  obtain ⟨hrestores, hblock, hline⟩ := append_remove_restores ['x'] w [['x']] 0o644 "#\r\n"
    (by decide) rfl ⟨rfl, by decide +kernel, fun call => by cases call <;> rfl⟩
  obtain ⟨hdone, -, hkept⟩ := (hrestores (Export.kernelLine ['v']) (by decide)
    (hline ['v'] (by decide) (by decide))).1 rfl
  exact ⟨⟨hdone, hkept rfl⟩, hblock 7 ['v'] (by decide)⟩

/-- Without any fault, and although the line is nowhere before its end, a file that runs as its owner
no longer does so once the line has come and gone; and the line stays in a file that may not be
read, or beside which no other one can be made. -/
theorem append_remove_changes :
    let line := Export.kernelLine ['v']
    let after (mode : Nat) := (appendThenRemove ['x'] line (faultyWorld mode "#\n" [])).2.files
    let shut (text : Text) : World := World.ofFiles ⟨[([['d']], .directory 0o555),
      ([['d'], ['x']], .file 0o644 (Text.Utf8.encode text))]⟩
    Text.OnlyAtEnd line "#\n" ∧
      after 0o4644 = (faultyWorld 0o644 "#\n" []).files ∧
      after 0o4644 ≠ (faultyWorld 0o4644 "#\n" []).files ∧
      after 0o200 = (faultyWorld 0o200 ("#\n" ++ line) []).files ∧
      (appendThenRemove ['d', '/', 'x'] line (shut "#\n")).2.files = (shut ("#\n" ++ line)).files := by
  refine ⟨Export.onlyAtEnd_kernelLine (by decide) (by decide), ?_⟩
  decide +kernel

end Ledger
end NfsVolume
