import NfsVolume.Proofs.Export.History
import NfsVolume.Proofs.Text.Integer

/-! When nothing fails, it cannot be told from the ids and the file whether a new ledger has taken
over: the count that is taken up from the file is the one that the ledger before had. -/
namespace NfsVolume.ExportBackend

open Run Files Ledger

variable {b : ExportBackend} {path text : Text} {w : World} {place : Place} {mode : Nat}
  {paths : List Text} {h : History}

theorem activate_ok {output errors : Text} (hb : b.kind = .ganesha) (hp : '\x00' ∉ b.file)
    (hpath : '\x00' ∉ path)
    (h : w.resultOf busProgram =
      .finished 0 (Text.Utf8.encode output) (Text.Utf8.encode errors)) :
    (b.activate path w).1 = .ok (.ok ()) := by
  let message : Text := "Calling " ++ addExportMethod ++ " export(path = " ++ path ++ ")"
  let logged : World := { w with log := w.log ++ [⟨.debug, .exports, message⟩] }
  have hlog : Run.log .debug .exports message w = (.ok (), logged) := rfl
  have hclean : ∀ word ∈ busProgram :: callArguments b.file path, '\x00' ∉ word :=
    fun word hword hnull => (null_mem_callArguments hword hnull).elim hp hpath
  have hanswer : logged.answerOf busProgram =
      .ok (.ok (0, output.unifyNewlines, errors.unifyNewlines)) := by
    rw [World.answerOf, show logged.resultOf busProgram = _ from h]
    exact Outside.answerOf_encode busProgram 0 output errors
  have hrun := Outside.runCommand_apply hclean logged
  rw [hanswer] at hrun
  have hcall : b.activate path = callAddExport b.file path := by rw [activate, hb]
  rw [hcall, callAddExport, bind_ok hlog, bind_ok hrun]
  rfl

/-- The next id goes to a path that ganesha takes up, and its block is at the end of the file. -/
theorem add_ganesha_ok {last : Nat} {output errors : Text} (hb : b.kind = .ganesha)
    (hp : '\x00' ∉ b.file)
    (hfile : w.files.resolve b.file = .ok (place, .file mode (Text.Utf8.encode text)))
    (hread : (Node.directory mode).mayRead = true) (hwrite : (Node.directory mode).mayWrite = true)
    (hlast : Follows b.file w last) (hshort : Text.Integer.tooLong (last + 1 : Nat) = false)
    (hfsync : Fault.due? .fsync w.faults = none)
    (hpath : '\x00' ∉ path)
    (hresult : w.resultOf busProgram =
      .finished 0 (Text.Utf8.encode output) (Text.Utf8.encode errors)) :
    (allocateId b.file w).1 = .ok (last + 1) ∧
      (b.add path w).1 =
        .ok ⟨.ganesha, Export.ganeshaBlock (last + 1 : Nat) path, (last + 1 : Nat)⟩ ∧
      (b.add path w).2.files =
        stored w place mode (text ++ Export.ganeshaBlock (last + 1 : Nat) path) ∧
      (b.add path w).2.lastExportId = last + 1 := by
  obtain ⟨log, hallocate⟩ := allocateId_ok hp hfile hread hlast
  have hentry : entryFor path (last + 1) = .ok (Export.ganeshaBlock (last + 1 : Nat) path) := by
    rw [entryFor, hshort]
    rfl
  have happend : Ledger.append b.file (Export.ganeshaBlock (last + 1 : Nat) path)
      { w with lastExportId := last + 1, log := log } = _ :=
    Ledger.append_ok hp (entryOf_ne_nil .ganesha path _) hfile hwrite hfsync
  generalize hu : struck .fsync _ = u at happend
  have hufiles : u.files =
      stored w place mode (text ++ Export.ganeshaBlock (last + 1 : Nat) path) := by
    rw [← hu, stored, Text.Utf8.encode_append]
    rfl
  have hucount : u.lastExportId = last + 1 := by rw [← hu]; rfl
  have huresult : u.resultOf busProgram =
      .finished 0 (Text.Utf8.encode output) (Text.Utf8.encode errors) := by
    rw [← hresult, ← hu]
    rfl
  have hcalled := activate_ok hb hp hpath huresult
  rcases hcall : b.activate path u with ⟨answer, v⟩
  rw [hcall] at hcalled
  subst hcalled
  have huv : World.Frame [.results b.program] u v := (activate_within (by simp) path).frame hcall
  refine ⟨congrArg Prod.fst hallocate, ?_⟩
  rw [add_ganesha hb, bind_ok hallocate, hentry, bind_ok (ofExcept_apply _ _), bind_ok happend,
    finish, bind_ok hcall]
  exact ⟨rfl, (huv.files (by simp)).trans hufiles, (huv.count (by simp)).trans hucount⟩

/-- A step in which no call to the system fails and ganesha takes up what is added: its program can
be called with the path, succeeds and writes text. -/
def Step.Smooth : Step → Prop
  | .add circumstances path => circumstances.faults = [] ∧ '\x00' ∉ path ∧
      ∃ output errors : Text, circumstances.resultOf busProgram =
        .finished 0 (Text.Utf8.encode output) (Text.Utf8.encode errors)
  | .restart => True

def Step.path? : Step → Option Text
  | .add _ path => some path
  | .restart => none

/-- The paths that a history adds, in order. -/
def added (steps : List Step) : List Text := steps.filterMap Step.path?

theorem added_append (steps more : List Step) : added (steps ++ more) = added steps ++ added more :=
  List.filterMap_append

/-- Paths with the ids that follow a number. -/
def numbered (last : Nat) (paths : List Text) : List (Nat × Text) :=
  (paths.zipIdx (last + 1)).map Prod.swap

theorem numbered_append_singleton (last : Nat) (paths : List Text) (path : Text) :
    numbered last (paths ++ [path]) = numbered last paths ++ [(last + paths.length + 1, path)] := by
  have hid : last + 1 + paths.length = last + paths.length + 1 := by omega
  simp [numbered, List.zipIdx_append, hid]

theorem of_mem_numbered {last : Nat} {block : Nat × Text} (h : block ∈ numbered last paths) :
    block.1 ≤ last + paths.length ∧ block.2 ∈ paths := by
  obtain ⟨⟨path, id⟩, hmem, rfl⟩ := List.mem_map.mp h
  have hid := List.snd_lt_add_of_mem_zipIdx hmem
  exact ⟨by simp only [Prod.fst_swap]; omega, List.fst_mem_of_mem_zipIdx hmem⟩

/-- Of more ids, those of the first paths are not too long. -/
theorem tooLong_of_append {last : Nat} {more : List Text}
    (h : Text.Integer.tooLong (last + (paths ++ more).length : Nat) = false) :
    Text.Integer.tooLong (last + paths.length : Nat) = false := by
  refine Text.Integer.tooLong_of_le ?_ h
  rw [List.length_append]
  omega

theorem largestId_append_numbered (text : Text)
    (hfree : ∀ path ∈ paths, ¬ Export.idLabel <:+: path) :
    Export.largestId (text ++ blocksText (numbered (Export.largestId text) paths)) =
      Export.largestId text + paths.length := by
  induction paths using List.reverseRecOn with
  | nil => simp [numbered, blocksText]
  | append_singleton paths path ih =>
    have hrest := ih fun path hp => hfree path (List.mem_append_left _ hp)
    rw [numbered_append_singleton, blocksText_append_singleton, ← List.append_assoc,
      Export.largestId_append_ganeshaBlock (hfree path (by simp)), hrest, List.length_append,
      List.length_singleton]
    omega

/-- Everything that was added has its block in the file, in order and with the ids that follow those
of the initial text; and the count is the last of them unless it has yet to be taken up. -/
structure Gapless (b : ExportBackend) (place : Place) (text : Text) (paths : List Text)
    (h : History) : Prop where
  file : ∃ mode, h.world.files.resolve b.file = .ok (place, .file mode (Text.Utf8.encode
      (text ++ blocksText (numbered (Export.largestId text) paths)))) ∧
    (Node.directory mode).mayRead = true ∧ (Node.directory mode).mayWrite = true
  handedOut : h.ledgers.flatten = numbered (Export.largestId text) paths
  counted : h.world.lastExportId = 0 ∨
    h.world.lastExportId = Export.largestId text + paths.length

theorem Gapless.start (hcount : w.lastExportId = 0)
    (hfile : w.files.resolve b.file = .ok (place, .file mode (Text.Utf8.encode text)))
    (hread : (Node.directory mode).mayRead = true)
    (hwrite : (Node.directory mode).mayWrite = true) :
    Gapless b place text [] (History.start w) where
  file := ⟨mode, by simpa [numbered, blocksText, History.start] using hfile, hread, hwrite⟩
  handedOut := rfl
  counted := .inl hcount

theorem Gapless.restart (hg : Gapless b place text paths h) :
    Gapless b place text paths (h.step b .restart) where
  file := hg.file
  handedOut := by
    rw [← hg.handedOut]
    simp [History.step, History.ledgers]
  counted := .inl rfl

/-- The next id follows the last one that was handed out, whether it is still known or is taken up
from the file. -/
theorem Gapless.follows (hg : Gapless b place text paths h)
    (hfree : ∀ path ∈ paths, ¬ Export.idLabel <:+: path)
    (hpresent : ∀ digits ∈ Export.idsIn text, digits.length ≤ Text.Integer.maxDigits)
    (hnew : Text.Integer.tooLong (Export.largestId text + paths.length : Nat) = false)
    (c : Circumstances) :
    Follows b.file (h.world.meeting c) (Export.largestId text + paths.length) := by
  by_cases hz : h.world.lastExportId = 0
  · obtain ⟨mode, hfile, -⟩ := hg.file
    refine .inr ⟨hz, place, mode, _, hfile, ?_⟩
    rw [Export.lastId_unifyNewlines, Export.lastId_of_short, largestId_append_numbered text hfree]
    intro digits hd
    rw [idsIn_append_blocksText text fun block hblock => hfree _ (of_mem_numbered hblock).2] at hd
    rcases List.mem_append.mp hd with hd | hd
    · exact hpresent digits hd
    · obtain ⟨block, hblock, rfl⟩ := List.mem_map.mp hd
      exact Text.Integer.length_decimal_le
        (Text.Integer.tooLong_of_le (of_mem_numbered hblock).1 hnew)
  · exact .inl ⟨hz, (hg.counted.resolve_left hz).symm⟩

theorem Gapless.add (hb : b.kind = .ganesha) (hnull : '\x00' ∉ b.file) {c : Circumstances}
    (hsmooth : (Step.add c path).Smooth)
    (hfree : ∀ path ∈ paths, ¬ Export.idLabel <:+: path)
    (hpresent : ∀ digits ∈ Export.idsIn text, digits.length ≤ Text.Integer.maxDigits)
    (hnew : Text.Integer.tooLong (Export.largestId text + (paths ++ [path]).length : Nat) = false)
    (hg : Gapless b place text paths h) :
    (b.add path (h.world.meeting c)).1 = .ok ⟨.ganesha,
        Export.ganeshaBlock (Export.largestId text + paths.length + 1 : Nat) path,
        (Export.largestId text + paths.length + 1 : Nat)⟩ ∧
      Gapless b place text (paths ++ [path]) (h.step b (.add c path)) := by
  obtain ⟨hfaults, hpath, output, errors, hresult⟩ := hsmooth
  obtain ⟨mode, hfile, hread, hwrite⟩ := hg.file
  have hlast := hg.follows hfree hpresent (tooLong_of_append hnew) c
  rw [List.length_append, List.length_singleton, ← Nat.add_assoc] at hnew
  have hfsync : Fault.due? .fsync (h.world.meeting c).faults = none := by
    rw [show (h.world.meeting c).faults = [] from hfaults]
    rfl
  obtain ⟨hid, hrecord, hfiles, hcount⟩ :=
    add_ganesha_ok (w := h.world.meeting c) hb hnull hfile hread hwrite hlast hnew hfsync hpath
      hresult
  refine ⟨hrecord, ?_, ?_, .inr ?_⟩
  · refine ⟨Node.writtenMode mode, ?_, (Node.mayRead_writtenMode mode).trans hread,
      (Node.mayWrite_writtenMode mode).trans hwrite⟩
    have hlater := resolve_stored (w := h.world.meeting c) hfile
      (text ++ blocksText (numbered (Export.largestId text) paths) ++
        Export.ganeshaBlock (Export.largestId text + paths.length + 1 : Nat) path)
    rw [← hfiles] at hlater
    rw [numbered_append_singleton, blocksText_append_singleton, ← List.append_assoc]
    exact hlater
  · rw [(ledgers_of_allocated path hid).2, hg.handedOut, numbered_append_singleton]
  · rw [List.length_append, List.length_singleton, ← Nat.add_assoc]
    exact hcount

theorem Gapless.run (hb : b.kind = .ganesha) (hnull : '\x00' ∉ b.file) {steps : List Step}
    (hsteps : ∀ step ∈ steps, step.Smooth)
    (hfree : ∀ path ∈ added steps, ¬ Export.idLabel <:+: path)
    (hpresent : ∀ digits ∈ Export.idsIn text, digits.length ≤ Text.Integer.maxDigits)
    (hnew : Text.Integer.tooLong (Export.largestId text + (added steps).length : Nat) = false)
    (hstart : Gapless b place text [] (History.start w)) :
    Gapless b place text (added steps) (History.run b steps w) := by
  induction steps using List.reverseRecOn with
  | nil => exact hstart
  | append_singleton steps step ih =>
    have hrun : History.run b (steps ++ [step]) w = (History.run b steps w).step b step := by
      simp [History.run]
    rw [added_append] at hfree hnew ⊢
    have hearlier := ih (fun step hs => hsteps step (List.mem_append_left _ hs))
      (fun path hp => hfree path (List.mem_append_left _ hp)) (tooLong_of_append hnew)
    have hstep : step.Smooth := hsteps step (by simp)
    rw [hrun]
    cases step with
    | restart =>
      rw [show added [Step.restart] = [] from rfl, List.append_nil]
      exact hearlier.restart
    | add c path =>
      exact (hearlier.add hb hnull hstep (fun path hp => hfree path (List.mem_append_left _ hp))
        hpresent hnew).2

/-- When nothing fails, two histories that add the same paths hand out the same ids and leave the
same octets, wherever new ledgers take over in them: each path gets the next id after those of the
initial text, and its export returns it. -/
theorem run_restarts_unseen (b : ExportBackend) (hb : b.kind = .ganesha) (hnull : '\x00' ∉ b.file)
    (w : World) (hcount : w.lastExportId = 0) (place : Place) (mode : Nat) (text : Text)
    (hfile : w.files.resolve b.file = .ok (place, .file mode (Text.Utf8.encode text)))
    (hread : (Node.directory mode).mayRead = true) (hwrite : (Node.directory mode).mayWrite = true)
    (hpresent : ∀ digits ∈ Export.idsIn text, digits.length ≤ Text.Integer.maxDigits)
    (steps others : List Step) (hsteps : ∀ step ∈ steps, step.Smooth)
    (hothers : ∀ step ∈ others, step.Smooth) (hsame : added others = added steps)
    (hfree : ∀ path ∈ added steps, ¬ Export.idLabel <:+: path)
    (hnew : Text.Integer.tooLong (Export.largestId text + (added steps).length : Nat) = false) :
    (History.run b others w).ledgers.flatten = (History.run b steps w).ledgers.flatten ∧
      (∃ octets later later',
        (History.run b steps w).world.files.resolve b.file = .ok (place, .file later octets) ∧
        (History.run b others w).world.files.resolve b.file = .ok (place, .file later' octets)) ∧
      (History.run b steps w).ledgers.flatten = numbered (Export.largestId text) (added steps) ∧
      ∀ before c path behind, steps = before ++ .add c path :: behind →
        (b.add path ((History.run b before w).world.meeting c)).1 = .ok ⟨.ganesha,
          Export.ganeshaBlock (Export.largestId text + (added before).length + 1 : Nat) path,
          (Export.largestId text + (added before).length + 1 : Nat)⟩ := by
  have hstart : Gapless b place text [] (History.start w) :=
    Gapless.start hcount hfile hread hwrite
  have hone := hstart.run hb hnull hsteps hfree hpresent hnew
  have hother := hstart.run hb hnull hothers (hsame ▸ hfree) hpresent (hsame ▸ hnew)
  refine ⟨?_, ?_, hone.handedOut, ?_⟩
  · rw [hother.handedOut, hone.handedOut, hsame]
  · obtain ⟨later, hlater, -⟩ := hone.file
    obtain ⟨later', hlater', -⟩ := hother.file
    rw [hsame] at hlater'
    exact ⟨_, later, later', hlater, hlater'⟩
  · rintro before c path behind rfl
    have hadded : added (before ++ .add c path :: behind) =
        (added before ++ [path]) ++ added behind := by
      rw [added_append, List.append_assoc]
      rfl
    rw [hadded] at hfree hnew
    have hfreeBefore : ∀ path ∈ added before, ¬ Export.idLabel <:+: path := fun path hp =>
      hfree path (List.mem_append_left _ (List.mem_append_left _ hp))
    have hnewHere := tooLong_of_append hnew
    have hbefore := hstart.run hb hnull
      (fun step hs => hsteps step (List.mem_append_left _ hs)) hfreeBefore hpresent
      (tooLong_of_append hnewHere)
    exact (hbefore.add hb hnull (hsteps _ (by simp)) hfreeBefore hpresent hnewHere).1

def smoothAdd (path : Text) : Step := .add (.answering (.finished 0 [] [])) path

/-- Two paths are added behind a block that was there, by one ledger and by two. -/
theorem run_restarts_unseen_behind_block :
    let b : ExportBackend := ⟨.ganesha, ['x']⟩
    let w := fileWorld (Export.ganeshaBlock 7 ['z'])
    let steps := [smoothAdd ['a'], smoothAdd ['c']]
    let others := [smoothAdd ['a'], .restart, smoothAdd ['c'], .restart]
    (History.run b others w).ledgers = [[(8, ['a'])], [(9, ['c'])], []] ∧
      (History.run b others w).ledgers.flatten = (History.run b steps w).ledgers.flatten ∧
      (History.run b steps w).ledgers.flatten = [(8, ['a']), (9, ['c'])] := by
  intro b w steps others
  have ha : (smoothAdd ['a']).Smooth := ⟨rfl, by decide, [], [], rfl⟩
  have hc : (smoothAdd ['c']).Smooth := ⟨rfl, by decide, [], [], rfl⟩
  have hsteps : ∀ step ∈ steps, step.Smooth := by simp [steps, ha, hc]
  have hrestart : Step.restart.Smooth := trivial
  have hothers : ∀ step ∈ others, step.Smooth := by simp [others, ha, hc, hrestart]
  have hids : Export.idsIn (Export.ganeshaBlock 7 ['z']) = [['7']] := by decide +kernel
  have hlargest : Export.largestId (Export.ganeshaBlock 7 ['z']) = 7 := by decide +kernel
  have hpresent : ∀ digits ∈ Export.idsIn (Export.ganeshaBlock 7 ['z']),
      digits.length ≤ Text.Integer.maxDigits := by
    rw [hids]
    decide
  have hrun := run_restarts_unseen b rfl (by decide) w rfl [['x']] 0o644 _ rfl rfl rfl hpresent
    steps others hsteps hothers rfl (by decide)
    (Text.Integer.tooLong_of_lt (by rw [hlargest]; decide))
  rw [hlargest] at hrun
  exact ⟨by decide +kernel, hrun.1, hrun.2.2.1⟩

end NfsVolume.ExportBackend
