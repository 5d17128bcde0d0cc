import NfsVolume.Proofs.Export.Clear
import NfsVolume.Proofs.Provisioner.Failure
import NfsVolume.Proofs.Volume.Growth
import NfsVolume.Proofs.World.Circumstances
import Mathlib.Data.List.Forall2
import Mathlib.Data.List.Nodup

/-! Runs of calls on one provisioner. As long as the system only fails where nothing has to be
undone in a file, the tree and the export file hold what the returned volumes account for. -/
namespace NfsVolume

namespace Provisioner

open Run Volume ExportBackend Files

/-- A call and what it meets outside. -/
structure Call where
  circumstances : Circumstances
  request : VolumeRequest

/-- How far a run has come: the world, and the volumes that have been returned so far. -/
structure Progress where
  world : World
  volumes : List ProvisionedVolume

def next (p : Provisioner) (s : Progress) (call : Call) : Progress :=
  let finished := p.provision call.request (s.world.meeting call.circumstances)
  ⟨finished.2, s.volumes ++ finished.1.toOption.toList⟩

def runAll (p : Provisioner) (calls : List Call) (w : World) : Progress :=
  calls.foldl p.next ⟨w, []⟩

/-- What the volumes account for in the export file. -/
def entriesOf (volumes : List ProvisionedVolume) : Text :=
  (volumes.map fun volume => volume.record.content).flatten

/-- Faults that only making directories, setting the mode of a new one, changing its group and
looking up space can meet. -/
structure Gentle (faults : List Fault) : Prop where
  fsync : Fault.Calm .fsync faults
  mkstemp : Fault.Calm .mkstemp faults
  replace : Fault.Calm .replace faults
  rmdir : Fault.Calm .rmdir faults
  rmtree : Fault.Calm .rmtree faults
  chmod : Fault.due? .chmod faults = none →
    Fault.due? .chmod (Fault.strike .chmod faults).2 = none

/-- The tree and the export file hold what the returned volumes account for. -/
structure Consistent (p : Provisioner) (w : World) (place : Place) (mode : Nat) (text : Text)
    (calls : List Call) (s : Progress) (later : Nat) (places : List Place) : Prop where
  modes : later = mode ∨ later = Node.writtenMode mode
  grown : Grown w.files s.world.files p.backend.file place later
    (Text.Utf8.encode (text ++ entriesOf s.volumes)) places
  clear : Clear p.backend s.world.lastExportId text (s.volumes.map fun volume => volume.path)
    (text ++ entriesOf s.volumes)
  located : List.Forall₂ (fun volume q => w.files.locate volume.path = .ok q ∧
    w.files.get? q = none) s.volumes places
  nodup : places.Nodup
  requested : ∀ volume ∈ s.volumes, ∃ call ∈ calls, volume.path = p.pathOf call.request

variable {p : Provisioner} {w u v after : World} {place q : Place} {mode later : Nat}
  {path text : Text} {calls : List Call} {s : Progress} {places : List Place} {call : Call}
  {added : Except Failure ExportRecord}

theorem Consistent.start (ht : w.files.IsTree) (hcount : w.lastExportId = 0)
    (hfile : w.files.resolve p.backend.file = .ok (place, .file mode (Text.Utf8.encode text))) :
    Consistent p w place mode text [] ⟨w, []⟩ mode [] where
  modes := .inl rfl
  grown := by
    simpa [entriesOf] using Grown.start ht hfile
  clear := by
    simpa [entriesOf, hcount] using Clear.start p.backend text
  located := List.Forall₂.nil
  nodup := List.nodup_nil
  requested := by simp

theorem Consistent.modes_written (hc : Consistent p w place mode text calls s later places) :
    Node.writtenMode later = mode ∨ Node.writtenMode later = Node.writtenMode mode := by
  rcases hc.modes with h | h
  · rw [h]
    exact .inr rfl
  · rw [h, Node.writtenMode_writtenMode]
    exact .inr rfl

/-- With gentle faults, and as long as the server's program writes text, nothing keeps an entry in
the file that is to be removed. -/
theorem Gentle.not_stuck {entry : Text} (hg : Gentle w.faults)
    (hlegible : (w.resultOf p.backend.program).Legible)
    (hu : Reached p w path q u added after) (hreadable : (Node.directory mode).mayRead = true)
    (hroom : roomBeside (stored u place mode (text ++ entry)) place = true) :
    ¬ Stuck p.backend path u place mode text entry := by
  rintro (hdue | ⟨e, hunheard⟩ | ⟨u', huu', hfiles, hnot⟩)
  · exact hdue (hu.frame.calm _ hg.fsync).due?
  · cases hunheard with
    | undecodable problem h =>
      rw [hu.frame.answerOf (results_notMem_earlyParts p.backend)] at h
      exact (Outside.of_answerOf_error h).2 hlegible
    | null _ h => exact hu.isVolumePath.noNull h
  · have hcalm {c : SystemCall} (hc : Fault.Calm c w.faults) : Fault.due? c u'.faults = none :=
      (huu'.calm _ (hu.frame.calm _ hc)).due?
    refine hnot ⟨?_, hfiles ▸ hroom, hcalm hg.mkstemp, hcalm hg.fsync, ?_, hcalm hg.replace⟩
    · rw [Node.mayRead_writtenMode, hreadable]
    · rw [huu'.due? (by simp), Fault.due?_congr hu.passed.faults]
      exact hg.chmod hu.passed.due

theorem Consistent.requested_append (hc : Consistent p w place mode text calls s later places)
    (call : Call) :
    ∀ volume ∈ s.volumes, ∃ other ∈ calls ++ [call], volume.path = p.pathOf other.request := by
  intro volume hvolume
  obtain ⟨other, hother, hpath⟩ := hc.requested volume hvolume
  exact ⟨other, List.mem_append_left _ hother, hpath⟩

/-- A call that returns nothing and leaves the tree as it was. -/
theorem Consistent.unchanged (hc : Consistent p w place mode text calls s later places)
    (hfiles : v.files = s.world.files)
    (hclear : Clear p.backend v.lastExportId text (s.volumes.map fun volume => volume.path)
      (text ++ entriesOf s.volumes)) :
    Consistent p w place mode text (calls ++ [call]) ⟨v, s.volumes⟩ later places :=
  ⟨hc.modes, hfiles ▸ hc.grown, hclear, hc.located, hc.nodup, hc.requested_append call⟩

/-- A call that returns nothing and has taken its entry back. -/
theorem Consistent.undone (hc : Consistent p w place mode text calls s later places)
    (hfiles : v.files = stored s.world place later (text ++ entriesOf s.volumes))
    (hclear : Clear p.backend v.lastExportId text (s.volumes.map fun volume => volume.path)
      (text ++ entriesOf s.volumes)) :
    Consistent p w place mode text (calls ++ [call]) ⟨v, s.volumes⟩ (Node.writtenMode later)
      places := by
  refine ⟨hc.modes_written, ?_, hclear, hc.located, hc.nodup, hc.requested_append call⟩
  rw [show (Progress.mk v s.volumes).world.files = _ from hfiles]
  exact hc.grown.rewrite _ _

/-- A call that returns a volume. -/
theorem Consistent.returned {volume : ProvisionedVolume}
    (hc : Consistent p w place mode text calls s later places)
    (hcall : volume.path = p.pathOf call.request) (hpath : IsVolumePath volume.path)
    (hvacant : Vacant s.world.files volume.path q)
    (hu : u.files = s.world.files.put q (.directory directoryMode))
    (hfiles : v.files = stored u place later (text ++ entriesOf s.volumes ++ volume.record.content))
    (hclear : Clear p.backend v.lastExportId text
      ((s.volumes.map fun volume => volume.path) ++ [volume.path])
      (text ++ entriesOf s.volumes ++ volume.record.content)) :
    Consistent p w place mode text (calls ++ [call]) ⟨v, s.volumes ++ [volume]⟩
      (Node.writtenMode later) (places ++ [q]) := by
  have hentries : text ++ entriesOf (s.volumes ++ [volume]) =
      text ++ entriesOf s.volumes ++ volume.record.content := by
    simp [entriesOf]
  obtain ⟨hfree, hnew⟩ := hc.grown.empty q hvacant.free
  refine ⟨hc.modes_written, ?_, ?_, ?_, ?_, ?_⟩
  · have hnow : (Progress.mk v (s.volumes ++ [volume])).world.files = _ := hfiles
    rw [hentries, hnow, stored, hu]
    exact (hc.grown.make hpath hvacant).rewrite _ _
  · rw [hentries, List.map_append]
    exact hclear
  · have hlocated := hc.grown.covers.locate hvacant.located
    exact List.rel_append hc.located (List.Forall₂.cons ⟨hlocated, hfree⟩ List.Forall₂.nil)
  · exact List.Nodup.append hc.nodup (List.nodup_singleton q) (List.disjoint_singleton.mpr hnew)
  · intro other hother
    rcases List.mem_append.mp hother with hother | hother
    · exact hc.requested_append call other hother
    · rw [List.mem_singleton.mp hother]
      exact ⟨call, List.mem_append_right _ (List.mem_singleton.mpr rfl), hcall⟩

theorem exists_of_forall₂ {α β : Type} {R : α → β → Prop} {as : List α} {bs : List β} {a : α}
    (h : List.Forall₂ R as bs) (ha : a ∈ as) : ∃ b ∈ bs, R a b := by
  induction h with
  | nil => cases ha
  | cons hab _ ih =>
    rcases List.mem_cons.mp ha with rfl | ha
    · exact ⟨_, List.mem_cons_self, hab⟩
    · obtain ⟨b, hb, hr⟩ := ih ha
      exact ⟨b, List.mem_cons_of_mem _ hb, hr⟩

/-- No volume is made twice. -/
theorem Consistent.path_new (hc : Consistent p w place mode text calls s later places)
    (hvacant : Vacant s.world.files path q) : path ∉ s.volumes.map fun volume => volume.path := by
  intro hm
  obtain ⟨volume, hvolume, rfl⟩ := List.mem_map.mp hm
  obtain ⟨q', hq', hlocated, -⟩ := exists_of_forall₂ hc.located hvolume
  have hsame := hc.grown.covered.locate hlocated
  rw [hvacant.located] at hsame
  cases hsame
  exact (hc.grown.empty q hvacant.free).2 hq'

theorem Consistent.readable (hc : Consistent p w place mode text calls s later places)
    (h : (Node.directory mode).mayRead = true) : (Node.directory later).mayRead = true := by
  rcases hc.modes with hlater | hlater
  · rw [hlater, h]
  · rw [hlater, Node.mayRead_writtenMode, h]

/-- With gentle faults a directory is always released. -/
theorem Gentle.not_remains (hg : Gentle w.faults) : ¬ Remains path w v := by
  rintro ⟨errno, hdue, -⟩
  rw [hg.rmdir.due?] at hdue
  cases hdue

/-- With gentle faults, the directory of a volume that was not exported is gone again. -/
theorem Gentle.of_failed {res : Except Failure ProvisionedVolume} {e : Failure}
    (hg : Gentle w.faults) (hu : Reached p w path q u added after)
    (h : Decides path q added after res v) (hadded : added = .error e)
    (hmade : Made after.files path q directoryMode) :
    res.toOption.toList = [] ∧ v.lastExportId = after.lastExportId ∧
      v.files = after.files.remove q := by
  rcases h with ⟨server, gid, record, hadded', -⟩ | ⟨e', -, rfl, hreleased⟩
  · rw [hadded] at hadded'
    cases hadded'
  · obtain ⟨hcount, ⟨-, hv⟩ | ⟨-, errno, hdue, -⟩⟩ := hreleased hmade
    · exact ⟨rfl, hcount, hv⟩
    · rw [(hu.frame_after.calm _ hg.rmdir).due?] at hdue
      cases hdue

theorem next_of_provision {res : Except Failure ProvisionedVolume}
    (h : p.provision call.request (s.world.meeting call.circumstances) = (res, v)) :
    p.next s call = ⟨v, s.volumes ++ res.toOption.toList⟩ := by
  rw [next, h]

/-- One call keeps the tree and the export file as the returned volumes account for. -/
theorem Consistent.step (hc : Consistent p w place mode text calls s later places)
    (hg : Gentle call.circumstances.faults)
    (hlegible : (call.circumstances.resultOf p.backend.program).Legible)
    (hreadable : (Node.directory mode).mayRead = true) (hroom : roomBeside w.files place = true)
    (hp : '\n' ∉ p.pathOf call.request)
    (hline : p.backend.kind = .kernel →
      ¬ Export.kernelLine (p.pathOf call.request) <:+: text ++ ['\n']) :
    ∃ later places, Consistent p w place mode text (calls ++ [call]) (p.next s call) later
      places := by
  rcases hprovision : p.provision call.request (s.world.meeting call.circumstances) with ⟨res, v⟩
  rw [next_of_provision hprovision]
  generalize hw : s.world.meeting call.circumstances = u₀ at hprovision
  have hfiles : u₀.files = s.world.files := hw ▸ rfl
  have hcount : u₀.lastExportId = s.world.lastExportId := hw ▸ rfl
  have hg : Gentle u₀.faults := hw ▸ hg
  have hlegible : (u₀.resultOf p.backend.program).Legible := hw ▸ hlegible
  rcases of_provision (hfiles ▸ hc.grown.tree) hprovision with
    ⟨⟨e, rfl⟩, hlast, hearly⟩ | ⟨q, u, added, after, hreached, hdecides⟩
  · rw [show s.volumes ++ (Except.error e : Except Failure ProvisionedVolume).toOption.toList =
      s.volumes from List.append_nil _]
    rcases hearly with hv | ⟨-, -, -, -, -, hremains⟩
    · exact ⟨later, places, hc.unchanged (hv.trans hfiles) (hlast ▸ hcount ▸ hc.clear)⟩
    · exact (hg.not_remains hremains).elim
  · have ht : u₀.files.IsTree := hfiles ▸ hc.grown.tree
    have hresolve : u₀.files.resolve p.backend.file = .ok (place, .file later
        (Text.Utf8.encode (text ++ entriesOf s.volumes))) := hfiles ▸ hc.grown.resolve
    have hvacant := hfiles ▸ hreached.vacant
    have hu : u.files = s.world.files.put q (.directory directoryMode) := hfiles ▸ hreached.files
    have hclear : Clear p.backend u.lastExportId text (s.volumes.map fun volume => volume.path)
        (text ++ entriesOf s.volumes) := by
      rw [hreached.frame.count (by simp [earlyParts, allocationParts]), hcount]
      exact hc.clear
    rcases of_add_clear hclear hp (hc.path_new hvacant) hline (hreached.resolve hresolve)
      hreached.add with ⟨⟨e, hadded⟩, hafter, hclear⟩ | ⟨record, hout, hundone, hreturned⟩
    · obtain ⟨hnone, hlast, hv⟩ :=
        hg.of_failed hreached hdecides hadded (hafter ▸ hreached.made ht)
      rw [hnone, List.append_nil]
      refine ⟨later, places, hc.unchanged ?_ (hlast ▸ hclear)⟩
      rw [hv, hafter, hu, FileTree.remove_put hvacant.free]
    · have hmade := hreached.made_after ht hresolve hout
      have hroom : roomBeside (stored u place later
          (text ++ entriesOf s.volumes ++ record.content)) place = true := by
        rw [stored, hu]
        exact ((hc.grown.make hreached.isVolumePath hvacant).rewrite _ _).room hroom
      generalize hafter : after.files = t at hout
      cases hout with
      | refused e =>
        obtain ⟨hnone, hlast, hv⟩ := hg.of_failed hreached hdecides rfl hmade
        rw [hnone, List.append_nil]
        refine ⟨later, places, hc.unchanged ?_ (hlast ▸ hundone)⟩
        rw [hv, hafter, hu, FileTree.remove_put hvacant.free]
      | undone e =>
        obtain ⟨hnone, hlast, hv⟩ := hg.of_failed hreached hdecides rfl hmade
        rw [hnone, List.append_nil]
        refine ⟨Node.writtenMode later, places, hc.undone ?_ (hlast ▸ hundone)⟩
        rw [hv, hafter, stored, hu]
        exact FileTree.remove_put_put hvacant.free hc.grown.node
          (FileTree.not_isFixed_of_file hc.grown.node) _ _
      | stuck e hstuck =>
        exact (hg.not_stuck hlegible hreached (hc.readable hreadable) hroom hstuck).elim
      | exported =>
        rcases hdecides with ⟨server, gid, record', hadded, rfl, hv, hlast⟩ | ⟨e, hadded, -⟩
        · cases hadded
          refine ⟨Node.writtenMode later, places ++ [q], ?_⟩
          exact hc.returned rfl hreached.isVolumePath hvacant hu
            (hv.trans hafter) (hlast ▸ hreturned)
        · cases hadded

theorem runAll_append_singleton (p : Provisioner) (calls : List Call) (call : Call) (w : World) :
    p.runAll (calls ++ [call]) w = p.next (p.runAll calls w) call := by
  simp [runAll]

/-- Without an export file a call returns nothing and changes nothing. -/
theorem next_missing (ht : s.world.files.IsTree) (hg : Gentle call.circumstances.faults)
    (hfile : ∀ place mode content,
      s.world.files.resolve p.backend.file ≠ .ok (place, .file mode content)) :
    (p.next s call).volumes = s.volumes ∧ (p.next s call).world.files = s.world.files := by
  rcases hprovision : p.provision call.request (s.world.meeting call.circumstances) with ⟨res, v⟩
  rw [next_of_provision hprovision]
  generalize hw : s.world.meeting call.circumstances = u₀ at hprovision
  have hfiles : u₀.files = s.world.files := hw ▸ rfl
  have hg : Gentle u₀.faults := hw ▸ hg
  rw [← hfiles] at ht hfile ⊢
  rcases of_provision ht hprovision with
    ⟨⟨e, rfl⟩, -, hv | ⟨-, -, -, -, -, hremains⟩⟩ | ⟨q, u, added, after, hreached, hdecides⟩
  · exact ⟨List.append_nil _, hv⟩
  · exact (hg.not_remains hremains).elim
  · have hmissing : ∀ place mode content,
        u.files.resolve p.backend.file ≠ .ok (place, .file mode content) := by
      intro place mode content hl
      rw [hreached.files] at hl
      exact hfile place mode content (FileTree.resolve_of_put_new hreached.vacant.free
        closed_directoryMode.2 hl)
    obtain ⟨⟨e, hadded⟩, hafter⟩ := of_add_missing hmissing hreached.add
    obtain ⟨hnone, -, hv⟩ := hg.of_failed hreached hdecides hadded (hafter ▸ hreached.made ht)
    refine ⟨by rw [hnone, List.append_nil], ?_⟩
    rw [hv, hafter, hreached.files]
    exact FileTree.remove_put hreached.vacant.free _

/-- Over any run in which the server's program writes text, from a readable export file of text
beside which there is room for another: the export file holds its initial text and the entries of
the returned volumes in order, and the rest of the tree is as it was but for one directory for each
of them. Without an export file, nothing is ever returned and nothing changes. -/
theorem runAll_consistent (p : Provisioner) (calls : List Call) (w : World) (ht : w.files.IsTree)
    (hcount : w.lastExportId = 0)
    (hcalls : ∀ call ∈ calls, Gentle call.circumstances.faults ∧
      (call.circumstances.resultOf p.backend.program).Legible ∧ '\n' ∉ p.pathOf call.request) :
    (∀ place mode text, w.files.resolve p.backend.file =
        .ok (place, .file mode (Text.Utf8.encode text)) →
      (Node.directory mode).mayRead = true → roomBeside w.files place = true →
      (p.backend.kind = .kernel → ∀ call ∈ calls,
        ¬ Export.kernelLine (p.pathOf call.request) <:+: text ++ ['\n']) →
      ∃ later places, (later = mode ∨ later = Node.writtenMode mode) ∧
        (p.runAll calls w).world.files =
          (w.files.putAll places (.directory directoryMode)).put place
          (.file later (Text.Utf8.encode (text ++ entriesOf (p.runAll calls w).volumes))) ∧
        List.Forall₂ (fun volume q => w.files.locate volume.path = .ok q ∧ w.files.get? q = none)
          (p.runAll calls w).volumes places ∧ places.Nodup ∧
        ∀ volume ∈ (p.runAll calls w).volumes, ∃ call ∈ calls,
          volume.path = p.pathOf call.request) ∧
    ((∀ place mode content, w.files.resolve p.backend.file ≠ .ok (place, .file mode content)) →
      (p.runAll calls w).volumes = [] ∧ (p.runAll calls w).world.files = w.files) := by
  constructor
  · intro place mode text hfile hreadable hroom hline
    have hc : ∃ later places,
        Consistent p w place mode text calls (p.runAll calls w) later places := by
      induction calls using List.reverseRecOn with
      | nil => exact ⟨mode, [], Consistent.start ht hcount hfile⟩
      | append_singleton calls call ih =>
        obtain ⟨later, places, hc⟩ := ih (fun other ho => hcalls other (List.mem_append_left _ ho))
          fun hb other ho => hline hb other (List.mem_append_left _ ho)
        have hmem : call ∈ calls ++ [call] := List.mem_append_right _ (List.mem_singleton.mpr rfl)
        rw [runAll_append_singleton]
        obtain ⟨hg, hlegible, hp⟩ := hcalls call hmem
        exact hc.step hg hlegible hreadable hroom hp fun hb => hline hb call hmem
    obtain ⟨later, places, hc⟩ := hc
    exact ⟨later, places, hc.modes, hc.grown.files, hc.located, hc.nodup, hc.requested⟩
  · intro hfile
    induction calls using List.reverseRecOn with
    | nil => exact ⟨rfl, rfl⟩
    | append_singleton calls call ih =>
      obtain ⟨hvolumes, hfiles⟩ := ih fun other ho => hcalls other (List.mem_append_left _ ho)
      have hmem : call ∈ calls ++ [call] := List.mem_append_right _ (List.mem_singleton.mpr rfl)
      obtain ⟨hsame, hkept⟩ := next_missing (p := p) (hfiles ▸ ht) (hcalls call hmem).1
        (hfiles ▸ hfile)
      rw [runAll_append_singleton, hsame, hkept]
      exact ⟨hvolumes, hfiles⟩

theorem Gentle.nil : Gentle [] := ⟨rfl, rfl, rfl, rfl, rfl, fun _ => rfl⟩

/-- A call for a small volume without faults, in which every command comes to the same. -/
def calmCall (name : Text) (result : CommandResult) : Call where
  circumstances := { Circumstances.answering result with environment := [(['P'], ['h'])] }
  request := ⟨name, 1, [], [], .null, .null⟩

/-- Two volumes are exported, and one between them is not. -/
def mixedCalls : List Call := [
  calmCall ['a'] (.finished 0 [] []), calmCall ['b'] (.finished 1 [] []),
  calmCall ['c'] (.finished 0 [] [])]

theorem runAll_consistent_mixed :
    let last := kernelProvisioner.runAll mixedCalls (refusingWorld 0o644 ['#'] [])
    last.volumes.map (fun volume => volume.path) = [['v', '/', 'a'], ['v', '/', 'c']] ∧
      ∃ later places, places.length = 2 ∧ last.world.files =
        ((refusingWorld 0o644 ['#'] []).files.putAll places (.directory directoryMode)).put [['x']]
          (.file later (Text.Utf8.encode (['#'] ++ entriesOf last.volumes))) := by
  have hvolumes : (kernelProvisioner.runAll mixedCalls (refusingWorld 0o644 ['#'] [])).volumes.map
      (fun volume => volume.path) = [['v', '/', 'a'], ['v', '/', 'c']] := by decide +kernel
  have hlegible (status : Int) : (CommandResult.finished status [] []).Legible :=
    ⟨⟨[], rfl⟩, [], rfl⟩
  have hgentle : ∀ call ∈ mixedCalls, Gentle call.circumstances.faults ∧
      (call.circumstances.resultOf kernelProvisioner.backend.program).Legible ∧
      '\n' ∉ kernelProvisioner.pathOf call.request := by
    intro call hcall
    simp only [mixedCalls, List.mem_cons, List.not_mem_nil, or_false] at hcall
    rcases hcall with rfl | rfl | rfl
    · exact ⟨Gentle.nil, hlegible 0, by decide⟩
    · exact ⟨Gentle.nil, hlegible 1, by decide⟩
    · exact ⟨Gentle.nil, hlegible 0, by decide⟩
  have hline : kernelProvisioner.backend.kind = .kernel → ∀ call ∈ mixedCalls,
      ¬ Export.kernelLine (kernelProvisioner.pathOf call.request) <:+: ['#'] ++ ['\n'] := by
    intro _ call hcall
    simp only [mixedCalls, List.mem_cons, List.not_mem_nil, or_false] at hcall
    rcases hcall with rfl | rfl | rfl
    · decide
    · decide
    · decide
  refine ⟨hvolumes, ?_⟩
  obtain ⟨later, places, -, hfiles, hlocated, -⟩ :=
    (runAll_consistent kernelProvisioner mixedCalls (refusingWorld 0o644 ['#'] [])
      (FileTree.isTree_of_wellFormed (by decide)) rfl hgentle).1 [['x']] 0o644 ['#'] rfl (by decide)
      (by decide +kernel) hline
  refine ⟨later, places, ?_, hfiles⟩
  rw [← hlocated.length_eq, ← List.length_map (fun volume : ProvisionedVolume => volume.path),
    hvolumes]
  rfl

/-- A provisioner whose export file stands in a directory of its own. -/
def nestedProvisioner : Provisioner :=
  { kernelProvisioner with backend := ⟨.kernel, ['d', '/', 'x']⟩ }

/-- A world in which nothing can be made beside the export file. -/
def crampedWorld (text : Text) : World :=
  (refusingWorld 0o644 [] []).withFiles ⟨[([['v']], .directory 0o755), ([['d']], .directory 0o555),
    ([['d'], ['x']], .file 0o644 (Text.Utf8.encode text))]⟩

/-- Without faults, a call that returns nothing still changes the export file if its mode has bits
that a write takes away, if it cannot be read, if there is no room beside it for a temporary file,
if it already has a line for the path, or if the server's program writes what is no text. -/
theorem runAll_inconsistent :
    (kernelProvisioner.runAll [calmCall ['a'] (.finished 1 [] [])]
        (refusingWorld 0o4644 ['#'] [])).world.files = (refusingWorld 0o644 ['#'] []).files ∧
      (kernelProvisioner.runAll [calmCall ['a'] (.finished 1 [] [])]
        (refusingWorld 0o200 ['#'] [])).world.files =
        (refusingWorld 0o200 (['#'] ++ Export.kernelLine ['v', '/', 'a']) []).files ∧
      (nestedProvisioner.runAll [calmCall ['a'] (.finished 1 [] [])]
        (crampedWorld ['#'])).world.files =
        (crampedWorld (['#'] ++ Export.kernelLine ['v', '/', 'a'])).files ∧
      (kernelProvisioner.runAll [calmCall ['a'] (.finished 1 [] [])]
        (refusingWorld 0o644 (Export.kernelLine ['v', '/', 'a']) [])).world.files =
        (refusingWorld 0o644 [] []).files ∧
      (kernelProvisioner.runAll [calmCall ['a'] (.finished 1 [] [0xe9])]
        (refusingWorld 0o644 ['#'] [])).world.files =
        (refusingWorld 0o644 (['#'] ++ Export.kernelLine ['v', '/', 'a']) []).files := by
  refine ⟨?_, ?_, ?_, ?_, ?_⟩
  all_goals decide +kernel

end Provisioner
end NfsVolume
