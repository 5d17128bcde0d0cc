import NfsVolume.Proofs.Export.Backend
import NfsVolume.Proofs.World.Circumstances

/-! Export ids over whole histories of ganesha's file: paths are added under any circumstances, and
new ledgers take over. What is in the file in the end was handed out in order. -/
namespace NfsVolume.ExportBackend

open Run Ledger

inductive Step where
  | add (circumstances : Circumstances) (path : Text)
  /-- A new ledger takes over, with a count of zero. -/
  | restart

/-- The ids handed out so far with their paths, by the ledgers that are gone and by the live one. -/
structure History where
  world : World
  past : List (List (Nat × Text))
  live : List (Nat × Text)

namespace History

def start (w : World) : History := ⟨w, [], []⟩

/-- The ids of all ledgers, in the order of their lifetimes. -/
def ledgers (h : History) : List (List (Nat × Text)) := h.past ++ [h.live]

/-- What a step hands out is what the ledger allocates in it, whatever comes of the export. -/
def step (b : ExportBackend) (h : History) : Step → History
  | .add circumstances path =>
    let w := h.world.meeting circumstances
    let handedOut := (allocateId b.file w).1.toOption.map fun id => (id, path)
    { world := (b.add path w).2, past := h.past, live := h.live ++ handedOut.toList }
  | .restart => { world := { h.world with lastExportId := 0 }, past := h.ledgers, live := [] }

def run (b : ExportBackend) (steps : List Step) (w : World) : History :=
  steps.foldl (step b) (start w)

end History

/-- The blocks of ids with paths, as they stand in a file. -/
def blocksText (blocks : List (Nat × Text)) : Text :=
  (blocks.map fun block => Export.ganeshaBlock block.1 block.2).flatten

theorem blocksText_append_singleton (blocks : List (Nat × Text)) (id : Nat) (path : Text) :
    blocksText (blocks ++ [(id, path)]) = blocksText blocks ++ Export.ganeshaBlock id path := by
  simp [blocksText]

theorem idsIn_append_blocksText {blocks : List (Nat × Text)} (text : Text)
    (h : ∀ block ∈ blocks, ¬ Export.idLabel <:+: block.2) :
    Export.idsIn (text ++ blocksText blocks) =
      Export.idsIn text ++ blocks.map fun block => Text.decimal block.1 := by
  induction blocks using List.reverseRecOn with
  | nil => simp [blocksText]
  | append_singleton blocks block ih =>
    obtain ⟨id, path⟩ := block
    have hrest := ih fun block hb => h block (List.mem_append_left _ hb)
    have hpath : ¬ Export.idLabel <:+: path := h (id, path) (by simp)
    rw [blocksText_append_singleton, ← List.append_assoc, Export.idsIn_append_ganeshaBlock hpath,
      hrest]
    simp

theorem ids_append_blocksText {blocks : List (Nat × Text)} (text : Text)
    (h : ∀ block ∈ blocks, ¬ Export.idLabel <:+: block.2) :
    Export.ids (text ++ blocksText blocks) = Export.ids text ++ blocks.map Prod.fst := by
  simp [Export.ids, idsIn_append_blocksText text h, Text.ofDigitChars_decimal, Function.comp_def]

/-- The file holds its initial octets and then some of the blocks that were handed out; their ids
increase, and so do those of each ledger, which are not above its count. -/
structure Consistent (b : ExportBackend) (place : Place) (initial : List UInt8)
    (blocks : List (Nat × Text)) (h : History) : Prop where
  file : ∃ mode, h.world.files.resolve b.file =
    .ok (place, .file mode (initial ++ Text.Utf8.encode (blocksText blocks)))
  handedOut : blocks.Sublist h.ledgers.flatten
  labelFree : ∀ block ∈ blocks, ¬ Export.idLabel <:+: block.2
  counted : (h.world.lastExportId = 0 ∧ blocks = []) ∨
    ∃ text, initial = Text.Utf8.encode text ∧ (h.world.lastExportId = 0 ∨
      ∀ id ∈ Export.ids (text ++ blocksText blocks), id ≤ h.world.lastExportId)
  above : ∀ text, initial = Text.Utf8.encode text →
    ∀ id ∈ Export.ids text, ∀ block ∈ blocks, id < block.1
  increasing : (blocks.map Prod.fst).Pairwise (· < ·)
  past : ∀ ledger ∈ h.past, (ledger.map Prod.fst).Pairwise (· < ·)
  live : (h.live.map Prod.fst).Pairwise (· < ·)
  liveCounted : ∀ entry ∈ h.live, 0 < entry.1 ∧ entry.1 ≤ h.world.lastExportId

variable {b : ExportBackend} {place : Place} {initial : List UInt8} {blocks : List (Nat × Text)}
  {h : History} {w : World}

theorem Consistent.start {mode : Nat} (hcount : w.lastExportId = 0)
    (hfile : w.files.resolve b.file = .ok (place, .file mode initial)) :
    Consistent b place initial [] (History.start w) where
  file := ⟨mode, by simpa [History.start, blocksText] using hfile⟩
  handedOut := List.nil_sublist _
  labelFree := by simp
  counted := .inl ⟨hcount, rfl⟩
  above := by simp
  increasing := List.Pairwise.nil
  past := by simp [History.start]
  live := List.Pairwise.nil
  liveCounted := by simp [History.start]

theorem Consistent.restart (hc : Consistent b place initial blocks h) :
    Consistent b place initial blocks (h.step b .restart) where
  file := hc.file
  handedOut := by
    have hledgers : (h.step b .restart).ledgers.flatten = h.ledgers.flatten := by
      simp [History.step, History.ledgers]
    rw [hledgers]
    exact hc.handedOut
  labelFree := hc.labelFree
  counted := hc.counted.imp (fun ⟨_, hnil⟩ => ⟨rfl, hnil⟩) fun ⟨text, htext, _⟩ =>
    ⟨text, htext, .inl rfl⟩
  above := hc.above
  increasing := hc.increasing
  past := by
    intro ledger hl
    rcases List.mem_append.mp hl with hl | hl
    · exact hc.past ledger hl
    · rw [List.mem_singleton.mp hl]
      exact hc.live
  live := List.Pairwise.nil
  liveCounted := by simp [History.step]

/-- When an id is allocated the whole file is text, and all ids in it are below. -/
theorem Consistent.allocated {circumstances : Circumstances} {id : Nat}
    (hc : Consistent b place initial blocks h)
    (hid : (allocateId b.file (h.world.meeting circumstances)).1 = .ok id) :
    (∃ text mode, initial = Text.Utf8.encode text ∧
      (h.world.meeting circumstances).files.resolve b.file =
        .ok (place, .file mode (Text.Utf8.encode (text ++ blocksText blocks))) ∧
      Ahead h.world.lastExportId (text ++ blocksText blocks) ∧
      ∀ other ∈ Export.ids (text ++ blocksText blocks), other < id) ∧
    ∀ entry ∈ h.live, entry.1 < id := by
  rcases hallocate : allocateId b.file (h.world.meeting circumstances) with ⟨r, u⟩
  rw [hallocate] at hid
  subst hid
  rcases of_allocateId hallocate with ⟨-, e, hr⟩ | ⟨last, hlast, hr, -⟩
  · cases hr
  · cases hr
    obtain ⟨mode, hfile⟩ := hc.file
    obtain ⟨text, htext, hcount⟩ : ∃ text, initial = Text.Utf8.encode text ∧
        (h.world.lastExportId = 0 ∨
          ∀ id ∈ Export.ids (text ++ blocksText blocks), id ≤ h.world.lastExportId) := by
      rcases hc.counted with ⟨hzero, hnil⟩ | htext
      · rcases hlast with ⟨hne, -⟩ | ⟨-, place', mode', text, hl, -⟩
        · exact absurd hzero hne
        · rw [World.meeting_files, hfile] at hl
          injection hl with hl
          injection hl with _ hnode
          injection hnode with _ hcontent
          rw [hnil] at hcontent
          exact ⟨text, by simpa [blocksText] using hcontent, .inl hzero⟩
      · exact htext
    rw [htext, ← Text.Utf8.encode_append] at hfile
    refine ⟨⟨text, mode, htext, hfile, ahead_of_ids hcount, ?_⟩, ?_⟩
    · intro other hother
      have := hlast.ids_le hfile hcount other hother
      omega
    · intro entry hentry
      obtain ⟨hpos, hle⟩ := hc.liveCounted entry hentry
      rcases hlast with ⟨-, hlast⟩ | ⟨hzero, -⟩
      · rw [hlast, World.meeting_lastExportId]
        omega
      · rw [World.meeting_lastExportId] at hzero
        omega

/-- An id above all others, or none, keeps the ids in order. -/
theorem increasing_append {entries more : List (Nat × Text)} {id : Nat} {path : Text}
    (h : (entries.map Prod.fst).Pairwise (· < ·)) (hbelow : ∀ entry ∈ entries, entry.1 < id)
    (hmore : more = [] ∨ more = [(id, path)]) :
    ((entries ++ more).map Prod.fst).Pairwise (· < ·) := by
  rcases hmore with rfl | rfl
  · rw [List.append_nil]
    exact h
  · rw [List.map_append, List.pairwise_append]
    refine ⟨h, List.pairwise_singleton _ _, ?_⟩
    intro first hfirst second hsecond
    obtain ⟨entry, hentry, rfl⟩ := List.mem_map.mp hfirst
    obtain rfl : second = id := by simpa using hsecond
    exact hbelow entry hentry

/-- Handing out an id that is above all others keeps the ids of the live ledger in order. -/
theorem live_append {live : List (Nat × Text)} {id count : Nat} (path : Text)
    (hlive : (live.map Prod.fst).Pairwise (· < ·)) (hbelow : ∀ entry ∈ live, entry.1 < id)
    (hcounted : ∀ entry ∈ live, 0 < entry.1 ∧ entry.1 ≤ count) (hpos : 0 < id) :
    ((live ++ [(id, path)]).map Prod.fst).Pairwise (· < ·) ∧
      ∀ entry ∈ live ++ [(id, path)], 0 < entry.1 ∧ entry.1 ≤ id := by
  constructor
  · exact increasing_append hlive hbelow (.inr rfl)
  · intro entry hentry
    rcases List.mem_append.mp hentry with hentry | hentry
    · have := hbelow entry hentry
      exact ⟨(hcounted entry hentry).1, by omega⟩
    · rw [List.mem_singleton.mp hentry]
      exact ⟨hpos, le_refl id⟩

/-- A ledger that hands out no id changes nothing. -/
theorem Consistent.unallocated {circumstances : Circumstances} {path : Text} {e : Failure}
    (hb : b.kind = .ganesha)
    (hid : (allocateId b.file (h.world.meeting circumstances)).1 = .error e)
    (hc : Consistent b place initial blocks h) :
    Consistent b place initial blocks (h.step b (.add circumstances path)) := by
  obtain ⟨-, hfiles, hcount⟩ := of_add_unallocated hb hid (rfl : b.add path _ = _)
  have hcount' : (h.step b (.add circumstances path)).world.lastExportId = h.world.lastExportId :=
    hcount
  have hlive : (h.step b (.add circumstances path)).live = h.live := by
    simp [History.step, hid, Except.toOption]
  have hledgers : (h.step b (.add circumstances path)).ledgers = h.ledgers := by
    rw [History.ledgers, hlive]
    rfl
  obtain ⟨mode, hfile⟩ := hc.file
  refine ⟨⟨mode, ?_⟩, hledgers ▸ hc.handedOut, hc.labelFree, hcount' ▸ hc.counted, hc.above,
    hc.increasing, hc.past, hlive ▸ hc.live, ?_⟩
  · rw [← hfile]
    exact congrArg (·.resolve b.file) hfiles
  · rw [hlive, hcount']
    exact hc.liveCounted

theorem ledgers_of_allocated {circumstances : Circumstances} {id : Nat} (path : Text)
    (hid : (allocateId b.file (h.world.meeting circumstances)).1 = .ok id) :
    (h.step b (.add circumstances path)).live = h.live ++ [(id, path)] ∧
      (h.step b (.add circumstances path)).ledgers.flatten = h.ledgers.flatten ++ [(id, path)] := by
  have hlive : (h.step b (.add circumstances path)).live = h.live ++ [(id, path)] := by
    simp [History.step, hid, Except.toOption]
  refine ⟨hlive, ?_⟩
  rw [History.ledgers, hlive]
  simp [History.step, History.ledgers]

/-- A ledger that hands out an id is consistent with the file afterwards, whether the block of the
id is in it or not. -/
theorem Consistent.kept {circumstances : Circumstances} {path text : Text} {id : Nat}
    {more : List (Nat × Text)} (hc : Consistent b place initial blocks h)
    (hid : (allocateId b.file (h.world.meeting circumstances)).1 = .ok id)
    (htext : initial = Text.Utf8.encode text)
    (hbelow : ∀ other ∈ Export.ids (text ++ blocksText blocks), other < id)
    (hliveBelow : ∀ entry ∈ h.live, entry.1 < id) (hpos : 0 < id)
    (hpath : ¬ Export.idLabel <:+: path) (hmore : more = [] ∨ more = [(id, path)])
    (hcount : (h.step b (.add circumstances path)).world.lastExportId = id)
    (hstored : ∃ mode, (h.step b (.add circumstances path)).world.files.resolve b.file =
      .ok (place, .file mode (initial ++ Text.Utf8.encode (blocksText (blocks ++ more))))) :
    Consistent b place initial (blocks ++ more) (h.step b (.add circumstances path)) := by
  obtain ⟨hlive, hledgers⟩ := ledgers_of_allocated path hid
  obtain ⟨hliveIncreasing, hliveCounted⟩ :=
    live_append path hc.live hliveBelow hc.liveCounted hpos
  rw [ids_append_blocksText text hc.labelFree] at hbelow
  have hmem : ∀ block ∈ more, block = (id, path) := by
    rcases hmore with rfl | rfl
    · simp
    · simp
  have hfree : ∀ block ∈ blocks ++ more, ¬ Export.idLabel <:+: block.2 := by
    intro block hblock
    rcases List.mem_append.mp hblock with hblock | hblock
    · exact hc.labelFree block hblock
    · rw [hmem block hblock]
      exact hpath
  refine ⟨hstored, ?_, hfree, .inr ⟨text, htext, .inr ?_⟩, ?_, ?_, hc.past,
    hlive ▸ hliveIncreasing, ?_⟩
  · rw [hledgers]
    refine hc.handedOut.append ?_
    rcases hmore with rfl | rfl
    · exact List.nil_sublist _
    · exact List.Sublist.refl _
  · intro other hother
    rw [hcount]
    rw [ids_append_blocksText text hfree, List.map_append, ← List.append_assoc] at hother
    rcases List.mem_append.mp hother with hother | hother
    · exact (hbelow other hother).le
    · obtain ⟨block, hblock, rfl⟩ := List.mem_map.mp hother
      rw [hmem block hblock]
  · intro text' htext' other hother block hblock
    rw [htext] at htext'
    obtain rfl := Text.Utf8.encode_injective htext'
    rcases List.mem_append.mp hblock with hblock | hblock
    · exact hc.above text htext other hother block hblock
    · rw [hmem block hblock]
      exact hbelow other (List.mem_append_left _ hother)
  · refine increasing_append hc.increasing ?_ hmore
    intro block hblock
    exact hbelow _ (List.mem_append_right _ (List.mem_map_of_mem hblock))
  · rw [hlive, hcount]
    exact hliveCounted

theorem Consistent.add (hb : b.kind = .ganesha) (circumstances : Circumstances) {path : Text}
    (hpath : ¬ Export.idLabel <:+: path) (hc : Consistent b place initial blocks h) :
    ∃ more, Consistent b place initial (blocks ++ more) (h.step b (.add circumstances path)) := by
  cases hid : (allocateId b.file (h.world.meeting circumstances)).1 with
  | error e =>
    refine ⟨[], ?_⟩
    rw [List.append_nil]
    exact hc.unallocated hb hid
  | ok id =>
    obtain ⟨⟨text, mode, htext, hfile, hahead, hbelow⟩, hliveBelow⟩ := hc.allocated hid
    have hpos : 0 < id := allocateId_pos hid
    obtain ⟨hcount, hout⟩ := of_add_allocated hb hid hahead hfile (rfl : b.add path _ = _)
    obtain ⟨later, mode', hlater, hstored⟩ := hout.resolve hfile
    obtain ⟨more, hmore, rfl⟩ : ∃ more, (more = [] ∨ more = [(id, path)]) ∧
        later = text ++ blocksText (blocks ++ more) := by
      rcases hlater with rfl | rfl
      · exact ⟨[], .inl rfl, by rw [List.append_nil]⟩
      · refine ⟨[(id, path)], .inr rfl, ?_⟩
        rw [blocksText_append_singleton, List.append_assoc]
    refine ⟨more, hc.kept hid htext hbelow hliveBelow hpos hpath hmore hcount ⟨mode', ?_⟩⟩
    rw [htext, ← Text.Utf8.encode_append]
    exact hstored

/-- The paths of a history that are added. -/
def Step.LabelFree : Step → Prop
  | .add _ path => ¬ Export.idLabel <:+: path
  | .restart => True

theorem Consistent.run (hb : b.kind = .ganesha) {steps : List Step} {mode : Nat}
    (hsteps : ∀ step ∈ steps, step.LabelFree) (hcount : w.lastExportId = 0)
    (hfile : w.files.resolve b.file = .ok (place, .file mode initial)) :
    ∃ blocks, Consistent b place initial blocks (History.run b steps w) := by
  induction steps using List.reverseRecOn with
  | nil => exact ⟨[], Consistent.start hcount hfile⟩
  | append_singleton steps step ih =>
    obtain ⟨blocks, hc⟩ := ih fun step hs => hsteps step (List.mem_append_left _ hs)
    have hrun : History.run b (steps ++ [step]) w = (History.run b steps w).step b step := by
      simp [History.run]
    rw [hrun]
    cases step with
    | restart => exact ⟨blocks, hc.restart⟩
    | add circumstances path =>
      have hpath : ¬ Export.idLabel <:+: path := hsteps (.add circumstances path) (by simp)
      obtain ⟨more, hmore⟩ := hc.add hb circumstances hpath
      exact ⟨blocks ++ more, hmore⟩

/-- Over any history of ganesha's file, the ids that one ledger hands out increase; and the file is
its initial octets followed by blocks that were handed out, whose ids increase and are above every
id that the initial octets show. -/
theorem run_ids_increasing (b : ExportBackend) (hb : b.kind = .ganesha) (steps : List Step)
    (hsteps : ∀ step ∈ steps, step.LabelFree) (w : World) (hcount : w.lastExportId = 0)
    (place : Place) (mode : Nat) (initial : List UInt8)
    (hfile : w.files.resolve b.file = .ok (place, .file mode initial)) :
    (∀ ledger ∈ (History.run b steps w).ledgers, (ledger.map Prod.fst).Pairwise (· < ·)) ∧
      ∃ blocks mode, (History.run b steps w).world.files.resolve b.file =
          .ok (place, .file mode (initial ++ Text.Utf8.encode (blocksText blocks))) ∧
        blocks.Sublist (History.run b steps w).ledgers.flatten ∧
        (blocks.map Prod.fst).Pairwise (· < ·) ∧
        ∀ digits : Text, digits ≠ [] → (∀ c ∈ digits, c.isDigit = true) →
          Text.Utf8.encode (Export.labelled digits) <:+: initial →
          ∀ block ∈ blocks, Nat.ofDigitChars 10 digits 0 < block.1 := by
  obtain ⟨blocks, hc⟩ := Consistent.run hb hsteps hcount hfile
  constructor
  · intro ledger hl
    rcases List.mem_append.mp hl with hl | hl
    · exact hc.past ledger hl
    · rw [List.mem_singleton.mp hl]
      exact hc.live
  · obtain ⟨mode', hfile'⟩ := hc.file
    refine ⟨blocks, mode', hfile', hc.handedOut, hc.increasing, ?_⟩
    intro digits hne hd hin block hblock
    rcases hc.counted with ⟨-, hnil⟩ | ⟨text, htext, -⟩
    · rw [hnil] at hblock
      cases hblock
    · rw [htext] at hin
      have hlabel : Export.labelled digits = 'E' :: (Export.labelled digits).tail := rfl
      rw [hlabel] at hin
      have hinText := Text.Utf8.infix_of_encode_infix (by decide) hin
      have hshown := Export.mem_ids_of_labelled hne hd (hlabel ▸ hinText)
      exact hc.above text htext _ hshown block hblock

/-- A world with a file `x` and nothing else. -/
def fileWorld (text : Text) : World :=
  World.ofFiles ⟨[([['x']], .file 0o644 (Text.Utf8.encode text))]⟩

/-- A path is exported, another one is not, and after a restart a third one is. -/
def restartedSteps : List Step := [
  .add (.answering (.finished 0 [] [])) ['a'], .add (.answering (.finished 1 [] [])) ['b'],
  .restart, .add (.answering (.finished 0 [] [])) ['c']]

def restartedHistory : History :=
  History.run ⟨.ganesha, ['x']⟩ restartedSteps (fileWorld (Export.ganeshaBlock 7 ['z']))

/-- An id whose block is taken back is only handed out again by a new ledger. -/
theorem run_ids_increasing_restarted :
    restartedHistory.ledgers = [[(8, ['a']), (9, ['b'])], [(9, ['c'])]] ∧
      (∀ ledger ∈ restartedHistory.ledgers, (ledger.map Prod.fst).Pairwise (· < ·)) ∧
      restartedHistory.world.files = (fileWorld (Export.ganeshaBlock 7 ['z'] ++
        blocksText [(8, ['a']), (9, ['c'])])).files := by
  have hfree : ∀ step ∈ restartedSteps, step.LabelFree := by
    intro step hstep
    simp only [restartedSteps, List.mem_cons, List.not_mem_nil, or_false] at hstep
    rcases hstep with rfl | rfl | rfl | rfl
    · show ¬ Export.idLabel <:+: ['a']
      decide
    · show ¬ Export.idLabel <:+: ['b']
      decide
    · exact trivial
    · show ¬ Export.idLabel <:+: ['c']
      decide
  refine ⟨by decide +kernel, ?_, by decide +kernel⟩
  exact (run_ids_increasing ⟨.ganesha, ['x']⟩ rfl restartedSteps hfree
    (fileWorld (Export.ganeshaBlock 7 ['z'])) rfl [['x']] 0o644 _ rfl).1

end NfsVolume.ExportBackend
