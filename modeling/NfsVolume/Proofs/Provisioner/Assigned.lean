import NfsVolume.Proofs.Group.Pick
import NfsVolume.Proofs.Provisioner.Groups

/-! Which groups the volumes of a provisioner really get: every id in its ranges that the system
takes for a group can come up, and so can the two that leave a group as it is. -/
namespace NfsVolume

open Run

theorem Cluster.lookup_heedless (c : Cluster) (path : Text) : Heedless (c.lookup path) :=
  (log_heedless _ _ _).bind fun _ => Heedless.bind (fun _ _ events => ⟨events ++ [_], rfl⟩) fun _ =>
    ofExcept_heedless _

theorem Outside.runCommand_heedless (program : Text) (arguments : List Text) :
    Heedless (runCommand program arguments) := by
  intro w draws events
  by_cases hnull : ∃ word ∈ program :: arguments, '\x00' ∈ word
  · rw [runCommand_null hnull, runCommand_null hnull]
    exact ⟨events, rfl⟩
  · have hclean : ∀ word ∈ program :: arguments, '\x00' ∉ word := by simpa using hnull
    rw [runCommand_apply hclean, runCommand_apply hclean]
    exact ⟨events ++ [_], rfl⟩

theorem Server.hostAddress_heedless : Heedless Server.hostAddress := by
  apply (Outside.runCommand_heedless _ _).bind
  intro answer
  cases answer with
  | error e => exact throw_heedless _
  | ok found => exact Heedless.ite (throw_heedless _) (pure_heedless _)

namespace ServerLocator

variable (l : ServerLocator)

theorem ownAddress_heedless : Heedless l.ownAddress := by
  apply (environment_heedless _).bind
  intro address
  apply Heedless.ite (pure_heedless _)
  exact (log_heedless _ _ _).bind fun _ => Server.hostAddress_heedless

theorem serviceAddress_heedless (space service address : Text) :
    Heedless (l.serviceAddress space service address) := by
  apply (l.cluster.lookup_heedless _).bind
  intro found
  cases found with
  | error problem => exact throw_heedless _
  | ok object =>
    apply (l.cluster.lookup_heedless _).bind
    intro found
    cases found with
    | error problem => exact throw_heedless _
    | ok endpoints =>
      apply (ofExcept_heedless _).bind
      intro same
      dsimp only
      refine Heedless.ite ((throw_heedless _).bind fun _ => ?_) ?_
      all_goals
        apply (ofExcept_heedless _).bind
        intro ip
        cases ip with
        | none => exact throw_heedless _
        | some ip => exact pure_heedless _

theorem resolve_heedless : Heedless l.resolve := by
  apply l.ownAddress_heedless.bind
  intro own
  apply (environment_heedless _).bind
  intro service
  have hservice : Heedless (do
      let space ← Run.environment l.namespaceVariable
      if space.isEmpty then Server.refuse (.noNamespace l.serviceVariable l.namespaceVariable)
      l.serviceAddress space service own) := by
    apply (environment_heedless _).bind
    intro space
    dsimp only
    exact Heedless.ite ((throw_heedless _).bind fun _ => l.serviceAddress_heedless _ _ _)
      (l.serviceAddress_heedless _ _ _)
  dsimp only
  exact Heedless.ite ((log_heedless _ _ _).bind fun _ => pure_heedless _) hservice

end ServerLocator

namespace Volume

theorem allocate_repeats (directory name : Text) (capacity : Int) :
    Repeats (allocate directory name capacity) := by
  have hcreate : Repeats (create (Path.join directory name)) := by
    refine Repeats.bind ?_ fun _ => Repeats.bind ?_ fun _ => (pure_heedless _).repeats
    · exact (Files.makeDirectories_heedless _ _).repeats.onOsError fun _ _ _ _ h => by cases h
    · refine (Files.changeMode_heedless _ _).repeats.onOsError fun e w a v h => ?_
      obtain ⟨_, u, -, hthrow⟩ := of_bind_ok h
      cases hthrow
  have hspace : Heedless (availableOctets directory) :=
    (Files.freeOctets_heedless directory).onOsError fun _ => throw_heedless _
  have hrest : Repeats (do
      let available ← availableOctets directory
      if available < capacity then refuseCapacity available capacity
      create (Path.join directory name)) := by
    refine hspace.repeats.bind fun available => Repeats.ite (Repeats.bind ?_ fun _ => hcreate) hcreate
    exact (Heedless.ite (throw_heedless _) (throw_heedless _)).repeats
  refine (Files.isPresent_heedless _).repeats.bind fun occupied => ?_
  exact Repeats.ite ((throw_heedless _).repeats.bind fun _ => hrest) hrest

theorem setGroup_heedless (path : Text) (gid : Int) : Heedless (setGroup path gid) :=
  (Files.changeGroup_heedless path gid).onOsError fun _ => throw_heedless _

end Volume

namespace Ledger

theorem guarded_heedless {α : Type} {x : Run α} (hx : Heedless x) (path : Text) :
    Heedless (guarded path x) := hx.onOsError fun _ => throw_heedless _

theorem setLast_heedless (id : Nat) : Heedless (setLast id) := fun _ _ events => ⟨events, rfl⟩

theorem recover_heedless (path : Text) : Heedless (recover path) := by
  refine (guarded_heedless (Files.readText_heedless path) path).bind fun current => ?_
  cases Export.lastId current with
  | error e => exact throw_heedless _
  | ok last => exact (setLast_heedless last).bind fun _ => log_heedless _ _ _

theorem allocateId_heedless (path : Text) : Heedless (allocateId path) := by
  have hnext : Heedless (do
      let id := (← get).lastExportId + 1
      setLast id
      return id) :=
    get_bind_heedless (fun u => (setLast_heedless _).bind fun _ => pure_heedless _)
      fun _ _ _ => rfl
  refine get_bind_heedless (fun u => ?_) fun _ _ _ => rfl
  exact Heedless.ite ((recover_heedless path).bind fun _ => hnext) hnext

theorem append_heedless (path content : Text) : Heedless (append path content) :=
  guarded_heedless (Files.append_heedless path content) path

end Ledger

namespace ExportBackend

theorem finish_repeats {file entry message : Text} {record : ExportRecord}
    {activate : Run (Except ActivationProblem Unit)} (hact : Heedless activate) :
    Repeats (finish file entry activate message record) := by
  refine hact.repeats.bind fun answer => Repeats.bind ?_ fun _ => ?_
  · cases answer with
    | ok _ => exact (pure_heedless _).repeats
    | error problem =>
      refine repeats_of_ne_ok fun w a v h => ?_
      obtain ⟨_, u, -, hthrow⟩ := of_bind_ok h
      cases hthrow
  · exact ((log_heedless _ _ _).bind fun _ => pure_heedless _).repeats

theorem activate_heedless (b : ExportBackend) (path : Text) : Heedless (b.activate path) := by
  unfold activate
  cases b.kind with
  | kernel => exact (Outside.runCommand_heedless _ _).bind fun _ => pure_heedless _
  | ganesha =>
    exact (log_heedless _ _ _).bind fun _ =>
      (Outside.runCommand_heedless _ _).bind fun _ => pure_heedless _

theorem add_repeats (b : ExportBackend) (path : Text) : Repeats (b.add path) := by
  cases hb : b.kind with
  | kernel =>
    rw [add_kernel hb]
    exact (Ledger.append_heedless _ _).repeats.bind fun _ =>
      finish_repeats (b.activate_heedless path)
  | ganesha =>
    rw [add_ganesha hb]
    refine (Ledger.allocateId_heedless _).repeats.bind fun id => ?_
    refine (ofExcept_heedless _).repeats.bind fun block => ?_
    refine (Ledger.append_heedless _ _).repeats.bind fun _ => ?_
    exact finish_repeats (b.activate_heedless path)

end ExportBackend

namespace Group

/-- An id that a group can have; the greatest number of its width stands for "no change". -/
def IsId (gid : Int) : Prop := 0 ≤ gid ∧ gid < Files.maxGroup

instance (gid : Int) : Decidable (IsId gid) := inferInstanceAs (Decidable (_ ∧ _))

theorem isId_iff {gid : Int} (h : -1 ≤ gid ∧ gid ≤ Files.maxGroup) :
    IsId gid ↔ gid ≠ -1 ∧ gid ≠ Files.maxGroup := by
  unfold IsId
  omega

/-- A range from which an id can be picked that leaves the group of a directory as it is. -/
def KeepsGroup (range : GroupRange) : Prop :=
  range.min ≤ -1 ∧ -1 ≤ range.max ∨ range.min ≤ Files.maxGroup ∧ Files.maxGroup ≤ range.max

instance (range : GroupRange) : Decidable (KeepsGroup range) := inferInstanceAs (Decidable (_ ∨ _))

/-- Every id of every range can come up. -/
theorem exists_draws {ranges : List GroupRange} {range : GroupRange} {gid : Int}
    (hrange : range ∈ ranges) (hgid : range.min ≤ gid ∧ gid ≤ range.max) :
    ∃ draws, ∀ (w : World) (events : List Event), pickGroup ranges (w.retold draws events) =
      (.ok gid, w.retold []
        (events ++ [.draw ranges.length] ++ [.draw (range.max - range.min + 1)])) := by
  obtain ⟨i, hi, hfound⟩ := List.mem_iff_getElem.mp hrange
  refine ⟨[(i : Int), gid - range.min], fun w events => ?_⟩
  have hplace : ranges[(i : Int).toNat]? = some range := by
    rw [Int.toNat_natCast, List.getElem?_eq_getElem hi, hfound]
  have hbehind : 0 ≤ gid - range.min ∧ gid - range.min < range.size := by
    unfold GroupRange.size
    omega
  have hsum : range.min + (gid - range.min) = gid := by omega
  rw [pickGroup_of_draws rfl (by omega) hplace hbehind, hsum]
  rfl

theorem drawBetween_retold {first last : Int} {r : Except Failure Int} {w v : World}
    (h : drawBetween first last w = (r, v)) : ∃ draws events, v = w.retold draws events := by
  unfold drawBetween at h
  split at h
  · cases h
    exact ⟨_, _, rfl⟩
  · cases h
    exact ⟨_, _, rfl⟩

/-- Picking a group uses up random numbers and is an event, and changes nothing else. -/
theorem pickGroup_retold {ranges : List GroupRange} {r : Except Failure Int} {w v : World}
    (h : pickGroup ranges w = (r, v)) : ∃ draws events, v = w.retold draws events := by
  cases ranges with
  | nil =>
    cases h
    exact ⟨_, _, rfl⟩
  | cons first rest =>
    rcases of_bind h with ⟨index, u, hindex, hdraw⟩ | ⟨e, hindex, -⟩
    · obtain ⟨draws, events, rfl⟩ := drawBetween_retold hdraw
      cases hindex
      exact ⟨_, _, rfl⟩
    · cases hindex

end Group

namespace Files

variable {path : Text} {gid other : Int} {w v : World}

theorem changeGroup_ok (hdue : Fault.due? .chown w.faults = none)
    (hgid : -1 ≤ gid ∧ gid ≤ maxGroup) :
    changeGroup path gid w =
      (.ok (), struck .chown (w.retold w.draws (w.events ++ [.chown path gid]))) := by
  have hword : ¬ maxWord < gid := by
    have : maxGroup < maxWord := by decide
    omega
  have hgroup : (gid < -1 || maxGroup < gid) = false := by
    simp only [Bool.or_eq_false_iff, decide_eq_false_iff_not]
    omega
  have hrecord : record (.chown path gid) w =
      (.ok (), w.retold w.draws (w.events ++ [.chown path gid])) := rfl
  have hmeet : meet .chown (w.retold w.draws (w.events ++ [.chown path gid])) = _ := meet_ok hdue
  rw [changeGroup, bind_ok hrecord, bind_ok hmeet, if_neg hword, hgroup]
  rfl

/-- Where the group of a path can be set, it can be set to any id that the system takes. -/
theorem changeGroup_other (h : changeGroup path gid w = (.ok (), v))
    (hother : -1 ≤ other ∧ other ≤ maxGroup) :
    ∃ later, changeGroup path other w = (.ok (), v.retold v.draws later) := by
  have hdue : Fault.due? .chown w.faults = none := by
    obtain ⟨_, u, hrecord, h⟩ := of_bind_ok h
    cases hrecord
    obtain ⟨_, u, hmeet, -⟩ := of_bind_ok h
    obtain ⟨-, ⟨hdue, -⟩ | ⟨errno, -, hr⟩⟩ := of_meet hmeet
    · exact hdue
    · cases hr
  rw [changeGroup_ok hdue (of_changeGroup h).2] at h
  cases h
  exact ⟨_, changeGroup_ok hdue hother⟩

end Files

theorem Volume.setGroup_other {path : Text} {gid other : Int} {w v : World}
    (h : setGroup path gid w = (.ok (), v)) (hother : -1 ≤ other ∧ other ≤ Files.maxGroup) :
    ∃ later, setGroup path other w = (.ok (), v.retold v.draws later) := by
  rcases of_onOsError h with ⟨hchange, -⟩ | ⟨e, u, -, hr⟩
  · obtain ⟨later, hlater⟩ := Files.changeGroup_other hchange hother
    exact ⟨later, onOsError_ok hlater⟩
  · cases hr

namespace Provisioner

open Volume

variable {p : Provisioner} {request : VolumeRequest} {volume : ProvisionedVolume} {w v : World}
  {path : Text} {range : GroupRange} {other : Int}

/-- A directory that is furnished could have got any id that its provisioner may pick and the system
takes. -/
theorem furnish_other {gid : Int} {record : ExportRecord} {name : Text}
    (h : p.furnish name path w = (.ok (gid, record), v)) (hrange : range ∈ p.ranges)
    (hin : range.min ≤ other ∧ other ≤ range.max) (hother : -1 ≤ other ∧ other ≤ Files.maxGroup) :
    ∃ draws, ∀ events, ∃ later,
      p.furnish name path (w.retold draws events) = (.ok (other, record), v.retold [] later) := by
  obtain ⟨draws, hdraws⟩ := Group.exists_draws hrange hin
  refine ⟨draws, fun events => ?_⟩
  rcases of_tryCatch h with ⟨a, hequip, hr⟩ | ⟨problem, u, -, habandon⟩
  · cases hr
    obtain ⟨_, u₁, hpick, h⟩ := of_bind_ok hequip
    obtain ⟨_, u₂, hgroup, h⟩ := of_bind_ok h
    obtain ⟨_, u₃, hadd, hreturn⟩ := of_bind_ok h
    cases hreturn
    obtain ⟨spent, done, rfl⟩ := Group.pickGroup_retold hpick
    obtain ⟨told, hset⟩ := setGroup_other hgroup hother
    obtain ⟨last, hset'⟩ := (setGroup_heedless path other).repeats _ [] (events ++
      [.draw p.ranges.length] ++ [.draw (range.max - range.min + 1)]) _ _ hset
    obtain ⟨end', hadd'⟩ := ExportBackend.add_repeats p.backend path _ [] last _ _ hadd
    have hequip' : p.equip path (w.retold draws events) =
        (.ok (other, record), v.retold [] end') := by
      rw [equip, bind_ok (hdraws w events)]
      rw [show w.retold [] _ = (w.retold spent done).retold [] _ from rfl, bind_ok hset']
      rw [show (u₂.retold u₂.draws told).retold [] last = u₂.retold [] last from rfl, bind_ok hadd']
      rfl
    exact ⟨_, tryCatch_ok hequip'⟩
  · exact absurd habandon (abandon_ne_ok _)

/-- A call that returns a volume could have returned it with any id that its provisioner may pick
and the system takes. -/
theorem provision_other (h : p.provision request w = (.ok volume, v)) (hrange : range ∈ p.ranges)
    (hin : range.min ≤ other ∧ other ≤ range.max) (hother : -1 ≤ other ∧ other ≤ Files.maxGroup) :
    ∃ draws, (p.provision request { w with draws := draws }).1 =
      .ok { volume with gid := other } := by
  obtain ⟨hvalid, server, u₁, path, u₂, hserver, hallocate, h⟩ := steps_of_provision h
  obtain ⟨⟨gid, record⟩, u₃, hfurnish, hreturn⟩ := of_bind_ok h
  cases hreturn
  obtain ⟨draws, hdraws⟩ := furnish_other hfurnish hrange hin hother
  obtain ⟨e₁, hserver'⟩ := (p.locator.resolve_heedless).repeats _ draws w.events _ _ hserver
  obtain ⟨e₂, hallocate'⟩ := allocate_repeats _ _ _ _ draws e₁ _ _ hallocate
  obtain ⟨later, hfurnish'⟩ := hdraws e₂
  refine ⟨draws, ?_⟩
  rw [show ({ w with draws := draws } : World) = w.retold draws w.events from rfl, provision_eq,
    hvalid, bind_ok (ofExcept_apply _ _), bind_ok hserver', bind_ok hallocate', establish,
    bind_ok hfurnish']
  rfl

/-- What a volume announces of its group: an id of a range of its provisioner that the system has
taken, and that the object for the cluster names. -/
structure Announces (p : Provisioner) (request : VolumeRequest) (volume : ProvisionedVolume)
    (v : World) : Prop where
  picked : ∃ range ∈ p.ranges, range.min ≤ volume.gid ∧ volume.gid ≤ range.max
  taken : -1 ≤ volume.gid ∧ volume.gid ≤ Files.maxGroup
  changed : .chown volume.path volume.gid ∈ v.events
  noted : Text.Integer.tooLong request.capacity = false →
    ∃ object, volume.manifest request = .ok object ∧
      ProvisionedVolume.numberAt? (ProvisionedVolume.notePath ProvisionedVolume.gidKey) object =
        some volume.gid

theorem announces_of_provision (h : p.provision request w = (.ok volume, v)) :
    p.Announces request volume v := by
  obtain ⟨-, server, u₁, path, u₂, -, -, h⟩ := steps_of_provision h
  obtain ⟨⟨-, hpath⟩, htaken, range, hrange, hgid, u, -, hevents, q, mode, old, hadded⟩ :=
    of_establish_ok h
  refine ⟨⟨range, hrange, hgid⟩, htaken, ?_, fun hcapacity => ?_⟩
  · rw [hadded.events, hevents, hpath]
    simp
  · obtain ⟨notes, hnotes, hnoted, -⟩ := ProvisionedVolume.annotations_described
      (tooLong_group htaken) hadded.short fun hk => hadded.kernel (hadded.kind.symm.trans hk)
    exact ⟨_, ProvisionedVolume.manifest_eq hnotes hcapacity, hnoted⟩

/-- A volume that is returned announces the id that its directory was given. It is the id of a group
but for the two that leave the group as it is, and these come up with some draws exactly if one of
them is in a range of the provisioner. -/
theorem provision_assigns (p : Provisioner) (request : VolumeRequest) (w v : World)
    (volume : ProvisionedVolume) (h : p.provision request w = (.ok volume, v)) :
    p.Announces request volume v ∧
    (Group.IsId volume.gid ↔ volume.gid ≠ -1 ∧ volume.gid ≠ Files.maxGroup) ∧
    ((∀ draws other, (p.provision request { w with draws := draws }).1 = .ok other →
        Group.IsId other.gid) ↔
      ∀ range ∈ p.ranges, ¬ Group.KeepsGroup range) := by
  have hannounced := announces_of_provision h
  refine ⟨hannounced, Group.isId_iff hannounced.taken, fun hall range hrange hkeeps => ?_,
    fun hranges draws other hother => ?_⟩
  · have hnone : ¬ Group.IsId (-1) ∧ ¬ Group.IsId Files.maxGroup := by decide
    rcases hkeeps with hleast | hmost
    · obtain ⟨draws, hdrawn⟩ := provision_other h hrange hleast (by decide)
      exact hnone.1 (hall draws _ hdrawn)
    · obtain ⟨draws, hdrawn⟩ := provision_other h hrange hmost (by decide)
      exact hnone.2 (hall draws _ hdrawn)
  · obtain ⟨⟨range, hrange, hpicked⟩, htaken, -, -⟩ :=
      announces_of_provision (Prod.ext hother rfl : _ = (Except.ok other, _))
    refine (Group.isId_iff htaken).mpr ⟨fun hgid => ?_, fun hgid => ?_⟩
    · exact hranges range hrange (.inl (hgid ▸ hpicked))
    · exact hranges range hrange (.inr (hgid ▸ hpicked))

/-- Settings for volumes in `v` that the kernel's server exports with the file `x`. -/
def kernelSettings : Settings :=
  { Settings.standard with exportDirectory := ['v'], useGanesha := false, exportsFile := ['x'] }

/-- A world in which the namespace of the pod imposes some blocks of ids. -/
def imposingWorld (blocks : Text) : World :=
  { acceptingWorld with
    environment := [("MY_POD_IP", ['h']), ("MY_POD_NAMESPACE", ['n'])]
    replies := [("/api/v1/namespaces/n", [.response 200
      ("\x7b\"metadata\":\x7b\"annotations\":\x7b\"openshift.io/sa.scc.supplemental-groups\":\"" ++
        blocks ++ "\"\x7d\x7d\x7d")])] }

/-- With a single block of one id, that id is assigned, whatever is drawn. -/
theorem provision_assigns_id :
    ∃ p u, ofSettings kernelSettings (imposingWorld ['5', '/', '1']) = (.ok p, u) ∧
      p.ranges = [⟨5, 5⟩] ∧
      (∃ volume, (p.provision smallRequest u).1 = .ok volume ∧ Group.IsId volume.gid) ∧
      ∀ draws other, (p.provision smallRequest { u with draws := draws }).1 = .ok other →
        Group.IsId other.gid := by
  have hmade : (ofSettings kernelSettings (imposingWorld ['5', '/', '1'])).1.toOption.map
      (fun p => p.ranges) = some [⟨5, 5⟩] := by decide +kernel
  have hgid : ((ofSettings kernelSettings >>= fun p => p.provision smallRequest)
      (imposingWorld ['5', '/', '1'])).1.toOption.map (fun volume => volume.gid) = some 5 := by
    decide +kernel
  rcases hsettings : ofSettings kernelSettings (imposingWorld ['5', '/', '1']) with ⟨e | p, u⟩
  · rw [hsettings] at hmade
    cases hmade
  · rw [hsettings] at hmade
    rw [bind_ok hsettings] at hgid
    have hranges : p.ranges = [⟨5, 5⟩] := Option.some.inj hmade
    rcases hprovision : p.provision smallRequest u with ⟨e | volume, v⟩
    · rw [hprovision] at hgid
      cases hgid
    · rw [hprovision] at hgid
      have hfive : volume.gid = 5 := Option.some.inj hgid
      obtain ⟨-, hid, hall⟩ := provision_assigns p smallRequest u v volume hprovision
      refine ⟨p, u, rfl, hranges, ⟨volume, by rw [hprovision], hid.mpr ?_⟩, hall.mpr ?_⟩
      · rw [hfive]
        decide
      · rw [hranges]
        decide

/-- A block can hold an id that leaves the group as it is, and it is announced like any other. -/
theorem provision_assigns_no_id :
    ((ofSettings kernelSettings >>= fun p => p.provision smallRequest)
        (imposingWorld ['-', '1', '/', '1'])).1.toOption.map (fun volume => volume.gid) = some (-1) ∧
      ¬ Group.IsId (-1) := by
  constructor
  · decide +kernel
  · decide

end Provisioner
end NfsVolume
