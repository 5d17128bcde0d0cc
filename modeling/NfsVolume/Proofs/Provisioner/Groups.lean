import NfsVolume.Proofs.CommandLine
import NfsVolume.Proofs.Group.Resolve
import NfsVolume.Proofs.Provisioner.Result
import NfsVolume.Proofs.Provisioner.Stray
import NfsVolume.Proofs.Server

/-! The group of a volume is one of its provisioner's ranges, and no call fails for want of a group
as long as there is a range and every range has an id. -/
namespace NfsVolume

open Run

/-- There is nothing to pick a group from: no range, or a range without ids. -/
inductive Failure.Groupless : Failure → Prop
  | noRange : Groupless (.provisioning .noGroups)
  | emptyRange (first last : Int) : Groupless (.value (.emptyDraw first last))

theorem Failure.IsOfStep.not_groupless {e : Failure} (h : e.IsOfStep) : ¬ e.Groupless := by
  obtain ⟨problem, hkind, rfl⟩ := h
  intro hnone
  cases hnone
  exact hkind rfl

theorem Failure.IsOfEffect.not_groupless {e : Failure} (h : e.IsOfEffect) : ¬ e.Groupless :=
  h.isOfStep.not_groupless

theorem Files.RefusesNull.not_groupless {path : Text} {e : Failure} (h : RefusesNull path e) :
    ¬ e.Groupless := by
  obtain ⟨-, rfl⟩ := h
  nofun

theorem ExportBackend.Stray.not_groupless {b : ExportBackend} {w : World} {e : Failure}
    (h : b.Stray w e) : ¬ e.Groupless := by
  cases h <;> nofun

theorem Group.Misshapen.not_groupless {e : Failure} (h : Misshapen e) : ¬ e.Groupless := by
  cases h <;> nofun

theorem Group.Source.Stray.not_groupless {cluster : Cluster} {file space : Text} {w : World}
    {source : Source} {e : Failure} (h : source.Stray cluster file space w e) :
    ¬ e.Groupless := by
  cases h with
  | misshapen body h object hread e he hranges => exact he.not_groupless
  | _ => nofun

theorem Files.readExact_raises (path : Text) : Raises (fun e => ¬ e.Groupless) (readExact path) := by
  intro w e v h
  rcases readExact_fails h with ⟨os, rfl⟩ | hnull | ⟨problem, rfl, -⟩
  · nofun
  · exact hnull.not_groupless
  · nofun

theorem Files.isPresentOrRefused_raises (path : Text) :
    Raises (fun e => ¬ e.Groupless) (isPresentOrRefused path) := by
  refine Raises.ite (pure_raises _) (get_raises.bind fun u => ?_)
  cases u.files.resolve path with
  | ok found => exact pure_raises _
  | error errno => exact Raises.ite (pure_raises _) (throw_raises nofun)

namespace Settings

theorem iniOf_error {path : Text} {octets : Except Failure (List UInt8)} {e : Failure}
    (hoctets : ∀ problem, octets = .error problem → ¬ problem.Groupless)
    (h : iniOf path octets = .error e) : ¬ e.Groupless := by
  unfold iniOf at h
  split at h
  · cases h
  · cases h
    exact hoctets _ rfl
  · split at h
    · cases h
      nofun
    · cases h
      nofun
    · rename_i state _ _
      cases hfinish : state.finish path with
      | error problem =>
        rw [hfinish] at h
        cases h
        nofun
      | ok file =>
        rw [hfinish] at h
        cases h

theorem readIni_raises (path : Text) : Raises (fun e => ¬ e.Groupless) (readIni path) := by
  rw [readIni_eq]
  refine (Files.isPresentOrRefused_raises path).bind fun present => Raises.ite (pure_raises _) ?_
  intro w e v h
  rw [bind_ok (outcome_apply _ w), ofExcept_apply] at h
  refine iniOf_error (fun problem hread => ?_) (congrArg Prod.fst h)
  have hproblem : Files.readOctets path w = (.error problem, (Files.readOctets path w).2) :=
    Prod.ext hread rfl
  rcases Files.readOctets_fails path _ _ _ hproblem with ⟨os, rfl⟩ | hnull
  · nofun
  · exact hnull.not_groupless

theorem load_raises : Raises (fun e => ¬ e.Groupless) load := by
  refine Raises.bind (fun _ _ _ h => by cases h) fun path => ?_
  refine (readIni_raises path).bind fun file => ?_
  cases ofValues (values file) with
  | ok settings => exact pure_raises _
  | error problem => exact throw_raises nofun

end Settings

theorem Cluster.ofSettings_raises (s : Settings) :
    Raises (fun e => ¬ e.Groupless) (Cluster.ofSettings s) := by
  have hrest (token : Option Text) : Raises (fun e => ¬ e.Groupless) (do
      let bundle := if ← Files.isPresentOrRefused (Path.normal s.bundleFile) then some s.bundleFile
        else none
      return Cluster.access s.clusterUrl token bundle s.clusterTimeout) :=
    (Files.isPresentOrRefused_raises _).bind fun _ => pure_raises _
  unfold Cluster.ofSettings
  apply (Files.isPresentOrRefused_raises _).bind
  intro present
  dsimp only
  refine Raises.ite (Raises.bind ?_ fun _ => ?_) ((log_raises _ _ _).bind fun _ => ?_)
  · exact (Files.readExact_raises _).bind fun _ => pure_raises _
  · exact (pure_raises _).bind hrest
  · exact (pure_raises _).bind hrest

theorem Group.resolve_raises (cluster : Cluster) (file space : Text) :
    Raises (fun e => ¬ e.Groupless) (resolve cluster file space) := by
  intro w e v h
  have hmeets := resolve_meets cluster file space w
  rw [h] at hmeets
  obtain ⟨source, u, -, hstray⟩ := hmeets
  exact hstray.not_groupless

theorem Provisioner.ofSettings_raises (s : Settings) :
    Raises (fun e => ¬ e.Groupless) (ofSettings s) :=
  (Cluster.ofSettings_raises s).bind fun _ => Raises.bind (fun _ _ _ h => by cases h) fun _ =>
    (Group.resolve_raises _ _ _).bind fun _ => Raises.bind (fun _ _ _ h => by cases h) fun _ =>
      pure_raises _

/-- A new provisioner has ranges, with ids in each of them. -/
theorem Provisioner.ranges_of_ofSettings {s : Settings} {p : Provisioner} {w v : World}
    (h : ofSettings s w = (.ok p, v)) : p.ranges ≠ [] ∧ Group.Filled p.ranges := by
  obtain ⟨cluster, u₁, -, h⟩ := of_bind_ok h
  obtain ⟨space, u₂, -, h⟩ := of_bind_ok h
  obtain ⟨ranges, u₃, hresolve, h⟩ := of_bind_ok h
  obtain ⟨_, u₄, -, hreturn⟩ := of_bind_ok h
  cases hreturn
  have hmeets := Group.resolve_meets cluster s.annotationsFile space u₂
  rwa [hresolve] at hmeets

theorem Server.Lost.not_groupless {e : Failure} (h : Lost e) : ¬ e.Groupless := by
  cases h with
  | misshapen _ h => exact h.not_groupless
  | _ => nofun

/-- A failure behind the check of a request, and not for want of a group. -/
inductive Failure.IsBehind : Failure → Prop
  | effect (e : Failure) (h : e.IsOfEffect) : IsBehind e
  | lost (e : Failure) (h : Server.Lost e) : IsBehind e
  | null (path : Text) (e : Failure) (h : Files.RefusesNull path e) : IsBehind e
  | entry (b : ExportBackend) (w : World) (e : Failure) (h : b.Stray w e) : IsBehind e
  | unwritable : IsBehind (.value .unwritable)
  | overflow (problem : OverflowProblem) : IsBehind (.overflow problem)

theorem Failure.IsBehind.not_groupless {e : Failure} (h : e.IsBehind) : ¬ e.Groupless := by
  cases h with
  | effect _ h => exact h.not_groupless
  | lost _ h => exact h.not_groupless
  | null _ _ h => exact h.not_groupless
  | entry _ _ _ h => exact h.not_groupless
  | unwritable => nofun
  | overflow => nofun

namespace Provisioner

open Volume

variable {p : Provisioner} {request : VolumeRequest} {volume : ProvisionedVolume} {w v : World}
  {path : Text} {e : Failure}

theorem equip_raises (hne : p.ranges ≠ []) (hranges : ∀ range ∈ p.ranges, range.min ≤ range.max)
    (hpath : '\x00' ∉ path) : Raises Failure.IsBehind (p.equip path) := by
  have hpick : Raises Failure.IsBehind (Group.pickGroup p.ranges) :=
    (Group.pickGroup_raises hranges).mono fun e h => absurd h.1 hne
  refine hpick.bind fun gid => Raises.bind ?_ fun _ => Raises.bind ?_ fun _ => pure_raises _
  · refine (setGroup_fails path gid).mono ?_
    rintro e (hown | ⟨⟨problem, rfl⟩, -⟩)
    · exact .effect e hown
    · exact .overflow problem
  · intro w e v h
    rcases ExportBackend.add_strays hpath h with hown | hstray
    · exact .effect e hown
    · exact .entry p.backend w e hstray

theorem establish_raises (hne : p.ranges ≠ [])
    (hranges : ∀ range ∈ p.ranges, range.min ≤ range.max) (hp : '\x00' ∉ path) (name : Text)
    (server : Json) : Raises Failure.IsBehind (p.establish name server path) := by
  have hfurnish : Raises Failure.IsBehind (p.furnish name path) := by
    intro w e v h
    rcases of_tryCatch h with ⟨a, -, hr⟩ | ⟨problem, u, hequip, habandon⟩
    · cases hr
    · cases of_abandon_error hp habandon
      exact equip_raises hne hranges hp _ _ _ hequip
  exact hfurnish.bind fun _ => (log_raises _ _ _).bind fun _ => pure_raises _

/-- What a request that is not refused can fail with. -/
theorem provision_behind (hne : p.ranges ≠ [])
    (hranges : ∀ range ∈ p.ranges, range.min ≤ range.max) (hvalid : request.validate = .ok ())
    (h : p.provision request w = (.error e, v)) : e.IsBehind := by
  have hname := isVolumeName_of_validate hvalid
  rw [provision_eq, hvalid, bind_ok (ofExcept_apply _ w)] at h
  rcases of_bind h with ⟨server, w₁, -, h⟩ | ⟨e', hserver, hr⟩
  · rcases of_bind h with ⟨path, u, hallocate, h⟩ | ⟨e', hallocate, hr⟩
    · exact establish_raises hne hranges (null_notMem_of_allocate hname hallocate) _ _ _ _ _ h
    · cases hr
      rcases allocate_fails hname hallocate with hown | hnull | ⟨rfl, -⟩
      · exact .effect e hown
      · exact .null _ e hnull
      · exact .unwritable
  · cases hr
    exact .lost e (p.locator.resolve_raises _ _ _ hserver)

/-- No call fails for want of a group. -/
theorem provision_raises (hne : p.ranges ≠ [])
    (hranges : ∀ range ∈ p.ranges, range.min ≤ range.max) (request : VolumeRequest) :
    Raises (fun e => ¬ e.Groupless) (p.provision request) := by
  intro w e v h
  cases hvalid : request.validate with
  | error problem =>
    rw [provision_invalid hvalid] at h
    cases h
    exact (validate_fails hvalid).not_groupless
  | ok _ => exact (provision_behind hne hranges hvalid h).not_groupless

/-- A volume that is returned has a group of the provisioner's. -/
theorem group_of_provision (h : p.provision request w = (.ok volume, v)) :
    ∃ range ∈ p.ranges, range.min ≤ volume.gid ∧ volume.gid ≤ range.max := by
  obtain ⟨-, server, w₁, path, u, -, -, h⟩ := steps_of_provision h
  obtain ⟨-, -, range, hrange, hgid, -⟩ := of_establish_ok h
  exact ⟨range, hrange, hgid⟩

end Provisioner

end NfsVolume
