import NfsVolume.CommandLine.Basic
import NfsVolume.Proofs.Provisioner.Ids

/-! What a run of the program does to the ids in ganesha's file: whatever its arguments are, it adds
at most the one after the greatest. -/
namespace NfsVolume

open Run

variable {α β : Type} {s : Settings} {p : Provisioner} {w u v : World} {parts : List Part}

/-- All settings that can be loaded in a world are the given ones. -/
def Configured (s : Settings) (w : World) : Prop := ∀ s', (Settings.load w).1 = .ok s' → s' = s

theorem configured_of_load (h : (Settings.load w).1.toOption = some s) : Configured s w := by
  intro s' hs'
  rw [hs'] at h
  exact Option.some.inj h

theorem Configured.of_frame (h : Configured s w) (hf : World.Frame parts w u)
    (hfiles : Part.files ∉ parts) : Configured s u := by
  intro s' hs'
  refine h s' ?_
  rw [← hs']
  exact (Settings.load_looks w u (hf.files hfiles) hf.environment hf.settingsPath).symm

namespace Provisioner

theorem ofSettings_within (hc : Part.count ∈ parts) (s : Settings) :
    Within parts (ofSettings s) := by
  apply (Cluster.ofSettings_within s).bind
  intro cluster
  apply (environment_within _).bind
  intro space
  apply (Group.resolve_within _ _ _).bind
  intro ranges
  exact Within.bind (fun w => withCount_frame hc w 0) fun _ => pure_within _

/-- A new provisioner has a ledger that counts from zero. -/
theorem of_ofSettings (h : ofSettings s w = (.ok p, v)) :
    p.backend = .ofSettings s ∧ p.exportDirectory = s.exportDirectory ∧ v.lastExportId = 0 := by
  obtain ⟨cluster, u₁, -, h⟩ := of_bind_ok h
  obtain ⟨space, u₂, -, h⟩ := of_bind_ok h
  obtain ⟨ranges, u₃, -, h⟩ := of_bind_ok h
  obtain ⟨_, u₄, hset, h⟩ := of_bind_ok h
  cases hset
  cases h
  exact ⟨rfl, rfl, rfl⟩

end Provisioner

/-- A provisioner of ganesha volumes whose paths show no ids. -/
structure Settings.Ganesha (s : Settings) : Prop where
  useGanesha : s.useGanesha = true
  exportDirectory : ¬ Export.idLabel <:+: s.exportDirectory

theorem ExportBackend.ofSettings_ganesha (hs : s.Ganesha) :
    ExportBackend.ofSettings s = ⟨.ganesha, s.ganeshaFile⟩ := by
  rw [ExportBackend.ofSettings, if_pos hs.useGanesha]

namespace CommandLine

open Provisioner

/-- The parts that a run touches besides the export of a volume: the count of a new ledger, and what
the host tells of itself. -/
def asideParts : List Part := [.count, .results "hostname"]

/-- At most one id has been added to ganesha's file, the one after the greatest. -/
def AddsOne (s : Settings) (w v : World) : Prop :=
  Configured s w → ∀ place mode text, Holds w.files s.ganeshaFile place mode text →
    ∃ later text' count, Holds v.files s.ganeshaFile place later text' ∧
      Counts (Export.ids text) 0 (Export.ids text') count

theorem AddsOne.of_frame (hf : World.Frame asideParts w v) : AddsOne s w v := by
  intro _ place mode text hw
  exact ⟨mode, text, 0, hf.files (by simp [asideParts]) ▸ hw, .inl ⟨rfl, rfl⟩⟩

theorem AddsOne.behind (h : AddsOne s u v) (hf : World.Frame asideParts w u) : AddsOne s w v := by
  intro hconfigured place mode text hw
  have hfiles : u.files = w.files := hf.files (by simp [asideParts])
  exact h (hconfigured.of_frame hf (by simp [asideParts])) place mode text (hfiles ▸ hw)

theorem AddsOne.before (h : AddsOne s w u) (hf : World.Frame asideParts u v) : AddsOne s w v := by
  intro hconfigured place mode text hw
  obtain ⟨later, text', count, hu, hcounts⟩ := h hconfigured place mode text hw
  exact ⟨later, text', count, hf.files (by simp [asideParts]) ▸ hu, hcounts⟩

/-- A computation that adds at most one id from any world. -/
def Adding (s : Settings) (x : Run α) : Prop := ∀ w, AddsOne s w (x w).2

theorem adding_of_within {x : Run α} (h : Within asideParts x) : Adding s x := fun w =>
  .of_frame (h w)

theorem Adding.bind_left {x : Run α} {f : α → Run β} (hx : Within asideParts x)
    (hf : ∀ a, Adding s (f a)) : Adding s (x >>= f) := by
  intro w
  rcases h : x w with ⟨e | a, u⟩
  · rw [bind_error h]
    exact .of_frame (hx.frame h)
  · rw [bind_ok h]
    exact (hf a u).behind (hx.frame h)

theorem AddsOne.bind_right {x : Run α} {f : α → Run β} (h : AddsOne s w (x w).2)
    (hf : ∀ a, Within asideParts (f a)) : AddsOne s w ((x >>= f) w).2 := by
  rcases hx : x w with ⟨e | a, u⟩
  · rw [hx] at h
    rw [bind_error hx]
    exact h
  · rw [hx] at h
    rw [bind_ok hx]
    exact h.before (hf a u)

theorem Adding.bind_right {x : Run α} {f : α → Run β} (hx : Adding s x)
    (hf : ∀ a, Within asideParts (f a)) : Adding s (x >>= f) := fun w => (hx w).bind_right hf

theorem Adding.outcome {x : Run α} (h : Adding s x) : Adding s (outcome x) := fun w => h w

theorem Adding.ite {c : Prop} [Decidable c] {x y : Run α} (hx : Adding s x) (hy : Adding s y) :
    Adding s (if c then x else y) := by
  split
  · exact hx
  · exact hy

theorem Adding.apart {x : Run α} (h : Adding s x) (count : Nat) : Adding s (apart count x) :=
  fun w => ((h _).behind (withCount_frame (by simp [asideParts]) w count)).before
    (withCount_frame (by simp [asideParts]) _ w.lastExportId)

theorem provision_addsOne (hs : s.Ganesha) (hbackend : p.backend = .ofSettings s)
    (hdir : p.exportDirectory = s.exportDirectory) (hcount : w.lastExportId = 0)
    (r : VolumeRequest) : AddsOne s w (p.provision r w).2 := by
  intro _ place mode text hw
  rw [ExportBackend.ofSettings_ganesha hs] at hbackend
  have hkind : p.backend.kind = .ganesha := by rw [hbackend]
  have hfile : s.ganeshaFile = p.backend.file := by rw [hbackend]
  rw [hfile] at hw ⊢
  obtain ⟨later, text', hv, hcounts⟩ :=
    provision_counts hkind (hdir ▸ hs.exportDirectory) hw (.inl hcount) (rfl : p.provision r w = _)
  rw [hcount] at hcounts
  exact ⟨later, text', _, hv, hcounts⟩

/-- Creating a volume adds at most one id. -/
theorem create_adding (hs : s.Ganesha) (r : VolumeRequest) : Adding s (create r) := by
  intro w hconfigured
  refine (?_ : AddsOne s w (create r w).2) hconfigured
  unfold create
  rcases hload : Settings.load w with ⟨e | s', u⟩
  · rw [bind_error hload]
    exact .of_frame (Settings.load_within.frame hload)
  · obtain rfl : s' = s := hconfigured s' (by rw [hload])
    rw [bind_ok hload]
    refine AddsOne.behind ?_ (Settings.load_within.frame hload)
    rcases hmade : ofSettings s' u with ⟨e | p, u'⟩
    · rw [bind_error hmade]
      exact .of_frame ((ofSettings_within (by simp [asideParts]) s').frame hmade)
    · rw [bind_ok hmade]
      refine AddsOne.behind ?_ ((ofSettings_within (by simp [asideParts]) s').frame hmade)
      obtain ⟨hbackend, hdir, hcount⟩ := of_ofSettings hmade
      apply (provision_addsOne hs hbackend hdir hcount r).bind_right
      intro volume
      apply (ofExcept_within _).bind
      intro gid
      apply (ofExcept_within _).bind
      intro manifest
      exact pure_within _

theorem createVolume_adding (hs : s.Ganesha) (level : Nat) (name capacity : Text) (a : Arguments) :
    Adding s (createVolume level name capacity a) := by
  unfold createVolume
  cases requestOf name capacity a with
  | error problem => exact adding_of_within (pure_within _)
  | ok found =>
    apply (create_adding hs found.1).outcome.bind_right
    intro done
    cases done with
    | error problem => exact pure_within _
    | ok reported => exact pure_within _

theorem createCommand_adding (hs : s.Ganesha) (level : Nat) (arguments : List Text) :
    Adding s (createCommand level arguments) := by
  unfold createCommand
  split
  · exact adding_of_within (pure_within _)
  · refine Adding.ite (adding_of_within (pure_within _)) ?_
    split
    · exact createVolume_adding hs _ _ _ _
    · exact adding_of_within (pure_within _)

theorem showRanges_within (level : Nat) : Within parts (showRanges level) := by
  have hresolve : Within parts resolveRanges :=
    Settings.load_within.bind fun settings => (Cluster.ofSettings_within _).bind fun cluster =>
      (environment_within _).bind fun space => Group.resolve_within _ _ _
  apply hresolve.outcome.bind
  intro done
  cases done with
  | error problem => exact pure_within _
  | ok ranges =>
    dsimp only
    split
    · exact pure_within _
    · exact pure_within _

theorem showServer_within (h : Part.results "hostname" ∈ parts) (level : Nat) :
    Within parts (showServer level) := by
  have hresolve : Within parts resolveServer :=
    Settings.load_within.bind fun settings => (Cluster.ofSettings_within _).bind fun cluster =>
      ServerLocator.resolve_within _ h
  apply hresolve.outcome.bind
  intro done
  cases done with
  | error problem => exact pure_within _
  | ok server =>
    dsimp only
    split
    · exact pure_within _
    · exact pure_within _

theorem bare_within {act : Nat → Run Outcome} (hact : ∀ level, Within parts (act level))
    (level : Nat) (arguments : List Text) : Within parts (bare level act arguments) := by
  unfold bare
  split
  · exact pure_within _
  · exact Within.ite (pure_within _) (Within.ite (hact level) (pure_within _))

theorem command_adding (hs : s.Ganesha) {group name : Text} {act : Nat → List Text → Run Outcome}
    (h : command? group name = some act) (level : Nat) (arguments : List Text) :
    Adding s (act level arguments) := by
  obtain ⟨before, behind, hcommands, -⟩ := List.lookup_eq_some_iff.mp h
  have hmem : ((group, name), act) ∈ before ++ ((group, name), act) :: behind := by simp
  rw [← hcommands] at hmem
  rcases List.mem_cons.mp hmem with hact | hmem
  · obtain rfl : act = createCommand := congrArg Prod.snd hact
    exact createCommand_adding hs level arguments
  · rcases List.mem_cons.mp hmem with hact | hmem
    · obtain rfl : act = (bare · showRanges) := congrArg Prod.snd hact
      exact adding_of_within (bare_within showRanges_within level arguments)
    · obtain rfl : act = (bare · showServer) := congrArg Prod.snd (List.mem_singleton.mp hmem)
      have hshow := showServer_within (by simp [asideParts] : _ ∈ asideParts)
      exact adding_of_within (bare_within hshow level arguments)

theorem runGroup_adding (hs : s.Ganesha) (level : Nat) (group : Text) (arguments : List Text) :
    Adding s (runGroup level group arguments) := by
  unfold runGroup
  split
  · exact adding_of_within (pure_within _)
  · refine Adding.ite (adding_of_within (pure_within _)) ?_
    split
    · exact adding_of_within (pure_within _)
    · split
      · exact adding_of_within (pure_within _)
      · rename_i act hact
        exact command_adding hs hact _ _

theorem setUpLog_within (given : Option Text) : Within parts (setUpLog given) := by
  unfold setUpLog
  dsimp only
  split
  · exact Settings.load_within.bind fun settings => ofExcept_within _
  · exact Settings.load_within.bind fun settings => ofExcept_within _
  · exact ofExcept_within _

/-- A run of the program adds at most one id, whatever its arguments are. -/
theorem run_adding (hs : s.Ganesha) (arguments : List Text) : Adding s (run arguments) := by
  unfold run
  split
  · exact adding_of_within (pure_within _)
  · rename_i a _
    have hrun : Adding s (runArguments a) := by
      unfold runArguments
      refine Adding.ite (adding_of_within (pure_within _)) ?_
      split
      · exact adding_of_within (pure_within _)
      · refine Adding.ite (adding_of_within (pure_within _)) ?_
        apply Adding.bind_left (setUpLog_within _).outcome
        intro level
        cases level with
        | error problem => exact adding_of_within (pure_within _)
        | ok level => exact runGroup_adding hs level _ _
    apply (hrun.apart 0).bind_right
    intro done
    obtain ⟨done, count⟩ := done
    cases done with
    | error problem => exact pure_within _
    | ok outcome => exact pure_within _

end CommandLine
end NfsVolume
