import NfsVolume.Group.Pick
import NfsVolume.Server
import NfsVolume.Settings.Load
import NfsVolume.Proofs.Group.Imposed
import NfsVolume.Proofs.World.Outside

/-! What is looked up for a provisioner touches no part of its world: the settings, the cluster,
the ranges of groups and, but for the results of the program that is asked for it, the address of
the server. -/
namespace NfsVolume

open Run Files

variable {parts : List Part}

theorem Cluster.lookup_within (c : Cluster) (path : Text) : Within parts (c.lookup path) :=
  (log_within _ _ _).bind fun _ => (Outside.fetch_within _ _ _ _).bind fun _ => ofExcept_within _

theorem Cluster.ofSettings_within (s : Settings) : Within parts (Cluster.ofSettings s) := by
  have hrest (token : Option Text) : Within parts (do
      let bundle := if ← Files.isPresentOrRefused (Path.normal s.bundleFile) then some s.bundleFile
        else none
      return Cluster.access s.clusterUrl token bundle s.clusterTimeout) :=
    (isPresentOrRefused_reads _).within.bind fun _ => pure_within _
  unfold Cluster.ofSettings
  apply (isPresentOrRefused_reads _).within.bind
  intro present
  dsimp only
  refine Within.ite ((readText_reads _).within.bind fun _ => ?_)
    ((log_within _ _ _).bind fun _ => ?_)
  · exact (pure_within _).bind hrest
  · exact (pure_within _).bind hrest

theorem Server.hostAddress_within (h : Part.results "hostname" ∈ parts) :
    Within parts Server.hostAddress := by
  apply (Outside.runCommand_within h _).bind
  intro answer
  cases answer with
  | error e => exact throw_within _
  | ok found => exact Within.ite (throw_within _) (pure_within _)

namespace ServerLocator

variable (l : ServerLocator)

theorem ownAddress_within (h : Part.results "hostname" ∈ parts) : Within parts l.ownAddress := by
  apply (environment_within _).bind
  intro address
  exact Within.ite (pure_within _) ((log_within _ _ _).bind fun _ => Server.hostAddress_within h)

theorem serviceAddress_within (space service address : Text) :
    Within parts (l.serviceAddress space service address) := by
  apply (l.cluster.lookup_within _).bind
  intro found
  cases found with
  | error problem => exact throw_within _
  | ok object =>
    apply (l.cluster.lookup_within _).bind
    intro found
    cases found with
    | error problem => exact throw_within _
    | ok endpoints =>
      apply (ofExcept_within _).bind
      intro same
      dsimp only
      refine Within.ite ((throw_within _).bind fun _ => ?_) ?_
      all_goals
        apply (ofExcept_within _).bind
        intro ip
        cases ip with
        | none => exact throw_within _
        | some ip => exact pure_within _

theorem resolve_within (h : Part.results "hostname" ∈ parts) : Within parts l.resolve := by
  apply (l.ownAddress_within h).bind
  intro own
  apply (environment_within _).bind
  intro service
  have hservice : Within parts (do
      let space ← Run.environment l.namespaceVariable
      if space.isEmpty then Server.refuse (.noNamespace l.serviceVariable l.namespaceVariable)
      l.serviceAddress space service own) := by
    apply (environment_within _).bind
    intro space
    dsimp only
    refine Within.ite ((throw_within _).bind fun _ => ?_) ?_
    · exact l.serviceAddress_within _ _ _
    · exact l.serviceAddress_within _ _ _
  dsimp only
  exact Within.ite ((log_within _ _ _).bind fun _ => pure_within _) hservice

variable {l}

theorem resolve_frame {w v : World} {r : Except Failure Json} (h : l.resolve w = (r, v)) :
    World.Frame [.results "hostname"] w v :=
  (l.resolve_within (List.mem_singleton.mpr rfl)).frame h

end ServerLocator

namespace Group

theorem pickGroup_within (ranges : List GroupRange) : Within parts (pickGroup ranges) := by
  cases ranges with
  | nil => exact throw_within _
  | cons first rest =>
    apply (Outside.drawBelow_within _).bind
    intro index
    dsimp only [drawBetween]
    exact Within.ite (throw_within _) ((Outside.drawBelow_within _).bind fun _ => pure_within _)

theorem annotationOrNone_within (file key : Text) : Within parts (annotationOrNone file key) := by
  refine Within.onOsError ?_ fun _ => (log_within _ _ _).bind fun _ => pure_within _
  exact (readText_reads file).within.bind fun _ => pure_within _

theorem fromAnnotated_within (cluster : Cluster) (file key shortName : Text) (path : Text → Text)
    {ranges : Json → Run (List GroupRange)} (hranges : ∀ object, Within parts (ranges object)) :
    Within parts (fromAnnotated cluster file key shortName path ranges) := by
  apply (annotationOrNone_within file key).bind
  intro name
  refine Within.ite (pure_within _) ?_
  apply (cluster.lookup_within _).bind
  intro found
  cases found with
  | ok object => exact hranges object
  | error problem => exact (log_within _ _ _).bind fun _ => pure_within _

theorem fromNamespace_within (cluster : Cluster) (space : Text) :
    Within parts (fromNamespace cluster space) := by
  refine Within.ite ((log_within _ _ _).bind fun _ => pure_within _) ?_
  apply (cluster.lookup_within _).bind
  intro found
  cases found with
  | error problem => exact (log_within _ _ _).bind fun _ => pure_within _
  | ok object =>
    dsimp only
    cases rangesOfNamespace object with
    | ok ranges => exact pure_within _
    | error problem =>
      cases problem with
      | value problem => exact (log_within _ _ _).bind fun _ => pure_within _
      | _ => exact throw_within _

theorem fromSource_within (cluster : Cluster) (file space : Text) (source : Source) :
    Within parts (fromSource cluster file space source) := by
  cases source with
  | constraint =>
    exact fromAnnotated_within _ _ _ _ _ fun object => (rangesOfConstraint_yields object).within
  | policy => exact fromAnnotated_within _ _ _ _ _ fun object => (rangesOfPolicy_yields object).within
  | space => exact fromNamespace_within _ _

theorem firstOf_within (cluster : Cluster) (file space : Text) (sources : List Source) :
    Within parts (firstOf cluster file space sources) := by
  induction sources with
  | nil => exact (log_within _ _ _).bind fun _ => pure_within _
  | cons source rest ih =>
    apply (fromSource_within cluster file space source).bind
    intro ranges
    exact Within.ite ih ((log_within _ _ _).bind fun _ => pure_within _)

theorem resolve_within (cluster : Cluster) (file space : Text) :
    Within parts (resolve cluster file space) := firstOf_within _ _ _ _

end Group

namespace Settings

/-- What is made of the octets of a settings file. -/
def iniOf (path : Text) : Except Failure (List UInt8) → Except Failure Ini.File
  | .error (.os _) => .ok ⟨[], []⟩
  | .error problem => .error problem
  | .ok octets =>
    match Ini.readLines path 1 (Text.fileLines octets).1 .start, (Text.fileLines octets).2 with
    | .error problem, _ => .error (.settings problem)
    | .ok _, some e => .error (.undecodable e)
    | .ok state, none => (state.finish path).mapError .settings

theorem readIni_eq (path : Text) :
    readIni path = (Files.isPresentOrRefused path >>= fun present =>
      if !present then pure ⟨[], []⟩
      else Run.outcome (Files.readOctets path) >>= fun octets =>
        Run.ofExcept (iniOf path octets)) := by
  unfold readIni
  apply bind_congr
  intro present
  split
  · rfl
  · apply bind_congr
    intro octets
    cases octets with
    | error problem => cases problem <;> rfl
    | ok octets =>
      unfold iniOf
      dsimp only
      generalize Ini.readLines path 1 (Text.fileLines octets).1 .start = lines
      generalize (Text.fileLines octets).2 = fault
      cases lines with
      | error problem => rfl
      | ok state =>
        cases fault with
        | some e => rfl
        | none =>
          cases hfinish : state.finish path with
          | error problem => simp [hfinish, Except.mapError, Run.ofExcept]
          | ok file => simp [hfinish, Except.mapError, Run.ofExcept]

theorem readIni_within (path : Text) : Within parts (readIni path) := by
  rw [readIni_eq]
  apply (isPresentOrRefused_reads path).within.bind
  intro present
  refine Within.ite (pure_within _) ?_
  exact (readOctets_reads path).within.outcome.bind fun octets => ofExcept_within _

theorem filePath_within : Within parts filePath :=
  (environment_within _).bind fun _ => get_within.bind fun _ => pure_within _

theorem load_within : Within parts load := by
  apply filePath_within.bind
  intro path
  apply (readIni_within path).bind
  intro file
  cases ofValues (values file) with
  | ok settings => exact pure_within _
  | error problem => exact throw_within _

theorem filePath_reads : filePath.Reads := fun _ => rfl

theorem filePath_looks : filePath.Looks := by
  intro w v _ henvironment hpath
  change (Except.ok (Path.normal (if ((v.environment.lookup pathVariable).getD []).isEmpty then
    v.settingsPath else (v.environment.lookup pathVariable).getD [])) : Except Failure Text) = _
  rw [henvironment, hpath]
  rfl

theorem readIni_reads (path : Text) : (readIni path).Reads := by
  rw [readIni_eq]
  refine (isPresentOrRefused_reads path).bind fun present => Reads.ite (fun _ => rfl) ?_
  exact (readOctets_reads path).outcome.bind fun octets => ofExcept_reads _

theorem load_reads : load.Reads := by
  apply filePath_reads.bind
  intro path
  apply (readIni_reads path).bind
  intro file
  cases ofValues (values file) with
  | ok settings => exact fun _ => rfl
  | error problem => exact fun _ => rfl

theorem readIni_looks (path : Text) : (readIni path).Looks := by
  rw [readIni_eq]
  apply Looks.bind (isPresentOrRefused_reads path) (isPresentOrRefused_looks path)
  intro _
  refine Looks.ite (pure_looks _) ?_
  apply Looks.bind (readOctets_reads path).outcome (readOctets_looks path).outcome
  intro octets
  exact ofExcept_looks _

/-- Settings depend on the files, the environment and their standard path only. -/
theorem load_looks : load.Looks := by
  apply Looks.bind filePath_reads filePath_looks
  intro path
  apply Looks.bind (readIni_reads path) (readIni_looks path)
  intro file
  cases ofValues (values file) with
  | ok settings => exact pure_looks _
  | error problem => exact throw_looks _

/-- The count of the ledger does not matter to settings. -/
theorem load_withCount (w : World) (count : Nat) :
    load (w.withCount count) = ((load w).1, w.withCount count) :=
  Prod.ext (load_looks w (w.withCount count) rfl rfl rfl) (load_reads _)

end Settings
end NfsVolume
