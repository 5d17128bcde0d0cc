import NfsVolume.Settings.Basic
import NfsVolume.Settings.Ini
import NfsVolume.Settings.Pages
import NfsVolume.Settings.Reference
import NfsVolume.World.Files

/-!
Loading the settings: from the file that the environment names, or from the standard one. What the
file does not give keeps its standard value; no file at all is no error.
-/
namespace NfsVolume.Settings

def pathVariable : Text := "NFS_PROVISIONER_CONFIG_PATH"
def sectionName : Text := "provisioner"

def trueWords : List Text := ["1", "yes", "true", "on"]
def falseWords : List Text := ["0", "no", "false", "off"]

/-- The settings file, by the name it has in messages. -/
def filePath : Run Text := do
  let named ← Run.environment pathVariable
  let standardPath := (← get).settingsPath
  return Path.normal (if named.isEmpty then standardPath else named)

def readIni (path : Text) : Run Ini.File := do
  if !(← Files.isPresentOrRefused path) then return ⟨[], []⟩
  match ← Run.outcome (Files.readOctets path) with
  | .error (.os _) => return ⟨[], []⟩
  | .error problem => throw problem
  | .ok octets =>
    let (lines, fault) := Text.fileLines octets
    match Ini.readLines path 1 lines .start, fault with
    | .error problem, _ => throw (.settings problem)
    | .ok _, some e => throw (.undecodable e)
    | .ok state, none =>
      match state.finish path with
      | .error problem => throw (.settings problem)
      | .ok file => return file

/-- The values of the section, none if it is missing. -/
def values (file : Ini.File) : List (Text × Text) := (file.values? sectionName).getD []

section
variable (values : List (Text × Text))

def text (key standard : Text) : Except SettingsProblem Text := do
  return ((← Ini.value? sectionName values key).getD standard).strip

/-- A value that is no whole number counts as none. -/
def number (key : Text) (standard : Int) : Except SettingsProblem Int := do
  match ← Ini.value? sectionName values key with
  | none => return standard
  | some raw => return (Text.Integer.read raw.strip).toOption.getD standard

/-- A value that is no word for true or false counts as none. -/
def flag (key : Text) (standard : Bool) : Except SettingsProblem Bool := do
  match ← Ini.value? sectionName values key with
  | none => return standard
  | some raw =>
    let word := raw.strip.lower
    return if trueWords.contains word then true
      else if falseWords.contains word then false else standard

def ofValues : Except SettingsProblem Settings := do
  return {
    exportDirectory := ← text values "export_dir" standard.exportDirectory
    useGanesha := ← flag values "use_ganesha" standard.useGanesha
    ganeshaFile := ← text values "ganesha_config" standard.ganeshaFile
    exportsFile := ← text values "exports_file" standard.exportsFile
    annotationsFile := ← text values "annotations_file" standard.annotationsFile
    podIpVariable := ← text values "pod_ip_env" standard.podIpVariable
    serviceVariable := ← text values "service_env" standard.serviceVariable
    namespaceVariable := ← text values "namespace_env" standard.namespaceVariable
    clusterUrl := ← text values "kube_api_url" standard.clusterUrl
    tokenFile := ← text values "kube_token_file" standard.tokenFile
    bundleFile := ← text values "kube_ca_file" standard.bundleFile
    clusterTimeout := ← number values "kube_timeout" standard.clusterTimeout
    host := ← text values "api_host" standard.host
    port := ← number values "api_port" standard.port
    logLevel := (← text values "log_level" standard.logLevel).upper }

end

def load : Run Settings := do
  let file ← readIni (← filePath)
  match ofValues (values file) with
  | .ok settings => return settings
  | .error problem => throw (.settings problem)

end NfsVolume.Settings
