import NfsVolume.CommandLine.Basic

/-!
The program: it runs a command on what it can see of its surroundings, the environment and the
files that the settings name. It has no means of starting other programs, of reaching the cluster,
of measuring free space or of changing the group of a directory. All of these are answered as
failures, so no volume is left half made and no file has to be written back.
-/
namespace NfsVolume.Main

def standardPath : String := "/etc/nfs-provisioner/provisioner.conf"

/-- A function that is not implemented. -/
def notImplemented : Errno := 38

/-- The places of the directories above a place, and of the place itself. -/
def placesTo (path : Text) : List Place :=
  let parts := (Path.parts path).filter (· ≠ ['.'])
  (List.range parts.length).map fun k => FileTree.start path ++ parts.take (k + 1)

/-- A file with the directories above it. -/
def withFile (path : Text) (content : List UInt8) (t : FileTree) : FileTree :=
  let t := (placesTo path).dropLast.foldl (fun t p => t.put p (.directory FileTree.plainMode)) t
  match (placesTo path).getLast? with
  | some place => t.put place (.file 0o600 content)
  | none => t

def unreachable : Text := "the cluster cannot be reached"

/-- A world without any files or variables, in which nothing is answered. -/
def bareWorld (draws : List Int) : World where
  files := ⟨[]⟩
  environment := []
  settingsPath := standardPath
  faults := [⟨.statvfs, notImplemented, 0, 1⟩, ⟨.chown, notImplemented, 0, 1⟩]
  replies := []
  commands := []
  otherReply := .failed unreachable
  otherResult := .notStarted Errno.noEntry
  freeBlocks := 0
  blockSize := 0
  draws := draws
  lastExportId := 0
  events := []
  log := []

def withVariable (name : Text) (w : World) : IO World := do
  match ← IO.getEnv (String.ofList name) with
  | some value => return { w with environment := (name, value.toList) :: w.environment }
  | none => return w

/-- The file at a path, if it can be read. -/
def withFileAt (path : Text) (w : World) : IO World := do
  try
    let content ← IO.FS.readBinFile (String.ofList path)
    return { w with files := withFile path content.toList w.files }
  catch _ => return w

/-- The world as far as the settings lead to it. -/
def observe : IO World := do
  let draw := IO.rand 0 4611686018427387903
  let w ← withVariable Settings.pathVariable (bareWorld [← draw, ← draw])
  let path := match w.environment.lookup Settings.pathVariable with
    | none | some [] => w.settingsPath
    | some named => named
  let w ← withFileAt (Path.normal path) w
  match (Settings.load w).1 with
  | .error _ => return w
  | .ok s =>
    let w ← [s.podIpVariable, s.serviceVariable, s.namespaceVariable].foldlM (fun w n => withVariable n w) w
    [s.annotationsFile, s.tokenFile, s.bundleFile, s.exportsFile, s.ganeshaFile].foldlM
      (fun w p => withFileAt (Path.normal p) w) w

def usageText : String :=
  "usage: nfs-provisioner [--log-level LEVEL] volume create NAME --capacity CAPACITY\n" ++
  "         [--access-mode MODE]... [--reclaim-policy POLICY]\n" ++
  "       nfs-provisioner [--log-level LEVEL] info ranges\n" ++
  "       nfs-provisioner [--log-level LEVEL] info server\n"

def logText (level : Nat) (lines : List LogLine) : Text :=
  (lines.filter fun l => level ≤ l.level.number).flatMap fun l =>
    l.level.name ++ ": " ++ l.text ++ ['\n']

end NfsVolume.Main

open NfsVolume in
def main (arguments : List String) : IO UInt32 := do
  let world ← Main.observe
  let (result, world) := CommandLine.run (arguments.map String.toList) world
  match result with
  | .error problem =>
    IO.eprintln (String.ofList problem.message)
    return 1
  | .ok outcome =>
    IO.eprint (String.ofList (Main.logText (outcome.level.getD LogLevel.warning.number) world.log))
    if outcome.exit = 2 || arguments.contains "--help" then IO.eprint Main.usageText
    IO.print (String.ofList outcome.output)
    IO.eprint (String.ofList outcome.errors.escapeHalves)
    return outcome.exit.toUInt32
