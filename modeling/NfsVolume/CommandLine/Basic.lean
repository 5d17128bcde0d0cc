import NfsVolume.CommandLine.Arguments
import NfsVolume.CommandLine.Level
import NfsVolume.Provisioner
import NfsVolume.Settings.Load
import NfsVolume.Volume.Capacity

/-!
The commands: `volume create` provisions a volume and prints its manifest, `info ranges` and
`info server` print what a provisioner resolves. Each run has a ledger of its own.
-/
namespace NfsVolume.CommandLine

/-- What a run of the program leaves: its exit code, the level of the log if it was set, and what
it wrote. The errors may hold lone surrogates. -/
structure Outcome where
  exit : Nat
  level : Option Nat
  output : Text
  errors : RawText
  deriving DecidableEq, Repr

def usage (level : Option Nat) : Outcome := ⟨2, level, [], []⟩
def help (level : Option Nat) : Outcome := ⟨0, level, [], []⟩

/-- Whether a text can go on within a sequence that controls a terminal, up to its final letter. -/
def controlLength : Text → Option Nat
  | [] => none
  | c :: rest =>
    if c.isAlpha then some 1
    else if c = ';' || c = '?' || c.isDigit then (controlLength rest).map (· + 1)
    else none

/-- The text without sequences that control a terminal; the next `skip` characters are dropped. -/
def plainFrom : Nat → RawText → RawText
  | _, [] => []
  | skip + 1, _ :: rest => plainFrom skip rest
  | 0, p :: rest =>
    match p, rest with
    | .char '\x1b', .char '[' :: more =>
      match controlLength (RawText.shown more) with
      | some count => plainFrom (count + 1) rest
      | none => p :: plainFrom 0 rest
    | _, _ => p :: plainFrom 0 rest

/-- A line of the output, which takes only what can be written. -/
def outputLine (text : RawText) : Except Failure Text :=
  match Text.Utf8.check (plainFrom 0 text) with
  | .ok text => .ok (text ++ ['\n'])
  | .error e => .error (.unencodable e)

/-- A line of the errors, which take any text. -/
def errorLine (text : RawText) : RawText := plainFrom 0 text ++ [.char '\n']

def failure (level : Option Nat) (output : Text) (errors : RawText) (task : Text)
    (problem : Failure) : Outcome :=
  ⟨1, level, output, errors ++ errorLine ("Error" ++ task ++ ": " ++ problem.message)⟩

/-- The lines of ranges up to one that cannot be written. -/
def rangeLines : List GroupRange → Text × Option Failure
  | [] => ([], none)
  | r :: rest =>
    match writeInteger r.min, writeInteger r.max with
    | .ok min, .ok max =>
      let more := rangeLines rest
      (min ++ "-" ++ max ++ ['\n'] ++ more.1, more.2)
    | .error problem, _ => ([], some problem)
    | _, .error problem => ([], some problem)

def resolveRanges : Run (List GroupRange) := do
  let settings ← Settings.load
  let cluster ← Cluster.ofSettings settings
  let space ← Run.environment settings.namespaceVariable
  Group.resolve cluster settings.annotationsFile space

def showRanges (level : Nat) : Run Outcome := do
  match ← Run.outcome resolveRanges with
  | .error problem => return failure level [] [] " resolving ranges" problem
  | .ok ranges =>
    match rangeLines ranges with
    | (lines, none) => return ⟨0, level, lines, []⟩
    | (lines, some problem) => return failure level lines [] " resolving ranges" problem

def resolveServer : Run Json := do
  let settings ← Settings.load
  let cluster ← Cluster.ofSettings settings
  (ServerLocator.ofSettings cluster settings).resolve

def showServer (level : Nat) : Run Outcome := do
  match ← Run.outcome resolveServer with
  | .error problem => return failure level [] [] " resolving server" problem
  | .ok server =>
    match outputLine server.toText with
    | .error problem => return failure level [] [] " resolving server" problem
    | .ok line => return ⟨0, level, line, []⟩

/-- The request that the arguments make, and the line that announces it. -/
def requestOf (name capacity : Text) (a : Arguments) : Except Failure (VolumeRequest × RawText) := do
  (Volume.validateName name).mapError .value
  let octets ← Volume.parseCapacity (.text capacity)
  let shown ← writeInteger octets
  let modes := a.values "--access-mode"
  let request : VolumeRequest := {
    name := name
    capacity := octets
    accessModes :=
      if modes.isEmpty then VolumeRequest.defaultAccessModes else modes.map RawText.ofText
    reclaimPolicy :=
      ((a.value? "--reclaim-policy").map RawText.ofText).getD VolumeRequest.defaultReclaimPolicy
    parameters := .null
    selector := .null }
  return (request, errorLine ("Provisioning volume: " ++ name ++ " (" ++ shown ++ " bytes)"))

/-- The volume of a request, with the line that reports it and its manifest. -/
def create (r : VolumeRequest) : Run (RawText × Json) := do
  let provisioner ← Provisioner.ofSettings (← Settings.load)
  let volume ← provisioner.provision r
  let gid ← Run.ofExcept (writeInteger volume.gid)
  let manifest ← Run.ofExcept (volume.manifest r)
  let place : RawText := volume.server.toText ++ ":" ++ volume.path
  return (errorLine ("  Exported " ++ place ++ " with gid " ++ gid), manifest)

def createVolume (level : Nat) (name capacity : Text) (a : Arguments) : Run Outcome := do
  match requestOf name capacity a with
  | .error problem => return failure level [] [] " provisioning volume" problem
  | .ok (request, announced) =>
    match ← Run.outcome (create request) with
    | .error problem => return failure level [] announced " provisioning volume" problem
    | .ok (reported, manifest) => return ⟨0, level, manifest.lines ++ ['\n'], announced ++ reported⟩

/-- A command without arguments of its own. -/
def bare (level : Nat) (act : Nat → Run Outcome) (arguments : List Text) : Run Outcome :=
  match Arguments.read [] true arguments with
  | none => return usage level
  | some a =>
    if a.help then return help level
    else if a.words.isEmpty then act level
    else return usage level

def createOptions : List Text := ["--capacity", "--access-mode", "--reclaim-policy"]

def createCommand (level : Nat) (arguments : List Text) : Run Outcome :=
  match Arguments.read createOptions true arguments with
  | none => return usage level
  | some a =>
    if a.help then return help level
    else
      match a.words, a.value? "--capacity" with
      | [name], some capacity => createVolume level name capacity a
      | _, _ => return usage level

/-- A command of a group by its name. -/
def command? (group name : Text) : Option (Nat → List Text → Run Outcome) :=
  ([(("volume", "create"), createCommand), (("info", "ranges"), (bare · showRanges)),
    (("info", "server"), (bare · showServer))] :
    List ((Text × Text) × (Nat → List Text → Run Outcome))).lookup (group, name)

/-- Words that begin with no command are read once more, since behind `--` they may have been meant
as options, of which help is the only one that still counts. -/
def noCommand (level : Option Nat) (valued words : List Text) : Outcome :=
  match Arguments.read valued false words with
  | some a => if a.help then help level else usage level
  | none => usage level

def groups : List Text := ["volume", "info"]

def runGroup (level : Nat) (group : Text) (arguments : List Text) : Run Outcome :=
  match Arguments.read [] false arguments with
  | none => return usage level
  | some a =>
    if a.help then return help level
    else
      match a.words with
      | [] => return usage level
      | name :: rest =>
        match command? group name with
        | none => return noCommand level [] a.words
        | some act => act level rest

/-- The level of the log: as it is given, or else as the settings say. -/
def setUpLog (given : Option Text) : Run Nat := do
  let name ←
    match given with
    | none | some [] => pure (← Settings.load).logLevel
    | some name => pure name
  Run.ofExcept (LogThreshold.ofName name.upper)

/-- The options in front of every command. -/
def commonOptions : List Text := ["--log-level"]

def runArguments (a : Arguments) : Run Outcome :=
  if a.help then return help none
  else
    match a.words with
    | [] => return usage none
    | group :: rest =>
      if !groups.contains group then return noCommand none commonOptions a.words
      else do
        match ← Run.outcome (setUpLog (a.value? "--log-level")) with
        | .error problem => return failure none [] [] [] problem
        | .ok level => runGroup level group rest

def run (arguments : List Text) : Run Outcome := do
  match Arguments.read commonOptions false arguments with
  | none => return usage none
  | some a =>
    match ← Run.apart 0 (runArguments a) with
    | (.ok outcome, _) => return outcome
    | (.error problem, _) => return failure none [] [] [] problem

end NfsVolume.CommandLine
