import NfsVolume.Failure.Settings
import NfsVolume.Text.Blank
import NfsVolume.Text.Case

/-!
Settings files: sections with options, one to a line. A line that is indented further than its
option continues the option's value, and so does an empty line; lines that start with `#` or `;`
are comments. The options of the section `DEFAULT` hold for every section.
-/
namespace NfsVolume.Ini

/-- Options with the lines of their values. -/
abbrev Options := List (Text × List Text)

structure Section where
  name : Text
  options : Options
  deriving DecidableEq, Repr

def defaultName : Text := "DEFAULT"

structure File where
  sections : List Section
  defaults : Options
  deriving DecidableEq, Repr

/-- What has been read so far. Sections come last first, and the first of them is the current one
unless the defaults are. -/
structure State where
  sections : List Section
  defaults : Options
  inDefaults : Bool
  /-- The option whose value may go on, and how far its line is indented. -/
  option : Option Text
  indent : Nat
  bad : List BadLine
  deriving DecidableEq, Repr

def State.start : State := ⟨[], [], false, none, 0, []⟩

/-- The options of the current section, if there is one. -/
def State.options? (s : State) : Option Options :=
  if s.inDefaults then some s.defaults else s.sections.head?.map (·.options)

def State.withOptions (s : State) (options : Options) : State :=
  if s.inDefaults then { s with defaults := options }
  else
    match s.sections with
    | [] => s
    | current :: rest => { s with sections := { current with options := options } :: rest }

def State.heading (s : State) : Text :=
  if s.inDefaults then defaultName else (s.sections.head?.map (·.name)).getD []

def extend (name line : Text) : Options → Options
  | [] => []
  | (key, lines) :: rest =>
    if key = name then (key, lines ++ [line]) :: rest else (key, lines) :: extend name line rest

/-- A further line of the current value. -/
def State.continueValue (s : State) (line : Text) : State :=
  match s.option, s.options? with
  | some name, some options => s.withOptions (extend name line options)
  | _, _ => s

def isComment (trimmed : Text) : Bool := trimmed.head? = some '#' || trimmed.head? = some ';'

/-- The name between the first bracket of a line and its last one. -/
def header? : Text → Option Text
  | '[' :: rest =>
    let name := ((rest.reverse.dropWhile (· ≠ ']')).drop 1).reverse
    if ']' ∈ rest && !name.isEmpty then some name else none
  | _ => none

def isDelimiter (c : Char) : Bool := c = '=' || c = ':'

/-- The name and the value on the line of an option. -/
def option? (trimmed : Text) : Option (Text × Text) :=
  (Text.cutWhere? isDelimiter trimmed).map fun p => (p.1.stripEnd, p.2.2.strip)

def openSection (file : Text) (number : Nat) (s : State) (name : Text) :
    Except SettingsProblem State :=
  if s.sections.any fun t => t.name = name then .error (.repeatedSection file number name)
  else if name = defaultName then .ok { s with inDefaults := true, option := none }
  else .ok { s with sections := ⟨name, []⟩ :: s.sections, inDefaults := false, option := none }

def addOption (file : Text) (number : Nat) (s : State) (options : Options) (name value : Text) :
    Except SettingsProblem State :=
  if options.any fun o => o.1 = name then .error (.repeatedOption file number s.heading name)
  else
    .ok { s.withOptions (options ++ [(name, [value])]) with
      option := if name.isEmpty then none else some name }

def State.markBad (s : State) (number : Nat) (line : Text) : State :=
  { s with bad := s.bad ++ [⟨number, line⟩] }

/-- A line that starts a section or an option. -/
def readHead (file : Text) (number : Nat) (line : Text) (s : State) : Except SettingsProblem State :=
  match header? line.strip with
  | some name => openSection file number s name
  | none =>
    match s.options? with
    | none => .error (.noSection file ⟨number, line⟩)
    | some options =>
      match option? line.strip with
      | none => .ok (s.markBad number line)
      | some (name, value) =>
        let s := if name.isEmpty then s.markBad number line else s
        addOption file number s options name.lower value

def readLine (file : Text) (number : Nat) (line : Text) (s : State) : Except SettingsProblem State :=
  let indent := (line.takeWhile Text.isBlank).length
  if line.strip.isEmpty then .ok (s.continueValue [])
  else if isComment line.strip then .ok s
  else if s.option.isSome && s.indent < indent then .ok (s.continueValue line.strip)
  else readHead file number line { s with indent := indent }

/-- Lines are numbered from the given number on. -/
def readLines (file : Text) : Nat → List Text → State → Except SettingsProblem State
  | _, [], s => .ok s
  | number, line :: rest, s =>
    match readLine file number line s with
    | .error problem => .error problem
    | .ok s => readLines file (number + 1) rest s

def State.finish (file : Text) (s : State) : Except SettingsProblem File :=
  if s.bad.isEmpty then .ok ⟨s.sections.reverse, s.defaults⟩ else .error (.badLines file s.bad)

def valueText (lines : List Text) : Text := (Text.join "\n" lines).stripEnd

/-- The values that hold for a section, its own before the defaults. -/
def File.values? (f : File) (name : Text) : Option (List (Text × Text)) :=
  (f.sections.find? fun s => s.name = name).map fun s =>
    (s.options ++ f.defaults).map fun o => (o.1, valueText o.2)

end NfsVolume.Ini
