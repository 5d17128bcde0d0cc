import NfsVolume.Text.Integer

/-!
Options of the service. The name of an option may be cut short as long as only one option begins
with what is left. A value stands behind an equals sign or is the next argument, unless that looks
like an option itself.
-/
namespace NfsVolume.Service

structure Options where
  host : Option Text
  port : Option Int
  logLevel : Option Text
  deriving DecidableEq, Repr

namespace Options

def empty : Options := ⟨none, none, none⟩

inductive Reading where
  | misused
  | help
  | options (o : Options)
  deriving DecidableEq, Repr

inductive Token where
  | word
  | help
  | badHelp
  | option (name : Text) (value : Option Text)
  | unknown
  | ambiguous
  deriving DecidableEq, Repr

def longHelp : Text := "--help"
def hostName : Text := "--host"
def portName : Text := "--port"
def levelName : Text := "--log-level"

/-- The long names of options. -/
def longNames : List Text := [longHelp, hostName, portName, levelName]

/-- What an option with a long name is, with the value behind its equals sign. -/
def named (name : Text) (value : Option Text) : Token :=
  if name = longHelp then (if value.isSome then .badHelp else .help) else .option name value

/-- Letters behind `-h`, or behind an equals sign there: each must ask for help again. -/
def lettersOfHelp : Text → Token
  | ['='] => .badHelp
  | '=' :: rest | rest => if rest.all (· = 'h') then .help else .badHelp

/-- Digits with or without a point among them, behind a minus sign; a line break may follow. -/
def isNegativeNumber (argument : Text) : Bool :=
  match argument.dropFinalBreak with
  | '-' :: body =>
    let isDigit (c : Char) := (Text.asciiDigit? c).isSome
    match Text.cut? '.' body with
    | none => !body.isEmpty && body.all isDigit
    | some (whole, fraction) => whole.all isDigit && !fraction.isEmpty && fraction.all isDigit
  | _ => false

def ofUnknown (argument : Text) : Token :=
  if isNegativeNumber argument || ' ' ∈ argument then .word else .unknown

def ofLong (argument : Text) : Token :=
  let name := argument.takeWhile (· ≠ '=')
  let value := if '=' ∈ argument then some (argument.drop (name.length + 1)) else none
  if longNames.contains name then named name value
  else
    match longNames.filter fun n => n.startsWith name with
    | [] => ofUnknown argument
    | [full] => named full value
    | _ => .ambiguous

def classify (argument : Text) : Token :=
  match argument with
  | '-' :: '-' :: _ => ofLong argument
  | '-' :: 'h' :: rest => lettersOfHelp rest
  | '-' :: _ :: _ => ofUnknown argument
  | _ => .word

/-- An option gets its value; a port must be a whole number. -/
def set (o : Options) (name value : Text) : Option Options :=
  if name = hostName then some { o with host := some value }
  else if name = levelName then some { o with logLevel := some value }
  else
    match Text.Integer.read value with
    | .ok port => some { o with port := some port }
    | .error _ => none

/-- Takes the arguments in order; `extra` says that one of them was out of place, which counts
unless help is asked for later on. -/
def take (o : Options) (extra : Bool) : List Text → Reading
  | [] => if extra then .misused else .options o
  | argument :: rest =>
    if argument = ("--" : Text) then .misused
    else
      match classify argument with
      | .help => .help
      | .badHelp | .ambiguous => .misused
      | .word | .unknown => take o true rest
      | .option name (some value) =>
        match set o name value with
        | some o => take o extra rest
        | none => .misused
      | .option name none =>
        match rest with
        | value :: rest =>
          if classify value = .word then
            match set o name value with
            | some o => take o extra rest
            | none => .misused
          else .misused
        | [] => .misused

/-- The options that arguments give. An argument that could be several options is refused before
any other is looked at. -/
def read (arguments : List Text) : Reading :=
  if (arguments.takeWhile (· ≠ ("--" : Text))).any fun a => classify a = .ambiguous then .misused
  else take empty false arguments

end Options
end NfsVolume.Service
