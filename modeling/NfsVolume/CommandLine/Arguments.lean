import NfsVolume.Text.Basic

/-!
Arguments of a command: options with values, `--help`, and the words that are neither. The value
of an option stands behind an equals sign or is the next argument, whatever that is, and `--` ends
the options.
-/
namespace NfsVolume.CommandLine

structure Arguments where
  /-- Options with their values, in order. -/
  options : List (Text × Text)
  help : Bool
  words : List Text
  deriving DecidableEq, Repr

namespace Arguments

def ofWords (words : List Text) : Arguments := ⟨[], false, words⟩

def isOption (argument : Text) : Bool := argument.head? = some '-' && argument ≠ ['-']

/-- The name of an option and what stands behind its equals sign. -/
def cut (argument : Text) : Text × Option Text :=
  match Text.cut? '=' argument with
  | some (name, value) => (name, some value)
  | none => (argument, none)

def withOption (name value : Text) (a : Arguments) : Arguments :=
  { a with options := (name, value) :: a.options }

def withHelp (a : Arguments) : Arguments := { a with help := true }

def withWord (word : Text) (a : Arguments) : Arguments := { a with words := word :: a.words }

/-- The arguments read with the names of the options that take a value, or none if they are
misused. Where options and words do not mix, the first word ends the options. -/
def read (valued : List Text) (mixed : Bool) : List Text → Option Arguments
  | [] => some (ofWords [])
  | argument :: rest =>
    if argument = ("--" : Text) then some (ofWords rest)
    else if isOption argument then
      match valued.contains (cut argument).1, (cut argument).2 with
      | true, some value => (read valued mixed rest).map (withOption (cut argument).1 value)
      | true, none =>
        match rest with
        | [] => none
        | value :: rest => (read valued mixed rest).map (withOption argument value)
      | false, some _ => none
      | false, none =>
        if argument = ("--help" : Text) then (read valued mixed rest).map withHelp else none
    else if mixed then (read valued mixed rest).map (withWord argument)
    else some (ofWords (argument :: rest))

/-- The values of an option, in order. -/
def values (a : Arguments) (name : Text) : List Text :=
  a.options.filterMap fun o => if o.1 = name then some o.2 else none

/-- The last value of an option. -/
def value? (a : Arguments) (name : Text) : Option Text := (a.values name).getLast?

end Arguments
end NfsVolume.CommandLine
