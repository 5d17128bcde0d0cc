import NfsVolume.Failure.Basic

/-!
The names of log levels and the numbers they stand for.
-/
namespace NfsVolume.LogThreshold

def names : List (Text × Nat) := [
  ("NOTSET", 0), ("DEBUG", 10), ("INFO", 20), ("WARN", 30), ("WARNING", 30), ("ERROR", 40),
  ("CRITICAL", 50), ("FATAL", 50)]

/-- A name that nobody knows stands for this level. -/
def standard : Nat := 20

/-- The name of the line layout, which is taken for a level and refused. -/
def layoutName : Text := "BASIC_FORMAT"
def layout : Text := "%(levelname)s:%(name)s:%(message)s"

/-- The name of the table of all styles of line layouts, likewise. -/
def layoutsName : Text := "_STYLES"

/-- The level of a name in capitals. -/
def ofName (name : Text) : Except Failure Nat :=
  if name = layoutName then .error (.value (.logLevel layout))
  else if name = layoutsName then .error (.shape .notLevel)
  else .ok ((names.lookup name).getD standard)

end NfsVolume.LogThreshold
