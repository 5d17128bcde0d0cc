import NfsVolume.Export.Entry
import NfsVolume.Text.Replace
import NfsVolume.World.Files

/-!
The ledger of exports: it appends entries to export files, removes them again, and gives out
export ids. Its count starts at zero; the first id follows the greatest one in the file, so that
ids stay unique when a new ledger takes over.
-/
namespace NfsVolume.Ledger

def refuse {α : Type} (path : Text) (e : OsError) : Run α := throw (.provisioning (.exportFile path e))

def guarded {α : Type} (path : Text) (act : Run α) : Run α := Run.onOsError act (refuse path)

def setLast (id : Nat) : Run Unit := modify fun w => { w with lastExportId := id }

/-- The count is taken up from a file. -/
def recover (path : Text) : Run Unit := do
  let current ← guarded path (Files.readText path)
  match Export.lastId current with
  | .error e => throw (.value (.integer e))
  | .ok last =>
    setLast last
    Run.log .info .ledger
      ("Recovered Export_Id counter at " ++ Text.decimal last ++ " from " ++ path)

/-- The next export id. -/
def allocateId (path : Text) : Run Nat := do
  if (← get).lastExportId = 0 then recover path
  let id := (← get).lastExportId + 1
  setLast id
  return id

def append (path content : Text) : Run Unit := guarded path (Files.append path content)

/-- Every occurrence of an entry is removed. -/
def remove (path content : Text) : Run Unit :=
  guarded path do
    let current ← Files.readExact path
    Files.rewrite path (Text.erase content current)

/-- The next export id, and the entry written for it and appended. -/
def appendWithId (path : Text) (entry : Nat → Except Failure Text) : Run (Nat × Text) := do
  let id ← allocateId path
  let content ← Run.ofExcept (entry id)
  append path content
  return (id, content)

end NfsVolume.Ledger
