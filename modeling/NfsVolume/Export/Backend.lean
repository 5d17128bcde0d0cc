import NfsVolume.Export.Ledger
import NfsVolume.Settings.Basic
import NfsVolume.World.Outside

/-!
Exporting a directory through one of two file servers: an entry is appended to the server's file,
and the server is told. If it does not take the export up, the entry is removed again.
-/
namespace NfsVolume

inductive ExportKind where
  | kernel
  | ganesha
  deriving DecidableEq, Repr

def ExportKind.name : ExportKind → Text
  | .kernel => "kernel"
  | .ganesha => "ganesha"

/-- What has been added to an export file for a volume; the kernel's entries have the id zero. -/
structure ExportRecord where
  kind : ExportKind
  content : Text
  exportId : Int
  deriving DecidableEq, Repr

/-- A file server with its export file. -/
structure ExportBackend where
  kind : ExportKind
  file : Text
  deriving DecidableEq, Repr

namespace ExportBackend

def ofSettings (s : Settings) : ExportBackend :=
  if s.useGanesha then ⟨.ganesha, s.ganeshaFile⟩ else ⟨.kernel, s.exportsFile⟩

/-- Whether a server has taken up an export, by the answer of the program that tells it. -/
def accepted (notStarted : OsError → ActivationProblem) (failed : Text → ActivationProblem) :
    Except OsError (Int × Text × Text) → Except ActivationProblem Unit
  | .error e => .error (notStarted e)
  | .ok (status, _, errors) => if status ≠ 0 then .error (failed errors) else .ok ()

/-- The kernel's server takes up its whole file anew. -/
def reexport : Run (Except ActivationProblem Unit) := do
  return accepted .reexportNotStarted .reexportFailed (← Outside.runCommand "exportfs" ["-r"])

def callArguments (file path : Text) : List Text := [
  "--system", "--print-reply", "--dest=org.ganesha.nfsd", "/org/ganesha/nfsd/ExportMgr",
  addExportMethod, "string:" ++ file, "string:export(path = " ++ path ++ ")"]

/-- Ganesha is asked to add the exports of a path in its file. -/
def callAddExport (file path : Text) : Run (Except ActivationProblem Unit) := do
  Run.log .debug .exports ("Calling " ++ addExportMethod ++ " export(path = " ++ path ++ ")")
  return accepted .callNotStarted .callFailed
    (← Outside.runCommand busProgram (callArguments file path))

/-- An entry is removed again. That the file cannot be changed is only written to the log. -/
def rollBack (file content : Text) : Run Unit :=
  tryCatch (Ledger.remove file content) fun
    | .provisioning (.exportFile path e) =>
      Run.log .error .exports
        ("Failed to remove export entry from " ++ file ++ " during rollback: " ++
          (ProvisioningError.exportFile path e).message)
    | problem => throw problem

/-- The entry stays if the server has taken it up, and is rolled back otherwise. -/
def settle (file content : Text) : Except ActivationProblem Unit → Run Unit
  | .ok () => pure ()
  | .error problem => do
    rollBack file content
    throw (.provisioning (.activation problem))

def entryFor (path : Text) (id : Nat) : Except Failure Text :=
  if Text.Integer.tooLong id then .error (.value .unwritable) else .ok (Export.ganeshaBlock id path)

def add (b : ExportBackend) (path : Text) : Run ExportRecord := do
  match b.kind with
  | .kernel =>
    let line := Export.kernelLine path
    Ledger.append b.file line
    settle b.file line (← reexport)
    Run.log .info .exports ("Exported " ++ path ++ " via " ++ b.file)
    return ⟨.kernel, line, 0⟩
  | .ganesha =>
    let (id, block) ← Ledger.appendWithId b.file (entryFor path)
    settle b.file block (← callAddExport b.file path)
    Run.log .info .exports
      ("Exported " ++ path ++ " via ganesha with Export_Id " ++ Text.decimal id)
    return ⟨.ganesha, block, id⟩

end ExportBackend
end NfsVolume
