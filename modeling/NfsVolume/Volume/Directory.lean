import NfsVolume.World.Files

/-!
The directories behind volumes: making them in the export directory, giving them a group, and
removing them again.
-/
namespace NfsVolume.Volume

/-- Others may enter the directory and no more; access comes from the group. -/
def directoryMode : Nat := 0o071

def refuseDirectory {α : Type} (path : Text) (problem : DirectoryProblem) : Run α :=
  throw (.provisioning (.directory path problem))

def availableOctets (exportDirectory : Text) : Run Int :=
  Run.onOsError (Files.freeOctets exportDirectory) fun e => refuseDirectory exportDirectory (.statvfs e)

/-- The directory is removed; what goes wrong is only written to the log. -/
def release (path : Text) : Run Unit :=
  Run.onOsError (Files.removeDirectory path) fun e =>
    if e.errno = Errno.noEntry then pure ()
    else
      Run.onOsError (Files.removeTree path) fun e =>
        Run.log .error .directories
          ("Failed to remove " ++ path ++ " during rollback: " ++ e.message)

def refuseCapacity {α : Type} (available requested : Int) : Run α :=
  if Text.Integer.tooLong available || Text.Integer.tooLong requested then
    throw (.value .unwritable)
  else throw (.provisioning (.insufficientCapacity available requested))

/-- A new directory for a volume, if its path is free and there is enough space. -/
def allocate (exportDirectory name : Text) (capacity : Int) : Run Text := do
  let path := Path.join exportDirectory name
  if ← Files.isPresent path then refuseDirectory path .occupied
  let available ← availableOctets exportDirectory
  if available < capacity then refuseCapacity available capacity
  Run.onOsError (Files.makeDirectories path directoryMode) fun e => refuseDirectory path (.mkdir e)
  Run.onOsError (Files.changeMode path directoryMode) fun e => do
    release path
    refuseDirectory path (.chmod e)
  return path

def setGroup (path : Text) (gid : Int) : Run Unit :=
  Run.onOsError (Files.changeGroup path gid) fun e => refuseDirectory path (.chgrp gid e)

end NfsVolume.Volume
