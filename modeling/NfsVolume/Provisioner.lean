import NfsVolume.Group.Pick
import NfsVolume.Group.Resolve
import NfsVolume.Server
import NfsVolume.Volume.Directory
import NfsVolume.Volume.Manifest

/-!
Provisioning a volume: its directory is made, given a group and exported. When a later step fails,
the directory is removed again.
-/
namespace NfsVolume

structure Provisioner where
  exportDirectory : Text
  backend : ExportBackend
  locator : ServerLocator
  ranges : List GroupRange
  deriving DecidableEq, Repr

namespace Provisioner

/-- A provisioner with a new ledger; the ranges of group ids are resolved once and for all. -/
def ofSettings (s : Settings) : Run Provisioner := do
  let cluster ← Cluster.ofSettings s
  let space ← Run.environment s.namespaceVariable
  let ranges ← Group.resolve cluster s.annotationsFile space
  Ledger.setLast 0
  return ⟨s.exportDirectory, .ofSettings s, .ofSettings cluster s, ranges⟩

/-- The directory gets its group and is exported. -/
def equip (p : Provisioner) (path : Text) : Run (Int × ExportRecord) := do
  let gid ← Group.pickGroup p.ranges
  Volume.setGroup path gid
  let record ← p.backend.add path
  return (gid, record)

def warnRemoval (name path : Text) (problem : Failure) : Run Unit :=
  Run.log .warning .provisioning
    ("Provisioning " ++ name ++ " failed, removing " ++ path ++ ": " ++ problem.message)

def provision (p : Provisioner) (r : VolumeRequest) : Run ProvisionedVolume := do
  Run.ofExcept r.validate
  let server ← p.locator.resolve
  let path ← Volume.allocate p.exportDirectory r.name r.capacity
  let (gid, record) ← tryCatch (p.equip path) fun problem => do
    warnRemoval r.name path problem
    Volume.release path
    throw problem
  Run.log .info .provisioning
    ("Provisioned " ++ r.name ++ " at " ++ server.toText.shown ++ ":" ++ path ++ " with gid " ++
      Text.integer gid)
  return ⟨server, path, gid, record⟩

end Provisioner
end NfsVolume
