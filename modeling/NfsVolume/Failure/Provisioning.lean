import NfsVolume.Failure.Value
import NfsVolume.Json.Reader
import NfsVolume.World.Errno

/-!
Failures of provisioning. Each has a kind with a fixed wording, in which fields stand for what
differs; the causes say what happened.
-/
namespace NfsVolume

inductive RequestProblem where
  | parameters
  | selector
  | name (problem : ValueProblem)
  | capacity
  deriving DecidableEq, Repr

inductive DirectoryProblem where
  | occupied
  | statvfs (e : OsError)
  | mkdir (e : OsError)
  | chmod (e : OsError)
  | chgrp (gid : Int) (e : OsError)
  deriving DecidableEq, Repr

/-- Why a running file server did not take up an export. -/
inductive ActivationProblem where
  | reexportNotStarted (e : OsError)
  | reexportFailed (errors : Text)
  | callNotStarted (e : OsError)
  | callFailed (errors : Text)
  deriving DecidableEq, Repr

inductive LookupProblem where
  | timedOut (path : Text) (seconds : Int)
  | failed (path reason : Text)
  | refused (path : Text) (status : Int) (body : Text)
  | unreadable (path : Text) (e : Json.ReadError)
  deriving DecidableEq, Repr

inductive ServerProblem where
  | hostnameNotStarted (e : OsError)
  | hostnameFailed (errors : Text)
  | noNamespace (serviceVariable namespaceVariable : Text)
  | lookup (space service : Text) (problem : LookupProblem)
  | foreignEndpoints (space service address : Text)
  | noClusterIp (space service : Text)
  deriving DecidableEq, Repr

inductive ProvisioningError where
  | invalidRequest (problem : RequestProblem)
  | insufficientCapacity (available requested : Int)
  | directory (path : Text) (problem : DirectoryProblem)
  | activation (problem : ActivationProblem)
  | exportFile (path : Text) (e : OsError)
  | server (problem : ServerProblem)
  | noGroups
  | cluster (problem : LookupProblem)
  deriving DecidableEq, Repr

/-- Export calls go to this method of the file server. -/
def addExportMethod : Text := "org.ganesha.nfsd.exportmgr.AddExport"

/-- The program that makes calls on the system bus. -/
def busProgram : Text := "dbus-send"

/-- The ports of a file server with their protocols, in order. -/
def expectedPorts : List (Nat × Text) :=
  [(111, "TCP"), (111, "UDP"), (2049, "TCP"), (20048, "TCP")]

def Json.ReadError.message : Json.ReadError → Text
  | .malformed fault line column position =>
    fault.message ++ ": line " ++ Text.decimal line ++ " column " ++ Text.decimal column ++
      " (char " ++ Text.decimal position ++ ")"
  | .tooManyDigits count => ValueProblem.integerMessage (.tooManyDigits count)
  | .tooDeep kind =>
    "maximum recursion depth exceeded while decoding a JSON " ++
      (match kind with
        | .object => "object"
        | _ => "array") ++
      " from a unicode string"

def RequestProblem.message : RequestProblem → Text
  | .parameters => "no StorageClass parameters are supported"
  | .selector => "claim selector is not supported"
  | .name problem => problem.message
  | .capacity => "capacity must be a positive number of bytes"

def DirectoryProblem.message : DirectoryProblem → Text
  | .occupied => "the path already exists"
  | .statvfs e => "statvfs failed: " ++ e.message
  | .mkdir e => "mkdir failed: " ++ e.message
  | .chmod e => "chmod failed: " ++ e.message
  | .chgrp gid e => "chgrp " ++ Text.integer gid ++ " failed: " ++ e.message

def ActivationProblem.message : ActivationProblem → Text
  | .reexportNotStarted e => "exportfs -r failed: " ++ e.message
  | .reexportFailed errors => "exportfs -r failed: " ++ errors
  | .callNotStarted e => "Failed to run " ++ busProgram ++ ": " ++ e.message
  | .callFailed errors => "Failed to call " ++ addExportMethod ++ ": " ++ errors

def LookupProblem.message : LookupProblem → Text
  | .timedOut path seconds => "GET " ++ path ++ " timed out after " ++ Text.integer seconds ++ " seconds"
  | .failed path reason => "GET " ++ path ++ " failed: " ++ reason
  | .refused path status body =>
    "GET " ++ path ++ " returned " ++ Text.integer status ++ ": " ++ body
  | .unreadable path e => "GET " ++ path ++ " returned invalid JSON: " ++ e.message

namespace ProvisioningError

inductive Kind where
  | invalidRequest
  | insufficientCapacity
  | directory
  | activation
  | exportFile
  | server
  | noGroups
  | cluster
  deriving DecidableEq, Repr

def kind : ProvisioningError → Kind
  | .invalidRequest .. => .invalidRequest
  | .insufficientCapacity .. => .insufficientCapacity
  | .directory .. => .directory
  | .activation .. => .activation
  | .exportFile .. => .exportFile
  | .server .. => .server
  | .noGroups => .noGroups
  | .cluster .. => .cluster

/-- A piece of a wording: fixed text, or a field by its name. -/
inductive Piece where
  | fixed (text : Text)
  | field (name : Text)
  deriving DecidableEq, Repr

def Kind.wording : Kind → List Piece
  | .invalidRequest => [.fixed "Invalid volume request: ", .field "details"]
  | .insufficientCapacity =>
    [.fixed "Not enough available space ", .field "available",
      .fixed " bytes to satisfy claim for ", .field "requested", .fixed " bytes"]
  | .directory => [.fixed "Filesystem error for ", .field "path", .fixed ": ", .field "details"]
  | .activation => [.fixed "Export backend error: ", .field "details"]
  | .exportFile =>
    [.fixed "Error updating export config ", .field "path", .fixed ": ", .field "details"]
  | .server => [.fixed "Error getting NFS server address: ", .field "details"]
  | .noGroups => [.fixed "Error generating supplemental group: ", .field "details"]
  | .cluster => [.fixed "Kubernetes API error: ", .field "details"]

/-- The wording as a template in which `%(name)s` stands for a field. -/
def Kind.template (k : Kind) : Text :=
  k.wording.flatMap fun
    | .fixed text => text
    | .field name => "%(" ++ name ++ ")s"

def lookupMessage (problem : LookupProblem) : Text :=
  (Kind.wording .cluster).flatMap fun
    | .fixed text => text
    | .field _ => problem.message

end ProvisioningError

def ServerProblem.message : ServerProblem → Text
  | .hostnameNotStarted e => "hostname -i failed: " ++ e.message
  | .hostnameFailed errors => "hostname -i failed: " ++ errors
  | .noNamespace serviceVariable namespaceVariable =>
    "service env " ++ serviceVariable ++ " is set but namespace env " ++ namespaceVariable ++ " isn't"
  | .lookup space service problem =>
    "error getting service " ++ space ++ "/" ++ service ++ ": " ++
      ProvisioningError.lookupMessage problem
  | .foreignEndpoints space service address =>
    "service " ++ space ++ "/" ++ service ++ " is not valid; check that it has for ports " ++
      Text.join ", " (expectedPorts.map fun p => Text.decimal p.1 ++ "/" ++ p.2) ++
      " one endpoint, this pod's IP " ++ address
  | .noClusterIp space service =>
    "service " ++ space ++ "/" ++ service ++ " is valid but has no cluster IP"

namespace ProvisioningError

/-- What the fields of the wording stand for. -/
def fields : ProvisioningError → List (Text × Text)
  | .invalidRequest problem => [("details", problem.message)]
  | .insufficientCapacity available requested =>
    [("available", Text.integer available), ("requested", Text.integer requested)]
  | .directory path problem => [("path", path), ("details", problem.message)]
  | .activation problem => [("details", problem.message)]
  | .exportFile path e => [("path", path), ("details", e.message)]
  | .server problem => [("details", problem.message)]
  | .noGroups => [("details", "provisioner has empty ranges")]
  | .cluster problem => [("details", problem.message)]

def message (e : ProvisioningError) : Text :=
  e.kind.wording.flatMap fun
    | .fixed text => text
    | .field name => (e.fields.lookup name).getD []

theorem message_activation (problem : ActivationProblem) :
    (ProvisioningError.activation problem).message =
      ("Export backend error: " : String).toList ++ problem.message := by
  simp [message, kind, Kind.wording, fields]

end ProvisioningError
end NfsVolume
