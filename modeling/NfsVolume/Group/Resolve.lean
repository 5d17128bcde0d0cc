import NfsVolume.Cluster
import NfsVolume.Group.Annotation
import NfsVolume.Group.Policy

/-!
The ranges a provisioner may use: those of the first source that has any, among the constraint
and the policy that admitted its pod and its namespace, and otherwise the default ones. A source
that cannot be looked up is passed over with a line in the log.
-/
namespace NfsVolume.Group

def constraintKey : Text := "openshift.io/scc"
def policyKey : Text := "kubernetes.io/psp"

inductive Source where
  | constraint
  | policy
  | space
  deriving DecidableEq, Repr

def Source.name : Source → Text
  | .constraint => "scc"
  | .policy => "psp"
  | .space => "namespace"

def complain (text : Text) : Run Unit := Run.log .error .groups text

/-- An annotation of the pod, empty if the file cannot be read. -/
def annotationOrNone (file key : Text) : Run Text :=
  Run.onOsError (annotationValue file key) fun e => do
    complain ("Error getting pod annotation " ++ key ++ ": " ++ e.message)
    return []

/-- The ranges of the object that an annotation names. -/
def fromAnnotated (cluster : Cluster) (file key shortName : Text) (path : Text → Text)
    (ranges : Json → Run (List GroupRange)) : Run (List GroupRange) := do
  let name ← annotationOrNone file key
  if name.isEmpty then return []
  match ← cluster.lookup (path name) with
  | .ok object => ranges object
  | .error problem =>
    complain ("Error getting provisioner pod's " ++ shortName ++ " " ++ name ++ ": " ++
      (ProvisioningError.cluster problem).message)
    return []

def fromNamespace (cluster : Cluster) (space : Text) : Run (List GroupRange) := do
  if space.isEmpty then
    warn "Provisioner namespace is unknown, skipping preallocated supplemental groups"
    return []
  match ← cluster.lookup (Cluster.namespacePath space) with
  | .error problem =>
    complain ("Error getting namespace " ++ space ++ ": " ++ (ProvisioningError.cluster problem).message)
    return []
  | .ok object =>
    match rangesOfNamespace object with
    | .ok ranges => return ranges
    | .error (.value problem) =>
      complain ("Error getting preallocated supplemental groups of " ++ space ++ ": " ++ problem.message)
      return []
    | .error problem => throw problem

def fromSource (cluster : Cluster) (file space : Text) : Source → Run (List GroupRange)
  | .constraint =>
    fromAnnotated cluster file constraintKey "scc" Cluster.constraintPath rangesOfConstraint
  | .policy => fromAnnotated cluster file policyKey "psp" Cluster.policyPath rangesOfPolicy
  | .space => fromNamespace cluster space

def inform (text : Text) : Run Unit := Run.log .info .groups text

/-- The ranges of the first source that has any. -/
def firstOf (cluster : Cluster) (file space : Text) : List Source → Run (List GroupRange)
  | [] => do
    inform ("No supplemental group ranges imposed, using default " ++
      GroupRange.listText GroupRange.defaults)
    return GroupRange.defaults
  | source :: rest => do
    let ranges ← fromSource cluster file space source
    if ranges.isEmpty then firstOf cluster file space rest
    else
      inform ("Using supplemental group ranges from " ++ source.name ++ ": " ++
        GroupRange.listText ranges)
      return ranges

def resolve (cluster : Cluster) (file space : Text) : Run (List GroupRange) :=
  firstOf cluster file space [.constraint, .policy, .space]

end NfsVolume.Group
