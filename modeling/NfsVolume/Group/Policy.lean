import NfsVolume.Group.Blocks
import NfsVolume.Json.Access

/-!
The ranges that cluster objects impose: a security context constraint, a pod security policy, or
the annotations of a namespace.
-/
namespace NfsVolume.Group

def mustRunAs : Text := "MustRunAs"
def groupsKey : Text := "openshift.io/sa.scc.supplemental-groups"
def usersKey : Text := "openshift.io/sa.scc.uid-range"

def isText (v : Json) (s : Text) : Bool :=
  match v with
  | .text t => t = (s : RawText)
  | _ => false

/-- The ranges of a strategy, which imposes them only if its rule says so. -/
def rangesOfStrategy (ruleName : Text) (strategy : Json) : Run (List GroupRange) := do
  let rule ← Run.ofExcept (strategy.member ruleName)
  if !isText rule mustRunAs then return []
  parseRanges (← Run.ofExcept (strategy.member "ranges"))

def rangesOfConstraint (constraint : Json) : Run (List GroupRange) := do
  if constraint.isEmpty then return []
  rangesOfStrategy "type" (← Run.ofExcept (constraint.inside "supplementalGroups"))

def rangesOfPolicy (policy : Json) : Run (List GroupRange) := do
  if policy.isEmpty then return []
  let body ← Run.ofExcept (policy.inside "spec")
  rangesOfStrategy "rule" (← Run.ofExcept (body.inside "supplementalGroups"))

/-- The ranges that are set aside for a namespace: those of its groups, or else of its users. -/
def rangesOfNamespace (object : Json) : Except Failure (List GroupRange) := do
  if object.isEmpty then return []
  let annotations ← (← object.inside "metadata").inside "annotations"
  let groups ← annotations.member groupsKey
  let value ← if groups.isEmpty then annotations.member usersKey else pure groups
  if value.isEmpty then return []
  parseBlocksValue value

end NfsVolume.Group
