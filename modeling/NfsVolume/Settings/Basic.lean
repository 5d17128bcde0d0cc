import NfsVolume.Text.Basic

/-!
The settings of a provisioner: where volumes go, how they are exported, and where it learns about
the pod and the cluster it runs in.
-/
namespace NfsVolume

structure Settings where
  exportDirectory : Text
  useGanesha : Bool
  ganeshaFile : Text
  exportsFile : Text
  annotationsFile : Text
  /-- Names of environment variables. -/
  podIpVariable : Text
  serviceVariable : Text
  namespaceVariable : Text
  clusterUrl : Text
  tokenFile : Text
  bundleFile : Text
  clusterTimeout : Int
  host : Text
  port : Int
  logLevel : Text
  deriving DecidableEq, Repr

def Settings.standard : Settings where
  exportDirectory := "/export/"
  useGanesha := true
  ganeshaFile := "/export/vfs.conf"
  exportsFile := "/etc/exports"
  annotationsFile := "/podinfo/annotations"
  podIpVariable := "MY_POD_IP"
  serviceVariable := "MY_SERVICE_NAME"
  namespaceVariable := "MY_POD_NAMESPACE"
  clusterUrl := "https://kubernetes.default.svc"
  tokenFile := "/var/run/secrets/kubernetes.io/serviceaccount/token"
  bundleFile := "/var/run/secrets/kubernetes.io/serviceaccount/ca.crt"
  clusterTimeout := 10
  host := "127.0.0.1"
  port := 8080
  logLevel := "INFO"

end NfsVolume
