import WorkflowPod.Operator.Environment
import WorkflowPod.Text.Quoted
import WorkflowPod.Url.Address
import WorkflowPod.Url.Endpoint

/-!
How a program finds its cluster: by a file, or by what a cluster gives the programs that run in it.
Here the files of either are missing.
-/
namespace WorkflowPod.Cluster

open Operator

/-- Why a program cannot tell that it runs in a cluster. -/
inductive InsideFault where
  | missingVariable
  | port (fault : Text.IntegerFault)
  | address (fault : Url.EndpointFault)
  | missingFile
  deriving DecidableEq, Repr

def missingFileMessage : String := "No such file or directory (os error 2)"

def InsideFault.message : InsideFault → String
  | missingVariable =>
    "failed to read an incluster environment variable: environment variable not found"
  | port fault => "failed to parse cluster port: " ++ fault.message
  | address fault => "failed to parse cluster url: " ++ fault.message
  | missingFile => "failed to read the default namespace: " ++ missingFileMessage

/-- Checks the address of a cluster by host and port; numeric addresses need no check. -/
def checkAddress (host : String) (port : Int) : Except Url.EndpointFault Unit :=
  if (Url.Ipv6.parse? host.toList).isSome then .ok ()
  else
    let port := if port = 443 then "" else ":" ++ toString port
    Url.Endpoint.check ("https://" ++ host ++ port)

/-- What a program finds that looks for the cluster around it. -/
def insideFault (vars : Variables) : InsideFault :=
  match vars.get? "KUBERNETES_SERVICE_HOST", vars.get? "KUBERNETES_SERVICE_PORT" with
  | some host, some port =>
    match Text.readInteger 0 65535 port.toList with
    | .error fault => .port fault
    | .ok port =>
      match checkAddress host port with
      | .error fault => .address fault
      | .ok () => .missingFile
  | _, _ => .missingVariable

def homePath (home name : String) : String :=
  if home.isEmpty ∨ home.toList.getLast? = some '/' then home ++ name else home ++ "/" ++ name

/-- The file that describes the clusters: the first of those the variables name, or else the one in
the home directory. -/
def configPath (vars : Variables) : String :=
  let named := ((vars.get? "KUBECONFIG").getD "").toList.splitOn ':'
  match named.find? (!·.isEmpty) with
  | some path => String.ofList path
  | none => homePath ((vars.get? "HOME").getD "") ".kube/config"

/-- The words for a missing description of the clusters. -/
def missingConfigMessage (vars : Variables) : String :=
  "failed to read kubeconfig from '" ++ Text.pathQuote (configPath vars) ++ "': " ++
    missingFileMessage

def unreachableMessage (vars : Variables) : String :=
  "failed to infer config: in-cluster: (" ++ (insideFault vars).message ++
    "), kubeconfig: (" ++ missingConfigMessage vars ++ ")"

end WorkflowPod.Cluster
