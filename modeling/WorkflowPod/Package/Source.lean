import WorkflowPod.Text.Search
import WorkflowPod.Url.Basic
import WorkflowPod.Workflow.Spec

/-!
Where the package of a workflow comes from. The start of the address decides before the path does,
and a config map or an earlier run goes with nothing else.
-/
namespace WorkflowPod

open Workflow

/-- Why a workflow cannot be run as it is specified. -/
inductive SpecFault where
  /-- Two settings exclude each other. -/
  | conflict (reason : String)
  /-- A setting is missing. -/
  | incomplete (reason : String)
  /-- The package address is no URL with a host. -/
  | malformedUrl (url reason : String)
  deriving DecidableEq, Repr

def SpecFault.message : SpecFault → String
  | conflict reason => "conflicting workflow spec: " ++ reason
  | incomplete reason => "incomplete workflow spec: " ++ reason
  | malformedUrl url reason => "malformed package url '" ++ url ++ "': " ++ reason

namespace Package

inductive Source where
  /-- A repository over https; the path has no slash at its start. -/
  | https (url host path : String)
  /-- A repository over ssh. -/
  | ssh (url : String)
  /-- A definition in a config map. -/
  | configMap (name : String)
  /-- A directory on a volume of the pod. -/
  | volumePath
  /-- The directory of an earlier run. -/
  | earlierRun (name : String)
  deriving DecidableEq, Repr

/-- A source without what it holds. -/
inductive SourceKind where
  | https
  | ssh
  | configMap
  | volumePath
  | earlierRun
  deriving DecidableEq, Repr

def SourceKind.name : SourceKind → String
  | https => "https"
  | ssh => "ssh"
  | configMap => "configMap"
  | volumePath => "fromPath"
  | earlierRun => "instance"

namespace Source

def kind : Source → SourceKind
  | https .. => .https
  | ssh _ => .ssh
  | configMap _ => .configMap
  | volumePath => .volumePath
  | earlierRun _ => .earlierRun

def needsFetch : Source → Bool
  | https .. | ssh _ | configMap _ => true
  | volumePath | earlierRun _ => false

def ofHttps (url : String) : Except SpecFault Source :=
  match Url.parse url with
  | .error fault => .error (.malformedUrl url fault.message)
  | .ok parsed =>
    match parsed.location? with
    | none => .error (.malformedUrl url "missing host")
    | some host =>
      .ok (.https url host (String.ofList (parsed.path.dropWhile (· == '/'))))

/-- The source an address or a path names. -/
def ofLocation (package : Workflow.Package) : Except SpecFault (Option Source) :=
  let url := (given package.url).getD ""
  if Text.startsWith "https".toList url.toList then some <$> ofHttps url
  else if Text.startsWith "git@".toList url.toList then .ok (some (.ssh url))
  else if (given package.fromPath).isSome then .ok (some .volumePath)
  else .ok none

def ofPackage (package : Workflow.Package) : Except SpecFault (Option Source) := do
  let location ← ofLocation package
  match given package.fromConfigMap, location with
  | none, _ => return location
  | some name, none => return some (.configMap name)
  | some _, some source =>
    throw (.conflict ("spec.package.fromConfigMap set but package is already configured as " ++
      source.kind.name))

def classify (spec : Workflow.Spec) : Except SpecFault Source := do
  let packaged ← match spec.package with
    | some package => ofPackage package
    | none => pure none
  match given spec.instanceName, packaged with
  | none, some source => return source
  | some name, none => return .earlierRun name
  | some _, some _ => throw (.conflict "spec.instance and spec.package are mutually exclusive")
  | none, none =>
    throw (.incomplete "workflow does not have a populated spec.package or spec.instance")

end Source

end Package

end WorkflowPod
