import WorkflowPod.Package.Revision
import WorkflowPod.Path.Lexical
import WorkflowPod.Text.Quoted

/-! The commands that fetch a package, one for each source that has to be fetched. -/
namespace WorkflowPod.Package

/-- A command of a container; without words of its own it is the image's. -/
structure Command where
  words : Option (List String)
  args : List String
  deriving DecidableEq, Repr

def fetchRoot : String := "/tmp/git"

/-- The directory of the credentials of a repository. -/
def secretRoot : String := "/etc/git-secret"

/-- The directory of a package definition from a config map. -/
def definitionRoot : String := "/etc/flowir_package"

def tokenFile : String := "/etc/git-secret/oauth-token"

def keyFile : String := "/etc/git-secret/ssh"

/-- A repository fetched over https by a shell script. -/
structure HttpsFetch where
  destination : String
  url : String
  /-- Host and path, for an address with the access token in it. -/
  hostPath : String
  /-- Whether there is an access token. -/
  credential : Bool
  revision : Revision
  deriving DecidableEq, Repr

namespace HttpsFetch

/-- The fetch of a repository into the directory with the last element of its address. -/
def of (url host path : String) (credential : Bool) (revision : Revision) : HttpsFetch where
  destination := fetchRoot ++ "/" ++ Path.baseName url
  url := url
  hostPath := host ++ "/" ++ path
  credential := credential
  revision := revision

/-- The address the script uses; the token is read when the script runs. -/
def remote (f : HttpsFetch) : String :=
  if f.credential then "https://`cat " ++ tokenFile ++ "`@" ++ Text.shellQuote f.hostPath
  else Text.shellQuote f.url

def checkout (f : HttpsFetch) : List String :=
  let destination := Text.shellQuote f.destination
  let clone := "git clone --recurse-submodules --depth=1 " ++ f.remote ++ " " ++ destination
  match f.revision with
  | .commit id =>
    ["mkdir -p " ++ destination, "cd " ++ destination, "git init .",
      "git remote add origin " ++ f.remote,
      "git fetch --depth 1 origin " ++ Text.shellQuote id, "git checkout FETCH_HEAD"]
  | .branch name => [clone ++ " --branch=" ++ Text.shellQuote name]
  | .standard => [clone]

/-- The commands after it: the address must not stay behind with the token in it. -/
def cleanup (f : HttpsFetch) : List String :=
  let destination := Text.shellQuote f.destination
  ["git -C " ++ destination ++ " submodule update --remote",
    "git -C " ++ destination ++ " remote remove origin"]

/-- The script: each command runs if those before it succeed. -/
def render (f : HttpsFetch) : String :=
  " && ".intercalate (f.checkout ++ f.cleanup)

def command (f : HttpsFetch) : Command := ⟨some ["/bin/sh", "-c"], [f.render]⟩

end HttpsFetch

/-- A repository fetched once over ssh. -/
def sshFetch (url : String) (revision : Revision) : Command where
  words := none
  args :=
    ["--one-time", "--depth=1", "--root=/tmp/git", "--submodules=recursive", "--ssh",
      "--ssh-key-file=" ++ keyFile] ++
    (match revision with
      | .branch name => ["--branch=" ++ name]
      | .commit id => ["--rev=" ++ id]
      | .standard => []) ++
    ["--repo", url]

/-- A package made from its definition in a config map. -/
def expandDefinition : Command where
  words := some ["/bin/expand_package.py"]
  args := [definitionRoot ++ "/package.json", fetchRoot ++ "/"]

end WorkflowPod.Package
