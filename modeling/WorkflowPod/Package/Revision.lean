/-! Which revision of a repository is checked out. -/
namespace WorkflowPod.Package

inductive Revision where
  | commit (id : String)
  | branch (name : String)
  | standard
  deriving DecidableEq, Repr

namespace Revision

/-- The commit if one is named, else the branch. -/
def commitFirst (branch commit : Option String) : Revision :=
  match commit, branch with
  | some id, _ => .commit id
  | none, some name => .branch name
  | none, none => .standard

/-- The branch if one is named, else the commit. -/
def branchFirst (branch commit : Option String) : Revision :=
  match branch, commit with
  | some name, _ => .branch name
  | none, some id => .commit id
  | none, none => .standard

end Revision

end WorkflowPod.Package
