import WorkflowPod.Package.Fetch
import WorkflowPod.Proofs.Text.Shell

/-!
The script that fetches a package over https, as a shell reads it. Nothing in an address or in the
name of a revision is taken for a part of the script.
-/
namespace WorkflowPod.Package

open Shell

/-- The script that puts out the access token. -/
def tokenScript : String := "cat /etc/git-secret/oauth-token"

def tokenCommand : Shell.Command := ["cat", "/etc/git-secret/oauth-token"]

/-- The address of a repository: with the access token in it, or else as it is. -/
def remoteWord (url hostPath : String) (credential : Bool) : Word :=
  if credential then literal "https://" ++ [.output tokenScript] ++ literal ("@" ++ hostPath)
  else literal url

/-- The commands that check a revision out into a directory. -/
def checkoutCommands (destination remote : Word) : Revision → List Shell.Command
  | .commit id =>
    [["mkdir", "-p", destination], ["cd", destination], ["git", "init", "."],
      ["git", "remote", "add", "origin", remote],
      ["git", "fetch", "--depth", "1", "origin", literal id], ["git", "checkout", "FETCH_HEAD"]]
  | .branch name =>
    [["git", "clone", "--recurse-submodules", "--depth=1", remote, destination,
      literal ("--branch=" ++ name)]]
  | .standard => [["git", "clone", "--recurse-submodules", "--depth=1", remote, destination]]

/-- The command that takes the address out of a checkout. -/
def forgetCommand (destination : Word) : Shell.Command :=
  ["git", "-C", destination, "remote", "remove", "origin"]

/-- The commands after it. -/
def cleanupCommands (destination : Word) : List Shell.Command :=
  [["git", "-C", destination, "submodule", "update", "--remote"], forgetCommand destination]

namespace HttpsFetch

variable (f : HttpsFetch)

theorem spells_remote : Spells f.remote (remoteWord f.url f.hostPath f.credential) := by
  unfold remote remoteWord
  split
  · have hscheme : Spells "https://" (literal "https://") := spells_fixed (by decide)
    have htoken : Spells ("\x60" ++ tokenScript ++ "\x60") [.output tokenScript] :=
      spells_output (by decide)
    have hplace : Spells ("@" ++ Text.shellQuote f.hostPath) (literal ("@" ++ f.hostPath)) := by
      rw [literal_append]
      exact (spells_fixed (by decide)).append (spells_shellQuote f.hostPath)
    have htext : "https://`cat " ++ tokenFile ++ "`@" ++ Text.shellQuote f.hostPath =
        "https://" ++ ("\x60" ++ tokenScript ++ "\x60") ++ ("@" ++ Text.shellQuote f.hostPath) := by
      rw [← String.append_assoc]
      rfl
    rw [htext]
    exact (hscheme.append htoken).append hplace
  · exact spells_shellQuote f.url

theorem reads_clone {texts : List String} {words : Shell.Command}
    (h : List.Forall₂ Spells texts words) {line : String}
    (hline : line = " ".intercalate
      (["git", "clone", "--recurse-submodules", "--depth=1"] ++ f.remote ::
        Text.shellQuote f.destination :: texts ++ [])) :
    Reads line ("git" :: "clone" :: "--recurse-submodules" :: "--depth=1" ::
      remoteWord f.url f.hostPath f.credential :: literal f.destination :: words) := by
  have hread := reads_of_eq_intercalate _ [] (by decide) (by decide) hline
    (.cons f.spells_remote (.cons (spells_shellQuote f.destination) h))
  rwa [List.map_nil, List.append_nil] at hread

theorem forall₂_reads_checkout :
    List.Forall₂ Reads f.checkout
      (checkoutCommands (literal f.destination) (remoteWord f.url f.hostPath f.credential)
        f.revision) := by
  have hdestination := spells_shellQuote f.destination
  have hremote := f.spells_remote
  unfold checkout checkoutCommands
  cases f.revision with
  | commit id =>
    have hmake := reads_of_eq_intercalate ["mkdir", "-p"] [] (by decide) (by decide) rfl
      (.cons hdestination .nil)
    have henter := reads_of_eq_intercalate ["cd"] [] (by decide) (by decide) rfl
      (.cons hdestination .nil)
    have hinit := reads_of_eq_intercalate ["git", "init", "."] [] (by decide) (by decide) rfl .nil
    have hadd := reads_of_eq_intercalate ["git", "remote", "add", "origin"] [] (by decide)
      (by decide) rfl (.cons hremote .nil)
    have hfetch := reads_of_eq_intercalate ["git", "fetch", "--depth", "1", "origin"] []
      (by decide) (by decide) rfl (.cons (spells_shellQuote id) .nil)
    have hcheckout := reads_of_eq_intercalate ["git", "checkout", "FETCH_HEAD"] [] (by decide)
      (by decide) rfl .nil
    exact .cons hmake <| .cons henter <| .cons hinit <| .cons hadd <| .cons hfetch <|
      .cons hcheckout .nil
  | branch name =>
    have hbranch : Spells ("--branch=" ++ Text.shellQuote name) (literal ("--branch=" ++ name)) := by
      rw [literal_append]
      exact (spells_fixed (by decide)).append (spells_shellQuote name)
    -- Text comes after a value here, so that the line is its words only up to associativity.
    refine .cons (f.reads_clone (.cons hbranch .nil) ?_) .nil
    simp only [List.cons_append, List.nil_append, String.intercalate_cons_cons,
      String.intercalate_singleton, String.append_assoc]
    rfl
  | standard =>
    refine .cons (f.reads_clone .nil ?_) .nil
    simp only [List.cons_append, List.nil_append, String.intercalate_cons_cons,
      String.intercalate_singleton, String.append_assoc]
    rfl

theorem forall₂_reads_cleanup :
    List.Forall₂ Reads f.cleanup (cleanupCommands (literal f.destination)) := by
  have hdestination := spells_shellQuote f.destination
  refine .cons ?_ (.cons ?_ .nil)
  · refine reads_of_eq_intercalate ["git", "-C"] ["submodule", "update", "--remote"]
      (by decide) (by decide) ?_ (.cons hdestination .nil)
    simp only [List.cons_append, List.nil_append, String.intercalate_cons_cons,
      String.intercalate_singleton, String.append_assoc]
    rfl
  · refine reads_of_eq_intercalate ["git", "-C"] ["remote", "remove", "origin"]
      (by decide) (by decide) ?_ (.cons hdestination .nil)
    simp only [List.cons_append, List.nil_append, String.intercalate_cons_cons,
      String.intercalate_singleton, String.append_assoc]
    rfl

theorem runs_render :
    Runs f.render
      (checkoutCommands (literal f.destination) (remoteWord f.url f.hostPath f.credential)
        f.revision ++ cleanupCommands (literal f.destination)) := by
  have hlines := List.rel_append f.forall₂_reads_checkout f.forall₂_reads_cleanup
  exact runs_intercalate (List.append_ne_nil_of_right_ne_nil _ (List.cons_ne_nil _ _)) hlines

end HttpsFetch

theorem expand_remoteWord (output : String → String) (url hostPath : String) (credential : Bool) :
    expand output (remoteWord url hostPath credential) =
      if credential then "https://" ++ output tokenScript ++ "@" ++ hostPath else url := by
  cases credential with
  | false => exact expand_literal output url
  | true =>
    have htoken : expand output [.output tokenScript] = output tokenScript := by simp [expand]
    simp only [remoteWord, if_true, expand_append, expand_literal, htoken, String.append_assoc]

theorem outputs_remoteWord (url hostPath : String) (credential : Bool) :
    outputs (remoteWord url hostPath credential) = if credential then [tokenScript] else [] := by
  cases credential with
  | false => exact outputs_literal url
  | true =>
    have htoken : outputs [.output tokenScript] = [tokenScript] := rfl
    simp only [remoteWord, if_true, outputs_append, outputs_literal, htoken, List.nil_append,
      List.append_nil]

/-- The only output the commands need is the one the address needs. -/
theorem flatMap_outputs_checkoutCommands (directory : String) (remote : Word)
    (revision : Revision) :
    (checkoutCommands (literal directory) remote revision).flatten.flatMap outputs =
      outputs remote := by
  cases revision <;> simp [checkoutCommands, outputs_literal]

theorem flatMap_outputs_cleanupCommands (directory : String) :
    (cleanupCommands (literal directory)).flatten.flatMap outputs = [] := by
  simp [cleanupCommands, forgetCommand, outputs_literal]

/-- The script has one reading, whatever the address and the revision are: its commands, with the
texts as words of their own. Nothing is run inside of a word but the script for the token, once, and
what runs last forgets the address. -/
theorem HttpsFetch.read?_render (url host path : String) (credential : Bool)
    (revision : Revision) :
    let destination := literal ("/tmp/git/" ++ Path.baseName url)
    let remote := remoteWord url (host ++ "/" ++ path) credential
    let commands := checkoutCommands destination remote revision ++ cleanupCommands destination
    Shell.read? (HttpsFetch.of url host path credential revision).render = some commands ∧
      (∀ output, expand output remote =
        if credential then "https://" ++ output tokenScript ++ "@" ++ (host ++ "/" ++ path)
        else url) ∧
      commands.flatten.flatMap outputs = (if credential then [tokenScript] else []) ∧
      Shell.read? tokenScript = some [tokenCommand] ∧
      commands.getLast? = some (forgetCommand destination) := by
  intro destination remote commands
  have hscript : Shell.read? tokenScript = some [tokenCommand] := by
    have hwords : Reads tokenScript tokenCommand :=
      reads_of_eq_intercalate ["cat", "/etc/git-secret/oauth-token"] [] (by decide) (by decide)
        rfl .nil
    exact hwords.runs.read?_eq
  refine ⟨(HttpsFetch.runs_render _).read?_eq, fun output => expand_remoteWord output _ _ _, ?_,
    hscript, ?_⟩
  · rw [List.flatten_append, List.flatMap_append, flatMap_outputs_checkoutCommands,
      flatMap_outputs_cleanupCommands, List.append_nil, outputs_remoteWord]
  · rw [List.getLast?_append]
    rfl

end WorkflowPod.Package
