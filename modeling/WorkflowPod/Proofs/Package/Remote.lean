import WorkflowPod.Proofs.Package.Fetch
import WorkflowPod.Proofs.Package.Source
import WorkflowPod.Proofs.Url.Host

/-!
What a credential changes in the fetch of a package over https: the address, and in the address
little more than the access token. Main statement: without the token it has the scheme, the host and
the port of the address that is fetched without a credential, and its path but for slashes at the
start; a query is left out.
-/
namespace WorkflowPod.Package

open Shell

/-- The address of a repository by its host and path, without an access token. -/
def bareAddress (host path : String) : String := "https://" ++ (host ++ "/" ++ path)

/-- The scripts with and without a credential run the same commands on different addresses. If the
one that is fetched without is an https URL, then the one with the access token reads, without it, as
that URL with the slashes before its path and its query left out, or as no URL if a label of the host
is too long to be decoded. It reads as the very same URL if there is nothing to leave out, and only
then. -/
theorem remotes_of_classify {spec : Workflow.Spec} {url host path : String}
    (h : Source.classify spec = .ok (.https url host path)) :
    (∀ credential revision,
      let destination := literal ("/tmp/git/" ++ Path.baseName url)
      Shell.read? (HttpsFetch.of url host path credential revision).render =
        some (checkoutCommands destination (remoteWord url (host ++ "/" ++ path) credential)
          revision ++ cleanupCommands destination)) ∧
    (∀ output,
      expand output (remoteWord url (host ++ "/" ++ path) false) = url ∧
      expand output (remoteWord url (host ++ "/" ++ path) true) =
        "https://" ++ (output tokenScript ++ "@") ++ (host ++ "/" ++ path)) ∧
    ∃ parsed, Url.parse url = .ok parsed ∧
      (parsed.scheme = Url.https → ∀ bare, Url.parse (bareAddress host path) = .ok bare ↔
        bare = { parsed with path := parsed.path.dropWhile (· == '/'), query := none } ∧
          parsed.HasShortLabels) ∧
      (Url.parse (bareAddress host path) = .ok parsed ↔
        parsed.scheme = Url.https ∧ parsed.query = none ∧ parsed.path.head? ≠ some '/' ∧
          parsed.HasShortLabels) := by
  obtain ⟨parsed, host, hparsed, hhost, heq⟩ :=
    Source.exists_of_ofHttps (Source.ofHttps_of_classify h)
  cases heq
  have hread (hscheme : parsed.scheme = Url.https) (bare : Url) :
      Url.parse (bareAddress host (String.ofList (parsed.path.dropWhile (· == '/')))) = .ok bare ↔
        bare = parsed.bare ∧ parsed.HasShortLabels :=
    Url.parse_bare_iff (Url.isNetwork_of_parse hparsed hscheme) hhost
  refine ⟨fun credential revision => (HttpsFetch.runs_render _).read?_eq,
    fun output => ⟨expand_remoteWord output _ _ _, ?_⟩, parsed, hparsed, hread, ?_⟩
  · simp only [expand_remoteWord, if_true, String.append_assoc]
  · constructor
    · intro hsame
      have hscheme : parsed.scheme = Url.https := Url.scheme_of_parse_https hsame
      obtain ⟨hbare, hshort⟩ := (hread hscheme parsed).mp hsame
      obtain ⟨hpath, hquery⟩ := Url.bare_eq_self_iff.mp hbare.symm
      exact ⟨hscheme, hquery, hpath, hshort⟩
    · rintro ⟨hscheme, hquery, hpath, hshort⟩
      have hbare : parsed = parsed.bare := (Url.bare_eq_self_iff.mpr ⟨hpath, hquery⟩).symm
      exact (hread hscheme parsed).mpr ⟨hbare, hshort⟩

/-- A package from an address with a query. -/
def queriedSpec : Workflow.Spec := { package := some { url := some "https://[::1]:8443//repo?at=v1" } }

theorem remotes_of_classify_queriedSpec :
    ∃ parsed, Url.parse "https://[::1]:8443//repo?at=v1" = .ok parsed ∧
      parsed.scheme = Url.https ∧ parsed.HasShortLabels ∧
      Url.parse "https://[::1]:8443/repo" = .ok { parsed with path := "repo".toList, query := none } ∧
      Url.parse "https://[::1]:8443/repo" ≠ .ok parsed := by
  have hsource : Source.classify queriedSpec =
      .ok (.https "https://[::1]:8443//repo?at=v1" "[::1]:8443" "repo") := by decide
  obtain ⟨-, -, parsed, hparsed, hbare, hsame⟩ := remotes_of_classify hsource
  have hread : Url.parse "https://[::1]:8443//repo?at=v1" = .ok ⟨Url.https,
      some (.ipv6 [0, 0, 0, 0, 0, 0, 0, 1]), some 8443, "/repo".toList, some "at=v1".toList⟩ := by
    decide
  obtain rfl := Except.ok.inj (hread.symm.trans hparsed)
  have hshort : Url.HasShortLabels ⟨Url.https, some (.ipv6 [0, 0, 0, 0, 0, 0, 0, 1]), some 8443,
      "/repo".toList, some "at=v1".toList⟩ := by
    simp [Url.HasShortLabels, Url.Host.HasShortLabels]
  refine ⟨_, hparsed, rfl, hshort, (hbare rfl _).mpr ⟨rfl, hshort⟩, fun heq => ?_⟩
  exact (hsame.mp heq).2.2.1 rfl

/-- Without the access token the address is not always the one that is fetched without a
credential. -/
theorem not_forall_same_address :
    ¬∀ (spec : Workflow.Spec) (url host path : String),
      Source.classify spec = .ok (.https url host path) →
        Url.parse (bareAddress host path) = Url.parse url := by
  intro h
  have hsame := h queriedSpec "https://[::1]:8443//repo?at=v1" "[::1]:8443" "repo" (by decide)
  exact absurd hsame (by decide)

end WorkflowPod.Package
