import WorkflowPod.Package.Source
import WorkflowPod.Proofs.Except
import WorkflowPod.Proofs.Text.Search

/-! What the source of a package depends on, and which settings it comes from. -/
namespace WorkflowPod.Package.Source

open Workflow

theorem ofPackage_congr {package package' : Workflow.Package}
    (hurl : given package.url = given package'.url)
    (hpath : given package.fromPath = given package'.fromPath)
    (hconfigMap : given package.fromConfigMap = given package'.fromConfigMap) :
    ofPackage package = ofPackage package' := by
  have hlocation : ofLocation package = ofLocation package' := by
    simp only [ofLocation, hurl, hpath]
  simp only [ofPackage, hlocation, hconfigMap]

theorem ofPackage_empty : ofPackage {} = .ok none := rfl

/-- No package is as good as an empty one. -/
theorem classify_eq (spec : Spec) :
    classify spec = classify { spec with package := some (spec.package.getD {}) } := by
  cases h : spec.package with
  | none => simp [classify, h, ofPackage_empty, pure, Except.pure]
  | some package => simp [classify, h]

theorem classify_congr {spec spec' : Spec}
    (hpackage : ofPackage (spec.package.getD {}) = ofPackage (spec'.package.getD {}))
    (hinstance : given spec.instanceName = given spec'.instanceName) :
    classify spec = classify spec' := by
  rw [classify_eq spec, classify_eq spec']
  simp only [classify, hpackage, hinstance]

/-- The parts of a source over https are those of its address. -/
theorem exists_of_ofHttps {address : String} {source : Source} (h : ofHttps address = .ok source) :
    ∃ parsed host, Url.parse address = .ok parsed ∧ parsed.location? = some host ∧
      source = .https address host (String.ofList (parsed.path.dropWhile (· == '/'))) := by
  unfold ofHttps at h
  split at h
  · cases h
  · rename_i parsed hparsed
    split at h
    · cases h
    · rename_i host hhost
      cases h
      exact ⟨parsed, host, hparsed, hhost, rfl⟩

/-- All that the address and the path of a package can come to. -/
theorem ofLocation_cases {package : Workflow.Package} {location? : Option Source}
    (h : ofLocation package = .ok location?) :
    (∃ url host path, given package.url = some url ∧ Text.startsWith "https".toList url.toList ∧
      ofHttps url = .ok (.https url host path) ∧ location? = some (.https url host path)) ∨
    (∃ url, given package.url = some url ∧ Text.startsWith "git@".toList url.toList ∧
      location? = some (.ssh url)) ∨
    ((given package.fromPath).isSome ∧ location? = some .volumePath) ∨
    given package.fromPath = none ∧ location? = none := by
  unfold ofLocation at h
  cases hurl : given package.url with
  | none =>
    have hhttps : Text.startsWith "https".toList "".toList = false := by decide
    have hssh : Text.startsWith "git@".toList "".toList = false := by decide
    simp only [hurl, Option.getD_none, hhttps, hssh, Bool.false_eq_true, if_false] at h
    split at h <;> cases h
    · exact .inr (.inr (.inl ⟨‹_›, rfl⟩))
    · exact .inr (.inr (.inr ⟨Option.not_isSome_iff_eq_none.1 ‹_›, rfl⟩))
  | some url =>
    simp only [hurl, Option.getD_some] at h
    split at h
    · rename_i hscheme
      cases hsource : ofHttps url with
      | error fault =>
        rw [hsource] at h
        cases h
      | ok source =>
        obtain ⟨parsed, host, -, -, rfl⟩ := exists_of_ofHttps hsource
        rw [hsource] at h
        cases h
        exact .inl ⟨url, _, _, rfl, hscheme, hsource, rfl⟩
    · split at h
      · cases h
        exact .inr (.inl ⟨url, rfl, ‹_›, rfl⟩)
      · split at h <;> cases h
        · exact .inr (.inr (.inl ⟨‹_›, rfl⟩))
        · exact .inr (.inr (.inr ⟨Option.not_isSome_iff_eq_none.1 ‹_›, rfl⟩))

theorem given_fromPath_of_ofLocation {package : Workflow.Package}
    (h : ofLocation package = .ok none) : given package.fromPath = none := by
  obtain ⟨_, _, _, -, -, -, hnone⟩ | ⟨_, -, -, hnone⟩ | ⟨-, hnone⟩ | ⟨hpath, -⟩ :=
    ofLocation_cases h
  · cases hnone
  · cases hnone
  · cases hnone
  · exact hpath

theorem ofPackage_cases {package : Workflow.Package} {source? : Option Source}
    (h : ofPackage package = .ok source?) :
    (given package.fromConfigMap = none ∧ ofLocation package = .ok source?) ∨
      ∃ name, given package.fromConfigMap = some name ∧ ofLocation package = .ok none ∧
        source? = some (.configMap name) := by
  unfold ofPackage at h
  obtain ⟨location?, hlocation, h⟩ := exists_of_bind h
  split at h <;> cases h
  · exact .inl ⟨‹_›, hlocation⟩
  · exact .inr ⟨_, ‹_›, hlocation, rfl⟩

theorem classify_cases {spec : Spec} {source : Source} (h : classify spec = .ok source) :
    (given spec.instanceName = none ∧ ofPackage (spec.package.getD {}) = .ok (some source)) ∨
      ∃ name, given spec.instanceName = some name ∧
        ofPackage (spec.package.getD {}) = .ok none ∧ source = .earlierRun name := by
  rw [classify_eq, classify] at h
  obtain ⟨source?, hpackage, h⟩ := exists_of_bind h
  dsimp only at h
  split at h <;> cases h
  · exact .inl ⟨‹_›, hpackage⟩
  · exact .inr ⟨_, ‹_›, hpackage, rfl⟩

/-- The settings a spec has for each source, and those it lacks as they would exclude it. -/
inductive Provides (spec : Spec) : Source → Prop where
  | https {url host path : String} (address : given (spec.package.getD {}).url = some url)
      (scheme : Text.startsWith "https".toList url.toList)
      (parsed : ofHttps url = .ok (.https url host path))
      (noDefinition : given (spec.package.getD {}).fromConfigMap = none)
      (noRun : given spec.instanceName = none) : Provides spec (.https url host path)
  | ssh {url : String} (address : given (spec.package.getD {}).url = some url)
      (user : Text.startsWith "git@".toList url.toList)
      (noDefinition : given (spec.package.getD {}).fromConfigMap = none)
      (noRun : given spec.instanceName = none) : Provides spec (.ssh url)
  | configMap {name : String} (definition : given (spec.package.getD {}).fromConfigMap = some name)
      (noPath : given (spec.package.getD {}).fromPath = none)
      (noRun : given spec.instanceName = none) : Provides spec (.configMap name)
  | volumePath (path : (given (spec.package.getD {}).fromPath).isSome)
      (noDefinition : given (spec.package.getD {}).fromConfigMap = none)
      (noRun : given spec.instanceName = none) : Provides spec .volumePath
  | earlierRun {name : String} (run : given spec.instanceName = some name)
      (noDefinition : given (spec.package.getD {}).fromConfigMap = none)
      (noPath : given (spec.package.getD {}).fromPath = none) : Provides spec (.earlierRun name)

theorem provides_of_classify {spec : Spec} {source : Source} (h : classify spec = .ok source) :
    Provides spec source := by
  obtain ⟨hrun, hpackage⟩ | ⟨name, hrun, hpackage, rfl⟩ := classify_cases h
  · obtain ⟨hdefinition, hlocation⟩ | ⟨name, hdefinition, hlocation, heq⟩ :=
      ofPackage_cases hpackage
    · obtain ⟨url, host, path, haddress, hscheme, hparsed, heq⟩ | ⟨url, haddress, huser, heq⟩ |
        ⟨hpath, heq⟩ | ⟨-, heq⟩ := ofLocation_cases hlocation
      · cases heq
        exact .https haddress hscheme hparsed hdefinition hrun
      · cases heq
        exact .ssh haddress huser hdefinition hrun
      · cases heq
        exact .volumePath hpath hdefinition hrun
      · cases heq
    · cases heq
      exact .configMap hdefinition (given_fromPath_of_ofLocation hlocation) hrun
  · obtain ⟨hdefinition, hlocation⟩ | ⟨_, _, _, hnone⟩ := ofPackage_cases hpackage
    · exact .earlierRun hrun hdefinition (given_fromPath_of_ofLocation hlocation)
    · cases hnone

/-- Without a package the source is an earlier run. -/
theorem kind_of_classify {spec : Spec} (hpackage : spec.package = none) {source : Source}
    (h : classify spec = .ok source) : source.kind = .earlierRun := by
  have hempty : spec.package.getD {} = {} := by rw [hpackage, Option.getD_none]
  cases provides_of_classify h with
  | earlierRun => rfl
  | https address | ssh address =>
    rw [hempty] at address
    cases address
  | configMap definition =>
    rw [hempty] at definition
    cases definition
  | volumePath path =>
    rw [hempty] at path
    cases path

/-- A source over https is made of the address that it holds. -/
theorem ofHttps_of_classify {spec : Spec} {url host path : String}
    (h : classify spec = .ok (.https url host path)) :
    ofHttps url = .ok (.https url host path) := by
  cases provides_of_classify h with
  | https _ _ parsed => exact parsed

/-- The config map with the definition of a package. -/
def configMapName? : Source → Option String
  | .configMap name => some name
  | .https .. | .ssh _ | .volumePath | .earlierRun _ => none

/-- The directory of an earlier run. -/
def runName? : Source → Option String
  | .earlierRun name => some name
  | .https .. | .ssh _ | .configMap _ | .volumePath => none

theorem given_instanceName_of_classify {spec : Spec} {source : Source}
    (h : classify spec = .ok source) : given spec.instanceName = source.runName? := by
  cases provides_of_classify h <;> assumption

/-- The address of a repository. -/
def url? : Source → Option String
  | .https url _ _ | .ssh url => some url
  | .configMap _ | .volumePath | .earlierRun _ => none

/-- The address of a repository is more than slashes. -/
theorem exists_mem_of_url? {spec : Spec} {source : Source} (h : classify spec = .ok source)
    {url : String} (hurl : source.url? = some url) : ∃ c ∈ url.toList, c ≠ '/' := by
  have hlead {c : Char} {lead : List Char} (hc : c ≠ '/')
      (hstart : Text.startsWith (c :: lead) url.toList) : ∃ c ∈ url.toList, c ≠ '/' := by
    obtain ⟨rest, hrest⟩ := Option.isSome_iff_exists.1 hstart
    rw [Text.afterLead?_eq_some_iff.1 hrest]
    exact ⟨c, List.mem_append_left _ List.mem_cons_self, hc⟩
  cases provides_of_classify h with
  | https _ scheme =>
    cases hurl
    exact hlead (by decide) scheme
  | ssh _ user =>
    cases hurl
    exact hlead (by decide) user
  | configMap | volumePath | earlierRun => cases hurl

/-- A path in a package narrows what a repository provides, or is all there is. -/
theorem exists_url?_of_fromPath {spec : Spec} {source : Source} (h : classify spec = .ok source)
    {path : String} (hpath : given (spec.package.getD {}).fromPath = some path) :
    source = .volumePath ∨ ∃ url, source.url? = some url := by
  cases provides_of_classify h with
  | https => exact .inr ⟨_, rfl⟩
  | ssh => exact .inr ⟨_, rfl⟩
  | volumePath => exact .inl rfl
  | configMap _ noPath => cases hpath.symm.trans noPath
  | earlierRun _ _ noPath => cases hpath.symm.trans noPath

theorem fault_of_ofHttps {url : String} {fault : SpecFault} (h : ofHttps url = .error fault) :
    ∃ reason, fault = .malformedUrl url reason := by
  unfold ofHttps at h
  split at h
  · cases h
    exact ⟨_, rfl⟩
  · split at h
    · cases h
      exact ⟨_, rfl⟩
    · cases h

/-- The only thing wrong with a location is an address. -/
theorem fault_of_ofLocation {package : Workflow.Package} {fault : SpecFault}
    (h : ofLocation package = .error fault) : ∃ url reason, fault = .malformedUrl url reason := by
  unfold ofLocation at h
  dsimp only at h
  split at h
  · cases hurl : ofHttps ((given package.url).getD "") with
    | error fault' =>
      rw [hurl] at h
      cases h
      exact ⟨_, fault_of_ofHttps hurl⟩
    | ok source =>
      rw [hurl] at h
      cases h
  · split at h
    · cases h
    · split at h <;> cases h

theorem fault_of_ofPackage {package : Workflow.Package} {fault : SpecFault}
    (h : ofPackage package = .error fault) :
    (∃ reason, fault = .conflict reason) ∨ ∃ url reason, fault = .malformedUrl url reason := by
  unfold ofPackage at h
  cases hlocation : ofLocation package with
  | error fault' =>
    rw [hlocation] at h
    cases h
    exact .inr (fault_of_ofLocation hlocation)
  | ok location =>
    rw [hlocation] at h
    simp only [bind, Except.bind] at h
    split at h <;> cases h
    exact .inl ⟨_, rfl⟩

/-- What a spec without a source lacks is a package or an earlier run. -/
theorem reason_of_classify {spec : Spec} {reason : String}
    (h : classify spec = .error (.incomplete reason)) :
    reason = "workflow does not have a populated spec.package or spec.instance" := by
  rw [classify_eq, classify] at h
  dsimp only at h
  cases hpackage : ofPackage (spec.package.getD {}) with
  | error fault =>
    rw [hpackage] at h
    cases h
    obtain ⟨_, ⟨⟩⟩ | ⟨_, _, ⟨⟩⟩ := fault_of_ofPackage hpackage
  | ok packaged =>
    rw [hpackage] at h
    simp only [bind, Except.bind] at h
    split at h <;> cases h
    rfl

end WorkflowPod.Package.Source
