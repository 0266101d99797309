import WorkflowPod.Proofs.Package.Source
import WorkflowPod.Proofs.Url.Location

/-!
Which settings of a spec decide where its package comes from. Main statement: of three groups of
settings exactly one has to be there, and the source has the texts this one gives; but an address
that starts like one over https and cannot be used is what is wrong before all else.
-/
namespace WorkflowPod.Package.Source

open Workflow

/-- The package has an address that starts with `lead`. -/
def HasAddress (spec : Spec) (lead url : String) : Prop :=
  (spec.package.getD {}).url = some url ∧ lead.toList <+: url.toList

def HasPath (spec : Spec) : Prop :=
  ∃ path, (spec.package.getD {}).fromPath = some path ∧ path ≠ ""

/-- The settings by which a spec says where its package comes from. -/
inductive Group where
  /-- The address or else the path of the package. -/
  | location
  /-- The config map of the package. -/
  | definition
  /-- The earlier run. -/
  | run
  deriving DecidableEq

/-- Whether a spec has settings of a group. An address with another start counts for nothing. -/
def Group.IsSet (spec : Spec) : Group → Prop
  | location => (∃ url, HasAddress spec "https" url ∨ HasAddress spec "git@" url) ∨ HasPath spec
  | definition => ∃ name, (spec.package.getD {}).fromConfigMap = some name ∧ name ≠ ""
  | run => ∃ name, spec.instanceName = some name ∧ name ≠ ""

/-- What an address comes to as one of a repository over https. -/
def Reads (url : String) (parsed : Url) (host : String) : Prop :=
  Url.parse url = .ok parsed ∧ parsed.location? = some host

/-- Why an address is not one of a repository over https. -/
inductive Unusable (url : String) : String → Prop where
  | malformed {fault : Url.Fault} (parse : Url.parse url = .error fault) :
      Unusable url fault.message
  | hostless {parsed : Url} (parse : Url.parse url = .ok parsed) (host : parsed.host = none) :
      Unusable url "missing host"

/-- The source the address and the path of a package name, if any: the address counts first. -/
inductive Located (spec : Spec) : Option Source → Prop where
  | https {url host : String} {parsed : Url} (address : HasAddress spec "https" url)
      (reads : Reads url parsed host) :
      Located spec (some (.https url host (String.ofList (parsed.path.dropWhile (· == '/')))))
  | ssh {url : String} (address : HasAddress spec "git@" url) : Located spec (some (.ssh url))
  | volumePath (noHttps : ∀ url, ¬HasAddress spec "https" url)
      (noSsh : ∀ url, ¬HasAddress spec "git@" url) (path : HasPath spec) :
      Located spec (some .volumePath)
  | nowhere (noHttps : ∀ url, ¬HasAddress spec "https" url)
      (noSsh : ∀ url, ¬HasAddress spec "git@" url) (noPath : ¬HasPath spec) : Located spec none

/-- The source a group of settings names, with the texts it is given by. -/
inductive Group.Names (spec : Spec) : Group → Source → Prop where
  | location {source : Source} (located : Located spec (some source)) : Names spec .location source
  | definition {name : String} (configMap : (spec.package.getD {}).fromConfigMap = some name)
      (named : name ≠ "") : Names spec .definition (.configMap name)
  | run {name : String} (instanceName : spec.instanceName = some name) (named : name ≠ "") :
      Names spec .run (.earlierRun name)

theorem given_eq_some_iff {value : Option String} {text : String} :
    given value = some text ↔ value = some text ∧ text ≠ "" := by
  rw [given, Option.filter_eq_some_iff]
  simp

theorem isSome_given {value : Option String} :
    (given value).isSome ↔ ∃ text, value = some text ∧ text ≠ "" := by
  rw [Option.isSome_iff_exists]
  simp only [given_eq_some_iff]

theorem ofHttps_of_reads {url host : String} {parsed : Url} (h : Reads url parsed host) :
    ofHttps url = .ok (.https url host (String.ofList (parsed.path.dropWhile (· == '/')))) := by
  obtain ⟨hparsed, hhost⟩ := h
  unfold ofHttps
  rw [hparsed]
  dsimp only
  rw [hhost]

theorem ofHttps_of_unusable {url reason : String} (h : Unusable url reason) :
    ofHttps url = .error (.malformedUrl url reason) := by
  unfold ofHttps
  cases h with
  | malformed parse => rw [parse]
  | hostless parse host =>
    have hlocation : ∀ parsed : Url, parsed.host = none → parsed.location? = none := by
      intro parsed hhost
      rw [Url.location?, hhost, Option.map_none]
    rw [parse]
    dsimp only
    rw [hlocation _ host]

theorem exists_reads_or_unusable (url : String) :
    (∃ parsed host, Reads url parsed host) ∨ ∃ reason, Unusable url reason := by
  cases hparsed : Url.parse url with
  | error fault => exact .inr ⟨_, .malformed hparsed⟩
  | ok parsed =>
    cases hhost : parsed.host with
    | none => exact .inr ⟨_, .hostless hparsed hhost⟩
    | some host => exact .inl ⟨parsed, _, hparsed, Url.location?_eq hhost⟩

/-- The text whose start is looked at. -/
def addressText (spec : Spec) : String := (given (spec.package.getD {}).url).getD ""

theorem hasAddress_iff {spec : Spec} {lead url : String} (hlead : lead.toList ≠ []) :
    HasAddress spec lead url ↔
      Text.startsWith lead.toList (addressText spec).toList ∧ url = addressText spec := by
  rw [Text.startsWith_iff]
  unfold HasAddress addressText
  cases hgiven : given (spec.package.getD {}).url with
  | some text =>
    obtain ⟨hset, -⟩ := given_eq_some_iff.mp hgiven
    rw [hset, Option.getD_some, Option.some.injEq]
    constructor
    · rintro ⟨rfl, hlead⟩
      exact ⟨hlead, rfl⟩
    · rintro ⟨hlead, rfl⟩
      exact ⟨rfl, hlead⟩
  | none =>
    -- What is not given is no address, and neither is the empty text.
    have hempty : ¬lead.toList <+: "".toList := fun h => hlead (List.prefix_nil.mp h)
    constructor
    · rintro ⟨hset, hlead⟩
      have hurl : url = "" := by
        by_contra hne
        rw [given_eq_some_iff.mpr ⟨hset, hne⟩] at hgiven
        cases hgiven
      exact absurd (hurl ▸ hlead) hempty
    · rintro ⟨hlead, -⟩
      exact absurd hlead hempty

/-- No address starts in both ways. -/
theorem not_hasAddress_both {spec : Spec} {url url' : String}
    (hhttps : HasAddress spec "https" url) : ¬HasAddress spec "git@" url' := by
  intro hssh
  obtain ⟨haddress, rest, hrest⟩ := hhttps
  obtain ⟨haddress', rest', hrest'⟩ := hssh
  obtain rfl : url = url' := Option.some.inj (haddress.symm.trans haddress')
  rw [← hrest] at hrest'
  cases hrest'

namespace Located

variable {spec : Spec} {location? : Option Source}

theorem isSome_iff (h : Located spec location?) :
    location?.isSome ↔ Group.location.IsSet spec := by
  have hset : Group.location.IsSet spec ↔
      (∃ url, HasAddress spec "https" url ∨ HasAddress spec "git@" url) ∨ HasPath spec := Iff.rfl
  rw [hset]
  cases h with
  | https address => exact iff_of_true rfl (.inl ⟨_, .inl address⟩)
  | ssh address => exact iff_of_true rfl (.inl ⟨_, .inr address⟩)
  | volumePath _ _ path => exact iff_of_true rfl (.inr path)
  | nowhere noHttps noSsh noPath =>
    refine iff_of_false (by simp) ?_
    rintro (⟨url, hhttps | hssh⟩ | hpath)
    · exact noHttps url hhttps
    · exact noSsh url hssh
    · exact noPath hpath

/-- A package has one location. -/
theorem unique {other? : Option Source} (h : Located spec location?) (h' : Located spec other?) :
    location? = other? := by
  cases h with
  | https address reads =>
    cases h' with
    | https address' reads' =>
      obtain rfl := Option.some.inj (address.1.symm.trans address'.1)
      obtain rfl := Except.ok.inj (reads.1.symm.trans reads'.1)
      obtain rfl := Option.some.inj (reads.2.symm.trans reads'.2)
      rfl
    | ssh address' => exact absurd address' (not_hasAddress_both address)
    | volumePath noHttps | nowhere noHttps => exact absurd address (noHttps _)
  | ssh address =>
    cases h' with
    | https address' => exact absurd address (not_hasAddress_both address')
    | ssh address' =>
      obtain rfl := Option.some.inj (address.1.symm.trans address'.1)
      rfl
    | volumePath _ noSsh | nowhere _ noSsh => exact absurd address (noSsh _)
  | volumePath noHttps noSsh path =>
    cases h' with
    | https address' => exact absurd address' (noHttps _)
    | ssh address' => exact absurd address' (noSsh _)
    | volumePath => rfl
    | nowhere _ _ noPath => exact absurd path noPath
  | nowhere noHttps noSsh noPath =>
    cases h' with
    | https address' => exact absurd address' (noHttps _)
    | ssh address' => exact absurd address' (noSsh _)
    | volumePath _ _ path => exact absurd path noPath
    | nowhere => rfl

end Located

/-- A package whose address can be used has a location or none. -/
theorem exists_located {spec : Spec}
    (husable : ∀ url reason, HasAddress spec "https" url → ¬Unusable url reason) :
    ∃ location?, ofLocation (spec.package.getD {}) = .ok location? ∧ Located spec location? := by
  have hhttps (url : String) : HasAddress spec "https" url ↔ _ := hasAddress_iff (by decide)
  have hssh (url : String) : HasAddress spec "git@" url ↔ _ := hasAddress_iff (by decide)
  have hpath : (given (spec.package.getD {}).fromPath).isSome ↔ HasPath spec := isSome_given
  unfold ofLocation
  dsimp only
  rw [← addressText]
  split
  · rename_i hstart
    have haddress : HasAddress spec "https" (addressText spec) := (hhttps _).mpr ⟨hstart, rfl⟩
    obtain ⟨parsed, host, hreads⟩ | ⟨reason, hunusable⟩ :=
      exists_reads_or_unusable (addressText spec)
    · rw [ofHttps_of_reads hreads]
      exact ⟨_, rfl, .https haddress hreads⟩
    · exact absurd hunusable (husable _ reason haddress)
  rename_i hhttps'
  have hnone : ∀ url, ¬HasAddress spec "https" url := fun url h => hhttps' ((hhttps url).mp h).1
  split
  · rename_i hstart
    exact ⟨_, rfl, .ssh ((hssh _).mpr ⟨hstart, rfl⟩)⟩
  rename_i hssh'
  have hnone' : ∀ url, ¬HasAddress spec "git@" url := fun url h => hssh' ((hssh url).mp h).1
  split
  · rename_i hgiven
    exact ⟨_, rfl, .volumePath hnone hnone' (hpath.mp hgiven)⟩
  · rename_i hgiven
    exact ⟨_, rfl, .nowhere hnone hnone' (mt hpath.mpr hgiven)⟩

/-- The outcome by the location, the config map and the earlier run a spec names. -/
def ofNamed : Option Source → Option String → Option String → Except SpecFault Source
  | some source, some _, _ =>
    .error (.conflict ("spec.package.fromConfigMap set but package is already configured as " ++
      source.kind.name))
  | some source, none, none => .ok source
  | none, some name, none => .ok (.configMap name)
  | none, none, some name => .ok (.earlierRun name)
  | none, none, none =>
    .error (.incomplete "workflow does not have a populated spec.package or spec.instance")
  | some _, none, some _ | none, some _, some _ =>
    .error (.conflict "spec.instance and spec.package are mutually exclusive")

theorem classify_eq_ofNamed {spec : Spec} {location? : Option Source}
    (h : ofLocation (spec.package.getD {}) = .ok location?) :
    classify spec = ofNamed location? (given (spec.package.getD {}).fromConfigMap)
      (given spec.instanceName) := by
  rw [classify_eq, classify]
  dsimp only
  rw [ofPackage, h]
  cases location? <;> cases given (spec.package.getD {}).fromConfigMap <;>
    cases given spec.instanceName <;> rfl

theorem existsUnique_group_iff {p : Group → Prop} :
    (∃! group, p group) ↔
      p .location ∧ ¬p .definition ∧ ¬p .run ∨ ¬p .location ∧ p .definition ∧ ¬p .run ∨
        ¬p .location ∧ ¬p .definition ∧ p .run := by
  constructor
  · rintro ⟨group, hgroup, hunique⟩
    have hother : ∀ other, other ≠ group → ¬p other := fun other hne h => hne (hunique other h)
    cases group with
    | location => exact .inl ⟨hgroup, hother _ (by decide), hother _ (by decide)⟩
    | definition => exact .inr (.inl ⟨hother _ (by decide), hgroup, hother _ (by decide)⟩)
    | run => exact .inr (.inr ⟨hother _ (by decide), hother _ (by decide), hgroup⟩)
  · rintro (⟨h, hd, hr⟩ | ⟨hl, h, hr⟩ | ⟨hl, hd, h⟩)
    · exact ⟨.location, h, fun other h' => by cases other <;> first | rfl | contradiction⟩
    · exact ⟨.definition, h, fun other h' => by cases other <;> first | rfl | contradiction⟩
    · exact ⟨.run, h, fun other h' => by cases other <;> first | rfl | contradiction⟩

theorem exists_two_groups_iff {p : Group → Prop} :
    (∃ group group', group ≠ group' ∧ p group ∧ p group') ↔
      p .location ∧ p .definition ∨ p .location ∧ p .run ∨ p .definition ∧ p .run := by
  constructor
  · rintro ⟨group, group', hne, h, h'⟩
    cases group <;> cases group' <;> first | contradiction | simp [h, h']
  · rintro (⟨h, h'⟩ | ⟨h, h'⟩ | ⟨h, h'⟩)
    · exact ⟨.location, .definition, by decide, h, h'⟩
    · exact ⟨.location, .run, by decide, h, h'⟩
    · exact ⟨.definition, .run, by decide, h, h'⟩

theorem forall_group_iff {p : Group → Prop} :
    (∀ group, p group) ↔ p .location ∧ p .definition ∧ p .run := by
  constructor
  · intro h
    exact ⟨h _, h _, h _⟩
  · rintro ⟨hl, hd, hr⟩ group
    cases group <;> assumption

/-- What a spec is classified as by the groups of settings it has. -/
structure Classified (spec : Spec) (outcome : Except SpecFault Source) : Prop where
  ok_iff : (∃ source, outcome = .ok source) ↔ ∃! group : Group, group.IsSet spec
  names : ∀ source, outcome = .ok source →
    ∃ group : Group, group.IsSet spec ∧ group.Names spec source
  incomplete_iff : ∀ reason, outcome = .error (.incomplete reason) ↔
    (∀ group : Group, ¬group.IsSet spec) ∧
      reason = "workflow does not have a populated spec.package or spec.instance"
  conflict_iff : (∃ reason, outcome = .error (.conflict reason)) ↔
    ∃ group group' : Group, group ≠ group' ∧ group.IsSet spec ∧ group'.IsSet spec
  /-- A config map beside a location is told by the kind of the location, whatever else is set. -/
  clash : Group.location.IsSet spec → Group.definition.IsSet spec →
    ∃ source, Group.location.Names spec source ∧ outcome = .error (.conflict
      ("spec.package.fromConfigMap set but package is already configured as " ++ source.kind.name))
  exclusion : Group.run.IsSet spec →
    (Group.location.IsSet spec ∧ ¬Group.definition.IsSet spec ∨
      ¬Group.location.IsSet spec ∧ Group.definition.IsSet spec) →
    outcome = .error (.conflict "spec.instance and spec.package are mutually exclusive")

theorem Group.Names.isSet {spec : Spec} {group : Group} {source : Source}
    (h : group.Names spec source) : group.IsSet spec := by
  cases h with
  | location located => exact located.isSome_iff.mp rfl
  | definition configMap named => exact ⟨_, configMap, named⟩
  | run instanceName named => exact ⟨_, instanceName, named⟩

/-- What is named is the source if nothing else is. -/
theorem exists_names_of_ofNamed {spec : Spec} {location? : Option Source}
    (h : Located spec location?) {source : Source}
    (hsource : ofNamed location? (given (spec.package.getD {}).fromConfigMap)
      (given spec.instanceName) = .ok source) :
    ∃ group : Group, group.Names spec source := by
  cases location? with
  | some found =>
    cases hdefinition : given (spec.package.getD {}).fromConfigMap <;>
      cases hrun : given spec.instanceName <;> rw [hdefinition, hrun] at hsource <;> cases hsource
    exact ⟨.location, .location h⟩
  | none =>
    cases hdefinition : given (spec.package.getD {}).fromConfigMap <;>
      cases hrun : given spec.instanceName <;> rw [hdefinition, hrun] at hsource <;> cases hsource
    · obtain ⟨hname, hne⟩ := given_eq_some_iff.mp hrun
      exact ⟨.run, .run hname hne⟩
    · obtain ⟨hname, hne⟩ := given_eq_some_iff.mp hdefinition
      exact ⟨.definition, .definition hname hne⟩

theorem classified_ofNamed {spec : Spec} {location? : Option Source}
    (h : Located spec location?) :
    Classified spec (ofNamed location? (given (spec.package.getD {}).fromConfigMap)
      (given spec.instanceName)) := by
  have hlocation := h.isSome_iff
  have hdefinition : (given (spec.package.getD {}).fromConfigMap).isSome ↔
      Group.definition.IsSet spec := isSome_given
  have hrun : (given spec.instanceName).isSome ↔ Group.run.IsSet spec := isSome_given
  constructor
  case names =>
    intro source hsource
    obtain ⟨group, hnames⟩ := exists_names_of_ofNamed h hsource
    exact ⟨group, hnames.isSet, hnames⟩
  case clash =>
    intro hset hset'
    obtain ⟨source, rfl⟩ := Option.isSome_iff_exists.mp (hlocation.mpr hset)
    obtain ⟨name, hname⟩ := Option.isSome_iff_exists.mp (hdefinition.mpr hset')
    refine ⟨source, .location h, ?_⟩
    rw [hname]
    rfl
  case ok_iff =>
    rw [existsUnique_group_iff, ← hlocation, ← hdefinition, ← hrun]
    cases location? <;> cases given (spec.package.getD {}).fromConfigMap <;>
      cases given spec.instanceName <;> simp [ofNamed]
  case incomplete_iff =>
    rw [forall_group_iff, ← hlocation, ← hdefinition, ← hrun]
    cases location? <;> cases given (spec.package.getD {}).fromConfigMap <;>
      cases given spec.instanceName <;> simp [ofNamed, eq_comm]
  case conflict_iff =>
    rw [exists_two_groups_iff, ← hlocation, ← hdefinition, ← hrun]
    cases location? <;> cases given (spec.package.getD {}).fromConfigMap <;>
      cases given spec.instanceName <;> simp [ofNamed]
  case exclusion =>
    rw [← hlocation, ← hdefinition, ← hrun]
    cases location? <;> cases given (spec.package.getD {}).fromConfigMap <;>
      cases given spec.instanceName <;> simp [ofNamed]

theorem classified_classify {spec : Spec}
    (husable : ∀ url reason, HasAddress spec "https" url → ¬Unusable url reason) :
    Classified spec (classify spec) := by
  obtain ⟨location?, heq, hlocated⟩ := exists_located husable
  rw [classify_eq_ofNamed heq]
  exact classified_ofNamed hlocated

/-- Nothing else is looked at if the address cannot be used. -/
theorem classify_of_unusable {spec : Spec} {url reason : String}
    (haddress : HasAddress spec "https" url) (h : Unusable url reason) :
    classify spec = .error (.malformedUrl url reason) := by
  obtain ⟨hstart, htext⟩ := (hasAddress_iff (by decide)).mp haddress
  have hlocation : ofLocation (spec.package.getD {}) = .error (.malformedUrl url reason) := by
    unfold ofLocation
    dsimp only
    rw [← addressText, if_pos hstart, ← htext, ofHttps_of_unusable h]
    rfl
  rw [classify_eq, classify]
  dsimp only
  rw [ofPackage, hlocation]
  rfl

theorem exists_name_eq_iff {url host : String} {parsed : Url} (h : Reads url parsed host)
    (port : Nat) :
    (∃ name : String, host = name ++ ":" ++ toString port) ↔ parsed.port = some port := by
  obtain ⟨hparsed, hhost⟩ := h
  obtain ⟨found, hfound, -⟩ := Option.map_eq_some_iff.mp hhost
  rw [Url.location?_eq hfound, Option.some.injEq] at hhost
  rw [← Url.exists_locationText_eq_iff (Url.isDelimited_of_parse hparsed hfound), ← hhost]
  constructor
  · rintro ⟨name, heq⟩
    refine ⟨name.toList, ?_⟩
    rw [← String.toList_ofList (l := Url.locationText _ _), heq]
    simp [String.toList_append]
  · rintro ⟨name, heq⟩
    refine ⟨String.ofList name, ?_⟩
    rw [heq, ← String.toList_inj]
    simp [String.toList_append]

theorem not_startsWith_slash (path : List Char) :
    ¬"/".toList <+: (String.ofList (path.dropWhile (· == '/'))).toList := by
  rw [String.toList_ofList (l := path.dropWhile _)]
  rintro ⟨rest, hrest⟩
  have hhead := List.head?_dropWhile_not (· == '/') path
  have hslash : ("/".toList ++ rest).head? = some '/' := rfl
  rw [← hrest, hslash] at hhead
  exact absurd hhead (by decide)

/-- A spec has a source exactly if it has settings of one group, lacks one if it has none, and
contradicts itself if it has more; but an address over https that cannot be used is wrong whatever
else is set. The host of such an address has a port exactly if the URL has one that is not the port
of its scheme, and its path starts with no slash. -/
theorem classify_by_groups (spec : Spec) :
    (∀ url reason, HasAddress spec "https" url → Unusable url reason →
      classify spec = .error (.malformedUrl url reason)) ∧
    ((∀ url reason, HasAddress spec "https" url → ¬Unusable url reason) →
      Classified spec (classify spec)) ∧
    ∀ url host path, classify spec = .ok (.https url host path) →
      ∃ parsed, Reads url parsed host ∧
        (∀ port : Nat, (∃ name, host = name ++ ":" ++ toString port) ↔ parsed.port = some port) ∧
        (parsed.scheme = Url.https → parsed.port ≠ some 443) ∧ ¬"/".toList <+: path.toList := by
  refine ⟨fun url reason => classify_of_unusable, classified_classify, ?_⟩
  intro url host path hsource
  obtain ⟨parsed, found, hparsed, hfound, heq⟩ := exists_of_ofHttps (ofHttps_of_classify hsource)
  cases heq
  have hreads : Reads url parsed host := ⟨hparsed, hfound⟩
  refine ⟨parsed, hreads, exists_name_eq_iff hreads, ?_, not_startsWith_slash _⟩
  intro hscheme hport
  have hnetwork := Url.isNetwork_of_parse hparsed hscheme
  exact (hnetwork.port 443 hport).2 rfl

/-- A package at an address with a port; what else is set is blank or narrows the package. -/
def portedSpec : Spec where
  package := some
    { url := some "https://[::1]:8443//repo", fromPath := some "flow", fromConfigMap := some "" }
  instanceName := some ""

/-- An address without a host beside two other sources. -/
def hostlessSpec : Spec where
  package := some { url := some "https://", fromConfigMap := some "flow" }
  instanceName := some "run"

theorem classify_by_groups_portedSpec :
    (∃! group : Group, group.IsSet portedSpec) ∧
    (∃ name, "[::1]:8443" = name ++ ":" ++ toString 8443) ∧
    classify hostlessSpec = .error (.malformedUrl "https://" "empty host") := by
  obtain ⟨-, hclassified, hparts⟩ := classify_by_groups portedSpec
  have hsource : classify portedSpec = .ok (.https "https://[::1]:8443//repo" "[::1]:8443" "repo") := by
    decide
  have hread : Url.parse "https://[::1]:8443//repo" = .ok ⟨Url.https,
      some (.ipv6 [0, 0, 0, 0, 0, 0, 0, 1]), some 8443, "/repo".toList, none⟩ := by
    decide
  have husable : ∀ url reason, HasAddress portedSpec "https" url → ¬Unusable url reason := by
    rintro url reason ⟨haddress, -⟩ hunusable
    obtain rfl : "https://[::1]:8443//repo" = url := Option.some.inj haddress
    cases hunusable with
    | malformed parse => cases hread.symm.trans parse
    | hostless parse host =>
      cases hread.symm.trans parse
      cases host
  obtain ⟨parsed, ⟨hparsed, -⟩, hport, -, -⟩ := hparts _ _ _ hsource
  cases hread.symm.trans hparsed
  refine ⟨(hclassified husable).ok_iff.mp ⟨_, hsource⟩, (hport 8443).mpr rfl, ?_⟩
  have hempty : Unusable "https://" (Url.Fault.emptyHost).message := .malformed (by decide)
  exact (classify_by_groups hostlessSpec).1 "https://" _ ⟨rfl, List.prefix_append _ _⟩ hempty

end WorkflowPod.Package.Source
