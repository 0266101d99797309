import Mathlib.Logic.Relation
import WorkflowPod.Operator.Defaults
import WorkflowPod.Proofs.Json.Members
import WorkflowPod.Proofs.Json.Reader
import WorkflowPod.Proofs.Json.Record

/-!
Stored default options. Main statement: a document counts as a whole or not at all, and what counts
is the record it stands for, not how that is written.
-/
namespace WorkflowPod.Operator

open Json

namespace StoredDefaults

/-- The keys of the texts, each with what is stored under it. -/
def textKeys : List (String × (StoredDefaults → String)) :=
  [("image", launcherImage), ("gitsecret", sshSecret), ("gitsecret-oauth", tokenSecret),
    ("workingVolume", workingClaim), ("inputdatadir", inputDirectory),
    ("s3-fetch-files-image", bucketFetchImage), ("git-sync-image", gitSyncImage),
    ("workflow-monitoring-image", monitorImage)]

/-- The known keys in their order, each with null. -/
def blanks : List (String × Json) :=
  (textKeys.map Prod.fst ++ ["imagePullSecrets"]).map (·, .null)

/-- What an object stands for, key by key. -/
structure IsHeldBy (stored : StoredDefaults) (entries : List (String × Json)) : Prop where
  texts : ∀ t ∈ textKeys, Holds .text "" t.1 entries (t.2 stored)
  pullSecrets : Holds Codec.text.list [] "imagePullSecrets" entries stored.pullSecrets

/-- No known key is repeated, and under each there is null or a value of its type. -/
structure IsStored (entries : List (String × Json)) : Prop where
  texts : ∀ t ∈ textKeys, Fits .text t.1 entries
  pullSecrets : Fits Codec.text.list "imagePullSecrets" entries

theorem codec_decode?_obj_iff {stored : StoredDefaults} {entries : List (String × Json)} :
    codec.decode? (.obj entries) = some stored ↔ stored.IsHeldBy entries := by
  have htext := Codec.isExact_text
  have hlist := Codec.isExact_list htext
  unfold codec
  refine (Codec.decode?_record_obj_iff (fun _ => rfl) (fun _ => rfl)).trans ?_
  simp only [members, Members.Reads, readMember_orBlank_iff htext, readMember_orBlank_iff hlist]
  constructor
  · rintro ⟨himage, hssh, htoken, hclaim, hdirectory, hbucket, hsync, hmonitor, hsecrets, -⟩
    refine ⟨?_, hsecrets⟩
    simp only [textKeys, List.forall_mem_cons]
    exact ⟨himage, hssh, htoken, hclaim, hdirectory, hbucket, hsync, hmonitor, by simp⟩
  · rintro ⟨htexts, hsecrets⟩
    simp only [textKeys, List.forall_mem_cons] at htexts
    obtain ⟨himage, hssh, htoken, hclaim, hdirectory, hbucket, hsync, hmonitor, -⟩ := htexts
    exact ⟨himage, hssh, htoken, hclaim, hdirectory, hbucket, hsync, hmonitor, hsecrets, trivial⟩

theorem exists_isHeldBy_iff {entries : List (String × Json)} :
    (∃ stored : StoredDefaults, stored.IsHeldBy entries) ↔ IsStored entries := by
  constructor
  · rintro ⟨stored, htexts, hsecrets⟩
    exact ⟨fun t ht => exists_holds_iff.1 ⟨_, htexts t ht⟩, exists_holds_iff.1 ⟨_, hsecrets⟩⟩
  · rintro ⟨htexts, hsecrets⟩
    have hvalues : ∀ t ∈ textKeys, ∃ text, Holds .text "" t.1 entries text :=
      fun t ht => exists_holds_iff.2 (htexts t ht)
    simp only [textKeys, List.forall_mem_cons] at hvalues
    obtain ⟨⟨image, himage⟩, ⟨ssh, hssh⟩, ⟨token, htoken⟩, ⟨claim, hclaim⟩,
      ⟨directory, hdirectory⟩, ⟨bucket, hbucket⟩, ⟨sync, hsync⟩, ⟨monitor, hmonitor⟩, -⟩ := hvalues
    have hlist : ∃ secrets, Holds Codec.text.list [] "imagePullSecrets" entries secrets :=
      exists_holds_iff.2 hsecrets
    obtain ⟨secrets, hlist⟩ := hlist
    refine ⟨⟨image, ssh, token, claim, directory, bucket, sync, monitor, secrets⟩, ?_, hlist⟩
    simp only [textKeys, List.forall_mem_cons]
    exact ⟨himage, hssh, htoken, hclaim, hdirectory, hbucket, hsync, hmonitor, by simp⟩

theorem parse?_eq {document : String} {json : Json} (h : Json.parse? document = some json) :
    parse? document = codec.decode? json := by
  rw [parse?, h, Option.bind_some]

theorem codec_decode?_eq {json json' : Json}
    (h : Relation.EqvGen (SameRecord blanks) json json') :
    codec.decode? json = codec.decode? json' := by
  induction h with
  | rel json json' h =>
    have hblanks : members.ReadsBlanks blanks := by simp [members, blanks, textKeys]
    exact Codec.decode?_record_eq hblanks (by decide) _ _ h
  | refl json => rfl
  | symm json json' _ ih => exact ih.symm
  | trans json json' json'' _ _ ih ih' => exact ih.trans ih'

theorem codec_restores (stored : StoredDefaults) : codec.Restores stored :=
  Codec.restores_record (by decide) stored rfl (by simp [members])

theorem codec_encode (stored : StoredDefaults) :
    codec.encode stored = .obj (textKeys.map (fun t => (t.1, .str (t.2 stored))) ++
      [("imagePullSecrets", .texts stored.pullSecrets)]) := rfl

theorem numberless_encode (stored : StoredDefaults) : Numberless (codec.encode stored) := by
  rw [codec_encode]
  refine .obj fun m hm => ?_
  rcases List.mem_append.1 hm with hm | hm
  · obtain ⟨t, -, rfl⟩ := List.mem_map.1 hm
    exact .str _
  · rw [List.mem_singleton.1 hm]
    refine .arr fun e he => ?_
    obtain ⟨text, -, rfl⟩ := List.mem_map.1 he
    exact .str text

/-- What is written for a document that is read is another document for the same. -/
theorem parse?_render_encode (stored : StoredDefaults) :
    parse? (render (codec.encode stored)) = some stored := by
  rw [parse?_eq (parse?_render (numberless_encode stored)), (codec_restores stored).decode]

end StoredDefaults

namespace Defaults

theorem resolve_of_parse?_none {environment : Environment} {document : String}
    (h : StoredDefaults.parse? document = none) :
    resolve environment (some document) = ofEnvironment environment := by
  rw [resolve, Option.bind_some, h]

theorem resolve_of_parse?_some {environment : Environment} {document : String}
    {stored : StoredDefaults} (h : StoredDefaults.parse? document = some stored) :
    resolve environment (some document) = (ofEnvironment environment).withStored stored := by
  rw [resolve, Option.bind_some, h]

theorem resolve_congr {environment : Environment} {document document' : String}
    (h : StoredDefaults.parse? document = StoredDefaults.parse? document') :
    resolve environment (some document) = resolve environment (some document') := by
  rw [resolve, resolve, Option.bind_some, Option.bind_some, h]

theorem orElse_eq (value other : String) :
    orElse value other = if value = "" then other else value := by
  simp [orElse, String.isEmpty_iff]

/-- A stored document counts as a whole, image by image over the environment and alone for the rest,
or not at all. An object counts unless a known key is repeated or has a value of another type. What
counts is the record it stands for: the order of its members, members with unknown keys and known
ones with null make no difference, nor does writing the record anew. -/
theorem resolve_all_or_nothing :
    (∀ environment, resolve environment none = ofEnvironment environment) ∧
    (∀ environment document, StoredDefaults.parse? document = none →
      resolve environment (some document) = ofEnvironment environment) ∧
    (∀ (environment : Environment) document stored,
      StoredDefaults.parse? document = some stored →
      resolve environment (some document) =
        { gitSyncImage :=
            if stored.gitSyncImage = "" then environment.gitSyncImage else stored.gitSyncImage
          monitorImage :=
            if stored.monitorImage = "" then environment.monitorImage else stored.monitorImage
          bucketFetchImage :=
            if stored.bucketFetchImage = "" then environment.bucketFetchImage
            else stored.bucketFetchImage
          launcherImage :=
            if stored.launcherImage = "" then environment.launcherImage else stored.launcherImage
          pullSecrets := stored.pullSecrets
          workingClaim := stored.workingClaim
          sshSecret := stored.sshSecret
          tokenSecret := stored.tokenSecret }) ∧
    (∀ document entries, Json.parse? document = some (.obj entries) →
      (∀ stored, StoredDefaults.parse? document = some stored ↔ stored.IsHeldBy entries) ∧
      (StoredDefaults.parse? document = none ↔ ¬StoredDefaults.IsStored entries)) ∧
    (∀ environment document document' json json', Json.parse? document = some json →
      Json.parse? document' = some json' →
      Relation.EqvGen (SameRecord StoredDefaults.blanks) json json' →
      resolve environment (some document) = resolve environment (some document')) ∧
    (∀ environment document stored, StoredDefaults.parse? document = some stored →
      resolve environment (some (Json.render (StoredDefaults.codec.encode stored))) =
        resolve environment (some document)) := by
  refine ⟨fun _ => rfl, fun _ _ => resolve_of_parse?_none, ?_, ?_, ?_, ?_⟩
  · intro environment document stored h
    rw [resolve_of_parse?_some h, withStored]
    simp only [orElse_eq, ofEnvironment]
  · intro document entries h
    have hiff (stored : StoredDefaults) :
        StoredDefaults.parse? document = some stored ↔ stored.IsHeldBy entries := by
      rw [StoredDefaults.parse?_eq h, StoredDefaults.codec_decode?_obj_iff]
    refine ⟨hiff, ?_⟩
    rw [← StoredDefaults.exists_isHeldBy_iff, Option.eq_none_iff_forall_ne_some, not_exists]
    exact forall_congr' fun stored => not_congr (hiff stored)
  · intro environment document document' json json' h h' hsame
    apply resolve_congr
    rw [StoredDefaults.parse?_eq h, StoredDefaults.parse?_eq h',
      StoredDefaults.codec_decode?_eq hsame]
  · intro environment document stored h
    apply resolve_congr
    rw [StoredDefaults.parse?_render_encode, h]

theorem resolve_all_or_nothing_ssh :
    let environment : Environment := { gitSyncImage := "sync", launcherImage := "launch" }
    let options : Defaults :=
      { gitSyncImage := "sync", launcherImage := "launch", sshSecret := "ssh" }
    let document := "\x7b\"image\":\"\",\"gitsecret\":\"ssh\"\x7d"
    let other := "\x7b\"x\":[],\"gitsecret\":\"ssh\",\"image\":\"\",\"inputdatadir\":null\x7d"
    let mistyped := "\x7b\"gitsecret\":\"ssh\",\"inputdatadir\":true\x7d"
    resolve environment (some document) = options ∧ resolve environment (some other) = options ∧
      resolve environment (some mistyped) = ofEnvironment environment ∧
      ∃ stored, StoredDefaults.parse? document = some stored ∧
        resolve environment (some (Json.render (StoredDefaults.codec.encode stored))) =
          options := by
  intro environment options document other mistyped
  obtain ⟨-, hnone, hsome, hobject, hrecord, hagain⟩ := resolve_all_or_nothing
  let entries : List (String × Json) := [("image", .str ""), ("gitsecret", .str "ssh")]
  let moved : List (String × Json) := [("gitsecret", .str "ssh"), ("image", .str "")]
  have hread {text : String} {json : Json} (hplain : Numberless json)
      (htext : text = Json.render json) : Json.parse? text = some json := by
    rw [htext, parse?_render hplain]
  have hentries : Json.parse? document = some (.obj entries) :=
    hread (.obj (by simp [entries, Numberless.str])) (by decide)
  have hother : Json.parse? other =
      some (.obj (("x", .arr []) :: (moved ++ [("inputdatadir", .null)]))) :=
    hread (.obj (by simp [moved, Numberless.str, Numberless.null, Numberless.arr])) (by decide)
  have hmistyped : Json.parse? mistyped =
      some (.obj [("gitsecret", .str "ssh"), ("inputdatadir", .bool true)]) :=
    hread (.obj (by simp [Numberless.str, Numberless.bool])) (by decide)
  have hstored : StoredDefaults.parse? document = some ⟨"", "ssh", "", "", "", "", "", "", []⟩ :=
    (StoredDefaults.parse?_eq hentries).trans (by rfl)
  have hoptions : resolve environment (some document) = options :=
    hsome environment document _ hstored
  have hsame : Relation.EqvGen (SameRecord StoredDefaults.blanks)
      (.obj (("x", .arr []) :: (moved ++ [("inputdatadir", .null)]))) (.obj entries) := by
    have hunknown := @SameRecord.unknown StoredDefaults.blanks []
      (moved ++ [("inputdatadir", .null)]) "x" (.arr []) (by decide)
    have hblank := @SameRecord.blank StoredDefaults.blanks moved [] "inputdatadir" .null
      (by simp [StoredDefaults.blanks, StoredDefaults.textKeys]) (by decide)
    have horder : SameRecord StoredDefaults.blanks (.obj moved) (.obj entries) :=
      .order (.swap _ _ _)
    exact .trans _ _ _ (.rel _ _ hunknown) (.trans _ _ _ (.rel _ _ hblank) (.rel _ _ horder))
  have hvoid : ¬StoredDefaults.IsStored
      [("gitsecret", .str "ssh"), ("inputdatadir", .bool true)] := by
    intro h
    have hdirectory := h.texts ("inputdatadir", StoredDefaults.inputDirectory)
      (by simp [StoredDefaults.textKeys])
    rcases hdirectory.typed (.bool true) (by simp) with hnull | ⟨text, htext⟩
    · cases hnull
    · cases htext
  refine ⟨hoptions, ?_, ?_, _, hstored, ?_⟩
  · rw [hrecord environment other document _ _ hother hentries hsame, hoptions]
  · exact hnone environment mistyped ((hobject mistyped _ hmistyped).2.2 hvoid)
  · rw [hagain environment document _ hstored, hoptions]

end Defaults

end WorkflowPod.Operator
