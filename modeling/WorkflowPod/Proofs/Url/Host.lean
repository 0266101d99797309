import WorkflowPod.Proofs.Text.Utf8
import WorkflowPod.Proofs.Url.Basic
import WorkflowPod.Proofs.Url.Domain
import WorkflowPod.Url.Host

/-!
Hosts that name machines on the network. Main statements: the normal form of such a host stands for
the same host, as long as its labels are decoded, and it is the whole host where it stands in a URL.
-/
namespace WorkflowPod.Url

open Text

/-- Without percent signs the bytes are those of the text. -/
theorem percentDecode_of_not_mem {s : List Char} (h : '%' ∉ s) :
    percentDecode s = s.flatMap String.utf8EncodeChar := by
  induction s with
  | nil => rfl
  | cons c s ih =>
    have hc : c ≠ '%' := fun heq => h (by simp [heq])
    rw [List.flatMap_cons, ← ih fun hmem => h (List.mem_cons_of_mem _ hmem), percentDecode]
    simp [hc]

theorem textOfBytes?_encoded (s : List Char) :
    textOfBytes? (s.flatMap String.utf8EncodeChar) = some s := by
  rw [← bytes, textOfBytes?, fromUTF8?_bytes, Option.map_some, String.toList_ofList]

namespace Host

/-- The hosts that texts stand for. -/
inductive IsNetwork : Host → Prop where
  | ipv6 (pieces : List Nat) (h : Ipv6.IsAddress pieces) : IsNetwork (.ipv6 pieces)
  | ipv4 (number : Nat) (h : number < 2 ^ 32) : IsNetwork (.ipv4 number)
  | name (source text : List Char) (h : Domain.toAscii? source = some text) (hne : text ≠ [])
      (hnumber : Ipv4.endsInNumber text = false) : IsNetwork (.name text)

theorem isNetwork_of_parseNetwork {s : List Char} {host : Host} (h : parseNetwork s = .ok host) :
    IsNetwork host := by
  unfold parseNetwork at h
  split at h
  · rename_i result hbracketed
    subst h
    unfold parseBracketed? at hbracketed
    split at hbracketed
    · split at hbracketed
      · split at hbracketed
        · rename_i pieces hpieces
          cases hbracketed
          exact .ipv6 pieces (Ipv6.isAddress_of_parse? hpieces)
        · cases hbracketed
      · cases hbracketed
    · cases hbracketed
  · split at h
    · cases h
    · rename_i domain hdomain
      obtain ⟨source, -, hsource⟩ := Option.bind_eq_some_iff.mp hdomain
      split at h
      · cases h
      · rename_i hne
        split at h
        · split at h
          · rename_i number hnumber
            cases h
            exact .ipv4 number (Ipv4.lt_of_parse? hnumber)
          · cases h
        · rename_i hnumber
          cases h
          exact .name source domain hsource (by simpa using hne) (by simpa using hnumber)

/-- Whether the labels of a name are as short as those that are decoded. -/
def HasShortLabels : Host → Prop
  | name text => Domain.HasShortLabels text
  | _ => True

theorem isNameChar_of_mem_render {number : Nat} :
    ∀ c ∈ Ipv4.render number, Domain.IsNameChar c := by
  have hdigit : ∀ d < 10, d.digitChar.toNat < 0x80 ∧
      ¬(0x41 ≤ d.digitChar.toNat ∧ d.digitChar.toNat ≤ 0x5A) ∧
      Domain.isForbidden d.digitChar = false := by decide
  intro c hc
  obtain rfl | ⟨d, hd, rfl⟩ := Ipv4.mem_render hc
  · exact Domain.isNameChar_dot
  · obtain ⟨hplain, hlower, hallowed⟩ := hdigit d hd
    exact ⟨hplain, hlower, hallowed⟩

/-- No label of an address is taken for one in Punycode. -/
theorem afterLead?_of_mem_splitOn {number : Nat} {label : List Char}
    (h : label ∈ (Ipv4.render number).splitOn '.') : afterLead? Domain.mark label = none := by
  cases hlead : afterLead? Domain.mark label with
  | none => rfl
  | some encoded =>
    have hx : 'x' ∈ label := by
      rw [afterLead?_eq_some_iff.mp hlead]
      simp [Domain.mark]
    have hne : ∀ d < 10, 'x' ≠ d.digitChar := by decide
    obtain heq | ⟨d, hd, heq⟩ := Ipv4.mem_render (mem_of_mem_splitOn h hx)
    · exact absurd heq (by decide)
    · exact absurd heq (hne d hd)

theorem parseNetwork_of_isNameChar {text : List Char} (h : ∀ c ∈ text, Domain.IsNameChar c) :
    parseNetwork text =
      match Domain.toAscii? text with
      | none => .error .invalidDomain
      | some domain =>
        if domain.isEmpty then .error .emptyHost
        else if Ipv4.endsInNumber domain then
          match Ipv4.parse? domain with
          | some number => .ok (.ipv4 number)
          | none => .error .invalidIpv4
        else .ok (.name domain) := by
  have hallowed {c : Char} (hc : Domain.isForbidden c = true) : c ∉ text := by
    intro hmem
    rw [(h c hmem).allowed] at hc
    cases hc
  have hbracketed : parseBracketed? text = none := by
    unfold parseBracketed?
    split
    · exact absurd List.mem_cons_self (hallowed (by decide))
    · rfl
  have htext : textOfBytes? (percentDecode text) = some text := by
    rw [percentDecode_of_not_mem (hallowed (by decide)), textOfBytes?_encoded]
  rw [parseNetwork, hbracketed, htext]
  rfl

theorem isHostText_of_isNameChar {text : List Char} (hne : text ≠ [])
    (h : ∀ c ∈ text, Domain.IsNameChar c) : IsHostText text := by
  have hother {c d : Char} (hc : c ∈ text) (hd : Domain.isForbidden d = true) : c ≠ d := by
    rintro rfl
    rw [(h c hc).allowed] at hd
    cases hd
  have hends : ∀ c ∈ text, endsAuthority true c = false := by
    intro c hc
    simp [endsAuthority, hother hc (d := '/') (by decide), hother hc (d := '?') (by decide),
      hother hc (d := '#') (by decide), hother hc (d := '\\') (by decide)]
  refine ⟨hne, fun c hc => ⟨?_, hother hc (by decide), hends c hc⟩, fun rest hrest => ?_⟩
  · have hallowed := (h c hc).allowed
    simp only [Domain.isForbidden, Bool.or_eq_false_iff, decide_eq_false_iff_not] at hallowed
    omega
  · exact cutHost_append
      (fun c hc => ⟨hends c hc, hother hc (by decide), hother hc (by decide)⟩) hrest

theorem isHostText_ipv6 (pieces : List Nat) : IsHostText (render (.ipv6 pieces)) := by
  have hdigit : ∀ d < 16, 0x20 < d.digitChar.toNat ∧ d.digitChar ≠ '@' ∧
      endsAuthority true d.digitChar = false ∧ d.digitChar ≠ ']' := by decide
  have hinner : ∀ c ∈ Ipv6.render pieces,
      0x20 < c.toNat ∧ c ≠ '@' ∧ endsAuthority true c = false ∧ c ≠ ']' := by
    intro c hc
    obtain rfl | ⟨d, hd, rfl⟩ := Ipv6.mem_render hc
    · decide
    · exact hdigit d hd
  refine ⟨List.cons_ne_nil _ _, fun c hc => ?_, fun rest hrest => ?_⟩
  · rw [render, List.mem_cons, List.mem_append, List.mem_singleton] at hc
    obtain rfl | hc | rfl := hc
    · decide
    · obtain ⟨hlow, hat, hends, -⟩ := hinner c hc
      exact ⟨hlow, hat, hends⟩
    · decide
  · have hcut := cutHost_bracketed (fun c hc => (hinner c hc).2.2) hrest
    rw [render, List.cons_append, List.append_assoc, List.singleton_append, cutHost, if_neg (by decide),
      if_pos (by decide), hcut]

namespace IsNetwork

variable {host : Host} (h : IsNetwork host)
include h

/-- The normal form of a host is a whole host in a URL. -/
theorem isHostText : IsHostText host.render := by
  cases h with
  | ipv6 pieces h => exact isHostText_ipv6 pieces
  | ipv4 number h =>
    have hne : Ipv4.render number ≠ [] := by
      intro hempty
      have hnumber := Ipv4.endsInNumber_render number
      rw [hempty] at hnumber
      exact absurd hnumber (by decide)
    exact isHostText_of_isNameChar hne isNameChar_of_mem_render
  | name source text h hne hnumber =>
    obtain ⟨labels, ascii, hform⟩ := Domain.exists_isForm h
    exact isHostText_of_isNameChar hne hform.isNameChar

/-- The normal form of a host stands for it, as long as the labels are decoded; if one is not, it
stands for no host. -/
theorem parseNetwork_render_iff {found : Host} :
    parseNetwork host.render = .ok found ↔ found = host ∧ host.HasShortLabels := by
  cases h with
  | ipv6 pieces h =>
    have hread : parseNetwork (render (.ipv6 pieces)) = .ok (.ipv6 pieces) := by
      simp [render, parseNetwork, parseBracketed?, Ipv6.parse?_render h]
    rw [hread, Except.ok.injEq]
    exact ⟨fun heq => ⟨heq.symm, trivial⟩, fun hfound => hfound.1.symm⟩
  | ipv4 number h =>
    have hascii : Domain.toAscii? (Ipv4.render number) = some (Ipv4.render number) :=
      Domain.toAscii?_of_isNameChar isNameChar_of_mem_render fun label => afterLead?_of_mem_splitOn
    have hne : (Ipv4.render number).isEmpty = false := by
      rw [List.isEmpty_eq_false_iff]
      exact (IsNetwork.ipv4 number h).isHostText.ne_nil
    have hread : parseNetwork (render (.ipv4 number)) = .ok (.ipv4 number) := by
      rw [render, parseNetwork_of_isNameChar isNameChar_of_mem_render, hascii]
      simp [hne, Ipv4.endsInNumber_render, Ipv4.parse?_render h]
    rw [hread, Except.ok.injEq]
    exact ⟨fun heq => ⟨heq.symm, trivial⟩, fun hfound => hfound.1.symm⟩
  | name source text h hne hnumber =>
    obtain ⟨labels, ascii, hform⟩ := Domain.exists_isForm h
    rw [render, parseNetwork_of_isNameChar hform.isNameChar, HasShortLabels]
    cases hself : Domain.toAscii? text with
    | none =>
      refine iff_of_false (by simp) fun ⟨_, hshort⟩ => ?_
      rw [(Domain.toAscii?_of_toAscii? h).mpr ⟨rfl, hshort⟩] at hself
      cases hself
    | some text' =>
      obtain ⟨rfl, hshort⟩ := (Domain.toAscii?_of_toAscii? h).mp hself
      have hempty : text'.isEmpty = false := by simpa using hne
      simp only [hempty, hnumber, Bool.false_eq_true, if_false, Except.ok.injEq]
      exact ⟨fun heq => ⟨heq.symm, hshort⟩, fun hfound => hfound.1.symm⟩

end IsNetwork

end Host

/-- Whether the labels of the host are as short as those that are decoded. -/
def HasShortLabels (url : Url) : Prop := ∀ host ∈ url.host, host.HasShortLabels

/-- The URL without slashes before its path and without what follows it. -/
def bare (url : Url) : Url := { url with path := url.path.dropWhile (· == '/'), query := none }

theorem bare_eq_self_iff {url : Url} :
    url.bare = url ↔ url.path.head? ≠ some '/' ∧ url.query = none := by
  obtain ⟨scheme, host, port, path, query⟩ := url
  have hpath : path.dropWhile (· == '/') = path ↔ path.head? ≠ some '/' := by
    rw [List.dropWhile_eq_self_iff]
    cases path <;> simp
  simp only [bare, Url.mk.injEq, true_and, hpath]
  rw [eq_comm (a := none)]

/-- The location and the path of a URL make up a URL with these parts, as long as the labels of the
host are decoded. -/
theorem parse_bare_iff {url : Url} (h : IsNetwork url) {location : String}
    (hlocation : url.location? = some location) {url' : Url} :
    parse ("https://" ++ (location ++ "/" ++ String.ofList url.bare.path)) = .ok url' ↔
      url' = url.bare ∧ url.HasShortLabels := by
  obtain ⟨text, host, hparse, hhost⟩ := h.host
  have hnetwork := Host.isNetwork_of_parseNetwork hparse
  have htext : "https://" ++ (location ++ "/" ++ String.ofList url.bare.path) =
      String.ofList ("https://".toList ++ (locationText host url.port ++ '/' :: url.bare.path)) := by
    rw [location?_eq hhost, Option.some.injEq] at hlocation
    rw [← hlocation]
    simp [String.ext_iff]
  have hshort : url.HasShortLabels ↔ host.HasShortLabels := by simp [HasShortLabels, hhost]
  have hbare : url.bare = ⟨https, some host, url.port, url.bare.path, none⟩ := by
    rw [bare, h.scheme, hhost]
  have hwritten : parse (String.ofList ("https://".toList ++
      (locationText host url.port ++ '/' :: url.bare.path))) = _ :=
    parse_written hnetwork.isHostText h.port h.path.dropWhile
  rw [htext, hwritten, hshort]
  constructor
  · intro hread
    cases hfound : Host.parseNetwork host.render with
    | error fault =>
      rw [hfound] at hread
      cases hread
    | ok found =>
      obtain ⟨rfl, hdecoded⟩ := hnetwork.parseNetwork_render_iff.mp hfound
      rw [hfound] at hread
      exact ⟨(Except.ok.inj hread).symm.trans hbare.symm, hdecoded⟩
  · rintro ⟨rfl, hdecoded⟩
    rw [hnetwork.parseNetwork_render_iff.mpr ⟨rfl, hdecoded⟩]
    exact congrArg Except.ok hbare.symm

end WorkflowPod.Url
