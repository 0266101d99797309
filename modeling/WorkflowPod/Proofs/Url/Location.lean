import WorkflowPod.Proofs.Url.Host

/-!
The location of a URL, its host and port in one text. Main statement: whatever kind of host a URL
has, its location ends in a colon and a number exactly if this number is the port.
-/
namespace WorkflowPod.Url

open Text

namespace Host

/-- No colon in the text of the host can be taken for the one before a port. -/
def IsDelimited (host : Host) : Prop := ':' ∉ host.render ∨ host.render.getLast? = some ']'

theorem isDelimited_ipv6 (pieces : List Nat) : IsDelimited (.ipv6 pieces) := by
  right
  rw [render, ← List.cons_append, List.getLast?_concat]

theorem IsNetwork.isDelimited {host : Host} (h : IsNetwork host) : host.IsDelimited := by
  have hname {text : List Char} (htext : ∀ c ∈ text, Domain.IsNameChar c) : ':' ∉ text := by
    intro hcolon
    have hallowed := (htext ':' hcolon).allowed
    exact absurd hallowed (by decide)
  cases h with
  | ipv6 pieces => exact isDelimited_ipv6 pieces
  | ipv4 number => exact .inl (hname isNameChar_of_mem_render)
  | name source text h =>
    obtain ⟨labels, ascii, hform⟩ := Domain.exists_isForm h
    exact .inl (hname hform.isNameChar)

/-- What is not in brackets has no colon, encoded or not. -/
theorem isDelimited_of_parseOpaque {s : List Char} {host : Host} (h : parseOpaque s = .ok host) :
    host.IsDelimited := by
  unfold parseOpaque parseBracketed? at h
  split at h
  · rename_i result hbracketed
    subst h
    split at hbracketed
    · split at hbracketed
      · split at hbracketed <;> cases hbracketed
        exact isDelimited_ipv6 _
      · cases hbracketed
    · cases hbracketed
  · split at h <;> cases h
    rename_i hallowed
    left
    rw [render]
    intro hcolon
    have hdigit : ∀ d < 16, ':' ≠ hexDigit d := by decide
    obtain ⟨hmem, -⟩ | heq | ⟨d, hd, heq⟩ := mem_percentEncode hcolon
    · exact hallowed (List.any_eq_true.mpr ⟨':', hmem, by decide⟩)
    · exact absurd heq (by decide)
    · exact hdigit d hd heq

end Host

theorem isDelimited_of_parseAuthority {scheme s : List Char} {network : Bool} {url : Url}
    (h : parseAuthority scheme network s = .ok url) {host : Host} (hhost : url.host = some host) :
    host.IsDelimited := by
  unfold parseAuthority at h
  obtain ⟨⟨user, rest⟩, -, h⟩ := exists_of_bind h
  dsimp only at h
  split at h
  · obtain ⟨_, hthrow, _⟩ := exists_of_bind h
    cases hthrow
  split at h
  · obtain ⟨host?, hhost?, h⟩ := exists_of_bind h
    cases hhost?
    split at h <;> obtain ⟨_, -, ⟨⟩⟩ := exists_of_bind h <;> cases hhost
  · obtain ⟨host?, hhost?, h⟩ := exists_of_bind h
    obtain ⟨found, hfound, ⟨⟩⟩ := exists_of_bind hhost?
    obtain rfl : found = host := by
      split at h <;> obtain ⟨_, -, ⟨⟩⟩ := exists_of_bind h <;> exact Option.some.inj hhost
    cases network with
    | true => exact (Host.isNetwork_of_parseNetwork hfound).isDelimited
    | false => exact Host.isDelimited_of_parseOpaque hfound

theorem isDelimited_of_parse {text : String} {url : Url} (h : parse text = .ok url) {host : Host}
    (hhost : url.host = some host) : host.IsDelimited := by
  unfold parse at h
  split at h
  · cases h
  · split at h
    · exact isDelimited_of_parseAuthority h hhost
    · split at h
      · exact isDelimited_of_parseAuthority h hhost
      · cases h
        cases hhost

/-- Neither a colon nor a bracket is part of a number. -/
theorem not_mem_toString {c : Char} (hc : ∀ d < 10, c ≠ d.digitChar) (n : Nat) :
    c ∉ (toString n).toList := by
  have htext : (toString n).toList = Nat.toDigits 10 n := by simp
  rw [htext]
  intro hmem
  obtain ⟨d, hd, heq⟩ := exists_digitChar_of_mem (by decide) hmem
  exact hc d hd heq

theorem readNat?_toString (n : Nat) : readNat? 10 (toString n).toList = some n := by
  have htext : (toString n).toList = Nat.toDigits 10 n := by simp
  rw [htext, readNat?_toDigits (by decide) (by decide)]

theorem cutAtLast?_number (lead : List Char) (n : Nat) :
    cutAtLast? (· == ':') (lead ++ ':' :: (toString n).toList) =
      some (lead, (toString n).toList) := by
  have hcolon : ':' ∉ (toString n).toList := not_mem_toString (by decide) n
  apply cutAtLast?_append
  · rfl
  · intro d hd
    rw [beq_eq_false_iff_ne]
    rintro rfl
    exact hcolon hd

/-- A number after the last colon of a location is the port, and there is none without a port. -/
theorem exists_locationText_eq_iff {host : Host} (h : host.IsDelimited) (port : Option Nat)
    (n : Nat) :
    (∃ name, locationText host port = name ++ ':' :: (toString n).toList) ↔ port = some n := by
  constructor
  · rintro ⟨name, heq⟩
    cases port with
    | none =>
      have hrender : host.render = name ++ ':' :: (toString n).toList := by
        simpa [locationText] using heq
      rcases h with hplain | hbracket
      · exact absurd (hrender ▸ List.mem_append_right name List.mem_cons_self) hplain
      · rw [hrender, List.getLast?_append_of_ne_nil _ (List.cons_ne_nil _ _)] at hbracket
        have hmem : ']' ∈ ':' :: (toString n).toList := List.mem_of_getLast? hbracket
        rcases List.mem_cons.mp hmem with hcolon | hnumber
        · exact absurd hcolon (by decide)
        · exact absurd hnumber (not_mem_toString (by decide) n)
    | some m =>
      have hport : host.render ++ ':' :: (toString m).toList = name ++ ':' :: (toString n).toList :=
        heq
      have hcut : some (host.render, (toString m).toList) = some (name, (toString n).toList) := by
        rw [← cutAtLast?_number, hport, cutAtLast?_number]
      have hnumber : (toString m).toList = (toString n).toList :=
        congrArg Prod.snd (Option.some.inj hcut)
      rw [← readNat?_toString m, hnumber, readNat?_toString]
  · rintro rfl
    exact ⟨host.render, rfl⟩

end WorkflowPod.Url
