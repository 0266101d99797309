import WorkflowPod.Proofs.Except
import WorkflowPod.Proofs.Text.Digits
import WorkflowPod.Proofs.Text.Search
import WorkflowPod.Proofs.Url.Segments
import WorkflowPod.Url.Basic

/-!
What the parts of an https URL look like, and that a URL written from its parts has those parts.
-/
namespace WorkflowPod.Url

open Text

/-- The scheme for which hosts are machines on the network. -/
def https : List Char := "https".toList

/-- A text that is the whole host where it stands before a port or a path. -/
structure IsHostText (text : List Char) : Prop where
  ne_nil : text ≠ []
  plain : ∀ c ∈ text, 0x20 < c.toNat ∧ c ≠ '@' ∧ endsAuthority true c = false
  cut : ∀ rest, rest.head? = some ':' ∨ rest.head? = some '/' →
    cutHost true false (text ++ rest) = (text, rest)

/-- The end of the host is the first colon or slash. -/
theorem cutHost_append {text rest : List Char}
    (htext : ∀ c ∈ text, endsAuthority true c = false ∧ c ≠ ':' ∧ c ≠ '[')
    (hrest : rest.head? = some ':' ∨ rest.head? = some '/') :
    cutHost true false (text ++ rest) = (text, rest) := by
  induction text with
  | nil =>
    cases rest with
    | nil => simp at hrest
    | cons c rest =>
      simp only [List.head?_cons, Option.some.injEq] at hrest
      obtain rfl | rfl := hrest <;> simp [cutHost, endsAuthority]
  | cons c text ih =>
    obtain ⟨hends, hcolon, hbracket⟩ := htext c List.mem_cons_self
    have htail := ih fun d hd => htext d (List.mem_cons_of_mem _ hd)
    simp [cutHost, hends, hcolon, hbracket, htail]

/-- Colons in brackets belong to the host. -/
theorem cutHost_bracketed {text rest : List Char}
    (htext : ∀ c ∈ text, endsAuthority true c = false ∧ c ≠ ']')
    (hrest : rest.head? = some ':' ∨ rest.head? = some '/') :
    cutHost true true (text ++ ']' :: rest) = (text ++ [']'], rest) := by
  induction text with
  | nil =>
    have hcut : cutHost true false ([] ++ rest) = ([], rest) := cutHost_append (by simp) hrest
    rw [List.nil_append] at hcut
    simp [cutHost, endsAuthority, hcut]
  | cons c text ih =>
    obtain ⟨hends, hbracket⟩ := htext c List.mem_cons_self
    have hinside : (c != ']') = true := by simpa using hbracket
    have htail := ih fun d hd => htext d (List.mem_cons_of_mem _ hd)
    simp [cutHost, hends, hinside, htail]

/-- The parts of a URL that names a machine on the network. -/
structure IsNetwork (url : Url) : Prop where
  scheme : url.scheme = https
  host : ∃ text host, Host.parseNetwork text = .ok host ∧ url.host = some host
  /-- The port of the scheme is left out. -/
  port : ∀ port ∈ url.port, port < 65536 ∧ port ≠ 443
  path : IsNormalPath url.path

theorem scheme_of_parseAuthority {scheme s : List Char} {network : Bool} {url : Url}
    (h : parseAuthority scheme network s = .ok url) : url.scheme = scheme := by
  unfold parseAuthority at h
  obtain ⟨⟨user, rest⟩, -, h⟩ := exists_of_bind h
  dsimp only at h
  split at h
  · obtain ⟨_, hthrow, _⟩ := exists_of_bind h
    cases hthrow
  · split at h <;> obtain ⟨host, -, h⟩ := exists_of_bind h <;> split at h <;>
      obtain ⟨_, -, ⟨⟩⟩ := exists_of_bind h <;> rfl

theorem lt_of_readPort {s rest : List Char} {port : Nat} (h : readPort s = .ok (some port, rest)) :
    port < 65536 := by
  unfold readPort at h
  dsimp only at h
  split at h
  · split at h <;> simp at h
  · split at h
    · rename_i hport
      simp only [Except.ok.injEq, Prod.mk.injEq, Option.some.injEq] at h
      rw [← h.1]
      exact hport.1
    · cases h

theorem isNormalPath_readPath (s : List Char) : IsNormalPath (readPath true s).1 := by
  unfold readPath
  split <;> exact isNormalPath_normalPath _

theorem isNetwork_of_parseAuthority {s : List Char} {url : Url}
    (h : parseAuthority https true s = .ok url) : IsNetwork url := by
  have hscheme := scheme_of_parseAuthority h
  unfold parseAuthority at h
  obtain ⟨⟨user, rest⟩, -, h⟩ := exists_of_bind h
  dsimp only at h
  split at h
  · obtain ⟨_, hthrow, _⟩ := exists_of_bind h
    cases hthrow
  rename_i hempty
  rw [if_neg fun htext => hempty ⟨htext, .inl rfl⟩, if_pos rfl] at h
  obtain ⟨host?, hhost?, h⟩ := exists_of_bind h
  obtain ⟨host, hhost, ⟨⟩⟩ := exists_of_bind hhost?
  split at h
  · obtain ⟨⟨port?, rest⟩, hport, ⟨⟩⟩ := exists_of_bind h
    refine ⟨hscheme, ⟨_, host, hhost, rfl⟩, fun port hmem => ?_, isNormalPath_readPath _⟩
    obtain ⟨rfl, hne⟩ := Option.filter_eq_some_iff.mp hmem
    exact ⟨lt_of_readPort hport, by simpa using hne⟩
  · obtain ⟨⟨port?, rest⟩, ⟨⟩, ⟨⟩⟩ := exists_of_bind h
    exact ⟨hscheme, ⟨_, host, hhost, rfl⟩, by simp, isNormalPath_readPath _⟩

/-- A URL of the scheme names a machine on the network. -/
theorem isNetwork_of_parse {text : String} {url : Url} (h : parse text = .ok url)
    (hscheme : url.scheme = https) : IsNetwork url := by
  unfold parse at h
  split at h
  · cases h
  · split at h
    · rename_i scheme rest _ heq
      rw [show scheme = https from heq] at h
      exact isNetwork_of_parseAuthority h
    · rename_i scheme rest _ hother
      refine absurd ?_ hother
      split at h
      · exact (scheme_of_parseAuthority h).symm.trans hscheme
      · cases h
        exact hscheme

/-- The host and the port as they stand in a URL. -/
def locationText (host : Host) (port : Option Nat) : List Char :=
  host.render ++ (port.map fun port => ':' :: (toString port).toList).getD []

theorem location?_eq {url : Url} {host : Host} (h : url.host = some host) :
    url.location? = some (String.ofList (locationText host url.port)) := by
  rw [location?, h]
  rfl

/-- Stripping leaves the start of a text as it is. -/
theorem stripped_append {lead : List Char} (hne : lead ≠ []) (hlead : ∀ c ∈ lead, 0x20 < c.toNat)
    (rest : List Char) :
    stripped (lead ++ rest) = lead ++ (dropTailWhile (·.toNat ≤ 0x20) rest).filter fun c =>
      c != '\t' && c != '\n' && c != '\r' := by
  have hhead : (lead ++ rest).dropWhile (·.toNat ≤ 0x20) = lead ++ rest := by
    obtain ⟨c, lead, rfl⟩ := List.exists_cons_of_ne_nil hne
    have hc : ¬c.toNat ≤ 0x20 := Nat.not_le.mpr (hlead c List.mem_cons_self)
    rw [List.cons_append, List.dropWhile_cons, if_neg (by simpa using hc)]
  have hlast : dropTailWhile (·.toNat ≤ 0x20) lead = lead := by
    refine dropTailWhile_eq_self fun c hc => ?_
    simpa using hlead c (List.mem_of_getLast? hc)
  have hfilter : lead.filter (fun c => c != '\t' && c != '\n' && c != '\r') = lead := by
    refine List.filter_eq_self.mpr fun c hc => ?_
    have hblank := hlead c hc
    have htab : c ≠ '\t' := by rintro rfl; exact absurd hblank (by decide)
    have hline : c ≠ '\n' := by rintro rfl; exact absurd hblank (by decide)
    have hreturn : c ≠ '\r' := by rintro rfl; exact absurd hblank (by decide)
    simp [htab, hline, hreturn]
  rw [stripped, hhead, dropTailWhile_append hlast, List.filter_append, hfilter]

theorem wide_of_mem_https : ∀ c ∈ "https://".toList, 0x20 < c.toNat := by simp

theorem readScheme?_https (rest : List Char) :
    readScheme? ("https://".toList ++ rest) = some (https, '/' :: '/' :: rest) := rfl

/-- Without an at sign before the path there is no user information. -/
theorem skipUser_append {authority rest : List Char}
    (h : ∀ c ∈ authority, c ≠ '@' ∧ endsAuthority true c = false)
    (hrest : rest.head? = some '/') :
    skipUser true (authority ++ rest) = .ok (false, authority ++ rest) := by
  obtain ⟨rest, rfl⟩ : ∃ after, rest = '/' :: after := by
    cases rest with
    | nil => cases hrest
    | cons c after => exact ⟨after, by simp_all⟩
  have hauthority : (authority ++ '/' :: rest).takeWhile (!endsAuthority true ·) = authority := by
    rw [List.takeWhile_append_of_pos fun c hc => by simp [h c hc]]
    simp [endsAuthority]
  have hcut : cutAtLast? (· == '@') authority = none :=
    cutAtLast?_eq_none fun c hc => by simpa using (h c hc).1
  simp [skipUser, hauthority, hcut]

theorem readPort_toString {port : Nat} (h : port < 65536) (rest : List Char) :
    readPort ((toString port).toList ++ '/' :: rest) = .ok (some port, '/' :: rest) := by
  have hdigits : ∀ c ∈ Nat.toDigits 10 port, c.isDigit = true :=
    fun c hc => isDigit_of_mem_toDigits hc
  have htext : (toString port).toList = Nat.toDigits 10 port := by simp
  have htake : (Nat.toDigits 10 port ++ '/' :: rest).takeWhile Char.isDigit =
      Nat.toDigits 10 port := by
    rw [List.takeWhile_append_of_pos hdigits]
    simp
  have hdrop : (Nat.toDigits 10 port ++ '/' :: rest).dropWhile Char.isDigit = '/' :: rest := by
    rw [List.dropWhile_append_of_pos hdigits]
    simp
  rw [htext]
  simp [readPort, htake, hdrop, readNat?_toDigits, h]

theorem readPath_of_isNormalPath {path : List Char} (h : IsNormalPath path) :
    readPath true ('/' :: path) = (path, none) := by
  have hplain : ∀ c ∈ '/' :: path, (c != '?' && c != '#') = true := by
    intro c hc
    have hc : c = '/' ∨ isSegmentChar c := by
      obtain rfl | hc := List.mem_cons.mp hc
      · exact .inl rfl
      · exact h.isSegmentChar_of_mem hc
    obtain rfl | hc := hc
    · decide
    · rw [Bool.and_eq_true, bne_iff_ne, bne_iff_ne]
      constructor <;> rintro rfl <;> exact absurd hc (by decide)
  have htake : ('/' :: path).takeWhile (fun c => c != '?' && c != '#') = '/' :: path :=
    List.takeWhile_eq_self_iff.mpr hplain
  have hdrop : ('/' :: path).dropWhile (fun c => c != '?' && c != '#') = [] :=
    List.dropWhile_eq_nil_iff.mpr hplain
  rw [readPath, htake, hdrop, h.normalPath_eq]

/-- The characters of a host with its port. -/
theorem plain_locationText {host : Host} (hhost : IsHostText host.render) (port : Option Nat)
    {c : Char} (hc : c ∈ locationText host port) :
    0x20 < c.toNat ∧ c ≠ '@' ∧ endsAuthority true c = false := by
  rw [locationText, List.mem_append] at hc
  obtain hc | hc := hc
  · exact hhost.plain c hc
  · cases port with
    | none => simp at hc
    | some port =>
      rw [Option.map_some, Option.getD_some, List.mem_cons] at hc
      obtain rfl | hc := hc
      · decide
      · have hdigit : c ∈ Nat.toDigits 10 port := by simpa using hc
        obtain ⟨d, hd, rfl⟩ := exists_digitChar_of_mem (by decide) hdigit
        clear hc hdigit
        revert d
        decide

theorem cutHost_locationText {host : Host} (hhost : IsHostText host.render) (port : Option Nat)
    (rest : List Char) :
    cutHost true false (locationText host port ++ '/' :: rest) =
      (host.render, (port.map fun port => ':' :: (toString port).toList).getD [] ++ '/' :: rest) := by
  rw [locationText, List.append_assoc]
  refine hhost.cut _ ?_
  cases port with
  | none => exact .inr rfl
  | some port => exact .inl rfl

theorem parseAuthority_written {host : Host} {port : Option Nat} {path : List Char}
    (htext : IsHostText host.render) (hport : ∀ n ∈ port, n < 65536 ∧ n ≠ 443)
    (hpath : IsNormalPath path) :
    parseAuthority https true (locationText host port ++ '/' :: path) =
      (fun found => ⟨https, some found, port, path, none⟩) <$> Host.parseNetwork host.render := by
  have huser : skipUser true (locationText host port ++ '/' :: path) =
      .ok (false, locationText host port ++ '/' :: path) :=
    skipUser_append (fun c hc => (plain_locationText htext port hc).2) rfl
  have hne : host.render.isEmpty = false := by simpa using htext.ne_nil
  have hcut := cutHost_locationText htext port path
  have hread := readPath_of_isNormalPath hpath
  unfold parseAuthority
  rw [huser]
  simp only [bind, Except.bind, hcut, hne, Functor.map, Except.map]
  cases Host.parseNetwork host.render with
  | error fault => simp
  | ok found =>
    cases port with
    | none => simp [hread, pure, Except.pure]
    | some port =>
      obtain ⟨hlt, hne⟩ := hport port rfl
      have hdigits := readPort_toString hlt path
      simp only [Option.map_some, Option.getD_some, List.cons_append, hdigits]
      simp [hread, hne, pure, Except.pure]

/-- A URL written from its parts has those parts, if the host is read back from its normal form. -/
theorem parse_written {host : Host} {port : Option Nat} {path : List Char}
    (htext : IsHostText host.render) (hport : ∀ n ∈ port, n < 65536 ∧ n ≠ 443)
    (hpath : IsNormalPath path) :
    parse (String.ofList ("https://".toList ++ (locationText host port ++ '/' :: path))) =
      (fun found => ⟨https, some found, port, path, none⟩) <$> Host.parseNetwork host.render := by
  have hwide : ∀ c ∈ "https://".toList ++ (locationText host port ++ '/' :: path),
      0x20 < c.toNat := by
    intro c hc
    rw [List.mem_append, List.mem_append, List.mem_cons] at hc
    obtain hc | hc | rfl | hc := hc
    · exact wide_of_mem_https c hc
    · exact (plain_locationText htext port hc).1
    · decide
    · exact hpath.toNat_of_mem hc
  have hslashes : ('/' :: '/' :: (locationText host port ++ '/' :: path)).dropWhile
      (fun c => c == '/' || c == '\\') = locationText host port ++ '/' :: path := by
    obtain ⟨c, text, hrender⟩ := List.exists_cons_of_ne_nil htext.ne_nil
    have hc := (htext.plain c (by rw [hrender]; exact List.mem_cons_self)).2.2
    simp only [endsAuthority, Bool.or_eq_false_iff, Bool.true_and] at hc
    simp [locationText, hrender, hc]
  have hstripped : stripped ("https://".toList ++ (locationText host port ++ '/' :: path)) =
      "https://".toList ++ (locationText host port ++ '/' :: path) := by
    simpa [dropTailWhile] using stripped_append (by simp) hwide []
  unfold parse
  rw [String.toList_ofList, hstripped, readScheme?_https]
  simp only [https, if_true]
  rw [hslashes]
  exact parseAuthority_written htext hport hpath

theorem scheme_of_parse_https {rest : String} {url : Url} (h : parse ("https://" ++ rest) = .ok url) :
    url.scheme = https := by
  unfold parse at h
  rw [String.toList_append, stripped_append (by decide) wide_of_mem_https, readScheme?_https] at h
  simp only [https, if_true] at h
  exact scheme_of_parseAuthority h

end WorkflowPod.Url
