import Mathlib.Data.List.Basic

/-!
The bytes of a text in UTF-8. Main statement: where a text has a byte of ASCII it has a character of
ASCII, and the bytes before and after are the text before and after.
-/
namespace WorkflowPod.Text

/-- The bytes of the characters one after the other. -/
def bytes (s : List Char) : List UInt8 := s.flatMap String.utf8EncodeChar

theorem toList_toUTF8 (text : String) : text.toUTF8.data.toList = bytes text.toList := by
  have h : (String.ofList text.toList).toByteArray = (bytes text.toList).toByteArray := rfl
  rw [String.ofList_toList] at h
  rw [String.toUTF8_eq_toByteArray, h, List.data_toByteArray, List.toList_toArray]

theorem fromUTF8?_bytes (s : List Char) :
    String.fromUTF8? (bytes s).toByteArray = some (String.ofList s) := by
  have hbytes : (bytes s).toByteArray = (String.ofList s).toByteArray := rfl
  have hvalid := (String.ofList s).isValidUTF8
  rw [hbytes, String.fromUTF8?, dif_pos hvalid]
  rfl

theorem utf8ByteSize_ofList (s : List Char) :
    (String.ofList s).utf8ByteSize = (bytes s).length := by
  have hbytes : (String.ofList s).toByteArray = (bytes s).toByteArray := rfl
  rw [String.utf8ByteSize, hbytes, List.size_toByteArray]

theorem bytes_append (s t : List Char) : bytes (s ++ t) = bytes s ++ bytes t := List.flatMap_append

theorem bytes_cons (c : Char) (s : List Char) :
    bytes (c :: s) = String.utf8EncodeChar c ++ bytes s := List.flatMap_cons

theorem bytes_eq_nil_iff {s : List Char} : bytes s = [] ↔ s = [] := by
  cases s with
  | nil => simp [bytes]
  | cons c s => simp [bytes_cons, String.utf8EncodeChar_ne_nil]

theorem utf8EncodeChar_of_lt {c : Char} (hc : c.toNat < 0x80) :
    String.utf8EncodeChar c = [UInt8.ofNat c.toNat] := by
  have hval : c.val.toNat ≤ 127 := Nat.le_of_lt_succ hc
  unfold String.utf8EncodeChar
  exact if_pos hval

/-- The first byte of a longer character and those that go on with it are outside ASCII. -/
theorem le_of_mem_utf8EncodeChar {c : Char} (hc : 0x80 ≤ c.toNat) {b : UInt8}
    (h : b ∈ String.utf8EncodeChar c) : 0x80 ≤ b.toNat := by
  have hval : ¬c.val.toNat ≤ 127 := by
    change ¬c.toNat ≤ 127
    omega
  unfold String.utf8EncodeChar at h
  simp only [hval, if_false] at h
  split at h
  · simp only [List.mem_cons, List.not_mem_nil, or_false] at h
    rcases h with rfl | rfl <;> rw [UInt8.toNat_ofNat'] <;> omega
  · split at h
    · simp only [List.mem_cons, List.not_mem_nil, or_false] at h
      rcases h with rfl | rfl | rfl <;> rw [UInt8.toNat_ofNat'] <;> omega
    · simp only [List.mem_cons, List.not_mem_nil, or_false] at h
      rcases h with rfl | rfl | rfl | rfl <;> rw [UInt8.toNat_ofNat'] <;> omega

/-- A byte of ASCII is all there is of a character. -/
theorem utf8EncodeChar_eq_of_mem {c : Char} {b : UInt8} (hb : b.toNat < 0x80)
    (h : b ∈ String.utf8EncodeChar c) : String.utf8EncodeChar c = [b] ∧ c.toNat = b.toNat := by
  have hc : c.toNat < 0x80 := by
    by_contra hlarge
    have := le_of_mem_utf8EncodeChar (by omega) h
    omega
  have hsingle := utf8EncodeChar_of_lt hc
  rw [hsingle, List.mem_singleton] at h
  refine ⟨by rw [hsingle, h], ?_⟩
  rw [h, UInt8.toNat_ofNat']
  omega

theorem bytes_ascii {b : UInt8} {c : Char} (hb : b.toNat < 0x80) (hc : c.toNat = b.toNat) :
    bytes [c] = [b] := by
  rw [bytes_cons, utf8EncodeChar_of_lt (hc ▸ hb), hc, UInt8.ofNat_toNat]
  rfl

theorem exists_of_bytes_eq {b : UInt8} (hb : b.toNat < 0x80) {s : List Char}
    {before after : List UInt8} (h : bytes s = before ++ b :: after) :
    ∃ lead c rest, s = lead ++ c :: rest ∧ bytes lead = before ∧ c.toNat = b.toNat ∧
      bytes rest = after := by
  induction s generalizing before with
  | nil => simp [bytes] at h
  | cons c s ih =>
    -- The byte is one of the first character or of those after it.
    rw [bytes_cons, List.append_eq_append_iff] at h
    have hlater (before' : List UInt8) (hs : bytes s = before' ++ b :: after)
        (hbefore : before = String.utf8EncodeChar c ++ before') :
        ∃ lead d rest, c :: s = lead ++ d :: rest ∧ bytes lead = before ∧ d.toNat = b.toNat ∧
          bytes rest = after := by
      obtain ⟨lead, d, rest, rfl, rfl, hd, hrest⟩ := ih hs
      exact ⟨c :: lead, d, rest, rfl, by rw [bytes_cons, hbefore], hd, hrest⟩
    rcases h with ⟨before', hbefore, hs⟩ | ⟨own, hc, hs⟩
    · exact hlater before' hs hbefore
    · cases own with
      | nil => exact hlater [] hs.symm (by simpa using hc.symm)
      | cons b' own =>
        obtain ⟨rfl, rfl⟩ := List.cons.inj hs
        have hmem : b ∈ String.utf8EncodeChar c := by simp [hc]
        obtain ⟨hsingle, hvalue⟩ := utf8EncodeChar_eq_of_mem hb hmem
        have hnil : before = [] ∧ own = [] := by
          have hlength := congrArg List.length (hc.symm.trans hsingle)
          simp at hlength
          exact ⟨List.length_eq_zero_iff.1 (by omega), List.length_eq_zero_iff.1 (by omega)⟩
        obtain ⟨rfl, rfl⟩ := hnil
        exact ⟨[], c, s, rfl, rfl, hvalue, rfl⟩

/-- A text ends in a character of ASCII where its bytes do. -/
theorem getLast?_bytes_eq_some_iff {b : UInt8} {c : Char} (hb : b.toNat < 0x80)
    (hc : c.toNat = b.toNat) {s : List Char} :
    (bytes s).getLast? = some b ↔ s.getLast? = some c := by
  rw [List.getLast?_eq_some_iff, List.getLast?_eq_some_iff]
  constructor
  · rintro ⟨before, hbytes⟩
    obtain ⟨lead, d, rest, rfl, -, hd, hrest⟩ := exists_of_bytes_eq hb hbytes
    obtain rfl := bytes_eq_nil_iff.1 hrest
    exact ⟨lead, by rw [Char.toNat_inj.1 (hd.trans hc.symm)]⟩
  · rintro ⟨lead, rfl⟩
    exact ⟨bytes lead, by rw [bytes_append, bytes_ascii hb hc]⟩

end WorkflowPod.Text
