import WorkflowPod.Proofs.Text.Digits
import WorkflowPod.Proofs.Text.Split
import WorkflowPod.Url.Address

/-! Addresses are read back from their normal forms. -/
namespace WorkflowPod.Url

open Text

section MapM

variable {α β : Type}

theorem mapM_map_of_forall {f : α → β} {g : β → Option α} {l : List α}
    (h : ∀ a ∈ l, g (f a) = some a) : (l.map f).mapM g = some l := by
  induction l with
  | nil => rfl
  | cons a l ih =>
    have hl := ih fun b hb => h b (List.mem_cons_of_mem _ hb)
    simp [h a List.mem_cons_self, hl]

theorem exists_of_mem_mapM {g : α → Option β} {l : List α} {results : List β}
    (h : l.mapM g = some results) {b : β} (hb : b ∈ results) : ∃ a ∈ l, g a = some b := by
  induction l generalizing results with
  | nil => simp_all
  | cons a l ih =>
    rw [List.mapM_cons] at h
    obtain ⟨first, hfirst, h⟩ := Option.bind_eq_some_iff.mp h
    obtain ⟨rest, hrest, h⟩ := Option.bind_eq_some_iff.mp h
    cases h
    obtain rfl | hb := List.mem_cons.mp hb
    · exact ⟨a, List.mem_cons_self, hfirst⟩
    · obtain ⟨a', ha', hg⟩ := ih hrest hb
      exact ⟨a', List.mem_cons_of_mem _ ha', hg⟩

theorem isSome_of_mapM {g : α → Option β} {l : List α} {results : List β}
    (h : l.mapM g = some results) {a : α} (ha : a ∈ l) : (g a).isSome = true := by
  induction l generalizing results with
  | nil => cases ha
  | cons b l ih =>
    rw [List.mapM_cons] at h
    obtain ⟨first, hfirst, h⟩ := Option.bind_eq_some_iff.mp h
    obtain ⟨rest, hrest, -⟩ := Option.bind_eq_some_iff.mp h
    obtain rfl | ha := List.mem_cons.mp ha
    · rw [hfirst]
      rfl
    · exact ih hrest ha

/-- What is read back one by one is read back as a list. -/
theorem mapM_of_mapM {f : α → Option β} {g : β → Option α} {l : List α}
    {results : List β} (h : l.mapM f = some results)
    (hback : ∀ a ∈ l, ∀ b ∈ results, f a = some b → g b = some a) : results.mapM g = some l := by
  induction l generalizing results with
  | nil => cases h; rfl
  | cons a l ih =>
    rw [List.mapM_cons] at h
    obtain ⟨first, hfirst, h⟩ := Option.bind_eq_some_iff.mp h
    obtain ⟨rest, hrest, ⟨⟩⟩ := Option.bind_eq_some_iff.mp h
    have hhead := hback a List.mem_cons_self first List.mem_cons_self hfirst
    have htail := ih hrest fun a ha b hb =>
      hback a (List.mem_cons_of_mem _ ha) b (List.mem_cons_of_mem _ hb)
    simp [hhead, htail]

theorem eq_nil_of_mapM {g : α → Option β} {l : List α} (h : l.mapM g = some []) :
    l = [] := by
  cases l with
  | nil => rfl
  | cons a l => simp [List.mapM_cons, Option.bind_eq_some_iff] at h

end MapM

namespace Ipv4

theorem readPart?_toDigits (n : Nat) : readPart? (Nat.toDigits 10 n) = some n := by
  by_cases hn : n = 0
  · subst hn
    rfl
  · have hhead := head?_toDigits_ne_zero (Nat.pos_of_ne_zero hn)
    have hread : readDigits? 10 (Nat.toDigits 10 n) = some n :=
      readDigits?_toDigits (by decide) (by decide) n
    unfold readPart?
    split <;> simp_all

/-- The four parts of an address, the first the most significant. -/
def bytes (n : Nat) : List Nat := [24, 16, 8, 0].map fun shift => (n >>> shift) % 256

theorem render_eq (n : Nat) :
    render n = ['.'].intercalate ((bytes n).map (Nat.toDigits 10)) := by
  simp [render, bytes]

theorem parts_render (n : Nat) : parts (render n) = (bytes n).map (Nat.toDigits 10) := by
  have hdot : ∀ part ∈ (bytes n).map (Nat.toDigits 10), '.' ∉ part := by
    intro part hpart hdot
    obtain ⟨byte, -, rfl⟩ := List.mem_map.mp hpart
    exact absurd (isDigit_of_mem_toDigits hdot) (by decide)
  have hsplit : (render n).splitOn '.' = (bytes n).map (Nat.toDigits 10) := by
    rw [render_eq, List.splitOn_intercalate '.' hdot (by simp [bytes])]
  rw [parts, hsplit]
  simp [bytes]

theorem endsInNumber_render (n : Nat) : endsInNumber (render n) = true := by
  have hlast : (parts (render n)).getLast? = some (Nat.toDigits 10 (n % 256)) := by
    rw [parts_render]
    rfl
  simp [endsInNumber, hlast, readPart?_toDigits]

/-- What the parts before the last one add to an address. -/
def weigh (others : List Nat) : Nat :=
  others.foldr (fun n (sum : Nat) => n * 0x1000000 + sum / 256) 0

theorem weigh_nil : weigh [] = 0 := rfl

theorem weigh_cons (n : Nat) (others : List Nat) :
    weigh (n :: others) = n * 0x1000000 + weigh others / 256 := by
  rw [weigh, List.foldr_cons, ← weigh]

/-- Each of these parts takes a byte from what the last one may be. -/
theorem weigh_add_le {others : List Nat} (hbytes : ∀ n ∈ others, n < 256)
    (hlength : others.length ≤ 4) : weigh others + 256 ^ (4 - others.length) ≤ 2 ^ 32 := by
  induction others with
  | nil => simp [weigh_nil]
  | cons n others ih =>
    rw [List.length_cons] at hlength
    have hrest := ih (fun m hm => hbytes m (List.mem_cons_of_mem _ hm)) (by omega)
    have hn := hbytes n List.mem_cons_self
    have hpow : 256 ^ (4 - others.length) = 256 * 256 ^ (4 - (others.length + 1)) := by
      rw [← pow_succ', show 4 - (others.length + 1) + 1 = 4 - others.length by omega]
    rw [weigh_cons, List.length_cons]
    omega

theorem parse?_eq (s : List Char) :
    parse? s = ((parts s).mapM readPart?).bind fun numbers => numbers.getLast?.bind fun last =>
      if numbers.dropLast.length < 4 ∧ numbers.dropLast.all (· < 256) ∧
        last < Nat.pow 256 (4 - numbers.dropLast.length)
      then some (weigh numbers.dropLast + last) else none := by
  unfold parse?
  cases (parts s).mapM readPart? with
  | none => rfl
  | some numbers =>
    cases hlast : numbers.getLast? with
    | none => simp [hlast]
    | some last =>
      dsimp only [bind]
      simp only [Option.bind_some, hlast, guard]
      split <;> rfl

/-- An address is read back from its four parts. -/
theorem parse?_render {n : Nat} (h : n < 2 ^ 32) : parse? (render n) = some n := by
  have hnumbers : (parts (render n)).mapM readPart? = some (bytes n) := by
    rw [parts_render]
    exact mapM_map_of_forall fun byte _ => readPart?_toDigits byte
  have hbyte (shift : Nat) : n >>> shift % 256 < 256 := Nat.mod_lt _ (by decide)
  have hothers : (bytes n).dropLast = [n >>> 24 % 256, n >>> 16 % 256, n >>> 8 % 256] := rfl
  have hlast : (bytes n).getLast? = some (n >>> 0 % 256) := rfl
  have hweight : weigh [n >>> 24 % 256, n >>> 16 % 256, n >>> 8 % 256] + n >>> 0 % 256 = n := by
    rw [weigh_cons, weigh_cons, weigh_cons, weigh_nil]
    simp only [Nat.shiftRight_eq_div_pow]
    omega
  rw [parse?_eq, hnumbers, Option.bind_some, hlast, Option.bind_some, hothers, hweight, if_pos]
  exact ⟨by simp, by simp [hbyte], hbyte 0⟩

theorem lt_of_parse? {s : List Char} {n : Nat} (h : parse? s = some n) : n < 2 ^ 32 := by
  rw [parse?_eq] at h
  obtain ⟨numbers, -, h⟩ := Option.bind_eq_some_iff.mp h
  obtain ⟨last, -, h⟩ := Option.bind_eq_some_iff.mp h
  split at h
  · rename_i hguard
    obtain ⟨hlength, hbytes, hlast⟩ := hguard
    have hweight := weigh_add_le (by simpa using hbytes) (Nat.le_of_lt hlength)
    cases h
    rw [Nat.pow_eq] at hlast
    omega
  · cases h

theorem mem_render {n : Nat} {c : Char} (h : c ∈ render n) :
    c = '.' ∨ ∃ d < 10, c = d.digitChar := by
  rw [render_eq] at h
  obtain h | ⟨part, hpart, hc⟩ := mem_intercalate h
  · exact .inl h
  · obtain ⟨byte, -, rfl⟩ := List.mem_map.mp hpart
    exact .inr (exists_digitChar_of_mem (by decide) hc)

end Ipv4

namespace Ipv6

theorem readPiece?_toDigits {piece : Nat} (h : piece < 65536) :
    readPiece? (Nat.toDigits 16 piece) = some piece := by
  have hlength : (Nat.toDigits 16 piece).length ≤ 4 :=
    (Nat.length_toDigits_le_iff (by decide) (by decide)).mpr h
  rw [readPiece?, if_pos hlength, readNat?_toDigits (by decide) (by decide)]

theorem lt_of_readPiece? {s : List Char} {piece : Nat} (h : readPiece? s = some piece) :
    piece < 65536 := by
  unfold readPiece? readNat? at h
  split at h
  · rename_i hlength
    split at h
    · cases h
    · have hpow : 16 ^ s.length ≤ 16 ^ 4 := Nat.pow_le_pow_right (by decide) hlength
      exact Nat.lt_of_lt_of_le (lt_of_readDigits? h) hpow
  · cases h

theorem lt_of_readDotted? {s : List Char} {pieces : List Nat} (h : readDotted? s = some pieces) :
    ∀ piece ∈ pieces, piece < 65536 := by
  unfold readDotted? at h
  obtain ⟨parts, hparts, h⟩ := Option.bind_eq_some_iff.mp h
  have hbyte : ∀ part ∈ parts, part < 256 := by
    intro part hpart
    obtain ⟨text, -, htext⟩ := exists_of_mem_mapM hparts hpart
    obtain ⟨-, -, htext⟩ := Option.bind_eq_some_iff.mp htext
    simpa using (Option.filter_eq_some_iff.mp htext).2
  split at h
  · cases h
    simp only [List.forall_mem_cons] at hbyte ⊢
    exact ⟨by omega, by omega, by simp⟩
  · cases h

theorem lt_of_readPieces? {dotted : Bool} {s : List Char} {pieces : List Nat}
    (h : readPieces? dotted s = some pieces) : ∀ piece ∈ pieces, piece < 65536 := by
  unfold readPieces? at h
  split at h
  · cases h
    simp
  · obtain ⟨last, -, h⟩ := Option.bind_eq_some_iff.mp h
    obtain ⟨start, hstart, h⟩ := Option.bind_eq_some_iff.mp h
    have hstart : ∀ piece ∈ start, piece < 65536 := by
      intro piece hpiece
      obtain ⟨text, -, htext⟩ := exists_of_mem_mapM hstart hpiece
      exact lt_of_readPiece? htext
    split at h
    · obtain ⟨back, hback, h⟩ := Option.bind_eq_some_iff.mp h
      cases h
      exact List.forall_mem_append.mpr ⟨hstart, lt_of_readDotted? hback⟩
    · obtain ⟨piece, hpiece, h⟩ := Option.bind_eq_some_iff.mp h
      cases h
      exact List.forall_mem_append.mpr ⟨hstart, by simpa using lt_of_readPiece? hpiece⟩

/-- The pieces of an address. -/
structure IsAddress (pieces : List Nat) : Prop where
  length_eq : pieces.length = 8
  lt : ∀ piece ∈ pieces, piece < 65536

theorem isAddress_of_parse? {s : List Char} {pieces : List Nat} (h : parse? s = some pieces) :
    IsAddress pieces := by
  unfold parse? at h
  split at h
  · obtain ⟨hread, hlength⟩ := Option.filter_eq_some_iff.mp h
    exact ⟨by simpa using hlength, lt_of_readPieces? hread⟩
  · obtain ⟨front, hfront, h⟩ := Option.bind_eq_some_iff.mp h
    obtain ⟨back, hback, h⟩ := Option.bind_eq_some_iff.mp h
    obtain ⟨_, hguard, h⟩ := Option.bind_eq_some_iff.mp h
    have hcount : front.length + back.length ≤ 7 := by
      by_contra hcount
      simp [guard, hcount] at hguard
    cases h
    refine ⟨by simp; omega, ?_⟩
    intro piece hpiece
    rw [List.mem_append, List.mem_append, List.mem_replicate] at hpiece
    obtain (hpiece | ⟨-, rfl⟩) | hpiece := hpiece
    · exact lt_of_readPieces? hfront piece hpiece
    · decide
    · exact lt_of_readPieces? hback piece hpiece

theorem eq_replicate_append (pieces : List Nat) :
    pieces = List.replicate (zeroRun pieces) 0 ++ pieces.drop (zeroRun pieces) := by
  induction pieces with
  | nil => rfl
  | cons piece pieces ih =>
    by_cases hpiece : piece = 0
    · subst hpiece
      have hrun : zeroRun (0 :: pieces) = zeroRun pieces + 1 := by simp [zeroRun]
      rw [hrun, List.replicate_succ, List.drop_succ_cons, List.cons_append, ← ih]
    · have hrun : zeroRun (piece :: pieces) = 0 := by simp [zeroRun, hpiece]
      rw [hrun]
      rfl

theorem drop_longestZeros {start first length : Nat} {pieces : List Nat}
    (h : longestZeros start pieces = (first, length)) (hlength : 0 < length) :
    ∃ k, first = start + k ∧
      pieces.drop k = List.replicate length 0 ++ pieces.drop (k + length) := by
  induction pieces generalizing start with
  | nil =>
    simp only [longestZeros, Prod.mk.injEq] at h
    omega
  | cons piece pieces ih =>
    rcases hlater : longestZeros (start + 1) pieces with ⟨later, laterLength⟩
    simp only [longestZeros, hlater] at h
    split at h
    · cases h
      exact ⟨0, rfl, by simpa using eq_replicate_append (piece :: pieces)⟩
    · cases h
      obtain ⟨k, rfl, hk⟩ := ih hlater
      exact ⟨k + 1, by omega, by simpa [Nat.add_right_comm] using hk⟩

theorem mem_renderPieces {pieces : List Nat} {c : Char} (h : c ∈ renderPieces pieces) :
    c = ':' ∨ ∃ d < 16, c = d.digitChar := by
  obtain h | ⟨text, htext, hc⟩ := mem_intercalate h
  · exact .inl h
  · obtain ⟨piece, -, rfl⟩ := List.mem_map.mp htext
    exact .inr (exists_digitChar_of_mem (by decide) hc)

theorem mem_render {pieces : List Nat} {c : Char} (h : c ∈ render pieces) :
    c = ':' ∨ ∃ d < 16, c = d.digitChar := by
  unfold render at h
  dsimp only at h
  split at h
  · exact mem_renderPieces h
  · rw [List.mem_append, List.mem_cons, List.mem_cons] at h
    obtain h | h | h | h := h
    · exact mem_renderPieces h
    · exact .inl h
    · exact .inl h
    · exact mem_renderPieces h

theorem not_mem_toDigits {c : Char} (hc : ∀ d < 16, c ≠ d.digitChar) (piece : Nat) :
    c ∉ Nat.toDigits 16 piece := by
  intro hmem
  obtain ⟨d, hd, rfl⟩ := exists_digitChar_of_mem (by decide) hmem
  exact hc d hd rfl

theorem splitOn_renderPieces {pieces : List Nat} (hne : pieces ≠ []) :
    (renderPieces pieces).splitOn ':' = pieces.map (Nat.toDigits 16) := by
  refine List.splitOn_intercalate ':' (fun text htext => ?_) (by simpa using hne)
  obtain ⟨piece, -, rfl⟩ := List.mem_map.mp htext
  exact not_mem_toDigits (by decide) piece

theorem renderPieces_cons (piece : Nat) {pieces : List Nat} (hne : pieces ≠ []) :
    renderPieces (piece :: pieces) = Nat.toDigits 16 piece ++ ':' :: renderPieces pieces := by
  obtain ⟨next, rest, rfl⟩ := List.exists_cons_of_ne_nil hne
  simp [renderPieces, List.intercalate_cons_cons]

theorem exists_renderPieces {pieces : List Nat} (hne : pieces ≠ []) :
    ∃ c rest, c ≠ ':' ∧ renderPieces pieces = c :: rest := by
  obtain ⟨piece, pieces, rfl⟩ := List.exists_cons_of_ne_nil hne
  obtain ⟨c, digits, hdigits⟩ := List.exists_cons_of_ne_nil
    (Nat.toDigits_ne_nil : Nat.toDigits 16 piece ≠ [])
  have hcolon : c ≠ ':' := by
    rintro rfl
    have hmem : ':' ∈ Nat.toDigits 16 piece := by rw [hdigits]; exact List.mem_cons_self
    exact not_mem_toDigits (by decide) piece hmem
  by_cases hpieces : pieces = []
  · subst hpieces
    exact ⟨c, digits, hcolon, by simp [renderPieces, hdigits]⟩
  · refine ⟨c, digits ++ ':' :: renderPieces pieces, hcolon, ?_⟩
    rw [renderPieces_cons piece hpieces, hdigits, List.cons_append]

theorem readPieces?_renderPieces (dotted : Bool) {pieces : List Nat}
    (h : ∀ piece ∈ pieces, piece < 65536) :
    readPieces? dotted (renderPieces pieces) = some pieces := by
  by_cases hne : pieces = []
  · subst hne
    rfl
  obtain ⟨start, last, rfl⟩ := (List.eq_nil_or_concat pieces).resolve_left hne
  rw [List.concat_eq_append] at hne h ⊢
  rw [List.forall_mem_append] at h
  have hempty : (renderPieces (start ++ [last])).isEmpty = false := by
    obtain ⟨c, rest, -, heq⟩ := exists_renderPieces hne
    rw [heq]
    rfl
  have hstart : (start.map (Nat.toDigits 16)).mapM readPiece? = some start :=
    mapM_map_of_forall fun piece hpiece => readPiece?_toDigits (h.1 piece hpiece)
  have hlast : readPiece? (Nat.toDigits 16 last) = some last :=
    readPiece?_toDigits (h.2 last (by simp))
  have hdot : '.' ∉ Nat.toDigits 16 last := not_mem_toDigits (by decide) last
  unfold readPieces?
  rw [hempty, splitOn_renderPieces hne, List.map_append]
  simp [hstart, hlast, hdot]

theorem cutAtGap?_cons {c : Char} {s : List Char} (h : c ≠ ':' ∨ s.head? ≠ some ':') :
    cutAtGap? (c :: s) = (cutAtGap? s).map fun (l, r) => (c :: l, r) := by
  conv_lhs => unfold cutAtGap?
  split
  · simp_all
  · simp_all
  · simp_all

theorem cutAtGap?_append {text : List Char} (h : ':' ∉ text) (s : List Char) :
    cutAtGap? (text ++ s) = (cutAtGap? s).map fun (l, r) => (text ++ l, r) := by
  induction text with
  | nil => simp
  | cons c text ih =>
    have hc : c ≠ ':' := fun heq => h (by simp [heq])
    rw [List.cons_append, cutAtGap?_cons (.inl hc),
      ih fun hmem => h (List.mem_cons_of_mem _ hmem), Option.map_map]
    rfl

/-- Rendered pieces have no two colons in a row, and add none to those that follow. -/
theorem cutAtGap?_renderPieces_append {pieces : List Nat} (hne : pieces ≠ []) (s : List Char) :
    cutAtGap? (renderPieces pieces ++ s) =
      (cutAtGap? s).map fun (l, r) => (renderPieces pieces ++ l, r) := by
  induction pieces with
  | nil => exact absurd rfl hne
  | cons piece pieces ih =>
    have hcolon : ':' ∉ Nat.toDigits 16 piece := not_mem_toDigits (by decide) piece
    by_cases hpieces : pieces = []
    · subst hpieces
      simpa [renderPieces] using cutAtGap?_append hcolon s
    · obtain ⟨c, rest, hc, heq⟩ := exists_renderPieces hpieces
      have hhead : (renderPieces pieces ++ s).head? ≠ some ':' := by simpa [heq] using hc
      rw [renderPieces_cons piece hpieces, List.append_assoc, List.cons_append,
        cutAtGap?_append hcolon, cutAtGap?_cons (.inr hhead), ih hpieces, Option.map_map,
        Option.map_map]
      congr 1
      funext cut
      simp

/-- An address is read back from its normal form. -/
theorem parse?_render {pieces : List Nat} (h : IsAddress pieces) :
    parse? (render pieces) = some pieces := by
  have hne : pieces ≠ [] := by
    rintro rfl
    exact absurd h.length_eq (by decide)
  rcases hzeros : longestZeros 0 pieces with ⟨start, length⟩
  unfold render
  rw [hzeros]
  dsimp only
  split
  · have hgap : cutAtGap? (renderPieces pieces) = none := by
      simpa [cutAtGap?] using cutAtGap?_renderPieces_append hne []
    rw [parse?, hgap]
    simp [readPieces?_renderPieces true h.lt, h.length_eq]
  · rename_i hlength
    obtain ⟨k, hk, hdrop⟩ := drop_longestZeros hzeros (by omega)
    obtain rfl : start = k := by omega
    have hpieces : pieces =
        pieces.take start ++ (List.replicate length 0 ++ pieces.drop (start + length)) := by
      rw [← hdrop, List.take_append_drop]
    have hgap : cutAtGap? (renderPieces (pieces.take start) ++
        ':' :: ':' :: renderPieces (pieces.drop (start + length))) =
        some (renderPieces (pieces.take start), renderPieces (pieces.drop (start + length))) := by
      by_cases hfront : pieces.take start = []
      · rw [hfront]
        rfl
      · rw [cutAtGap?_renderPieces_append hfront]
        simp [cutAtGap?]
    have hfront : readPieces? false (renderPieces (pieces.take start)) = some (pieces.take start) :=
      readPieces?_renderPieces _ fun piece hpiece => h.lt piece (List.mem_of_mem_take hpiece)
    have hback : readPieces? true (renderPieces (pieces.drop (start + length))) =
        some (pieces.drop (start + length)) :=
      readPieces?_renderPieces _ fun piece hpiece => h.lt piece (List.mem_of_mem_drop hpiece)
    have hcount := congrArg List.length hpieces
    rw [List.length_append, List.length_append, List.length_replicate, h.length_eq] at hcount
    rw [parse?, hgap]
    have hguard : (pieces.take start).length + (pieces.drop (start + length)).length ≤ 7 := by
      omega
    have hzeros : 8 - (pieces.take start).length - (pieces.drop (start + length)).length =
        length := by omega
    dsimp only [bind]
    rw [hfront, hback, Option.bind_some, Option.bind_some, hzeros, List.append_assoc, ← hpieces,
      guard, if_pos hguard]
    rfl

end Ipv6

end WorkflowPod.Url
