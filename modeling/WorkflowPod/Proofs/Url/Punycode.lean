import Mathlib.Data.List.Basic
import Mathlib.Tactic.Ring
import WorkflowPod.Proofs.Text.Search
import WorkflowPod.Url.Punycode

/-!
Punycode is read back as the text it was written for. The reader goes through the places of all code
points in turn, and a number says how many of them it passes before the next character. Between two
characters the writer has counted those it has passed itself.
-/
namespace WorkflowPod.Url.Punycode

open Text

theorem value?_digit : ∀ n < 36, value? (digit n) = some n := by decide

theorem digit_ne_hyphen : ∀ n < 36, digit n ≠ '-' := by decide

theorem exists_digit_of_mem {bias k n : Nat} {c : Char} (h : c ∈ encodeNumber bias k n) :
    ∃ d < 36, c = digit d := by
  fun_induction encodeNumber bias k n with
  | case1 k n t hn =>
    have hle : t ≤ 26 := threshold_le bias k
    exact ⟨n, by omega, List.mem_singleton.mp h⟩
  | case2 k n t hn ih =>
    have hle : t ≤ 26 := threshold_le bias k
    have hmod := Nat.mod_lt (n - t) (show 0 < 36 - t by omega)
    obtain rfl | h := List.mem_cons.mp h
    · exact ⟨_, by omega, rfl⟩
    · exact ih h

theorem encodeNumber_ne_nil (bias k n : Nat) : encodeNumber bias k n ≠ [] := by
  rw [encodeNumber]
  split <;> exact List.cons_ne_nil _ _

/-- A number is read up to its last digit and added to the sum by its weight. -/
theorem decodeNumber?_encodeNumber (bias k weight sum n : Nat) (rest : List Char) :
    decodeNumber? bias k weight sum (encodeNumber bias k n ++ rest) =
      some (sum + n * weight, rest) := by
  fun_induction encodeNumber bias k n generalizing weight sum with
  | case1 k n t hn =>
    have hle : t ≤ 26 := threshold_le bias k
    rw [List.singleton_append, decodeNumber?, value?_digit n (by omega)]
    exact if_pos hn
  | case2 k n t hn ih =>
    have hle : t ≤ 26 := threshold_le bias k
    have hmod := Nat.mod_lt (n - t) (show 0 < 36 - t by omega)
    generalize hd : t + (n - t) % (36 - t) = d
    have hvalue : value? (digit d) = some d := value?_digit d (by omega)
    have hnumber : d + (n - t) / (36 - t) * (36 - t) = n := by
      have hdiv := Nat.mod_add_div' (n - t) (36 - t)
      omega
    rw [List.cons_append, decodeNumber?, hvalue]
    dsimp only
    rw [if_neg (show ¬d < threshold bias k by change ¬d < t; omega), ih]
    congr 2
    calc sum + d * weight + (n - t) / (36 - t) * (weight * (36 - t))
        = sum + (d + (n - t) / (36 - t) * (36 - t)) * weight := by ring
      _ = sum + n * weight := by rw [hnumber]

/-- What the reader has placed when the writer is in the round for the code point `n`, between the
characters `before` and `after` of the text. -/
def placedText (n : Nat) (before after : List Char) : List Char :=
  before.filter (·.toNat ≤ n) ++ after.filter (·.toNat < n)

/-- The writer's progress and the place `position` of the code point `last` at which the reader then
is: the reader gets there from the text `start` of plain characters, and has to pass `delta` places
to get to `goal`. -/
structure Tracks (start : List Char) (p : Progress) (text : List Char) (last position goal : Nat) :
    Prop where
  digits : ∀ c ∈ p.written, ∃ d < 36, c = digit d
  placed : p.placed = text.length
  start_le : start.length ≤ p.placed
  /-- Only before the first number the reader is at the start. -/
  first : (p.placed == start.length) = (position == 0)
  distance : position + p.delta = goal
  reads : ∃ count ≤ p.written.length, ∀ steps rest,
    place? (steps + count) start 0x80 0 72 (p.written ++ rest) =
      place? steps text last position p.bias rest

variable {start : List Char} {p : Progress} {text : List Char} {last position goal : Nat}

/-- Passing a place. -/
theorem Tracks.advance (h : Tracks start p text last position goal) (m : Nat) :
    Tracks start { p with delta := p.delta + m } text last position (goal + m) where
  digits := h.digits
  placed := h.placed
  start_le := h.start_le
  first := h.first
  distance := by
    have hdistance := h.distance
    dsimp only
    omega
  reads := h.reads

theorem isScalar_toNat (c : Char) : c.toNat < 0xD800 ∨ 0xDFFF < c.toNat ∧ c.toNat < 0x110000 :=
  c.valid

/-- Placing a character. -/
theorem Tracks.place (c : Char) {index : Nat}
    (h : Tracks start p text last position ((c.toNat - last) * (text.length + 1) + index))
    (hlast : last ≤ c.toNat) (hindex : index ≤ text.length) :
    Tracks start
      { written := p.written ++ encodeNumber p.bias 36 p.delta
        delta := 0
        bias := adapt p.delta (p.placed + 1) (p.placed == start.length)
        placed := p.placed + 1 }
      (text.take index ++ c :: text.drop index) c.toNat (index + 1) (index + 1) where
  digits d hd := by
    obtain hd | hd := List.mem_append.mp hd
    · exact h.digits d hd
    · exact exists_digit_of_mem hd
  placed := by
    have hlength := congrArg List.length (List.take_append_drop index text)
    simp only [h.placed, List.length_append, List.length_cons] at hlength ⊢
    omega
  start_le := Nat.le_succ_of_le h.start_le
  first := by
    have hstart := h.start_le
    have hplaced : (p.placed + 1 == start.length) = false := by
      rw [beq_eq_false_iff_ne]
      omega
    simpa using hplaced
  distance := rfl
  reads := by
    obtain ⟨count, hcount, hreads⟩ := h.reads
    have hnonempty := List.length_pos_of_ne_nil (encodeNumber_ne_nil p.bias 36 p.delta)
    refine ⟨count + 1, by rw [List.length_append]; omega, fun steps rest => ?_⟩
    obtain ⟨d, digits, hnumber⟩ := List.exists_cons_of_ne_nil
      (encodeNumber_ne_nil p.bias 36 p.delta)
    have hsum : position + p.delta * 1 =
        (c.toNat - last) * (text.length + 1) + index := by rw [Nat.mul_one, h.distance]
    have hpoint : last + ((c.toNat - last) * (text.length + 1) + index) / (text.length + 1) =
        c.toNat := by
      rw [Nat.mul_comm, Nat.mul_add_div (Nat.succ_pos _), Nat.div_eq_of_lt (by omega)]
      omega
    have hplace : ((c.toNat - last) * (text.length + 1) + index) % (text.length + 1) = index := by
      rw [Nat.mul_comm, Nat.mul_add_mod, Nat.mod_eq_of_lt (by omega)]
    have hdelta : (c.toNat - last) * (text.length + 1) + index - position = p.delta := by
      have hdistance := h.distance
      omega
    have hread := decodeNumber?_encodeNumber p.bias 36 1 position p.delta rest
    rw [hsum, hnumber, List.cons_append] at hread
    rw [List.append_assoc, show steps + (count + 1) = steps + 1 + count by omega, hreads, hnumber,
      List.cons_append, place?, hread]
    dsimp only [bind]
    · rw [Option.bind_some, hpoint, hplace, hdelta, guard, if_pos (isScalar_toNat c), h.first,
        h.placed, Char.ofNat_toNat]
      rfl
    · exact List.cons_ne_nil _ _

/-- One character of the round for the code point `n`. -/
theorem Tracks.pass {n : Nat} {before after : List Char} {c : Char} (hlast : last ≤ n)
    (h : Tracks start p (placedText n before (c :: after)) last position
      ((n - last) * ((placedText n before (c :: after)).length + 1) +
        (before.filter (·.toNat ≤ n)).length)) :
    ∃ last' position', last' ≤ n ∧
      Tracks start (pass start.length n p c) (placedText n (before ++ [c]) after) last' position'
        ((n - last') * ((placedText n (before ++ [c]) after).length + 1) +
          ((before ++ [c]).filter (·.toNat ≤ n)).length) := by
  unfold Punycode.pass
  split
  · rename_i hc
    have hle : c.toNat ≤ n := Nat.le_of_lt hc
    have htext : placedText n (before ++ [c]) after = placedText n before (c :: after) := by
      simp [placedText, hc, hle]
    refine ⟨last, position, hlast, ?_⟩
    rw [htext]
    simpa [hle, Nat.add_assoc] using h.advance 1
  · split
    · rename_i hlt hc
      subst hc
      have htext : placedText c.toNat before (c :: after) = placedText c.toNat before after := by
        simp [placedText]
      have hsplit : (placedText c.toNat before after).take (before.filter (·.toNat ≤ c.toNat)).length
          ++ c :: (placedText c.toNat before after).drop
            (before.filter (·.toNat ≤ c.toNat)).length =
          placedText c.toNat (before ++ [c]) after := by
        simp [placedText]
      have hindex : (before.filter (·.toNat ≤ c.toNat)).length + 1 =
          ((before ++ [c]).filter (·.toNat ≤ c.toNat)).length := by simp
      have hplace := (htext ▸ h).place c hlast (by simp [placedText])
      rw [hsplit] at hplace
      refine ⟨c.toNat, (before.filter (·.toNat ≤ c.toNat)).length + 1, Nat.le_refl _, ?_⟩
      rw [Nat.sub_self, Nat.zero_mul, Nat.zero_add, ← hindex]
      exact hplace
    · rename_i hlt hne
      have hgt : ¬c.toNat ≤ n := by omega
      have htext : placedText n (before ++ [c]) after = placedText n before (c :: after) := by
        simp [placedText, hlt, hgt]
      refine ⟨last, position, hlast, ?_⟩
      rw [htext]
      simpa [hgt] using h

/-- The rest of the round for the code point `n`. -/
theorem Tracks.round {n : Nat} {before after : List Char} (hlast : last ≤ n)
    (h : Tracks start p (placedText n before after) last position
      ((n - last) * ((placedText n before after).length + 1) +
        (before.filter (·.toNat ≤ n)).length)) :
    ∃ last' position', last' ≤ n ∧
      Tracks start (after.foldl (Punycode.pass start.length n) p) (placedText n (before ++ after) [])
        last' position'
        ((n - last') * ((placedText n (before ++ after) []).length + 1) +
          ((before ++ after).filter (·.toNat ≤ n)).length) := by
  induction after generalizing before p last position with
  | nil => exact ⟨last, position, hlast, by simpa using h⟩
  | cons c after ih =>
    obtain ⟨last', position', hlast', h'⟩ := h.pass hlast
    simpa using ih hlast' h'

/-- All rounds. The code points from `first` on that the text has are those of the rounds. -/
theorem Tracks.rounds {s : List Char} {first : Nat} {points : List Nat}
    (hsorted : points.Pairwise (· < ·)) (hfirst : ∀ n ∈ points, first ≤ n)
    (hpoints : ∀ c ∈ s, first ≤ c.toNat → c.toNat ∈ points) (hlast : last ≤ first)
    (h : Tracks start p (s.filter (·.toNat < first)) last position
      ((first - last) * ((s.filter (·.toNat < first)).length + 1))) :
    ∃ last' position' goal',
      Tracks start (Punycode.rounds s start.length first p points) s last' position' goal' := by
  induction points generalizing first p last position with
  | nil =>
    have hall : s.filter (·.toNat < first) = s := by
      rw [List.filter_eq_self]
      intro c hc
      have hlt : ¬first ≤ c.toNat := fun hle => List.not_mem_nil (hpoints c hc hle)
      simpa using hlt
    rw [hall] at h
    exact ⟨last, position, _, h⟩
  | cons n points ih =>
    obtain ⟨hn, hsorted⟩ := List.pairwise_cons.mp hsorted
    have hle := hfirst n List.mem_cons_self
    have hbefore : s.filter (·.toNat < first) = placedText n [] s := by
      rw [placedText, List.filter_nil, List.nil_append]
      refine List.filter_congr fun c hc => ?_
      have hmem : first ≤ c.toNat → n ≤ c.toNat := fun hc' => by
        obtain heq | hmem := List.mem_cons.mp (hpoints c hc hc')
        · exact heq.ge
        · exact (hn _ hmem).le
      rw [decide_eq_decide]
      omega
    have hstart := h.advance ((n - first) * (p.placed + 1))
    have hgoal : (first - last) * ((s.filter (·.toNat < first)).length + 1) +
        (n - first) * (p.placed + 1) = (n - last) * ((placedText n [] s).length + 1) + 0 := by
      rw [h.placed, hbefore, ← Nat.add_mul, Nat.add_zero]
      congr 1
      omega
    rw [hgoal, hbefore] at hstart
    obtain ⟨last', position', hlast', hround⟩ := Tracks.round (hlast.trans hle) hstart
    rw [List.nil_append] at hround
    have hafter : s.filter (·.toNat ≤ n) = s.filter (·.toNat < n + 1) :=
      List.filter_congr fun c _ => by rw [decide_eq_decide]; omega
    have htext : placedText n s [] = s.filter (·.toNat < n + 1) := by
      rw [placedText, List.filter_nil, List.append_nil, hafter]
    have hnext := hround.advance 1
    have hgoal' : (n - last') * ((placedText n s []).length + 1) +
        (s.filter (·.toNat ≤ n)).length + 1 =
        (n + 1 - last') * ((s.filter (·.toNat < n + 1)).length + 1) := by
      rw [htext, hafter, show n + 1 - last' = n - last' + 1 by omega, Nat.succ_mul, Nat.add_assoc]
    rw [hgoal', htext] at hnext
    refine ih hsorted (fun m hm => hn m hm) (fun c hc hc' => ?_) (by omega) hnext
    obtain heq | hmem := List.mem_cons.mp (hpoints c hc (by omega))
    · omega
    · exact hmem

theorem pairwise_lt_eraseDups {points : List Nat} (h : points.Pairwise (· ≤ ·)) :
    points.eraseDups.Pairwise (· < ·) := by
  induction hlength : points.length using Nat.strongRecOn generalizing points with
  | ind length ih =>
    cases points with
    | nil => simp
    | cons n points =>
      obtain ⟨hn, hrest⟩ := List.pairwise_cons.mp h
      have hshorter : (points.filter fun m => !m == n).length < length := by
        rw [← hlength, List.length_cons]
        exact Nat.lt_succ_of_le (List.length_filter_le _ _)
      rw [List.eraseDups_cons, List.pairwise_cons]
      refine ⟨fun m hm => ?_, ih _ hshorter (hrest.filter _) rfl⟩
      obtain ⟨hm, hne⟩ := List.mem_filter.mp (List.mem_eraseDups.mp hm)
      have hle := hn m hm
      simp only [Bool.not_eq_true', beq_eq_false_iff_ne] at hne
      omega

/-- The characters of the text that stand at the start of its encoding. -/
def plainPart (s : List Char) : List Char := s.filter (·.toNat < 0x80)

/-- The code points of its other characters, in ascending order. -/
def widePoints (s : List Char) : List Nat :=
  ((s.filter (0x80 ≤ ·.toNat)).map Char.toNat).mergeSort.eraseDups

/-- The writer's progress after the last round. -/
def progress (s : List Char) : Progress :=
  rounds s (plainPart s).length 0x80 ⟨[], 0, 72, (plainPart s).length⟩ (widePoints s)

theorem encode_eq (s : List Char) :
    encode s =
      plainPart s ++ (if (plainPart s).isEmpty then [] else ['-']) ++ (progress s).written := rfl

theorem pairwise_widePoints (s : List Char) : (widePoints s).Pairwise (· < ·) := by
  refine pairwise_lt_eraseDups ?_
  have hsorted : (((s.filter (0x80 ≤ ·.toNat)).map Char.toNat).mergeSort).Pairwise
      fun a b => decide (a ≤ b) = true :=
    List.pairwise_mergeSort (fun a b c => by simp; omega) (fun a b => by simp; omega) _
  simpa using hsorted

theorem mem_widePoints {s : List Char} {n : Nat} :
    n ∈ widePoints s ↔ ∃ c ∈ s, 0x80 ≤ c.toNat ∧ c.toNat = n := by
  simp [widePoints, List.mem_eraseDups, and_assoc]

theorem exists_tracks (s : List Char) :
    ∃ last position goal, Tracks (plainPart s) (progress s) s last position goal := by
  have hstart : Tracks (plainPart s) ⟨[], 0, 72, (plainPart s).length⟩ (plainPart s) 0x80 0
      ((0x80 - 0x80) * ((plainPart s).length + 1)) :=
    { digits := by simp
      placed := rfl
      start_le := Nat.le_refl _
      first := by simp
      distance := by simp
      reads := ⟨0, Nat.le_refl _, fun _ _ => rfl⟩ }
  refine hstart.rounds (pairwise_widePoints s) (fun n hn => ?_) (fun c hc hwide => ?_)
    (Nat.le_refl _)
  · obtain ⟨c, -, hwide, rfl⟩ := mem_widePoints.mp hn
    exact hwide
  · exact mem_widePoints.mpr ⟨c, hc, hwide, rfl⟩

/-- The numbers are made of digits alone. -/
theorem exists_digit_of_mem_progress {s : List Char} {c : Char} (h : c ∈ (progress s).written) :
    ∃ d < 36, c = digit d := by
  obtain ⟨last, position, goal, htracks⟩ := exists_tracks s
  exact htracks.digits c h

/-- They are read as the characters that are not plain. -/
theorem place?_progress (s : List Char) :
    place? (progress s).written.length (plainPart s) 0x80 0 72 (progress s).written = some s := by
  obtain ⟨last, position, goal, htracks⟩ := exists_tracks s
  obtain ⟨count, hcount, hreads⟩ := htracks.reads
  have hread := hreads ((progress s).written.length - count) []
  rw [List.append_nil, Nat.sub_add_cancel hcount] at hread
  rw [hread]
  cases (progress s).written.length - count <;> rfl

/-- A text is read back from its encoding. -/
theorem decode?_encode (s : List Char) : decode? (encode s) = some s := by
  have hplace := place?_progress s
  have hhyphen : ∀ c ∈ (progress s).written, (c == '-') = false := by
    intro c hc
    obtain ⟨d, hd, rfl⟩ := exists_digit_of_mem_progress hc
    simpa using digit_ne_hyphen d hd
  rw [encode_eq]
  cases hplain : plainPart s with
  | nil =>
    rw [hplain] at hplace
    simp [decode?, cutAtLast?_eq_none hhyphen, hplace]
  | cons c plain =>
    have hcut : cutAtLast? (· == '-') (c :: plain ++ '-' :: (progress s).written) =
        some (c :: plain, (progress s).written) := cutAtLast?_append (by simp) hhyphen _
    rw [hplain] at hplace
    rw [List.isEmpty_cons, if_neg Bool.false_ne_true, List.append_assoc, List.singleton_append,
      decode?, hcut]
    exact hplace

theorem mem_encode {s : List Char} {c : Char} (h : c ∈ encode s) :
    (c ∈ s ∧ c.toNat < 0x80) ∨ c = '-' ∨ ∃ d < 36, c = digit d := by
  rw [encode_eq, List.mem_append, List.mem_append] at h
  obtain (h | h) | h := h
  · obtain ⟨hs, hc⟩ := List.mem_filter.mp h
    exact .inl ⟨hs, by simpa using hc⟩
  · split at h
    · exact absurd h List.not_mem_nil
    · exact .inr (.inl (List.mem_singleton.mp h))
  · exact .inr (.inr (exists_digit_of_mem_progress h))

end WorkflowPod.Url.Punycode
