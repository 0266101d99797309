import Mathlib.Data.List.Sort
import WorkflowPod.Dict

/-!
Finite maps by their look-ups: what insertion and removal do to them, and that two maps with the
same look-ups are equal.
-/
namespace WorkflowPod.Dict

variable {κ α : Type} [Ord κ] [Std.LawfulEqOrd κ]

private theorem ne_of_compare_lt {a b : κ} (h : compare a b = .lt) : a ≠ b := by
  rintro rfl
  simp at h

theorem nodup_keys (m : Dict κ α) : (m.entries.map Prod.fst).Nodup := by
  rw [List.nodup_iff_pairwise_ne, List.pairwise_map]
  exact m.ascending.imp fun hlt => ne_of_compare_lt hlt

theorem get?_eq_some_iff (m : Dict κ α) (k : κ) (v : α) :
    m.get? k = some v ↔ (k, v) ∈ m.entries := by
  unfold get?
  rw [Option.map_eq_some_iff]
  constructor
  · rintro ⟨e, he, rfl⟩
    have hk : k = e.1 := by simpa using List.find?_some he
    exact hk ▸ List.mem_of_find?_eq_some he
  · intro hmem
    cases hf : m.entries.find? fun e => compare k e.1 == .eq with
    | none =>
      have := List.find?_eq_none.1 hf (k, v) hmem
      simp at this
    | some e =>
      have hk : k = e.1 := by simpa using List.find?_some hf
      have he := List.inj_on_of_nodup_map m.nodup_keys (List.mem_of_find?_eq_some hf) hmem hk.symm
      exact ⟨e, rfl, by rw [he]⟩

theorem get?_erase [DecidableEq κ] (m : Dict κ α) (k k' : κ) :
    (m.erase k).get? k' = if k' = k then none else m.get? k' := by
  ext w
  rw [get?_eq_some_iff]
  have hcompare : compare k k' = .eq ↔ k' = k := Std.compare_eq_iff_eq.trans eq_comm
  by_cases h : k' = k
  · simp [erase, h]
  · simp [erase, h, hcompare, get?_eq_some_iff]

omit [Std.LawfulEqOrd κ] in
@[simp] theorem get?_empty (k : κ) : (empty : Dict κ α).get? k = none := rfl

variable [Std.TransOrd κ]

theorem mem_insertEntry_iff {key : κ} {value : α} {entries : List (κ × α)}
    (h : entries.Pairwise fun a b => compare a.1 b.1 = .lt) (e : κ × α) :
    e ∈ insertEntry key value entries ↔ e = (key, value) ∨ (e ∈ entries ∧ e.1 ≠ key) := by
  induction entries with
  | nil => simp [insertEntry]
  | cons entry rest ih =>
    obtain ⟨hhead, htail⟩ := List.pairwise_cons.1 h
    have hne {a : κ × α} (ha : compare key a.1 = .lt) : a.1 ≠ key := (ne_of_compare_lt ha).symm
    rw [insertEntry]
    split
    · rename_i hlt
      have hall : ∀ a ∈ entry :: rest, a.1 ≠ key := by
        intro a ha
        rcases List.mem_cons.1 ha with rfl | ha
        · exact hne hlt
        · exact hne (Std.TransCmp.lt_trans hlt (hhead a ha))
      rw [List.mem_cons]
      exact or_congr_right ⟨fun he => ⟨he, hall e he⟩, And.left⟩
    · rename_i heq
      have hk : key = entry.1 := Std.LawfulEqCmp.eq_of_compare heq
      rw [List.mem_cons, List.mem_cons]
      constructor
      · rintro (he | he)
        · exact .inl he
        · exact .inr ⟨.inr he, hne (hk ▸ hhead e he)⟩
      · rintro (he | ⟨rfl | he, hek⟩)
        · exact .inl he
        · exact absurd hk.symm hek
        · exact .inr he
    · rename_i hgt
      have hk : entry.1 ≠ key := ne_of_compare_lt (Std.OrientedCmp.lt_of_gt hgt)
      rw [List.mem_cons, List.mem_cons, ih htail]
      constructor
      · rintro (rfl | he | ⟨he, hek⟩)
        · exact .inr ⟨.inl rfl, hk⟩
        · exact .inl he
        · exact .inr ⟨.inr he, hek⟩
      · rintro (he | ⟨rfl | he, hek⟩)
        · exact .inr (.inl he)
        · exact .inl rfl
        · exact .inr (.inr ⟨he, hek⟩)

theorem get?_insert [DecidableEq κ] (m : Dict κ α) (k : κ) (v : α) (k' : κ) :
    (m.insert k v).get? k' = if k' = k then some v else m.get? k' := by
  ext w
  rw [get?_eq_some_iff]
  unfold insert
  rw [mem_insertEntry_iff m.ascending, ← get?_eq_some_iff]
  by_cases h : k' = k
  · simp [h, eq_comm]
  · simp [h]

/-- A map is determined by its look-ups. -/
theorem ext_get? {m n : Dict κ α} (h : ∀ k, m.get? k = n.get? k) : m = n := by
  have hmem (e : κ × α) : e ∈ m.entries ↔ e ∈ n.entries := by
    rw [← get?_eq_some_iff m e.1 e.2, ← get?_eq_some_iff n e.1 e.2, h]
  have hperm : m.entries.Perm n.entries :=
    (List.perm_ext_iff_of_nodup m.nodup_keys.of_map n.nodup_keys.of_map).2 hmem
  have hentries : m.entries = n.entries := by
    refine hperm.eq_of_pairwise (fun a b _ _ hab hba => ?_) m.ascending n.ascending
    exact absurd rfl (ne_of_compare_lt (Std.TransCmp.lt_trans hab hba))
  cases m
  cases n
  cases hentries
  rfl

omit [Std.LawfulEqOrd κ] in
private theorem insertEntry_append {key : κ} {value : α} {entries : List (κ × α)}
    (h : ∀ e ∈ entries, compare e.1 key = .lt) :
    insertEntry key value entries = entries ++ [(key, value)] := by
  induction entries with
  | nil => rfl
  | cons entry rest ih =>
    have hgt : compare key entry.1 = .gt :=
      Std.OrientedCmp.gt_of_lt (h entry List.mem_cons_self)
    rw [insertEntry, hgt, List.cons_append, ih fun e he => h e (List.mem_cons_of_mem _ he)]

private theorem entries_foldl_insert (rest : List (κ × α)) (m : Dict κ α)
    (h : (m.entries ++ rest).Pairwise fun a b => compare a.1 b.1 = .lt) :
    (rest.foldl (fun m e => m.insert e.1 e.2) m).entries = m.entries ++ rest := by
  induction rest generalizing m with
  | nil => simp
  | cons e rest ih =>
    have hlast : (m.insert e.1 e.2).entries = m.entries ++ [e] :=
      insertEntry_append fun a ha => (List.pairwise_append.1 h).2.2 a ha e List.mem_cons_self
    rw [List.foldl_cons, ih _ (by rw [hlast]; simpa using h), hlast]
    simp

/-- A map is the one its entries give. -/
theorem ofList_entries (m : Dict κ α) : ofList m.entries = m := by
  have h : (ofList m.entries).entries = m.entries :=
    entries_foldl_insert m.entries empty (by simpa [empty] using m.ascending)
  cases hm : ofList m.entries
  rw [hm] at h
  cases m
  cases h
  rfl

/-- The map with `key` bound to `value` unless it is bound already. -/
def offer (m : Dict κ α) (key : κ) (value : α) : Dict κ α :=
  if (m.get? key).isSome then m else m.insert key value

theorem get?_offer [DecidableEq κ] (m : Dict κ α) (k : κ) (v : α) (k' : κ) :
    (m.offer k v).get? k' = if k' = k then (m.get? k).or (some v) else m.get? k' := by
  unfold offer
  cases hk : m.get? k with
  | none =>
    rw [if_neg (by simp), get?_insert]
    rfl
  | some w =>
    rw [if_pos Option.isSome_some]
    split
    · rename_i h
      rw [h, hk]
      rfl
    · rfl

/-- A second offer for a key changes nothing. -/
theorem offer_offer [DecidableEq κ] (m : Dict κ α) (k : κ) (v w : α) :
    (m.offer k v).offer k w = m.offer k v := by
  have h : ((m.offer k v).get? k).isSome := by
    rw [get?_offer, if_pos rfl]
    cases m.get? k <;> rfl
  generalize m.offer k v = n at h
  simp [offer, h]

end WorkflowPod.Dict
