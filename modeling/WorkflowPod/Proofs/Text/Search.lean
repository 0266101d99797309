import WorkflowPod.Text.Search

/-! What finding and cutting parts of a text comes to. -/
namespace WorkflowPod.Text

theorem afterLead?_eq_some_iff {lead s rest : List Char} :
    afterLead? lead s = some rest ↔ s = lead ++ rest := by
  fun_induction afterLead? lead s with
  | case1 s => simp
  | case2 c lead => simp
  | case3 c lead s ih => simp [ih]
  | case4 c lead d s hne => simp [Ne.symm hne]

theorem afterLead?_append (lead rest : List Char) : afterLead? lead (lead ++ rest) = some rest :=
  afterLead?_eq_some_iff.2 rfl

theorem startsWith_iff {lead s : List Char} : startsWith lead s ↔ lead <+: s := by
  unfold startsWith
  rw [Option.isSome_iff_exists]
  constructor
  · rintro ⟨rest, hrest⟩
    exact ⟨rest, (afterLead?_eq_some_iff.1 hrest).symm⟩
  · rintro ⟨rest, rfl⟩
    exact ⟨rest, afterLead?_append lead rest⟩

theorem cutAtLast?_eq_none {q : Char → Bool} {s : List Char} (h : ∀ c ∈ s, q c = false) :
    cutAtLast? q s = none := by
  induction s with
  | nil => rfl
  | cons c s ih =>
    rw [cutAtLast?, ih fun d hd => h d (List.mem_cons_of_mem _ hd)]
    simp [h c List.mem_cons_self]

theorem cutAtLast?_append {q : Char → Bool} {c : Char} (hc : q c = true) {s : List Char}
    (h : ∀ d ∈ s, q d = false) (lead : List Char) :
    cutAtLast? q (lead ++ c :: s) = some (lead, s) := by
  induction lead with
  | nil => simp [cutAtLast?, cutAtLast?_eq_none h, hc]
  | cons d lead ih => simp [cutAtLast?, ih]

end WorkflowPod.Text
