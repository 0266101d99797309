/-! Keys of objects in a cluster. -/
namespace WorkflowPod.Cluster

/-- The namespace and the name of an object. -/
structure Key where
  space : String
  name : String
  deriving DecidableEq, Repr

namespace Key

/-- Keys are ordered by namespace, then by name. -/
instance : Ord Key where
  compare := compareLex (compareOn Key.space) (compareOn Key.name)

theorem compare_eq (a b : Key) :
    compare a b = (compare a.space b.space).then (compare a.name b.name) := rfl

instance : Std.LawfulEqOrd Key where
  compare_self {a} := by rw [compare_eq]; simp
  eq_of_compare {a b} h := by
    rw [compare_eq, Ordering.then_eq_eq] at h
    obtain ⟨hs, hn⟩ := h
    cases a
    cases b
    simp_all

instance : Std.TransOrd Key where
  eq_swap {a b} := by
    rw [compare_eq, compare_eq, Ordering.swap_then,
      ← Std.OrientedCmp.eq_swap, ← Std.OrientedCmp.eq_swap]
  isLE_trans {a b c} hab hbc := by
    rw [compare_eq] at *
    rw [Ordering.isLE_then_iff_or] at *
    rcases hab with hab | ⟨hab, hab'⟩ <;> rcases hbc with hbc | ⟨hbc, hbc'⟩
    · exact .inl (Std.TransCmp.lt_trans hab hbc)
    · exact .inl (Std.TransCmp.lt_of_lt_of_eq hab hbc)
    · exact .inl (Std.TransCmp.lt_of_eq_of_lt hab hbc)
    · exact .inr ⟨Std.TransCmp.eq_trans hab hbc, Std.TransCmp.isLE_trans hab' hbc'⟩

def render (key : Key) : String := key.space ++ "/" ++ key.name

end Key

end WorkflowPod.Cluster
