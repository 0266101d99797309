/-!
Finite maps with one entry per key, kept in ascending order of the keys, so that two maps with the
same entries are equal.
-/
namespace WorkflowPod

/-- Entries in strictly ascending order of their keys. -/
structure Dict (κ α : Type) [Ord κ] where
  entries : List (κ × α)
  ascending : entries.Pairwise fun a b => compare a.1 b.1 = .lt
  deriving DecidableEq

namespace Dict

variable {κ α β : Type} [Ord κ]

/-- The entries with `key` bound to `value`, in their order. -/
def insertEntry (key : κ) (value : α) : List (κ × α) → List (κ × α)
  | [] => [(key, value)]
  | entry :: rest =>
    match compare key entry.1 with
    | .lt => (key, value) :: entry :: rest
    | .eq => (key, value) :: rest
    | .gt => entry :: insertEntry key value rest

theorem mem_insertEntry {key : κ} {value : α} {entries : List (κ × α)} {e : κ × α}
    (h : e ∈ insertEntry key value entries) : e = (key, value) ∨ e ∈ entries := by
  induction entries with
  | nil => simpa [insertEntry] using h
  | cons entry rest ih =>
    rw [insertEntry] at h
    split at h
    · simpa using h
    · rcases List.mem_cons.1 h with h | h
      · exact .inl h
      · exact .inr (List.mem_cons_of_mem _ h)
    · rcases List.mem_cons.1 h with h | h
      · exact .inr (h ▸ List.mem_cons_self)
      · exact (ih h).imp id (List.mem_cons_of_mem _)

theorem pairwise_insertEntry [Std.TransOrd κ] [Std.LawfulEqOrd κ] (key : κ) (value : α)
    {entries : List (κ × α)} (h : entries.Pairwise fun a b => compare a.1 b.1 = .lt) :
    (insertEntry key value entries).Pairwise fun a b => compare a.1 b.1 = .lt := by
  induction entries with
  | nil => simp [insertEntry]
  | cons entry rest ih =>
    obtain ⟨hhead, htail⟩ := List.pairwise_cons.1 h
    rw [insertEntry]
    split
    · rename_i hlt
      refine List.pairwise_cons.2 ⟨fun e he => ?_, h⟩
      rcases List.mem_cons.1 he with rfl | he
      · exact hlt
      · exact Std.TransCmp.lt_trans hlt (hhead e he)
    · rename_i heq
      refine List.pairwise_cons.2 ⟨fun e he => ?_, htail⟩
      rw [Std.LawfulEqCmp.eq_of_compare heq]
      exact hhead e he
    · rename_i hgt
      refine List.pairwise_cons.2 ⟨fun e he => ?_, ih htail⟩
      rcases mem_insertEntry he with rfl | he
      · exact Std.OrientedCmp.lt_of_gt hgt
      · exact hhead e he

/-- The map without entries. -/
def empty : Dict κ α := ⟨[], .nil⟩

instance : EmptyCollection (Dict κ α) := ⟨empty⟩
instance : Inhabited (Dict κ α) := ⟨empty⟩

/-- The map with `key` bound to `value`, in place of what it was bound to. -/
def insert [Std.TransOrd κ] [Std.LawfulEqOrd κ] (m : Dict κ α) (key : κ) (value : α) : Dict κ α :=
  ⟨insertEntry key value m.entries, pairwise_insertEntry key value m.ascending⟩

def get? (m : Dict κ α) (key : κ) : Option α :=
  (m.entries.find? fun e => compare key e.1 == .eq).map Prod.snd

def contains (m : Dict κ α) (key : κ) : Bool := (m.get? key).isSome

def erase (m : Dict κ α) (key : κ) : Dict κ α :=
  ⟨m.entries.filter fun e => compare key e.1 != .eq, m.ascending.filter _⟩

def keys (m : Dict κ α) : List κ := m.entries.map Prod.fst

def isEmpty (m : Dict κ α) : Bool := m.entries.isEmpty

/-- The map a list of bindings gives; of several for a key the last counts. -/
def ofList [Std.TransOrd κ] [Std.LawfulEqOrd κ] (bindings : List (κ × α)) : Dict κ α :=
  bindings.foldl (fun m e => m.insert e.1 e.2) empty

/-- The map with every binding of `n` made on top of it. -/
def extend [Std.TransOrd κ] [Std.LawfulEqOrd κ] (m n : Dict κ α) : Dict κ α :=
  n.entries.foldl (fun m e => m.insert e.1 e.2) m

end Dict

end WorkflowPod
