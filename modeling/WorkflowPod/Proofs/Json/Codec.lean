import WorkflowPod.Json.Codec
import WorkflowPod.Proofs.Dict

/-!
Codecs read back what they write. Records need that no two of their members have the same key, and
that no member in an option is written as null.
-/
namespace WorkflowPod.Json

variable {α : Type}

/-- A value is read back from what is written for it, and that is not null. -/
structure Codec.Restores (c : Codec α) (a : α) : Prop where
  decode : c.decode? (c.encode a) = some a
  ne_null : c.encode a ≠ .null

/-- A value of a member is read back, from what is written for it or from nothing. -/
def Member.Restores (m : Member α) (a : α) : Prop :=
  match m.write a with
  | some json => m.read json = some a
  | none => m.absent = some a

namespace Members

/-- The keys of the members in their order. -/
def keys : {τ : Type} → Members τ → List String
  | _, nil => []
  | _, cons first rest => first.key :: rest.keys

/-- Each value of a tuple is read back. -/
def Restores : {τ : Type} → Members τ → τ → Prop
  | _, nil, () => True
  | _, cons first rest, (a, values) => first.Restores a ∧ rest.Restores values

@[simp] theorem restores_nil : nil.Restores () := trivial

@[simp] theorem restores_cons {τ : Type} {first : Member α} {rest : Members τ} {a : α}
    {values : τ} : (cons first rest).Restores (a, values) ↔
      first.Restores a ∧ rest.Restores values := Iff.rfl

theorem mem_keys_of_mem_write {τ : Type} (ms : Members τ) (values : τ) (e : String × Json)
    (he : e ∈ ms.write values) : e.1 ∈ ms.keys := by
  induction ms with
  | nil => cases he
  | cons first rest ih =>
    obtain ⟨a, values⟩ := values
    rw [write] at he
    split at he
    · rcases List.mem_cons.1 he with rfl | he
      · exact List.mem_cons_self
      · exact List.mem_cons_of_mem _ (ih values he)
    · exact List.mem_cons_of_mem _ (ih values he)

/-- A member is read back if nothing else in the object has its key. -/
theorem readMember_write {m : Member α} {a : α} (h : m.Restores a) (repetition : Repetition)
    (front back : List (String × Json)) (hfront : ∀ e ∈ front, e.1 ≠ m.key)
    (hback : ∀ e ∈ back, e.1 ≠ m.key) :
    readMember repetition m
      (front ++ ((m.write a).map (m.key, ·)).toList ++ back) = some a := by
  have hf : front.filter (·.1 == m.key) = [] := by simpa using hfront
  have hb : back.filter (·.1 == m.key) = [] := by simpa using hback
  unfold Member.Restores at h
  unfold readMember
  cases hw : m.write a with
  | none =>
    rw [hw] at h
    simpa [hf, hb] using h
  | some json =>
    rw [hw] at h
    simpa [hf, hb] using h

/-- The members of a record are read back from an object that begins with other keys. -/
theorem readObject_append_write {τ : Type} (ms : Members τ) (hkeys : ms.keys.Nodup) (values : τ)
    (h : ms.Restores values) (repetition : Repetition) (front : List (String × Json))
    (hfront : ∀ e ∈ front, e.1 ∉ ms.keys) :
    ms.readObject repetition (front ++ ms.write values) = some values := by
  induction ms generalizing front with
  | nil => rfl
  | cons first rest ih =>
    obtain ⟨a, values⟩ := values
    obtain ⟨ha, hvalues⟩ := h
    obtain ⟨hnew, hrest⟩ := List.nodup_cons.1 hkeys
    -- What is in front of the rest is what was in front before and the first member.
    have hwrite : (cons first rest).write (a, values) =
        ((first.write a).map (first.key, ·)).toList ++ rest.write values := by
      rw [write]
      cases first.write a <;> rfl
    have hmember := readMember_write ha repetition front (rest.write values)
      (fun e he heq => hfront e he (heq ▸ List.mem_cons_self))
      (fun e he heq => hnew (heq ▸ rest.mem_keys_of_mem_write values e he))
    have hothers := ih hrest values hvalues (front ++ ((first.write a).map (first.key, ·)).toList)
      (by
        intro e he hmem
        rcases List.mem_append.1 he with he | he
        · exact hfront e he (List.mem_cons_of_mem _ hmem)
        · obtain ⟨json, -, rfl⟩ := Option.map_eq_some_iff.1 (Option.mem_toList.1 he)
          exact hnew hmem)
    rw [hwrite, ← List.append_assoc, readObject, hmember, hothers]
    rfl

end Members

namespace Member

@[simp] theorem restores_optional (key : String) {c : Codec α} {value : Option α}
    (h : ∀ a ∈ value, c.Restores a) : (optional key c).Restores value := by
  cases value with
  | none => rfl
  | some a =>
    obtain ⟨hdecode, hnull⟩ := h a rfl
    -- The value is not null, so reading it is reading what the codec wrote.
    simp only [Restores, optional, Option.map_some]
    rw [hdecode, Option.map_some]

@[simp] theorem restores_withDefault (key : String) {c : Codec α} (blank : α) {a : α}
    (h : c.Restores a) : (withDefault key c blank).Restores a := h.decode

@[simp] theorem restores_required (key : String) {c : Codec α} {a : α} (h : c.Restores a) :
    (required key c).Restores a := h.decode

@[simp] theorem restores_orBlank (key : String) {c : Codec α} (blank : α) {a : α}
    (h : c.Restores a) : (orBlank key c blank).Restores a := by
  obtain ⟨hdecode, hnull⟩ := h
  simp only [Restores, orBlank]
  exact hdecode

end Member

namespace Codec

@[simp] theorem restores_text (s : String) : text.Restores s := ⟨rfl, nofun⟩

@[simp] theorem restores_bool (b : Bool) : bool.Restores b := ⟨rfl, nofun⟩

@[simp] theorem restores_int64 (n : Int64) : int64.Restores n :=
  ⟨by simp [int64, int?], nofun⟩

@[simp] theorem restores_int32 (n : Int32) : int32.Restores n :=
  ⟨by simp [int32, int?], nofun⟩

@[simp] theorem restores_list {c : Codec α} {values : List α} (h : ∀ a ∈ values, c.Restores a) :
    c.list.Restores values := by
  refine ⟨?_, nofun⟩
  change (values.map c.encode).mapM c.decode? = some values
  induction values with
  | nil => rfl
  | cons a values ih =>
    have hvalues := ih fun b hb => h b (List.mem_cons_of_mem _ hb)
    simp [(h a List.mem_cons_self).decode, hvalues]

@[simp] theorem restores_dict {c : Codec α} {m : Dict String α}
    (h : ∀ e ∈ m.entries, c.Restores e.2) : c.dict.Restores m := by
  refine ⟨?_, nofun⟩
  have hentries : (m.entries.map fun e => (e.1, c.encode e.2)).mapM
      (fun e => (c.decode? e.2).map (e.1, ·)) = some m.entries := by
    generalize m.entries = entries at h
    induction entries with
    | nil => rfl
    | cons e entries ih =>
      have hrest := ih fun b hb => h b (List.mem_cons_of_mem _ hb)
      simp [(h e List.mem_cons_self).decode, hrest]
  simp only [dict, members?, Option.bind_some]
  rw [hentries, Option.map_some, Dict.ofList_entries]

variable {τ : Type}

theorem restores_record {members : Members τ} {toTuple : α → τ} {ofTuple : τ → α}
    (hkeys : members.keys.Nodup) (a : α) (hinv : ofTuple (toTuple a) = a)
    (h : members.Restores (toTuple a)) : (record members toTuple ofTuple).Restores a := by
  have hread := members.readObject_append_write hkeys _ h .refused [] (by simp)
  refine ⟨?_, nofun⟩
  simpa [record, hinv] using congrArg (Option.map ofTuple) hread

theorem restores_object {members : Members τ} {toTuple : α → τ} {ofTuple : τ → α}
    (hkeys : members.keys.Nodup) (a : α) (hinv : ofTuple (toTuple a) = a)
    (h : members.Restores (toTuple a)) : (object members toTuple ofTuple).Restores a := by
  have hread := members.readObject_append_write hkeys _ h .lastCounts [] (by simp)
  refine ⟨?_, nofun⟩
  simpa [object, hinv] using congrArg (Option.map ofTuple) hread

end Codec

namespace Member

@[simp] theorem restores_unlessEmpty (key : String) {c : Codec α} {values : List α}
    (h : ∀ a ∈ values, c.Restores a) : (unlessEmpty key c).Restores values := by
  unfold Restores unlessEmpty
  cases values with
  | nil => rfl
  | cons a values => exact (Codec.restores_list h).decode

@[simp] theorem restores_unlessEmptyDict (key : String) {c : Codec α} {m : Dict String α}
    (h : ∀ e ∈ m.entries, c.Restores e.2) : (unlessEmptyDict key c).Restores m := by
  obtain ⟨entries, hascending⟩ := m
  unfold Restores unlessEmptyDict
  cases entries with
  | nil => rfl
  | cons e entries => exact (Codec.restores_dict h).decode

end Member

end WorkflowPod.Json
