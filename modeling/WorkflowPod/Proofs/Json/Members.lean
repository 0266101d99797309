import WorkflowPod.Json.Codec

/-!
What an object has under the keys of a record whose members may be left out or null. Main statement:
such a member is read exactly if its key is not repeated and has null or a value of its type.
-/
namespace WorkflowPod.Json

variable {α : Type}

/-- A value is read from what is written for it and from nothing else. -/
structure Codec.IsExact (c : Codec α) : Prop where
  decode_iff {json : Json} {a : α} : c.decode? json = some a ↔ json = c.encode a
  ne_null (a : α) : c.encode a ≠ .null

namespace Codec

theorem isExact_text : text.IsExact where
  decode_iff {json a} := by
    cases json with
    | str s => simp [text, text?]
    | _ => simp [text, text?]
  ne_null _ := nofun

theorem isExact_list {c : Codec α} (hc : c.IsExact) : c.list.IsExact where
  decode_iff {json values} := by
    have helements (elements : List Json) :
        elements.mapM c.decode? = some values ↔ elements = values.map c.encode := by
      induction elements generalizing values with
      | nil => cases values <;> simp
      | cons element elements ih =>
        rw [List.mapM_cons]
        cases values with
        | nil => simp [Option.bind_eq_some_iff]
        | cons a values =>
          simp [Option.bind_eq_some_iff, hc.decode_iff, ih]
    cases json with
    | arr elements => simpa [list, elements?] using helements elements
    | _ => simp [list, elements?]
  ne_null _ := nofun

end Codec

/-- What an object has under a key that may be left out or null: then it is `blank`. -/
inductive Holds (c : Codec α) (blank : α) (key : String) (entries : List (String × Json)) :
    α → Prop where
  | missing (h : entries.filter (·.1 == key) = []) : Holds c blank key entries blank
  | null (h : entries.filter (·.1 == key) = [(key, .null)]) : Holds c blank key entries blank
  | value {a : α} (h : entries.filter (·.1 == key) = [(key, c.encode a)]) :
    Holds c blank key entries a

/-- The key is not repeated, and what is under it is null or written for a value. -/
structure Fits (c : Codec α) (key : String) (entries : List (String × Json)) : Prop where
  once : (entries.filter (·.1 == key)).length ≤ 1
  typed : ∀ json, (key, json) ∈ entries → json = .null ∨ ∃ a, json = c.encode a

section

variable {c : Codec α} {blank : α} {key : String} {entries : List (String × Json)}

theorem eq_of_filter_eq_singleton {e : String × Json} (h : entries.filter (·.1 == key) = [e]) :
    e = (key, e.2) := by
  have hmem : e ∈ entries.filter (·.1 == key) := by simp [h]
  have hkey : e.1 = key := by simpa using (List.mem_filter.1 hmem).2
  rw [← hkey]

theorem exists_holds_iff : (∃ a, Holds c blank key entries a) ↔ Fits c key entries := by
  have hmem (json : Json) :
      (key, json) ∈ entries ↔ (key, json) ∈ entries.filter (·.1 == key) := by simp
  constructor
  · rintro ⟨a, h⟩
    constructor
    case once => cases h with | missing h | null h | value h => simp [h]
    case typed =>
      intro json hjson
      rw [hmem] at hjson
      cases h with
      | missing h =>
        rw [h] at hjson
        cases hjson
      | null h =>
        rw [h] at hjson
        exact .inl (by simpa using hjson)
      | value h =>
        rw [h] at hjson
        exact .inr ⟨a, by simpa using hjson⟩
  · rintro ⟨honce, htyped⟩
    match hfound : entries.filter (·.1 == key) with
    | [] => exact ⟨blank, .missing hfound⟩
    | [e] =>
      have he := eq_of_filter_eq_singleton hfound
      rw [he] at hfound
      have hvalue : (key, e.2) ∈ entries := by simp [hmem, hfound]
      rcases htyped e.2 hvalue with hnull | ⟨a, ha⟩
      · rw [hnull] at hfound
        exact ⟨blank, .null hfound⟩
      · rw [ha] at hfound
        exact ⟨a, .value hfound⟩
    | _ :: _ :: _ =>
      rw [hfound] at honce
      simp at honce

theorem read_orBlank_iff (hc : c.IsExact) {json : Json} {a : α} :
    (Member.orBlank key c blank).read json = some a ↔
      json = .null ∧ blank = a ∨ json = c.encode a := by
  by_cases hnull : json = .null
  · subst hnull
    have hne : Json.null ≠ c.encode a := (hc.ne_null a).symm
    simp [Member.orBlank, hne]
  · have hread : (Member.orBlank key c blank).read json = c.decode? json := by
      cases json <;> first | rfl | exact absurd rfl hnull
    rw [hread, hc.decode_iff]
    simp [hnull]

/-- The value of a member is what the object holds under its key. -/
theorem readMember_orBlank_iff (hc : c.IsExact) {a : α} :
    Members.readMember .refused (.orBlank key c blank) entries = some a ↔
      Holds c blank key entries a := by
  constructor
  · intro h
    unfold Members.readMember at h
    split at h
    · rename_i hfound
      cases h
      exact .missing hfound
    · rename_i _ json _ hfound
      have he := eq_of_filter_eq_singleton hfound
      rw [he] at hfound
      rcases (read_orBlank_iff hc).1 h with ⟨rfl, rfl⟩ | rfl
      · exact .null hfound
      · exact .value hfound
    · cases h
    · rename_i heq _ _
      cases heq
  · have hkey : (Member.orBlank key c blank).key = key := rfl
    unfold Members.readMember
    rw [hkey]
    rintro (h | h | h) <;> rw [h]
    · rfl
    · rfl
    · exact (read_orBlank_iff hc).2 (.inr rfl)

end

namespace Members

/-- Each value of a tuple is read for its member. -/
def Reads (repetition : Repetition) (entries : List (String × Json)) :
    {τ : Type} → Members τ → τ → Prop
  | _, nil, () => True
  | _, cons first rest, (a, values) =>
    readMember repetition first entries = some a ∧ rest.Reads repetition entries values

theorem readObject_eq_some_iff {τ : Type} {ms : Members τ} {repetition : Repetition}
    {entries : List (String × Json)} {values : τ} :
    ms.readObject repetition entries = some values ↔ ms.Reads repetition entries values := by
  induction ms with
  | nil => simp [readObject, Reads]
  | cons first rest ih =>
    obtain ⟨a, values⟩ := values
    simp [readObject, Reads, Option.bind_eq_some_iff, ih]

end Members

theorem Codec.decode?_record_obj_iff {τ : Type} {ms : Members τ} {toTuple : α → τ}
    {ofTuple : τ → α} (hleft : ∀ a, ofTuple (toTuple a) = a)
    (hright : ∀ values, toTuple (ofTuple values) = values) {entries : List (String × Json)}
    {a : α} :
    (record ms toTuple ofTuple).decode? (.obj entries) = some a ↔
      ms.Reads .refused entries (toTuple a) := by
  rw [← Members.readObject_eq_some_iff, record, Option.map_eq_some_iff]
  constructor
  · rintro ⟨values, hvalues, rfl⟩
    rw [hvalues, hright]
  · intro h
    exact ⟨toTuple a, h, hleft a⟩

end WorkflowPod.Json
