import WorkflowPod.Proofs.Json.Codec

/-!
The JSON values that are read as one record. Main statement: a record does not depend on the order
of its members, on members it does not know, on whether blank ones are there, nor on whether it
comes as an object or as an array, and whatever is written for it is a normal form of all these.
-/
namespace WorkflowPod.Json

/-- Two values stand for one record, whose keys in their order and what is read for each like
nothing at all are `blanks`. -/
inductive SameRecord (blanks : List (String × Json)) : Json → Json → Prop where
  /-- A member whose key no one knows. -/
  | unknown {before after : List (String × Json)} {key : String} {value : Json}
      (hkey : key ∉ blanks.map Prod.fst) :
      SameRecord blanks (.obj (before ++ (key, value) :: after)) (.obj (before ++ after))
  /-- A blank instead of a missing member. -/
  | blank {before after : List (String × Json)} {key : String} {value : Json}
      (hblank : (key, value) ∈ blanks) (hmissing : ∀ e ∈ before ++ after, e.1 ≠ key) :
      SameRecord blanks (.obj (before ++ (key, value) :: after)) (.obj (before ++ after))
  | order {entries entries' : List (String × Json)} (hperm : entries.Perm entries') :
      SameRecord blanks (.obj entries) (.obj entries')
  /-- The values alone, by position. -/
  | array {elements : List Json} (hlength : elements.length ≤ blanks.length) :
      SameRecord blanks (.arr elements) (.obj ((blanks.map Prod.fst).zip elements))

namespace Member

variable {α : Type}

/-- The member has this key, and the value under it is read like nothing at all. -/
def ReadsBlank (m : Member α) (blank : String × Json) : Prop :=
  m.key = blank.1 ∧ m.read blank.2 = m.absent

variable (key : String) (c : Codec α)

@[simp] theorem readsBlank_optional : (optional key c).ReadsBlank (key, .null) := ⟨rfl, rfl⟩

@[simp] theorem readsBlank_unlessEmpty : (unlessEmpty key c).ReadsBlank (key, .arr []) :=
  ⟨rfl, rfl⟩

@[simp] theorem readsBlank_unlessEmptyDict : (unlessEmptyDict key c).ReadsBlank (key, .obj []) :=
  ⟨rfl, rfl⟩

@[simp] theorem readsBlank_orBlank (blank : α) : (orBlank key c blank).ReadsBlank (key, .null) :=
  ⟨rfl, rfl⟩

variable {c}

theorem readsBlank_withDefault {blank : α} {json : Json} (h : c.decode? json = some blank) :
    (withDefault key c blank).ReadsBlank (key, json) := ⟨rfl, h⟩

end Member

namespace Members

/-- Each member with its key and a value that is read like nothing at all. -/
def ReadsBlanks : {τ : Type} → Members τ → List (String × Json) → Prop
  | _, nil, [] => True
  | _, cons first rest, blank :: blanks => first.ReadsBlank blank ∧ rest.ReadsBlanks blanks
  | _, nil, _ :: _ => False
  | _, cons _ _, [] => False

@[simp] theorem readsBlanks_nil : nil.ReadsBlanks [] := trivial

@[simp] theorem readsBlanks_cons {α τ : Type} {first : Member α} {rest : Members τ}
    {blank : String × Json} {blanks : List (String × Json)} :
    (cons first rest).ReadsBlanks (blank :: blanks) ↔
      first.ReadsBlank blank ∧ rest.ReadsBlanks blanks := Iff.rfl

variable {τ : Type} {ms : Members τ} {blanks : List (String × Json)}

/-- A member depends on nothing but what an object has under its key. -/
theorem readMember_congr {α : Type} {repetition : Repetition} {m : Member α}
    {entries entries' : List (String × Json)}
    (h : entries.filter (·.1 == m.key) = entries'.filter (·.1 == m.key)) :
    readMember repetition m entries = readMember repetition m entries' := by
  unfold readMember
  rw [h]

theorem readObject_congr {repetition : Repetition} {entries entries' : List (String × Json)}
    (hblanks : ms.ReadsBlanks blanks)
    (h : ∀ blank ∈ blanks, ∀ {α : Type} (m : Member α), m.ReadsBlank blank →
      readMember repetition m entries = readMember repetition m entries') :
    ms.readObject repetition entries = ms.readObject repetition entries' := by
  induction ms generalizing blanks with
  | nil => rfl
  | cons first rest ih =>
    cases blanks with
    | nil => exact absurd hblanks id
    | cons blank blanks =>
      obtain ⟨hfirst, hrest⟩ := hblanks
      rw [readObject, readObject, h blank List.mem_cons_self first hfirst,
        ih hrest fun e he => h e (List.mem_cons_of_mem _ he)]

/-- Where a key may not be repeated, the order of the members does not count. -/
theorem readMember_perm {α : Type} (m : Member α) {entries entries' : List (String × Json)}
    (h : entries.Perm entries') :
    readMember .refused m entries = readMember .refused m entries' := by
  have hfound := h.filter (·.1 == m.key)
  unfold readMember
  generalize entries.filter (·.1 == m.key) = found at hfound
  generalize entries'.filter (·.1 == m.key) = found' at hfound
  match found, found' with
  | [], _ => rw [hfound.symm.eq_nil]
  | [e], _ => rw [hfound.symm.eq_singleton]
  | _ :: _ :: _, [] => exact absurd hfound.length_eq (by simp)
  | _ :: _ :: _, [_] => exact absurd hfound.length_eq (by simp)
  | _ :: _ :: _, _ :: _ :: _ => rfl

theorem readMember_unknown {α : Type} {repetition : Repetition} {m : Member α} {key : String}
    (hkey : key ≠ m.key) (before after : List (String × Json)) (value : Json) :
    readMember repetition m (before ++ (key, value) :: after) =
      readMember repetition m (before ++ after) := by
  apply readMember_congr
  rw [List.filter_append, List.filter_append, List.filter_cons_of_neg (by simpa using hkey)]

theorem readMember_blank {α : Type} {repetition : Repetition} {m : Member α}
    {before after : List (String × Json)} (hmissing : ∀ e ∈ before ++ after, e.1 ≠ m.key)
    {value : Json} (hblank : m.read value = m.absent) :
    readMember repetition m (before ++ (m.key, value) :: after) =
      readMember repetition m (before ++ after) := by
  have hnone : (before ++ after).filter (·.1 == m.key) = [] :=
    List.filter_eq_nil_iff.2 fun e he => by simpa using hmissing e he
  have hone : (before ++ (m.key, value) :: after).filter (·.1 == m.key) = [(m.key, value)] := by
    rw [List.filter_append] at hnone ⊢
    obtain ⟨hbefore, hafter⟩ := List.append_eq_nil_iff.1 hnone
    rw [hbefore, List.filter_cons_of_pos (by simp), hafter, List.nil_append]
  unfold readMember
  rw [hone, hnone]
  exact hblank

/-- Reading an array is reading the object with its elements under the keys in their order. -/
theorem readArray_eq_readObject (repetition : Repetition) (hblanks : ms.ReadsBlanks blanks)
    (hnodup : (blanks.map Prod.fst).Nodup) {elements : List Json}
    (hlength : elements.length ≤ blanks.length) :
    ms.readArray elements = ms.readObject repetition ((blanks.map Prod.fst).zip elements) := by
  induction ms generalizing blanks elements with
  | nil =>
    cases blanks with
    | cons => exact absurd hblanks id
    | nil =>
      obtain rfl := List.length_eq_zero_iff.1 (Nat.le_zero.1 hlength)
      rfl
  | cons first rest ih =>
    cases blanks with
    | nil => exact absurd hblanks id
    | cons blank blanks =>
      obtain ⟨⟨hkey, -⟩, hrest⟩ := hblanks
      obtain ⟨hnew, hnodup⟩ := List.nodup_cons.1 hnodup
      cases elements with
      | nil =>
        have hothers := ih hrest hnodup (show [].length ≤ blanks.length from Nat.zero_le _)
        rw [List.zip_nil_right] at hothers ⊢
        rw [readArray, readObject, hothers]
        rfl
      | cons element elements =>
        have hothers := ih hrest hnodup (Nat.le_of_succ_le_succ hlength)
        rw [List.map_cons, List.zip_cons_cons, readArray, readObject, hothers]
        -- The first element is for the first member, and the others have other keys.
        have hfirst : readMember repetition first
            ((blank.1, element) :: (blanks.map Prod.fst).zip elements) = first.read element := by
          have hnone : ((blanks.map Prod.fst).zip elements).filter (·.1 == first.key) = [] := by
            refine List.filter_eq_nil_iff.2 fun e he => ?_
            have hmem : e.1 ∈ blanks.map Prod.fst := (List.of_mem_zip he).1
            simpa using fun heq : e.1 = first.key => hnew (hkey ▸ heq ▸ hmem)
          unfold readMember
          rw [List.filter_cons_of_pos (by simp [hkey]), hnone]
        have hsame : rest.readObject repetition
            ((blank.1, element) :: (blanks.map Prod.fst).zip elements) =
              rest.readObject repetition ((blanks.map Prod.fst).zip elements) := by
          refine readObject_congr hrest fun other hother _ m hm => ?_
          refine readMember_unknown (fun heq => hnew ?_) [] _ element
          rw [heq, hm.1]
          exact List.mem_map_of_mem hother
        rw [hfirst, hsame]

end Members

namespace Codec

variable {α τ : Type}

/-- What is written for the value that is read. -/
def normal? (c : Codec α) (json : Json) : Option Json := (c.decode? json).map c.encode

/-- Values are told apart by what is written for them, and this is a normal form of all that is
read as one record. -/
structure RoundTrips (c : Codec α) (blanks : List (String × Json)) : Prop where
  decode_encode (a : α) : c.decode? (c.encode a) = some a
  encode_injective : Function.Injective c.encode
  normal_normal {json normal : Json} (h : c.normal? json = some normal) :
    c.normal? normal = some normal
  normal_eq {json json' : Json} (h : SameRecord blanks json json') :
    c.normal? json = c.normal? json'

variable {ms : Members τ} {blanks : List (String × Json)}

/-- Whatever stands for one record is read as one. -/
theorem decode?_record_eq (hblanks : ms.ReadsBlanks blanks)
    (hnodup : (blanks.map Prod.fst).Nodup) (toTuple : α → τ) (ofTuple : τ → α)
    {json json' : Json} (h : SameRecord blanks json json') :
    (record ms toTuple ofTuple).decode? json = (record ms toTuple ofTuple).decode? json' := by
  cases h with
  | @unknown before after key value hkey =>
    refine congrArg (Option.map ofTuple)
      (Members.readObject_congr hblanks fun blank hblank _ m hm => ?_)
    refine Members.readMember_unknown (fun heq => hkey ?_) before after value
    rw [heq, hm.1]
    exact List.mem_map_of_mem hblank
  | @blank before after key value hvalue hmissing =>
    refine congrArg (Option.map ofTuple)
      (Members.readObject_congr hblanks fun blank hblank _ m hm => ?_)
    obtain ⟨hkey, hread⟩ := hm
    by_cases hsame : key = m.key
    · subst hsame
      have heq : blank = (m.key, value) := List.inj_on_of_nodup_map hnodup hblank hvalue hkey.symm
      rw [heq] at hread
      exact Members.readMember_blank hmissing hread
    · exact Members.readMember_unknown hsame before after value
  | order hperm =>
    exact congrArg (Option.map ofTuple)
      (Members.readObject_congr hblanks fun _ _ _ m _ => Members.readMember_perm m hperm)
  | array hlength =>
    exact congrArg (Option.map ofTuple)
      (Members.readArray_eq_readObject .refused hblanks hnodup hlength)

theorem roundTrips_record (hblanks : ms.ReadsBlanks blanks) (hnodup : (blanks.map Prod.fst).Nodup)
    {toTuple : α → τ} {ofTuple : τ → α} (h : ∀ a, (record ms toTuple ofTuple).Restores a) :
    (record ms toTuple ofTuple).RoundTrips blanks := by
  have hdecode (a : α) := (h a).decode
  constructor
  case decode_encode => exact hdecode
  case encode_injective =>
    intro a a' heq
    exact Option.some.inj (by rw [← hdecode a, heq, hdecode a'])
  case normal_normal =>
    intro json normal hnormal
    obtain ⟨a, -, rfl⟩ := Option.map_eq_some_iff.1 hnormal
    rw [normal?, hdecode a, Option.map_some]
  case normal_eq =>
    intro json json' hsame
    rw [normal?, normal?, decode?_record_eq hblanks hnodup toTuple ofTuple hsame]

end Codec

end WorkflowPod.Json
