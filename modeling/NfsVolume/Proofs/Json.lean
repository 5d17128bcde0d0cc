import Mathlib.Data.List.Forall2
import NfsVolume.Json.Access

/-! Reading a value that has the shape it is expected to have. Members that a reader does not ask
for may be anything. -/
namespace NfsVolume.Json

/-- The value that names lead to, down through objects. -/
def follow? : List RawText → Json → Option Json
  | [], v => some v
  | name :: rest, .object members => (lookup name members).bind (follow? rest)
  | _ :: _, _ => none

def text? : Json → Option RawText
  | .text s => some s
  | _ => none

def int? : Json → Option Int
  | .int n => some n
  | _ => none

/-- All values of a list are texts. -/
def texts? : Json → Option (List RawText)
  | .array elements => elements.mapM text?
  | _ => none

theorem texts?_map_text (texts : List RawText) :
    texts? (.array (texts.map .text)) = some texts := by
  unfold texts?
  induction texts with
  | nil => rfl
  | cons s rest ih => simp [text?, ih]

variable {value : Json} {text : RawText} {n : Int}

theorem eq_of_text? (h : value.text? = some text) : value = .text text := by
  cases value with
  | text s =>
    cases h
    rfl
  | _ => cases h

theorem eq_of_int? (h : value.int? = some n) : value = .int n := by
  cases value with
  | int m =>
    cases h
    rfl
  | _ => cases h

section readers
variable {α : Type} {read : Json → Option α} {v : Json} {name : Text}

/-- What a member of an object says. Null says as little as a member that is missing. -/
def optional? (read : Json → Option α) (name : Text) : Json → Option (Option α)
  | .object members =>
    match (lookup name members).getD .null with
    | .null => some none
    | value => (read value).map some
  | _ => none

/-- What is read from a member that is an object, and from an empty one if there is none. -/
def inside? (read : Json → Option α) (name : Text) : Json → Option α
  | .object members =>
    match (lookup name members).getD .null with
    | .null => read (.object [])
    | .object inner => read (.object inner)
    | _ => none
  | _ => none

/-- All that a list has, if all of it can be read. -/
def list? (read : Json → Option α) : Json → Option (List α)
  | .array elements => elements.mapM read
  | _ => none

/-- What the list in a member has, which is nothing if there is no list. -/
def listAt? (read : Json → Option α) (name : Text) (v : Json) : Option (List α) :=
  (optional? (list? read) name v).map fun found => found.getD []

/-- A value is null, or something is read from it. -/
inductive Tells (read : Json → Option α) : Json → Option α → Prop
  | null : Tells read .null none
  | value (v : Json) (a : α) (h : read v = some a) : Tells read v (some a)

theorem of_optional? {found : Option α} (h : optional? read name v = some found) :
    ∃ value, v.member name = .ok value ∧ Tells read value found := by
  cases v with
  | object members =>
    refine ⟨_, rfl, ?_⟩
    unfold optional? at h
    dsimp only at h
    split at h
    · rename_i hnull
      cases h
      rw [hnull]
      exact .null
    · obtain ⟨a, ha, rfl⟩ := Option.map_eq_some_iff.mp h
      exact .value _ a ha
  | _ => cases h

theorem of_inside? {a : α} (h : inside? read name v = some a) :
    ∃ value, v.inside name = .ok value ∧ read value = some a := by
  cases v with
  | object members =>
    unfold inside? at h
    dsimp only at h
    unfold inside
    rw [member_object]
    split at h
    · rename_i hnull
      rw [hnull]
      exact ⟨_, rfl, h⟩
    · rename_i inner hinner
      rw [hinner]
      cases inner with
      | nil => exact ⟨_, rfl, h⟩
      | cons m rest => exact ⟨_, rfl, h⟩
    · cases h
  | _ => cases h

theorem of_list? {found : List α} (h : list? read v = some found) :
    ∃ elements, v = .array elements ∧ List.Forall₂ (fun e a => read e = some a) elements found := by
  cases v with
  | array elements =>
    refine ⟨elements, rfl, ?_⟩
    change elements.mapM read = some found at h
    induction elements generalizing found with
    | nil =>
      cases h
      exact .nil
    | cons e rest ih =>
      rw [List.mapM_cons] at h
      obtain ⟨a, ha, h⟩ := Option.bind_eq_some_iff.mp h
      obtain ⟨more, hmore, h⟩ := Option.bind_eq_some_iff.mp h
      cases h
      exact .cons ha (ih hmore)
  | _ => cases h

theorem eq_of_texts? {value : Json} {texts : List RawText} (h : value.texts? = some texts) :
    value = .array (texts.map .text) := by
  have hlist : list? text? value = some texts := by
    cases value <;> exact h
  obtain ⟨elements, rfl, htexts⟩ := of_list? hlist
  clear h hlist
  induction htexts with
  | nil => rfl
  | cons hs _ ih => rw [eq_of_text? hs, Json.array.inj ih, List.map_cons]

theorem of_listAt? {found : List α} (h : listAt? read name v = some found) :
    ∃ value elements, v.member name = .ok value ∧ value.orArray = .array elements ∧
      List.Forall₂ (fun e a => read e = some a) elements found := by
  obtain ⟨given, hgiven, rfl⟩ := Option.map_eq_some_iff.mp h
  obtain ⟨value, hvalue, htells⟩ := of_optional? hgiven
  cases htells with
  | null => exact ⟨.null, [], hvalue, rfl, .nil⟩
  | value _ a ha =>
    obtain ⟨elements, rfl, helements⟩ := of_list? ha
    refine ⟨_, elements, hvalue, ?_, helements⟩
    cases elements with
    | nil => rfl
    | cons e rest => rfl

/-- A list has one value to be read, or its only value is looked for in vain. -/
theorem only?_of_listAt? {found : List α} (h : listAt? read name v = some found) :
    ∃ value, v.member name = .ok value ∧
      (value.orArray.only? = .ok none ∧ (∀ a, found ≠ [a]) ∨
        ∃ e a, value.orArray.only? = .ok (some e) ∧ found = [a] ∧ read e = some a) := by
  obtain ⟨value, elements, hvalue, harray, helements⟩ := of_listAt? h
  refine ⟨value, hvalue, ?_⟩
  rw [harray]
  cases helements with
  | nil => exact .inl ⟨rfl, nofun⟩
  | cons hread hrest =>
    cases hrest with
    | nil => exact .inr ⟨_, _, rfl, rfl, hread⟩
    | cons _ _ => exact .inl ⟨rfl, nofun⟩

end readers
end NfsVolume.Json
