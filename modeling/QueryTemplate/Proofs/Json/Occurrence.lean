import QueryTemplate.Entries
import QueryTemplate.Json.Basic

/-! # What occurs in a JSON value

A value occurs in itself, and what occurs in an element of an array or in a member of an object
occurs in the array or the object. The numbers in a value are listed in the order they are written.
-/
namespace QueryTemplate.Json

/-- The first value is the second one, or occurs in an element or a member of it. -/
inductive Occurs (inner : Json) : Json → Prop
  | self : Occurs inner inner
  | element {elements : List Json} {element : Json} (found : element ∈ elements)
      (inside : Occurs inner element) : Occurs inner (.array elements)
  | member {members : List (Text × Json)} {member : Text × Json} (found : member ∈ members)
      (inside : Occurs inner member.2) : Occurs inner (.object members)

theorem Occurs.trans {inner middle outer : Json} (first : Occurs inner middle)
    (second : Occurs middle outer) : Occurs inner outer := by
  induction second with
  | self => exact first
  | element found _ induction => exact .element found induction
  | member found _ induction => exact .member found induction

theorem occurs_number_iff {inner : Json} {number : Number} :
    Occurs inner (.number number) ↔ inner = .number number := by
  constructor
  · rintro ⟨⟩
    rfl
  · rintro rfl
    exact .self

theorem occurs_array_iff {inner : Json} {elements : List Json} :
    Occurs inner (.array elements) ↔
      inner = .array elements ∨ ∃ element ∈ elements, Occurs inner element := by
  constructor
  · rintro (_ | ⟨found, inside⟩)
    · exact .inl rfl
    · exact .inr ⟨_, found, inside⟩
  · rintro (rfl | ⟨element, found, inside⟩)
    · exact .self
    · exact .element found inside

theorem occurs_object_iff {inner : Json} {members : List (Text × Json)} :
    Occurs inner (.object members) ↔
      inner = .object members ∨ ∃ member ∈ members, Occurs inner member.2 := by
  constructor
  · rintro (_ | _ | ⟨found, inside⟩)
    · exact .inl rfl
    · exact .inr ⟨_, found, inside⟩
  · rintro (rfl | ⟨member, found, inside⟩)
    · exact .self
    · exact .member found inside

mutual

/-- The numbers in a value at any depth, in the order they are written. -/
def numbers : Json → List Number
  | .number value => [value]
  | .array elements => numbersOfElements elements
  | .object members => numbersOfMembers members
  | _ => []
termination_by structural json => json

def numbersOfElements : List Json → List Number
  | [] => []
  | element :: rest => numbers element ++ numbersOfElements rest
termination_by structural elements => elements

def numbersOfMembers : List (Text × Json) → List Number
  | [] => []
  | (_, member) :: rest => numbers member ++ numbersOfMembers rest
termination_by structural members => members

end

theorem mem_numbersOfElements_iff {elements : List Json} {number : Number} :
    number ∈ numbersOfElements elements ↔ ∃ element ∈ elements, number ∈ element.numbers := by
  induction elements with
  | nil => simp [numbersOfElements]
  | cons element rest induction => simp [numbersOfElements, induction]

theorem mem_numbersOfMembers_iff {members : List (Text × Json)} {number : Number} :
    number ∈ numbersOfMembers members ↔ ∃ member ∈ members, number ∈ member.2.numbers := by
  induction members with
  | nil => simp [numbersOfMembers]
  | cons member rest induction =>
      rw [numbersOfMembers, List.mem_append, induction]
      simp only [List.mem_cons, exists_eq_or_imp]

mutual

theorem occurs_of_mem_numbers {number : Number} :
    ∀ json : Json, number ∈ json.numbers → Occurs (.number number) json
  | .number value, member => by
      rw [List.mem_singleton.mp member]
      exact .self
  | .array elements, member => by
      obtain ⟨element, found, inside⟩ := exists_element_of_mem_numbers elements member
      exact .element found inside
  | .object members, member => by
      obtain ⟨other, found, inside⟩ := exists_member_of_mem_numbers members member
      exact .member found inside
termination_by structural json => json

theorem exists_element_of_mem_numbers {number : Number} :
    ∀ elements : List Json, number ∈ numbersOfElements elements →
      ∃ element ∈ elements, Occurs (.number number) element
  | element :: rest, member => by
      rcases List.mem_append.mp member with here | later
      · exact ⟨element, List.mem_cons_self, occurs_of_mem_numbers element here⟩
      · obtain ⟨other, found, inside⟩ := exists_element_of_mem_numbers rest later
        exact ⟨other, List.mem_cons_of_mem element found, inside⟩
termination_by structural elements => elements

theorem exists_member_of_mem_numbers {number : Number} :
    ∀ members : List (Text × Json), number ∈ numbersOfMembers members →
      ∃ member ∈ members, Occurs (.number number) member.2
  | (name, json) :: rest, member => by
      rcases List.mem_append.mp member with here | later
      · exact ⟨(name, json), List.mem_cons_self, occurs_of_mem_numbers json here⟩
      · obtain ⟨other, found, inside⟩ := exists_member_of_mem_numbers rest later
        exact ⟨other, List.mem_cons_of_mem (name, json) found, inside⟩
termination_by structural members => members

end

theorem mem_numbers_iff {json : Json} {number : Number} :
    number ∈ json.numbers ↔ Occurs (.number number) json := by
  refine ⟨occurs_of_mem_numbers json, fun occurs => ?_⟩
  induction occurs with
  | self => exact List.mem_singleton_self number
  | element found _ induction => exact mem_numbersOfElements_iff.mpr ⟨_, found, induction⟩
  | member found _ induction => exact mem_numbersOfMembers_iff.mpr ⟨_, found, induction⟩

/-- The integer, if it does not fit sixty-four signed bits. -/
def Number.oversized? : Number → Option Nat
  | .large value _ _ => some value
  | _ => none

/-- The integers that do not fit sixty-four signed bits, in the order they are written. -/
def oversized (json : Json) : List Nat := json.numbers.filterMap Number.oversized?

theorem mem_oversized_iff {json : Json} {value : Nat} :
    value ∈ json.oversized ↔
      ∃ exceeds fits, Occurs (.number (.large value exceeds fits)) json := by
  rw [oversized, List.mem_filterMap]
  simp only [mem_numbers_iff]
  constructor
  · rintro ⟨number, occurs, same⟩
    cases number with
    | large value exceeds fits =>
        obtain rfl := Option.some.inj same
        exact ⟨exceeds, fits, occurs⟩
    | int value => cases same
    | real negative magnitude => cases same
  · rintro ⟨exceeds, fits, occurs⟩
    exact ⟨_, occurs, rfl⟩

end QueryTemplate.Json
