import QueryTemplate.Argument.Json
import QueryTemplate.Proofs.Argument.Occurrence
import QueryTemplate.Proofs.Json.Occurrence
import Mathlib.Data.List.Forall2

/-! # What JSON brings in

The elements of an array and the members of an object are converted one by one, so whatever occurs
in the argument of a JSON value is again the argument of a JSON value. At no depth is it a request
to skip or a float that is not finite.
-/
namespace QueryTemplate.Argument

/-- What is related to a list member by member has for each of its members one of the list. -/
theorem exists_of_forall₂_of_mem {α β : Type} {related : α → β → Prop} {first : List α}
    {second : List β} (all : List.Forall₂ related first second) {image : β}
    (member : image ∈ second) : ∃ item ∈ first, related item image := by
  induction all with
  | nil => exact absurd member List.not_mem_nil
  | cons here _ induction =>
      rcases List.mem_cons.mp member with rfl | later
      · exact ⟨_, List.mem_cons_self, here⟩
      · obtain ⟨item, found, same⟩ := induction later
        exact ⟨item, List.mem_cons_of_mem _ found, same⟩

theorem ofElements_eq_ok_iff {elements : List Json} {values : List Argument} :
    ofElements elements = .ok values ↔
      List.Forall₂ (fun element value => ofJson element = .ok value) elements values := by
  induction elements generalizing values with
  | nil => rw [ofElements, Except.ok.injEq, List.forall₂_nil_left_iff, eq_comm]
  | cons element rest induction =>
      rw [ofElements, List.forall₂_cons_left_iff]
      simp only [← induction]
      cases ofJson element with
      | error error => simp
      | ok value => cases ofElements rest <;> simp [eq_comm]

theorem ofMembers_eq_ok_iff {members : List (Text × Json)} {entries : List (Key × Argument)} :
    ofMembers members = .ok entries ↔
      List.Forall₂ (fun member entry => entry.1 = .name member.1 ∧ ofJson member.2 = .ok entry.2)
        members entries := by
  induction members generalizing entries with
  | nil => rw [ofMembers, Except.ok.injEq, List.forall₂_nil_left_iff, eq_comm]
  | cons member rest induction =>
      obtain ⟨name, json⟩ := member
      rw [ofMembers, List.forall₂_cons_left_iff]
      simp only [← induction]
      cases ofJson json with
      | error error => simp
      | ok value => cases ofMembers rest <;> simp [eq_comm]

theorem mem_of_mem_enumerate {start : Nat} {values : List Argument} {entry : Key × Argument}
    (member : entry ∈ enumerate start values) : entry.2 ∈ values := by
  induction values generalizing start with
  | nil => exact absurd member List.not_mem_nil
  | cons value rest induction =>
      rw [enumerate, List.mem_cons] at member
      rcases member with rfl | later
      · exact List.mem_cons_self
      · exact List.mem_cons_of_mem value (induction later)

theorem ofJson_array_eq_ok_iff {elements : List Json} {argument : Argument} :
    ofJson (.array elements) = .ok argument ↔
      ∃ values, ofElements elements = .ok values ∧ ofList values = argument := by
  rw [ofJson]
  cases ofElements elements <;> simp

theorem ofJson_object_eq_ok_iff {members : List (Text × Json)} {argument : Argument} :
    ofJson (.object members) = .ok argument ↔
      ∃ entries, ofMembers members = .ok entries ∧ collection entries = argument := by
  rw [ofJson]
  cases ofMembers members <;> simp

/-- The values of a collection from JSON are arguments of values in it. -/
theorem exists_part_of_mem {json : Json} {entries : List (Key × Argument)}
    (accepted : ofJson json = .ok (.collection entries)) {entry : Key × Argument}
    (member : entry ∈ entries) : ∃ part, part.Occurs json ∧ ofJson part = .ok entry.2 := by
  cases json with
  | array elements =>
      obtain ⟨values, converted, same⟩ := ofJson_array_eq_ok_iff.mp accepted
      obtain rfl := collection.inj same
      obtain ⟨element, found, given⟩ := exists_of_forall₂_of_mem (ofElements_eq_ok_iff.mp converted)
        (mem_of_mem_enumerate member)
      exact ⟨element, .element found .self, given⟩
  | object members =>
      obtain ⟨fields, converted, same⟩ := ofJson_object_eq_ok_iff.mp accepted
      obtain rfl := collection.inj same
      obtain ⟨field, found, -, given⟩ :=
        exists_of_forall₂_of_mem (ofMembers_eq_ok_iff.mp converted) member
      exact ⟨field.2, .member found .self, given⟩
  | number value => cases value <;> cases accepted
  | _ => cases accepted

/-- What occurs in the argument of a JSON value is the argument of something in that value. -/
theorem exists_part_of_occurs {json : Json} {argument inner : Argument}
    (occurs : Occurs inner argument) (accepted : ofJson json = .ok argument) :
    ∃ part, part.Occurs json ∧ ofJson part = .ok inner := by
  induction occurs generalizing json with
  | self => exact ⟨json, .self, accepted⟩
  | member found _ induction =>
      obtain ⟨part, outside, converted⟩ := exists_part_of_mem accepted found
      obtain ⟨innermost, inside, given⟩ := induction converted
      exact ⟨innermost, inside.trans outside, given⟩

theorem exists_json_of_occurs {json : Json} {argument inner : Argument}
    (occurs : Occurs inner argument) (accepted : ofJson json = .ok argument) :
    ∃ part, ofJson part = .ok inner := by
  obtain ⟨part, -, converted⟩ := exists_part_of_occurs occurs accepted
  exact ⟨part, converted⟩

theorem ofJson_ne_skip (json : Json) : ofJson json ≠ .ok .skip := by
  intro accepted
  cases json with
  | array elements =>
      obtain ⟨values, -, same⟩ := ofJson_array_eq_ok_iff.mp accepted
      cases same
  | object members =>
      obtain ⟨entries, -, same⟩ := ofJson_object_eq_ok_iff.mp accepted
      cases same
  | number value => cases value <;> cases accepted
  | _ => cases accepted

theorem isFinite_of_ofJson {json : Json} {value : Binary64}
    (accepted : ofJson json = .ok (.float value)) : value.isFinite = true := by
  cases json with
  | array elements =>
      obtain ⟨values, -, same⟩ := ofJson_array_eq_ok_iff.mp accepted
      cases same
  | object members =>
      obtain ⟨entries, -, same⟩ := ofJson_object_eq_ok_iff.mp accepted
      cases same
  | number number =>
      cases number with
      | real negative magnitude =>
          obtain rfl := float.inj (Except.ok.inj accepted)
          rfl
      | _ => cases accepted
  | _ => cases accepted

/-- The arguments that a JSON value lists are arguments of JSON values. -/
theorem exists_json_of_mem_listOfJson {json : Json} {arguments : List Argument}
    (accepted : listOfJson json = .ok arguments) {argument : Argument}
    (member : argument ∈ arguments) : ∃ part, ofJson part = .ok argument := by
  unfold listOfJson at accepted
  split at accepted
  case h_1 elements =>
    obtain ⟨element, -, same⟩ :=
      exists_of_forall₂_of_mem (ofElements_eq_ok_iff.mp accepted) member
    exact ⟨element, same⟩
  case h_2 =>
    split at accepted
    case h_1 value converted =>
      rw [← Except.ok.inj accepted, List.mem_singleton] at member
      exact ⟨json, member ▸ converted⟩
    case h_2 => cases accepted

end QueryTemplate.Argument
