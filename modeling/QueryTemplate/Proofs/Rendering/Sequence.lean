import QueryTemplate.Rendering.Basic

/-! # Renderings one after another

A sequence of renderings goes on to its first member that is not complete, and ends as that member
does. Its fragments come from its members and from the commas between them. What holds of each
member and survives a comma holds of the whole.
-/
namespace QueryTemplate

/-- The members of a list up to the first that stops it, and that one. -/
def through {α : Type} (stops : α → Bool) : List α → List α
  | [] => []
  | item :: rest => if stops item then [item] else item :: through stops rest

theorem through_map {α β : Type} (stops : β → Bool) (function : α → β) (items : List α) :
    through stops (items.map function) = (through (stops ∘ function) items).map function := by
  induction items with
  | nil => rfl
  | cons item rest induction =>
      rw [List.map_cons, through, through, induction, Function.comp_apply]
      split <;> rfl

theorem mem_of_mem_through {α : Type} {stops : α → Bool} {items : List α} {item : α}
    (member : item ∈ through stops items) : item ∈ items := by
  induction items with
  | nil => exact member
  | cons first rest induction =>
      rw [through] at member
      split at member
      · exact List.mem_cons.mpr (.inl (List.mem_singleton.mp member))
      · exact List.mem_cons.mpr ((List.mem_cons.mp member).imp_right induction)

theorem through_eq_self {α : Type} {stops : α → Bool} {items : List α}
    (goesOn : ∀ item ∈ items, stops item = false) : through stops items = items := by
  induction items with
  | nil => rfl
  | cons item rest induction =>
      rw [List.forall_mem_cons] at goesOn
      simp [through, goesOn.1, induction goesOn.2]

def Ending.isComplete : Ending → Bool
  | .complete => true
  | _ => false

@[simp] theorem Ending.isComplete_iff (ending : Ending) :
    ending.isComplete = true ↔ ending = .complete := by
  cases ending <;> simp [isComplete]

@[simp] theorem Ending.isComplete_eq_false_iff (ending : Ending) :
    ending.isComplete = false ↔ ending ≠ .complete := by
  cases ending <;> simp [isComplete]

namespace Rendering

def comma : Fragment := .bare [',', ' ']

theorem andThen_of_complete {first : Rendering} (complete : first.ending = .complete)
    (second : Rendering) :
    first.andThen second = ⟨first.fragments ++ second.fragments, second.ending⟩ := by
  rw [andThen, complete]

theorem andThen_of_not_complete {first : Rendering} (incomplete : first.ending ≠ .complete)
    (second : Rendering) : first.andThen second = first := by
  unfold andThen
  split
  case h_1 complete => exact absurd complete incomplete
  case h_2 => rfl

theorem andThen_assoc (first second third : Rendering) :
    (first.andThen second).andThen third = first.andThen (second.andThen third) := by
  obtain ⟨fragments, ending⟩ := first
  obtain ⟨others, otherEnding⟩ := second
  cases ending <;> cases otherEnding <;> simp [andThen]

theorem complete_nil_andThen (second : Rendering) : (complete []).andThen second = second := rfl

@[simp] theorem ending_andThen_eq_complete_iff (first second : Rendering) :
    (first.andThen second).ending = .complete ↔
      first.ending = .complete ∧ second.ending = .complete := by
  by_cases complete : first.ending = .complete
  · simp [andThen_of_complete complete, complete]
  · simp [andThen_of_not_complete complete, complete]

/-- A property of fragments that both renderings have. -/
theorem fragments_andThen (property : List Fragment → Prop) {first second : Rendering}
    (here : property first.fragments) (both : property (first.fragments ++ second.fragments)) :
    property (first.andThen second).fragments := by
  by_cases complete : first.ending = .complete
  · rwa [andThen_of_complete complete]
  · rwa [andThen_of_not_complete complete]

@[simp] theorem commaSeparated_nil : commaSeparated [] = complete [] := rfl

@[simp] theorem commaSeparated_singleton (only : Rendering) :
    commaSeparated [only] = only.andThen (complete []) := rfl

@[simp] theorem commaSeparated_cons_cons (first second : Rendering) (rest : List Rendering) :
    commaSeparated (first :: second :: rest) =
      first.andThen ((complete [comma]).andThen (commaSeparated (second :: rest))) := rfl

theorem commaSeparated_of_not_complete {first : Rendering} (incomplete : first.ending ≠ .complete)
    (rest : List Rendering) : commaSeparated (first :: rest) = first := by
  cases rest <;> simp [andThen_of_not_complete incomplete]

/-- A list ends as its first member that is not complete. -/
theorem ending_commaSeparated (renderings : List Rendering) :
    (commaSeparated renderings).ending =
      ((renderings.map ending).find? fun ending => !ending.isComplete).getD .complete := by
  induction renderings with
  | nil => rfl
  | cons first rest induction =>
      by_cases done : first.ending = .complete
      · cases rest with
        | nil => simp [andThen_of_complete done, complete, done]
        | cons second others =>
            rw [commaSeparated_cons_cons, andThen_of_complete done, complete_andThen, induction]
            simp [done]
      · rw [commaSeparated_of_not_complete done, List.map_cons,
          List.find?_cons_of_pos (by simpa using done), Option.getD_some]

theorem ending_commaSeparated_eq_complete_iff (renderings : List Rendering) :
    (commaSeparated renderings).ending = .complete ↔
      ∀ rendering ∈ renderings, rendering.ending = .complete := by
  induction renderings with
  | nil => simp [complete]
  | cons first rest induction =>
      cases rest with
      | nil => simp [complete]
      | cons second others =>
          rw [commaSeparated_cons_cons, ending_andThen_eq_complete_iff,
            ending_andThen_eq_complete_iff, induction]
          simp [complete]

/-- A property of fragments holds of a list if it holds of nothing, and of a member followed by
nothing or by a comma and fragments that have it. -/
theorem fragments_commaSeparated (property : List Fragment → Prop) {renderings : List Rendering}
    (nil : property [])
    (last : ∀ rendering ∈ renderings, property rendering.fragments)
    (cons : ∀ rendering ∈ renderings, ∀ rest, property rest →
      property (rendering.fragments ++ comma :: rest)) :
    property (commaSeparated renderings).fragments := by
  induction renderings with
  | nil => exact nil
  | cons first rest induction =>
      rw [List.forall_mem_cons] at last cons
      have others := induction last.2 cons.2
      cases rest with
      | nil =>
          rw [commaSeparated_singleton]
          refine fragments_andThen property last.1 ?_
          rw [complete, List.append_nil]
          exact last.1
      | cons second others =>
          rw [commaSeparated_cons_cons]
          exact fragments_andThen property last.1 (cons.1 _ others)

/-- What is read off the fragments of a list is what is read off its members, through the first
that is not complete, if commas give nothing. -/
theorem filterMap_fragments_through {α : Type} (read : Fragment → Option α)
    (comma_none : read comma = none) (renderings : List Rendering) :
    (commaSeparated renderings).fragments.filterMap read =
      (through (fun rendering => !rendering.ending.isComplete) renderings).flatMap
        fun rendering => rendering.fragments.filterMap read := by
  induction renderings with
  | nil => rfl
  | cons first rest induction =>
      by_cases done : first.ending = .complete
      · cases rest with
        | nil => simp [through, andThen_of_complete done, complete]
        | cons second others =>
            rw [commaSeparated_cons_cons, andThen_of_complete done, complete_andThen,
              List.filterMap_append, through, if_neg (by simp [done]),
              List.flatMap_cons, ← induction]
            simp [comma_none]
      · rw [commaSeparated_of_not_complete done, through, if_pos (by simpa using done)]
        simp

theorem filterMap_fragments_commaSeparated {α : Type} (read : Fragment → Option α)
    (comma_none : read comma = none) {renderings : List Rendering}
    (each : ∀ rendering ∈ renderings, rendering.ending = .complete) :
    (commaSeparated renderings).fragments.filterMap read =
      renderings.flatMap fun rendering => rendering.fragments.filterMap read := by
  rw [filterMap_fragments_through read comma_none, through_eq_self]
  intro rendering member
  simp [each rendering member]

end Rendering
end QueryTemplate
