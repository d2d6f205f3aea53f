import QueryTemplate.Rendering.Rules

/-! # Skips are found before values are written

The rules for single values have an answer to a request to skip, and the rule for bare values has
one to a text. They are never asked for these answers: an argument and the entries of a list are
looked at first, and a text is quoted first. So other rules that differ in nothing else render every
argument in the same way.
-/
namespace QueryTemplate.Argument

@[simp] theorem isSkip_iff (argument : Argument) : argument.isSkip = true ↔ argument = .skip := by
  cases argument <;> simp [isSkip, kind]

theorem unlessSkip_of_ne_skip {argument : Argument} (other : argument ≠ .skip)
    (rendering : Rendering) : argument.unlessSkip rendering = rendering :=
  if_neg ((not_congr (isSkip_iff argument)).mpr other)

/-- What is rendered for a skip does not matter behind the guard. -/
theorem unlessSkip_congr {argument : Argument} {first second : Rendering}
    (same : argument ≠ .skip → first = second) :
    argument.unlessSkip first = argument.unlessSkip second := by
  by_cases skip : argument = .skip
  · rw [skip]
    rfl
  · rw [same skip]

/-- A property that both an empty rendering and the given one have. -/
theorem unlessSkip_fragments (property : List Fragment → Prop) (argument : Argument)
    {rendering : Rendering} (nil : property []) (holds : property rendering.fragments) :
    property (argument.unlessSkip rendering).fragments := by
  unfold unlessSkip
  split
  · exact nil
  · exact holds

/-- Rules for bare values and for the values under the two numeric tags. -/
structure ValueRules where
  bare : Argument → Rendering
  integer : Argument → Rendering
  real : Argument → Rendering

namespace ValueRules

/-- The rules by which arguments are rendered. -/
def own : ValueRules := ⟨renderBare, renderInteger, renderReal⟩

variable (rules : ValueRules)

def scalar (quoted : Text → Fragment) : Argument → Rendering
  | .text value => .complete [quoted value]
  | argument => rules.bare argument

def name (entry : Key × Argument) : Rendering :=
  entry.2.unlessSkip (rules.scalar .identifier entry.2)

def assignment (entry : Key × Argument) : Rendering :=
  entry.2.unlessSkip
    ((Rendering.complete (entryLabel entry.1)).andThen (rules.scalar .literal entry.2))

/-- An argument under a tag, by the given rules. -/
def render (tag : Tag) (argument : Argument) : Rendering :=
  argument.unlessSkip
    (match tag, argument with
    | .auto, argument => rules.scalar .literal argument
    | .integer, argument => rules.integer argument
    | .float, argument => rules.real argument
    | .identifier, .collection entries => .commaSeparated (entries.map rules.name)
    | .identifier, argument => rules.scalar .identifier argument
    | .list, .collection entries => .commaSeparated (entries.map rules.assignment)
    | .list, argument => argument.refuse)

/-- The rules differ from those by which arguments are rendered at most in what they give for a
skip, and for a text as a bare value. -/
structure AgreesBehindGuards : Prop where
  bare : ∀ argument, argument ≠ .skip → (∀ raw, argument ≠ .text raw) →
    rules.bare argument = renderBare argument
  integer : ∀ argument, argument ≠ .skip → rules.integer argument = renderInteger argument
  real : ∀ argument, argument ≠ .skip → rules.real argument = renderReal argument

variable {rules}

theorem scalar_eq (agrees : rules.AgreesBehindGuards) (quoted : Text → Fragment)
    {argument : Argument} (other : argument ≠ .skip) :
    rules.scalar quoted argument = renderScalar quoted argument := by
  cases argument with
  | text raw => rfl
  | _ => exact agrees.bare _ other (by simp)

theorem name_eq (agrees : rules.AgreesBehindGuards) (entry : Key × Argument) :
    rules.name entry = renderName entry :=
  unlessSkip_congr fun other => scalar_eq agrees .identifier other

theorem assignment_eq (agrees : rules.AgreesBehindGuards) (entry : Key × Argument) :
    rules.assignment entry = renderEntry entry :=
  unlessSkip_congr fun other => congrArg _ (scalar_eq agrees .literal other)

/-- The answers that the rules have for a skip, and for a text as a bare value, are never given. -/
theorem render_eq (agrees : rules.AgreesBehindGuards) (tag : Tag) (argument : Argument) :
    rules.render tag argument = argument.render tag := by
  apply unlessSkip_congr
  intro other
  cases tag with
  | auto => exact scalar_eq agrees .literal other
  | integer => exact agrees.integer argument other
  | float => exact agrees.real argument other
  | identifier =>
      cases argument with
      | collection entries =>
          exact congrArg Rendering.commaSeparated
            (List.map_congr_left fun entry _ => name_eq agrees entry)
      | _ => exact scalar_eq agrees .identifier other
  | list =>
      cases argument with
      | collection entries =>
          exact congrArg Rendering.commaSeparated
            (List.map_congr_left fun entry _ => assignment_eq agrees entry)
      | _ => rfl

theorem render_own (tag : Tag) (argument : Argument) :
    own.render tag argument = argument.render tag :=
  render_eq ⟨fun _ _ _ => rfl, fun _ _ => rfl, fun _ _ => rfl⟩ tag argument

end ValueRules
end QueryTemplate.Argument
