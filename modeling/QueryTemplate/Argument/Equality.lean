import QueryTemplate.Argument.Basic

/-! # Equality of arguments

Numbers are compared as numbers, so what is not a number makes an argument differ from itself.
Collections are equal when they have equally many entries and each key of the one has an equal
value in the other; the order of entries does not matter.
-/
namespace QueryTemplate.Argument

mutual

/-- Equality of values. Arguments of different kinds are never equal. -/
def same : Argument → Argument → Bool
  | .null, .null => true
  | .bool first, .bool second => first == second
  | .int first, .int second => first == second
  | .float first, .float second => first.sameValue second
  | .text first, .text second => first == second
  | .collection first, .collection second =>
      first.length == second.length && within first second
  | .skip, .skip => true
  | _, _ => false
termination_by structural first => first

/-- Every key of the first entries has an equal value in the second. -/
def within : List (Key × Argument) → List (Key × Argument) → Bool
  | [], _ => true
  | (key, value) :: rest, entries =>
      (match entries.lookup key with
        | some other => same value other
        | none => false) && within rest entries
termination_by structural first => first

end

end QueryTemplate.Argument
