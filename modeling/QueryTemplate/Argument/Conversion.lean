import QueryTemplate.Argument.Basic

/-! # Values used as arguments

Ordinary values have an evident argument: an absent value is null, and a list is a collection with
its positions as keys.
-/
namespace QueryTemplate

/-- Types whose values can be passed as arguments. -/
class ToArgument (α : Type) where
  toArgument : α → Argument

export ToArgument (toArgument)

instance : ToArgument Argument := ⟨id⟩

instance : ToArgument Bool := ⟨.bool⟩

instance : ToArgument Int64 := ⟨.int⟩

instance : ToArgument Binary64 := ⟨.float⟩

instance : ToArgument Text := ⟨.text⟩

instance {α : Type} [ToArgument α] : ToArgument (Option α) where
  toArgument
    | some value => toArgument value
    | none => .null

instance {α : Type} [ToArgument α] : ToArgument (List α) where
  toArgument values := .ofList (values.map toArgument)

end QueryTemplate
