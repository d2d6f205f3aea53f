import QueryTemplate.Argument.Basic
import QueryTemplate.Binary64.Text
import QueryTemplate.Template.Tag

/-! # Errors

What can go wrong, each with the facts its message is made of.
-/
namespace QueryTemplate

/-- What was found where a placeholder has no way to write it. -/
inductive Found
  | kind (found : Kind)
  | nonFinite (value : Binary64)
  deriving DecidableEq

def Found.description : Found → Text
  | .kind found => found.name
  | .nonFinite value => .ofString "non-finite float " ++ value.text

inductive Error
  /-- The numbers of placeholders and arguments differ. -/
  | mismatch (placeholders arguments : Nat)
  /-- The argument of the placeholder at a position, counted from one, cannot be written there. -/
  | unsupported (position : Nat) (tag : Tag) (found : Found)
  /-- An integer of a JSON text does not fit sixty-four signed bits. -/
  | oversizedInteger (value : Nat)
  deriving DecidableEq

namespace Error

def message : Error → Text
  | .mismatch placeholders arguments =>
      .ofString "Template mismatch: " ++ Decimal.ofNat placeholders ++
        .ofString " placeholder(s) but " ++ Decimal.ofNat arguments ++ .ofString " argument(s)"
  | .unsupported position tag found =>
      .ofString "Unsupported type at placeholder #" ++ Decimal.ofNat position ++
        .ofString " (" ++ tag.written ++ .ofString "): " ++ found.description
  | .oversizedInteger value =>
      .ofString "Serialization error: integer " ++ Decimal.ofNat value ++
        .ofString " does not fit in i64"

def isMismatch : Error → Bool
  | .mismatch _ _ => true
  | _ => false

def isUnsupported : Error → Bool
  | .unsupported _ _ _ => true
  | _ => false

end Error
end QueryTemplate
