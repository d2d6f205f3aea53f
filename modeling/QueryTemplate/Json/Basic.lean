import QueryTemplate.Binary64.Basic

/-! # JSON values

Numbers fall into three groups: integers of sixty-four signed bits, the larger integers that still
fit sixty-four unsigned bits, and finite binary64 reals. Objects keep the order of their members.
-/
namespace QueryTemplate

inductive Json.Number
  | int (value : Int64)
  | large (value : Nat) (exceeds : Nat.pow 2 63 ≤ value) (fits : value < Nat.pow 2 64)
  | real (negative : Bool) (magnitude : Magnitude)
  deriving DecidableEq

inductive Json
  | null
  | bool (value : Bool)
  | number (value : Json.Number)
  | string (value : Text)
  | array (elements : List Json)
  /-- Members under distinct names, in order. -/
  | object (members : List (Text × Json))

namespace Json

def member? (name : Text) : Json → Option Json
  | .object members => members.lookup name
  | _ => none

end Json
end QueryTemplate
