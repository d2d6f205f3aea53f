import QueryTemplate.Error
import QueryTemplate.Json.Basic

/-! # Arguments from JSON

Every JSON value is an argument, save that its integers must fit sixty-four signed bits. Arrays and
objects become collections in their own order. Of several integers that do not fit, the first in
the order of the value is reported.
-/
namespace QueryTemplate.Argument

mutual

/-- The argument of a JSON value. -/
def ofJson : Json → Except Error Argument
  | .null => .ok .null
  | .bool value => .ok (.bool value)
  | .number (.int value) => .ok (.int value)
  | .number (.large value _ _) => .error (.oversizedInteger value)
  | .number (.real negative magnitude) => .ok (.float (.finite negative magnitude))
  | .string value => .ok (.text value)
  | .array elements =>
      match ofElements elements with
      | .ok values => .ok (.ofList values)
      | .error error => .error error
  | .object members =>
      match ofMembers members with
      | .ok entries => .ok (.collection entries)
      | .error error => .error error
termination_by structural json => json

def ofElements : List Json → Except Error (List Argument)
  | [] => .ok []
  | element :: rest =>
      match ofJson element with
      | .error error => .error error
      | .ok value =>
          match ofElements rest with
          | .error error => .error error
          | .ok values => .ok (value :: values)
termination_by structural elements => elements

def ofMembers : List (Text × Json) → Except Error (List (Key × Argument))
  | [] => .ok []
  | (name, member) :: rest =>
      match ofJson member with
      | .error error => .error error
      | .ok value =>
          match ofMembers rest with
          | .error error => .error error
          | .ok entries => .ok ((.name name, value) :: entries)
termination_by structural members => members

end

/-- The arguments that a JSON value lists: the elements of an array, or the value by itself. -/
def listOfJson : Json → Except Error (List Argument)
  | .array elements => ofElements elements
  | json =>
      match ofJson json with
      | .ok value => .ok [value]
      | .error error => .error error

end QueryTemplate.Argument
