import QueryTemplate.Entries
import QueryTemplate.Json.Number
import QueryTemplate.Json.String

/-! # Reading JSON text

The strict grammar: no trailing commas, comments or leading zeros, and nothing but blanks around the
value. Arrays and objects may be nested to a fixed depth. A member name that occurs again keeps its
first place and takes the last value.
-/
namespace QueryTemplate.Json

def isBlank (character : Char) : Bool :=
  character == ' ' || character == '\t' || character == '\n' || character == '\r'

def skipBlanks (text : Text) : Text := text.dropWhile isBlank

/-- The number of arrays and objects that may enclose a value. -/
def nestingLimit : Nat := 127

mutual

/-- The value at the start of a text, and the text after it. `nesting` more arrays or objects may be
opened, and `fuel` bounds the number of values and separators on the way down. -/
def readValue? (fuel nesting : Nat) (text : Text) : Option (Json × Text) :=
  match fuel with
  | 0 => none
  | fuel + 1 =>
      match text with
      | 'n' :: 'u' :: 'l' :: 'l' :: rest => some (.null, rest)
      | 't' :: 'r' :: 'u' :: 'e' :: rest => some (.bool true, rest)
      | 'f' :: 'a' :: 'l' :: 's' :: 'e' :: rest => some (.bool false, rest)
      | '"' :: rest => (readString? rest).map fun (value, rest) => (.string value, rest)
      | '[' :: rest =>
          match nesting with
          | 0 => none
          | nesting + 1 =>
              match skipBlanks rest with
              | ']' :: rest => some (.array [], rest)
              | rest => (readElements? fuel nesting rest).map fun (elements, rest) =>
                  (.array elements, rest)
      | '{' :: rest =>
          match nesting with
          | 0 => none
          | nesting + 1 =>
              match skipBlanks rest with
              | '}' :: rest => some (.object [], rest)
              | rest => (readMembers? fuel nesting rest).map fun (members, rest) =>
                  (.object (Entries.ofList members), rest)
      | text => (Number.read? text).map fun (value, rest) => (.number value, rest)

/-- The elements of an array that has at least one, up to its closing bracket. -/
def readElements? (fuel nesting : Nat) (text : Text) : Option (List Json × Text) :=
  match fuel with
  | 0 => none
  | fuel + 1 =>
      match readValue? fuel nesting text with
      | none => none
      | some (element, rest) =>
          match skipBlanks rest with
          | ',' :: rest =>
              (readElements? fuel nesting (skipBlanks rest)).map fun (elements, rest) =>
                (element :: elements, rest)
          | ']' :: rest => some ([element], rest)
          | _ => none

/-- The members of an object that has at least one, up to its closing brace. -/
def readMembers? (fuel nesting : Nat) (text : Text) : Option (List (Text × Json) × Text) :=
  match fuel with
  | 0 => none
  | fuel + 1 =>
      match text with
      | '"' :: rest =>
          match readString? rest with
          | none => none
          | some (name, rest) =>
              match skipBlanks rest with
              | ':' :: rest =>
                  match readValue? fuel nesting (skipBlanks rest) with
                  | none => none
                  | some (value, rest) =>
                      match skipBlanks rest with
                      | ',' :: rest =>
                          (readMembers? fuel nesting (skipBlanks rest)).map fun (members, rest) =>
                            ((name, value) :: members, rest)
                      | '}' :: rest => some ([(name, value)], rest)
                      | _ => none
              | _ => none
      | _ => none

end

/-- The value that a text is as a whole. Each step down either reads a character or follows one
that does, so twice the length of the text is fuel enough. -/
def ofText? (text : Text) : Option Json :=
  match readValue? (2 * text.length + 1) nestingLimit (skipBlanks text) with
  | some (value, rest) => if skipBlanks rest = [] then some value else none
  | none => none

end QueryTemplate.Json
