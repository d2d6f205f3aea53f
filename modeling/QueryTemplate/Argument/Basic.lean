import QueryTemplate.Argument.Key
import QueryTemplate.Binary64.Basic
import QueryTemplate.Entries

/-! # Arguments

The values a placeholder can take. The request to skip is a value of its own, so no text can be
mistaken for it.
-/
namespace QueryTemplate

/-- A value for a placeholder. -/
inductive Argument
  | null
  | bool (value : Bool)
  | int (value : Int64)
  | float (value : Binary64)
  | text (value : Text)
  /-- Values under distinct keys, in order. -/
  | collection (entries : List (Key × Argument))
  /-- Drops the block around the placeholder. -/
  | skip

/-- The kinds of argument that messages speak of. -/
inductive Kind
  | null
  | bool
  | int
  | float
  | text
  | collection
  | skip
  deriving DecidableEq

def Kind.name : Kind → Text
  | .null => ['n', 'u', 'l', 'l']
  | .bool => ['b', 'o', 'o', 'l']
  | .int => ['i', 'n', 't']
  | .float => ['f', 'l', 'o', 'a', 't']
  | .text => ['t', 'e', 'x', 't']
  | .collection => ['c', 'o', 'l', 'l', 'e', 'c', 't', 'i', 'o', 'n']
  | .skip => ['s', 'k', 'i', 'p']

namespace Argument

def kind : Argument → Kind
  | .null => .null
  | .bool _ => .bool
  | .int _ => .int
  | .float _ => .float
  | .text _ => .text
  | .collection _ => .collection
  | .skip => .skip

def isNull (argument : Argument) : Bool := argument.kind == .null

def isSkip (argument : Argument) : Bool := argument.kind == .skip

/-- The values with their positions as keys, counted from `start`. -/
def enumerate (start : Nat) : List Argument → List (Key × Argument)
  | [] => []
  | value :: rest => (Key.ofPosition start, value) :: enumerate (start + 1) rest

/-- The collection of a list of values under the keys `0, 1, 2, …`. -/
def ofList (values : List Argument) : Argument := .collection (enumerate 0 values)

/-- The collection of entries in which a repeated key keeps its first position and takes its last
value. -/
def ofEntries (entries : List (Key × Argument)) : Argument := .collection (Entries.ofList entries)

def entries : Argument → List (Key × Argument)
  | .collection entries => entries
  | _ => []

end Argument
end QueryTemplate
